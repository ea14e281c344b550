import IssueFlow.Proofs.Reachable
import IssueFlow.Proofs.TableLaws
import IssueFlow.Transition.Effect
import Mathlib.Data.List.Induction

/-!
# Recipients

A list of recipients stands for users: some recipients for nobody, and several maybe for one user.
The list is resolved one recipient at a time (`resolveRecipients_concat`). What it is resolved to is
at every point the users that were named so far, each once and in the order in which they were first
named (`Recipient.Addresses`).
-/

namespace IssueFlow

namespace Recipient

/-- A recipient stands for a user, as the issue and its project are. -/
inductive StandsFor (t : Tables) (issue : Issue) : Recipient → UserId → Prop where
  | reporter : StandsFor t issue .reporter issue.reporterId
  | assignee {user : UserId} (assigned : issue.assigneeId = some user) :
      StandsFor t issue .assignee user
  | projectLead {project : Project} {user : UserId} (stored : project ∈ t.projects.rows)
      (ofIssue : project.id = issue.projectId) (lead : project.leadId = some user) :
      StandsFor t issue .projectLead user
  | user (id : UserId) : StandsFor t issue (.user id) id

/-- Some recipient of a list stands for the user. -/
def Names (t : Tables) (issue : Issue) (recipients : List Recipient) (user : UserId) : Prop :=
  ∃ recipient ∈ recipients, recipient.StandsFor t issue user

/-- A list names the first user before it names the second: a front part of it names the first user
alone. -/
def NamesBefore (t : Tables) (issue : Issue) (recipients : List Recipient) (first second : UserId) :
    Prop :=
  ∃ front rest, recipients = front ++ rest ∧ Names t issue front first ∧
    ¬ Names t issue front second

/-- The users that a list of recipients stands for, each once and in the order of their naming. -/
structure Addresses (t : Tables) (issue : Issue) (recipients : List Recipient)
    (users : List UserId) : Prop where
  once : users.Nodup
  members : ∀ user, user ∈ users ↔ Names t issue recipients user
  order : users.Pairwise (NamesBefore t issue recipients)

variable {t : Tables} {issue : Issue} {recipients : List Recipient} {users : List UserId}

private theorem names_concat {recipient : Recipient} {user : UserId} :
    Names t issue (recipients ++ [recipient]) user ↔
      Names t issue recipients user ∨ recipient.StandsFor t issue user := by
  simp [Names, or_and_right, exists_or]

/-- Users who were named in an order stay so when the list goes on. -/
private theorem NamesBefore.append {first second : UserId}
    (before : NamesBefore t issue recipients first second) (more : List Recipient) :
    NamesBefore t issue (recipients ++ more) first second := by
  obtain ⟨front, rest, rfl, named, unnamed⟩ := before
  exact ⟨front, rest ++ more, List.append_assoc .., named, unnamed⟩

private theorem addresses_nil : Addresses t issue [] [] where
  once := List.nodup_nil
  members := by simp [Names]
  order := .nil

end Recipient

/-- The users once one more recipient was looked at, which may stand for nobody or for a user who is
there already. -/
def addUser (users : List UserId) : Option UserId → List UserId
  | none => users
  | some user => if user ∈ users then users else users ++ [user]

private theorem prefix_addUser (users : List UserId) (user : Option UserId) :
    users <+: addUser users user := by
  cases user with
  | none => exact List.prefix_refl users
  | some user =>
    rw [addUser]
    split
    · exact List.prefix_refl users
    · exact List.prefix_append users [user]

/-- Leaving out repetitions at the end is leaving them out on the way. -/
private theorem eraseDups_append_toList (users : List UserId) (user : Option UserId) :
    (users ++ user.toList).eraseDups = addUser users.eraseDups user := by
  rw [List.eraseDups_append]
  cases user with
  | none => simp [addUser]
  | some user =>
    by_cases there : user ∈ users
    · simp [addUser, there, List.removeAll]
    · simp [addUser, there, List.removeAll, List.eraseDups_cons]

/-- A recipient who stands for nobody else adds at most the user it stands for, behind all others.
-/
private theorem Recipient.Addresses.concat {t : Tables} {issue : Issue}
    {recipients : List Recipient} {users : List UserId}
    (addresses : Addresses t issue recipients users) {recipient : Recipient} {named : Option UserId}
    (stands : ∀ user, recipient.StandsFor t issue user ↔ named = some user) :
    Addresses t issue (recipients ++ [recipient]) (addUser users named) := by
  have still : users.Pairwise (NamesBefore t issue (recipients ++ [recipient])) :=
    addresses.order.imp fun before => before.append [recipient]
  have known : (∀ user, named = some user → user ∈ users) →
      Addresses t issue (recipients ++ [recipient]) users := by
    intro repeated
    refine ⟨addresses.once, fun user => ?_, still⟩
    rw [names_concat, ← addresses.members, stands]
    exact ⟨Or.inl, fun either => either.elim id (repeated user)⟩
  cases named with
  | none => exact known fun _ none => by cases none
  | some last =>
    rw [addUser]
    split
    · next there =>
      refine known fun user same => ?_
      cases same
      exact there
    · next fresh =>
      refine ⟨?_, fun user => ?_, ?_⟩
      · rw [← List.concat_eq_append]
        exact addresses.once.concat fresh
      · rw [names_concat, ← addresses.members, stands, List.mem_append, List.mem_singleton,
          Option.some.injEq, eq_comm (a := last)]
      · -- The list as it was names all others, and does not name the new user yet.
        refine List.pairwise_append.2 ⟨still, List.pairwise_singleton .., ?_⟩
        intro user member other same
        obtain rfl := List.mem_singleton.1 same
        exact ⟨recipients, [recipient], rfl, (addresses.members user).1 member,
          fun named => fresh ((addresses.members other).2 named)⟩

section Resolving

variable (store : Store) (attempt : Attempt)

private theorem recipientUsers_append_run (first second : List Recipient) :
    (recipientUsers attempt (first ++ second)).run store =
      ((recipientUsers attempt first).run store).bind fun users =>
        ((recipientUsers attempt second).run store).map (users ++ ·) := by
  induction first with
  | nil =>
    show (recipientUsers attempt second).run store =
      ((recipientUsers attempt second).run store).map id
    cases (recipientUsers attempt second).run store <;> rfl
  | cons recipient first ih =>
    simp only [List.cons_append, recipientUsers, Query.run_bind, ih]
    cases (recipient.user? attempt).run store with
    | error e => rfl
    | ok user =>
      cases (recipientUsers attempt first).run store with
      | error e => rfl
      | ok users =>
        cases (recipientUsers attempt second).run store with
        | error e => rfl
        | ok more => exact congrArg Except.ok (List.append_assoc ..).symm

/-- A list is resolved one recipient at a time. -/
theorem resolveRecipients_concat (recipients : List Recipient) (recipient : Recipient) :
    (resolveRecipients attempt (recipients ++ [recipient])).run store =
      ((resolveRecipients attempt recipients).run store).bind fun users =>
        ((recipient.user? attempt).run store).map (addUser users) := by
  have one : (recipientUsers attempt [recipient]).run store =
      ((recipient.user? attempt).run store).map Option.toList := by
    rw [recipientUsers, Query.run_bind]
    cases (recipient.user? attempt).run store with
    | error e => rfl
    | ok user => exact congrArg Except.ok (List.append_nil _)
  rw [resolveRecipients, resolveRecipients, Query.run_bind, Query.run_bind,
    recipientUsers_append_run, one]
  cases (recipientUsers attempt recipients).run store with
  | error e => rfl
  | ok users =>
    cases (recipient.user? attempt).run store with
    | error e => rfl
    | ok user => exact congrArg Except.ok (eraseDups_append_toList users user)

/-- Only the lead of a project is looked up in the tables. -/
private theorem Recipient.user?_run_cases (recipient : Recipient) :
    (store.unavailable = true ∧ recipient = .projectLead ∧
      (recipient.user? attempt).run store = .error (.storage .outage)) ∨
    ¬ (store.unavailable = true ∧ recipient = .projectLead) ∧
      ∃ named, (recipient.user? attempt).run store = .ok named ∧
        ∀ user, recipient.StandsFor store.tables attempt.issue user ↔ named = some user := by
  cases recipient with
  | reporter =>
    refine .inr ⟨by simp, _, rfl, fun user => ⟨?_, ?_⟩⟩
    · rintro ⟨⟩
      rfl
    · rintro ⟨⟩
      exact .reporter
  | assignee =>
    refine .inr ⟨by simp, _, rfl, fun user => ⟨?_, .assignee⟩⟩
    rintro (_ | assigned)
    exact assigned
  | user id =>
    refine .inr ⟨by simp, _, rfl, fun user => ⟨?_, ?_⟩⟩
    · rintro ⟨⟩
      rfl
    · rintro ⟨⟩
      exact .user id
  | projectLead =>
    cases switch : store.unavailable with
    | true =>
      refine .inl ⟨rfl, rfl, ?_⟩
      rw [user?, Query.run_look, Store.read, if_pos switch]
      rfl
    | false =>
      refine .inr ⟨by simp, _, Query.look_run switch _, fun user => ?_⟩
      simp only [Option.bind_eq_some_iff, Table.get?_eq_some_iff]
      constructor
      · rintro (_ | _ | ⟨stored, ofIssue, lead⟩)
        exact ⟨_, ⟨stored, ofIssue⟩, lead⟩
      · rintro ⟨project, ⟨stored, ofIssue⟩, lead⟩
        exact .projectLead stored ofIssue lead

/-- A list is resolved to the users it stands for, unless a lead has to be looked up in an outage.
-/
private theorem resolveRecipients_run_cases (recipients : List Recipient) :
    (store.unavailable = true ∧ .projectLead ∈ recipients ∧
      (resolveRecipients attempt recipients).run store = .error (.storage .outage)) ∨
    ¬ (store.unavailable = true ∧ .projectLead ∈ recipients) ∧
      ∃ users, (resolveRecipients attempt recipients).run store = .ok users ∧
        Recipient.Addresses store.tables attempt.issue recipients users := by
  -- The users that were named so far are the invariant, so recipients come off the end of the list.
  induction recipients using List.reverseRecOn with
  | nil => exact .inr ⟨by simp, [], rfl, Recipient.addresses_nil⟩
  | append_singleton recipients recipient ih =>
    rw [resolveRecipients_concat]
    simp only [List.mem_append, List.mem_singleton]
    rcases ih with ⟨switch, lead, failed⟩ | ⟨reads, users, resolved, addresses⟩
    · rw [failed]
      exact .inl ⟨switch, .inl lead, rfl⟩
    · rw [resolved]
      rcases recipient.user?_run_cases store attempt with
        ⟨switch, lead, failed⟩ | ⟨readsToo, named, found, stands⟩
      · refine .inl ⟨switch, .inr lead.symm, ?_⟩
        rw [Except.bind, failed]
        rfl
      · refine .inr ⟨?_, addUser users named, ?_, addresses.concat stands⟩
        · rintro ⟨switch, lead | lead⟩
          · exact reads ⟨switch, lead⟩
          · exact readsToo ⟨switch, lead.symm⟩
        · rw [Except.bind, found]
          rfl

/-- When a list goes on, what it was resolved to so far is a front part of the result. -/
private theorem prefix_of_resolveRecipients_append {recipients more : List Recipient}
    {users longer : List UserId}
    (resolved : (resolveRecipients attempt recipients).run store = .ok users)
    (resolvedLonger : (resolveRecipients attempt (recipients ++ more)).run store = .ok longer) :
    users <+: longer := by
  induction more using List.reverseRecOn generalizing longer with
  | nil =>
    rw [List.append_nil, resolved] at resolvedLonger
    cases resolvedLonger
    exact List.prefix_refl users
  | append_singleton more recipient ih =>
    rw [← List.append_assoc, resolveRecipients_concat, Except.bind_eq_ok_iff] at resolvedLonger
    obtain ⟨middle, before, added⟩ := resolvedLonger
    obtain ⟨named, -, rfl⟩ := Except.map_eq_ok_iff.1 added
    exact (ih before).trans (prefix_addUser middle named)

/-- Recipients are resolved to the users that they stand for, each once and in the order in which
they are first named; recipients that are appended only add users behind. All of them can be
resolved, except that in an outage the lead of a project cannot be looked up. -/
theorem recipients_resolve_in_order (recipients : List Recipient) :
    (¬ (store.unavailable = true ∧ .projectLead ∈ recipients) →
      ∃ users, (resolveRecipients attempt recipients).run store = .ok users ∧
        Recipient.Addresses store.tables attempt.issue recipients users ∧
        ∀ more longer, (resolveRecipients attempt (recipients ++ more)).run store = .ok longer →
          users <+: longer) ∧
    (store.unavailable = true ∧ .projectLead ∈ recipients →
      (resolveRecipients attempt recipients).run store = .error (.storage .outage)) := by
  rcases resolveRecipients_run_cases store attempt recipients with
    ⟨switch, lead, failed⟩ | ⟨reads, users, resolved, addresses⟩
  · exact ⟨fun reads => absurd ⟨switch, lead⟩ reads, fun _ => failed⟩
  · refine ⟨fun _ => ⟨users, resolved, addresses, ?_⟩, fun outage => absurd outage reads⟩
    intro more longer resolvedLonger
    exact prefix_of_resolveRecipients_append store attempt resolved resolvedLonger

end Resolving

namespace Sample

/-- A second project has a lead. -/
def led : Store :=
  store.after [.operation (.onProjects (.create
    ⟨⟨"P2"⟩, "APP", "App", some ⟨"bob"⟩, ⟨"PS"⟩, none, ⟨0, 0⟩⟩))]

/-- An attempt with an issue of the second project, which nobody is assigned to. -/
def notifying : Attempt where
  issue := { issue with projectId := ⟨"P2"⟩ }
  actor := reporter.id
  transition := ⟨⟨"T1"⟩, ⟨"W"⟩, ⟨"open"⟩, ⟨"done"⟩, "Finish", none⟩
  submission := {}

def recipients : List Recipient :=
  [.reporter, .assignee, .projectLead, .user ⟨"ann"⟩, .user ⟨"cid"⟩, .user ⟨"bob"⟩]

end Sample

/-- The reporter and the lead are named twice, and nobody is assigned. -/
theorem sample_recipients :
    Sample.led.unavailable = false ∧
      (resolveRecipients Sample.notifying Sample.recipients).run Sample.led =
        .ok [⟨"ann"⟩, ⟨"bob"⟩, ⟨"cid"⟩] ∧
      Recipient.Addresses Sample.led.tables Sample.notifying.issue Sample.recipients
        [⟨"ann"⟩, ⟨"bob"⟩, ⟨"cid"⟩] := by
  have available : Sample.led.unavailable = false := by decide +kernel
  obtain ⟨users, resolved, addresses, -⟩ :=
    (recipients_resolve_in_order Sample.led Sample.notifying Sample.recipients).1
      fun outage => by cases available.symm.trans outage.1
  have found : ((resolveRecipients Sample.notifying Sample.recipients).run Sample.led).toOption =
      some [⟨"ann"⟩, ⟨"bob"⟩, ⟨"cid"⟩] := by
    decide +kernel
  rw [resolved] at found
  cases found
  exact ⟨available, resolved, addresses⟩

end IssueFlow
