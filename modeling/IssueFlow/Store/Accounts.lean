import IssueFlow.Directory
import IssueFlow.Store.Change
import IssueFlow.Store.Table

/-!
# Accounts

The tables of users, groups and group members. Groups have distinct names.
-/

namespace IssueFlow

instance : Keyed User UserId := ⟨User.id⟩
instance : Keyed Group GroupId := ⟨Group.id⟩
instance : Keyed (GroupId × UserId) (GroupId × UserId) := ⟨id⟩

structure Accounts where
  users : Table User := {}
  groups : Table Group := {}
  members : Table (GroupId × UserId) := {}
  deriving DecidableEq

namespace Accounts

def putUser (user : User) : Change Accounts Unit :=
  modify fun t => { t with users := t.users.put user }

/-- A group needs a new name and a new key. -/
def createGroup (group : Group) : Change Accounts Unit := do
  let t ← get
  require (!t.groups.rows.any (·.name == group.name))
    (.conflict s!"group named {group.name} already exists")
  require (!t.groups.contains group.id) (.conflict s!"group {group.id.text} already exists")
  set { t with groups := t.groups.put group }

/-- Answers whether the member is new. -/
def addMember (group : GroupId) (user : UserId) : Change Accounts Bool := do
  let t ← get
  require (t.groups.contains group) (.notFound s!"group {group.text} not found")
  set { t with members := t.members.put (group, user) }
  return !t.members.contains (group, user)

/-- Answers whether there was such a member. -/
def removeMember (group : GroupId) (user : UserId) : Change Accounts Bool := do
  let t ← get
  set { t with members := t.members.erase (group, user) }
  return t.members.contains (group, user)

/-- The members of a group in ascending order. -/
def membersOf (t : Accounts) (group : GroupId) : List UserId :=
  sortBy compare ((t.members.rows.filter (·.1 == group)).map Prod.snd)

/-- The groups of a user in ascending order. -/
def groupsOf (t : Accounts) (user : UserId) : List GroupId :=
  sortBy compare ((t.members.rows.filter (·.2 == user)).map Prod.fst)

end Accounts

end IssueFlow
