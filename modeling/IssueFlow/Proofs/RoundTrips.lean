import IssueFlow.Wire.Rule

/-!
# Round trips of wire forms

What is written is read as it was, so no two values share a written form, and reading and writing
again settles at once. A reader looks at the keys of its record alone: unknown keys and the order of
keys do not matter, and null under a key stands for its absence.
-/

namespace IssueFlow

open Wire

namespace SortedMap

variable {κ β : Type} [Ord κ]

theorem find?_entries (map : SortedMap κ β) (key : κ) :
    EntryList.find? key map.entries = map.get? key := rfl

@[simp] theorem get?_empty (key : κ) : (empty : SortedMap κ β).get? key = none := rfl

variable [Std.LawfulEqOrd κ] [Std.TransOrd κ]

@[simp] theorem get?_ofList_nil (key : κ) : (ofList ([] : List (κ × β))).get? key = none := rfl

/-- Entries put into a map hide what it had under their keys and leave the rest. -/
private theorem get?_foldl_insert (entries : List (κ × β)) (map : SortedMap κ β) (key : κ) :
    (entries.foldl (fun map (key, value) => map.insert key value) map).get? key =
      ((ofList entries).get? key).or (map.get? key) := by
  induction entries generalizing map with
  | nil => rfl
  | cons entry rest ih =>
    simp only [ofList, List.foldl_cons]
    rw [ih, ih (empty.insert _ _), get?_insert, get?_insert, get?_empty]
    cases (ofList rest).get? key <;> split <;> rfl

/-- The last entry of a key counts. -/
@[simp] theorem get?_ofList_cons (entry : κ × β) (entries : List (κ × β)) (key : κ) :
    (ofList (entry :: entries)).get? key =
      ((ofList entries).get? key).or
        (if compare key entry.1 = .eq then some entry.2 else none) := by
  rw [ofList, List.foldl_cons, get?_foldl_insert, get?_insert, get?_empty]

@[simp] theorem get?_ofList_append (front back : List (κ × β)) (key : κ) :
    (ofList (front ++ back)).get? key =
      ((ofList back).get? key).or ((ofList front).get? key) := by
  rw [ofList, List.foldl_append, get?_foldl_insert]
  rfl

end SortedMap

/-- Entries of one key may be left out when another is looked up. -/
private theorem EntryList.find?_filter_ne {β : Type} {left key : String}
    (entries : List (String × β)) (other : key ≠ left) :
    find? key (entries.filter fun entry => entry.1 != left) = find? key entries := by
  induction entries with
  | nil => rfl
  | cons entry rest ih =>
    by_cases drop : entry.1 = left
    · have passed : compare key entry.1 ≠ .eq := by simpa [drop] using other
      simp only [List.filter_cons, drop, bne_self_eq_false, Bool.false_eq_true, if_false, ih, find?]
      simp_all
    · simp [drop, find?, ih]

namespace Wire

/-- A wire form that is read as what was written. -/
class Lawful (α : Type) [Wire α] : Prop where
  decode_encode : ∀ a : α, (decode (encode a) : Option α) = some a

attribute [simp] Lawful.decode_encode

@[simp] theorem decode_json (json : Json) : (decode json : Option Json) = some json := rfl

instance : Lawful Json := ⟨fun _ => rfl⟩

instance : Lawful String := ⟨fun _ => rfl⟩

instance {entity : Entity} : Lawful (Ident entity) := ⟨fun _ => rfl⟩

instance : Lawful Position := ⟨Position.ofInt?_value⟩

/-- A list is read from its items one by one. -/
private theorem decodeAll_map_encode {α : Type} [Wire α] [Lawful α] (items : List α) :
    decodeAll (items.map encode) = some items := by
  induction items with
  | nil => rfl
  | cons item items ih => simp [decodeAll, ih]

instance {α : Type} [Wire α] [Lawful α] : Lawful (List α) := ⟨decodeAll_map_encode⟩

/-- An optional text is never written as the null that stands for its absence. -/
instance : Lawful (Option String) where
  decode_encode
    | none => rfl
    | some _ => rfl

@[simp] theorem named?_encode {α : Type} [Enumeration α] (isSetAside : Bool) (a : α) :
    named? isSetAside (@encode α enumeration a) = some a :=
  Enumeration.ofName?_name a

/-! ## Tagged values -/

section Tagged

variable {τ κ : Type} [Enumeration τ] {tagKey contentKey : String}

/-- The fields that write a tag and the content beside it, if it has any. -/
def taggedFields (tagKey contentKey tag : String) (content : Option Json) :
    List (String × Json) :=
  (tagKey, .string tag) :: (content.map fun json => (contentKey, json)).toList

/-- The value of a tagged type that a JSON value writes, given a reader of its content. -/
def ofTagged (ofContent : Content → τ → Option κ) (tagKey contentKey : String)
    (isSetAside : Bool) (json : Json) : Option κ := do
  let (tag, content) ← tagged? tagKey contentKey isSetAside json
  ofContent content (← Enumeration.ofName? tag)

/-- Fields that have neither of the keys of a tagged value. -/
structure Beside (tagKey contentKey : String) (others : List (String × Json)) : Prop where
  noTag : (SortedMap.ofList others).get? tagKey = none
  noContent : (SortedMap.ofList others).get? contentKey = none

private theorem beside_nil : Beside tagKey contentKey [] := ⟨rfl, rfl⟩

/-- A tag and its content are found among other fields. -/
private theorem tagged?_taggedFields (tag : String) (content : Option Json)
    {others : List (String × Json)} (beside : Beside tagKey contentKey others)
    (distinct : tagKey ≠ contentKey) (isSetAside : Bool) :
    tagged? tagKey contentKey isSetAside
        (.ofFields (taggedFields tagKey contentKey tag content ++ others)) =
      some (tag, ⟨content, isSetAside || decide (contentKey < tagKey)⟩) := by
  obtain ⟨noTag, noContent⟩ := beside
  cases content <;>
    simp [tagged?, tag?, taggedFields, Json.ofFields, SortedMap.find?_entries, noTag, noContent,
      distinct, distinct.symm]

/-- A tagged value is read among other fields once its content is read. -/
private theorem ofTagged_taggedFields {ofContent : Content → τ → Option κ} {type : τ} {value : κ}
    {content : Option Json} {others : List (String × Json)}
    (read : ∀ isSetAside, ofContent ⟨content, isSetAside⟩ type = some value)
    (beside : Beside tagKey contentKey others) (distinct : tagKey ≠ contentKey)
    (isSetAside : Bool) :
    ofTagged ofContent tagKey contentKey isSetAside
        (.ofFields (taggedFields tagKey contentKey (Enumeration.name type) content ++ others)) =
      some value := by
  simp only [ofTagged, tagged?_taggedFields _ _ beside distinct, Option.bind_eq_bind,
    Option.bind_some, Enumeration.ofName?_name, read]

private theorem ofTagged_alone {ofContent : Content → τ → Option κ} {type : τ} {value : κ}
    {content : Option Json}
    (read : ∀ isSetAside, ofContent ⟨content, isSetAside⟩ type = some value)
    (distinct : tagKey ≠ contentKey) (isSetAside : Bool) :
    ofTagged ofContent tagKey contentKey isSetAside
        (.ofFields (taggedFields tagKey contentKey (Enumeration.name type) content)) =
      some value := by
  have among := ofTagged_taggedFields read beside_nil distinct isSetAside
  rwa [List.append_nil] at among

end Tagged

private theorem kindFields_eq (type : String) (settings : Option (List (String × Json))) :
    kindFields type settings =
      taggedFields "type" "config" type (settings.map Json.ofFields) := by
  cases settings <;> rfl

end Wire

namespace FieldRef

theorem encode_standard (field : StandardField) :
    encode (standard field) =
      .ofFields [("field_type", .string "standard"), ("field_name", encode field)] := rfl

theorem encode_custom (id : CustomFieldId) :
    encode (custom id) =
      .ofFields [("field_type", .string "custom"), ("field_id", encode id)] := rfl

/-- A reference is read as it was written, whether it was set aside or not. -/
@[simp] theorem ofWire_encode (isSetAside : Bool) (field : FieldRef) :
    ofWire isSetAside (encode field) = some field := by
  cases field <;>
    simp [ofWire, encode_standard, encode_custom, taggedParts?, innerTag?, Json.ofFields,
      SortedMap.find?_entries, Parts.upTo, Parts.find?, Parts.required, EntryList.find?_filter_ne]

instance : Lawful FieldRef := ⟨ofWire_encode false⟩

end FieldRef

namespace Recipient

@[simp] theorem ofWire_encode (isSetAside : Bool) (recipient : Recipient) :
    ofWire isSetAside (encode recipient) = some recipient := by
  cases recipient with
  | user id =>
    have named : (Parts.named (SortedMap.ofList [("user_id", encode id)]).entries).required 0
        "user_id" = some id := by
      simp [Parts.required, Parts.find?, SortedMap.find?_entries]
    -- The object has the shape of the first pattern, which asks for nothing but the key.
    exact congrArg (Option.map user) named
  | reporter => rfl
  | assignee => rfl
  | projectLead => rfl

@[simp] theorem listOfWire_encode (isSetAside : Bool) (recipients : List Recipient) :
    listOfWire isSetAside (encode recipients) = some recipients := by
  show (recipients.map encode).mapM (ofWire isSetAside) = some recipients
  induction recipients with
  | nil => rfl
  | cons recipient recipients ih => simp [ih]

instance : Lawful Recipient := ⟨ofWire_encode false⟩

end Recipient

namespace Condition

private theorem ofContent_settings (condition : Condition) (isSetAside : Bool) :
    ofContent ⟨condition.settings.map Json.ofFields, isSetAside⟩ condition.type =
      some condition := by
  cases condition <;>
    simp [ofContent, settings, type, Content.settings?, Content.nothing, Json.ofFields,
      Settings.required, Settings.field, Settings.named, Settings.find?, SortedMap.find?_entries]

private theorem ofWire_fields (condition : Condition) {others : List (String × Json)}
    (beside : Beside "type" "config" others) (isSetAside : Bool) :
    ofWire isSetAside (.ofFields (condition.fields ++ others)) = some condition := by
  rw [fields, kindFields_eq]
  exact ofTagged_taggedFields (ofContent_settings condition) beside (by decide) isSetAside

instance : Lawful Condition where
  decode_encode condition := by
    have alone := ofWire_fields condition beside_nil false
    rwa [List.append_nil] at alone

end Condition

namespace Validator

private theorem ofContent_settings (validator : Validator) (isSetAside : Bool) :
    ofContent ⟨validator.settings.map Json.ofFields, isSetAside⟩ validator.type =
      some validator := by
  cases validator <;>
    simp [ofContent, settings, type, Content.settings?, Content.nothing, Json.ofFields,
      Settings.required, Settings.field, Settings.named, Settings.find?, SortedMap.find?_entries]

private theorem ofWire_fields (validator : Validator) {others : List (String × Json)}
    (beside : Beside "type" "config" others) (isSetAside : Bool) :
    ofWire isSetAside (.ofFields (validator.fields ++ others)) = some validator := by
  rw [fields, kindFields_eq]
  exact ofTagged_taggedFields (ofContent_settings validator) beside (by decide) isSetAside

instance : Lawful Validator where
  decode_encode validator := by
    have alone := ofWire_fields validator beside_nil false
    rwa [List.append_nil] at alone

end Validator

namespace PostFunction

private theorem ofContent_settings (postFunction : PostFunction) (isSetAside : Bool) :
    ofContent ⟨postFunction.settings.map Json.ofFields, isSetAside⟩ postFunction.type =
      some postFunction := by
  cases postFunction <;>
    simp [ofContent, settings, type, Content.settings?, Content.nothing, Json.ofFields,
      Settings.required, Settings.field, Settings.find?, Settings.withDefault,
      SortedMap.find?_entries]

private theorem ofWire_fields (postFunction : PostFunction) {others : List (String × Json)}
    (beside : Beside "type" "config" others) (isSetAside : Bool) :
    ofWire isSetAside (.ofFields (postFunction.fields ++ others)) = some postFunction := by
  rw [fields, kindFields_eq]
  exact ofTagged_taggedFields (ofContent_settings postFunction) beside (by decide) isSetAside

instance : Lawful PostFunction where
  decode_encode postFunction := by
    have alone := ofWire_fields postFunction beside_nil false
    rwa [List.append_nil] at alone

end PostFunction

namespace Rule

variable {κ : Type}

/-- The keys of a rule's own stand last, so none of its content hides them. -/
private theorem ofWire_toWire (rule : Rule κ) {fields : List (String × Json)}
    {content : Json → Option κ} (read : content (rule.toWire fields) = some rule.content) :
    ofWire content (rule.toWire fields) = some rule := by
  simp only [toWire, Json.ofFields] at read
  simp [ofWire, toWire, Json.ofFields, Parts.required, Parts.find?, SortedMap.find?_entries, read]

/-- The keys of a rule's own are not those of its kind. -/
private theorem beside_own (rule : Rule κ) : Beside "type" "config" [
    ("id", encode rule.id),
    ("transition_id", encode rule.transitionId),
    ("position", encode rule.position)] := by
  constructor <;> simp

end Rule

instance : Lawful ConditionRule where
  decode_encode rule :=
    Rule.ofWire_toWire rule (Condition.ofWire_fields rule.content rule.beside_own true)

instance : Lawful PostFunctionRule where
  decode_encode rule :=
    Rule.ofWire_toWire rule (PostFunction.ofWire_fields rule.content rule.beside_own true)

/-- The keys of a rule's own and of a validation's message are not those of a kind. -/
private theorem ValidatorRule.beside_own (rule : ValidatorRule) : Beside "type" "config" [
    ("error_message", encode rule.content.errorMessage),
    ("id", encode rule.id),
    ("transition_id", encode rule.transitionId),
    ("position", encode rule.position)] := by
  constructor <;> simp

instance : Lawful ValidatorRule where
  decode_encode rule := by
    have validator := Validator.ofWire_fields rule.content.validator
      (ValidatorRule.beside_own rule) true
    have message : (Parts.named (SortedMap.ofList (rule.content.validator.fields ++ [
        ("error_message", encode rule.content.errorMessage),
        ("id", encode rule.id),
        ("transition_id", encode rule.transitionId),
        ("position", encode rule.position)])).entries).optional 3 "error_message" =
          some rule.content.errorMessage := by
      simp [Parts.optional, Parts.find?, SortedMap.find?_entries]
    apply Rule.ofWire_toWire rule
    simp only [Rule.toWire, List.append_assoc, List.cons_append, List.nil_append]
    simp only [Json.ofFields] at validator ⊢
    simp only [parts?, Option.bind_eq_bind, Option.bind_some, validator, message]
    rfl

namespace Grantee

/-- The subject of a type whose key a content holds. -/
def ofContent (content : Content) : GranteeType → Option Grantee
  | .user => do return user (← decode (← content.json?))
  | .group => do return group (← decode (← content.json?))
  | .projectRole => do return projectRole (← decode (← content.json?))
  | .anyone => do
    content.nothing
    return anyone

private theorem decode_eq : decode = ofTagged ofContent "grantee_type" "grantee_id" false := by
  funext json
  refine Option.bind_congr fun tagged _ => Option.bind_congr fun type _ => ?_
  cases type <;> rfl

private theorem encode_eq (grantee : Grantee) :
    encode grantee = .ofFields (taggedFields "grantee_type" "grantee_id"
      (Enumeration.name grantee.type) (grantee.id?.map Json.string)) := by
  cases grantee <;> rfl

instance : Lawful Grantee where
  decode_encode grantee := by
    have read (isSetAside : Bool) :
        ofContent ⟨grantee.id?.map Json.string, isSetAside⟩ grantee.type = some grantee := by
      cases grantee <;> rfl
    rw [encode_eq, decode_eq]
    exact ofTagged_alone read (by decide) false

end Grantee

namespace Actor

/-- The actor of a type whose key a content holds. -/
def ofContent (content : Content) : ActorType → Option Actor
  | .user => do return user (← decode (← content.json?))
  | .group => do return group (← decode (← content.json?))

private theorem decode_eq : decode = ofTagged ofContent "actor_type" "actor_id" false := by
  funext json
  refine Option.bind_congr fun tagged _ => Option.bind_congr fun type _ => ?_
  cases type <;> rfl

private theorem encode_eq (actor : Actor) :
    encode actor = .ofFields (taggedFields "actor_type" "actor_id"
      (Enumeration.name actor.type) (some (.string actor.id))) := rfl

instance : Lawful Actor where
  decode_encode actor := by
    have read (isSetAside : Bool) :
        ofContent ⟨some (.string actor.id), isSetAside⟩ actor.type = some actor := by
      cases actor <;> rfl
    rw [encode_eq, decode_eq]
    exact ofTagged_alone read (by decide) false

end Actor

/-! ## What a reader looks at -/

namespace Wire

/-- What an object has under a key, null standing for nothing. -/
def valueAt (key : String) (fields : List (String × Json)) : Json :=
  (EntryList.find? key fields).getD .null

/-- Objects that have the same under the given keys. -/
def AgreeOn (keys : List String) (fields fields' : List (String × Json)) : Prop :=
  ∀ key ∈ keys, valueAt key fields = valueAt key fields'

/-- Objects that have the same under the given keys are read alike. -/
def ReadsOnly {α : Type} (keys : List String) (read : Json → Option α) : Prop :=
  ∀ fields fields', AgreeOn keys fields fields' → read (.object fields) = read (.object fields')

private theorem AgreeOn.mono {keys keys' : List String} {fields fields' : List (String × Json)}
    (agree : AgreeOn keys fields fields') (within : ∀ key ∈ keys', key ∈ keys) :
    AgreeOn keys' fields fields' :=
  fun key member => agree key (within key member)

/-- A part that must be there reads null as nothing, where null writes no value of its type. -/
private theorem Parts.required_named {α : Type} [Wire α] (absent : (decode .null : Option α) = none)
    (place : Nat) (name : String) (fields : List (String × Json)) :
    (Parts.named fields).required place name = (decode (valueAt name fields) : Option α) := by
  simp only [Parts.required, Parts.find?, valueAt]
  cases EntryList.find? name fields with
  | none => exact absent.symm
  | some json => rfl

private theorem Parts.optional_named (place : Nat) (name : String) (fields : List (String × Json)) :
    (Parts.named fields).optional place name =
      (decode (valueAt name fields) : Option (Option String)) := by
  simp only [Parts.optional, Parts.find?, valueAt]
  cases EntryList.find? name fields with
  | none => rfl
  | some json => rfl

private theorem tagged?_object (tagKey contentKey : String) (isSetAside : Bool)
    (fields : List (String × Json)) :
    tagged? tagKey contentKey isSetAside (.object fields) =
      (tag? isSetAside (valueAt tagKey fields)).map fun tag =>
        (tag, ⟨EntryList.find? contentKey fields, isSetAside || decide (contentKey < tagKey)⟩) := by
  simp only [tagged?, valueAt]
  cases EntryList.find? tagKey fields with
  | none => rfl
  | some json => cases h : tag? isSetAside json <;> simp [h]

/-- A tagged value is read from its two keys, where a content of null reads as none at all. -/
private theorem ofTagged_readsOnly {τ κ : Type} [Enumeration τ] {ofContent : Content → τ → Option κ}
    (absent : ∀ isSetAside type,
      ofContent ⟨none, isSetAside⟩ type = ofContent ⟨some .null, isSetAside⟩ type)
    (tagKey contentKey : String) (isSetAside : Bool) :
    ReadsOnly [tagKey, contentKey] (ofTagged ofContent tagKey contentKey isSetAside) := by
  have explicit (json? : Option Json) (isSetAside : Bool) (type : τ) :
      ofContent ⟨json?, isSetAside⟩ type =
        ofContent ⟨some (json?.getD .null), isSetAside⟩ type := by
    cases json? with
    | none => exact absent isSetAside type
    | some json => rfl
  intro fields fields' agree
  have sameTag : valueAt tagKey fields = valueAt tagKey fields' := agree tagKey (by simp)
  have sameContent : valueAt contentKey fields = valueAt contentKey fields' :=
    agree contentKey (by simp)
  simp only [valueAt] at sameContent
  simp only [ofTagged, tagged?_object, sameTag, Option.bind_eq_bind, Option.bind_map]
  refine Option.bind_congr fun tag _ => Option.bind_congr fun type _ => ?_
  -- The contents themselves may differ, in null against nothing.
  rw [explicit, sameContent, ← explicit]

end Wire

private theorem Condition.ofWire_readsOnly (isSetAside : Bool) :
    ReadsOnly ["type", "config"] (Condition.ofWire isSetAside) :=
  ofTagged_readsOnly (fun _ type => by cases type <;> rfl) _ _ _

private theorem Validator.ofWire_readsOnly (isSetAside : Bool) :
    ReadsOnly ["type", "config"] (Validator.ofWire isSetAside) :=
  ofTagged_readsOnly (fun _ type => by cases type <;> rfl) _ _ _

private theorem PostFunction.ofWire_readsOnly (isSetAside : Bool) :
    ReadsOnly ["type", "config"] (PostFunction.ofWire isSetAside) :=
  ofTagged_readsOnly (fun _ type => by cases type <;> rfl) _ _ _

private theorem Grantee.decode_readsOnly :
    ReadsOnly ["grantee_type", "grantee_id"] (decode : Json → Option Grantee) :=
  decode_eq ▸ ofTagged_readsOnly (fun _ type => by cases type <;> rfl) _ _ _

private theorem Actor.decode_readsOnly :
    ReadsOnly ["actor_type", "actor_id"] (decode : Json → Option Actor) :=
  decode_eq ▸ ofTagged_readsOnly (fun _ type => by cases type <;> rfl) _ _ _

/-- The reference that an object writes, by what stands under its keys. -/
private theorem FieldRef.ofWire_object (isSetAside : Bool) (fields : List (String × Json)) :
    FieldRef.ofWire isSetAside (.object fields) =
      (innerTag? ["standard", "custom"] isSetAside (valueAt "field_type" fields)).bind fun tag =>
        match tag with
        | "standard" => (named? true (valueAt "field_name" fields)).map standard
        | "custom" => (decode (valueAt "field_id" fields)).map custom
        | _ => none := by
  have fieldName : "field_name" ≠ "field_type" := by decide
  have fieldId : "field_id" ≠ "field_type" := by decide
  have named : (EntryList.find? "field_name" fields).bind (named? true) =
      (named? true (valueAt "field_name" fields) : Option StandardField) := by
    rw [valueAt]
    cases EntryList.find? "field_name" fields <;> rfl
  have keyed : (EntryList.find? "field_id" fields).bind decode =
      (decode (valueAt "field_id" fields) : Option CustomFieldId) := by
    rw [valueAt]
    cases EntryList.find? "field_id" fields <;> rfl
  rw [← named, ← keyed, valueAt]
  simp only [ofWire, taggedParts?]
  cases EntryList.find? "field_type" fields with
  | none => rfl
  | some json =>
    cases tagged : innerTag? ["standard", "custom"] isSetAside json with
    | none => simp [tagged]
    | some tag =>
      simp only [tagged, Option.bind_eq_bind, Option.bind_some, Option.getD_some, Option.pure_def,
        Parts.upTo, Parts.required, Parts.find?, EntryList.find?_filter_ne fields fieldName,
        EntryList.find?_filter_ne fields fieldId, Option.map_bind]
      split
      · exact congrArg _ (funext fun name => Option.map_eq_bind.symm)
      · rw [Option.bind_assoc]
        exact congrArg _ (funext fun id => Option.map_eq_bind.symm)
      · simp

private theorem FieldRef.ofWire_readsOnly (isSetAside : Bool) :
    ReadsOnly ["field_type", "field_name", "field_id"] (FieldRef.ofWire isSetAside) := by
  intro fields fields' agree
  rw [ofWire_object, ofWire_object, agree "field_type" (by simp), agree "field_name" (by simp),
    agree "field_id" (by simp)]

/-- A rule is read from the keys of its own and those of its content. -/
private theorem Rule.ofWire_readsOnly {κ : Type} {content : Json → Option κ} {keys : List String}
    (reads : ReadsOnly keys content) :
    ReadsOnly (keys ++ ["id", "transition_id", "position"]) (Rule.ofWire content) := by
  intro fields fields' agree
  have sameContent := reads fields fields' (agree.mono fun key member => by simp [member])
  have sameId := agree "id" (by simp)
  have sameTransition := agree "transition_id" (by simp)
  have samePosition := agree "position" (by simp)
  simp only [Rule.ofWire, sameContent, Parts.required_named (α := RuleId) rfl,
    Parts.required_named (α := TransitionId) rfl, Parts.required_named (α := Position) rfl,
    sameId, sameTransition, samePosition]

namespace Wire

/-- Reading a value and writing it again. -/
def rewrite (α : Type) [Wire α] (json : Json) : Option Json :=
  (decode json : Option α).map encode

/-- Values come back from their wire form, which therefore tells them apart; whatever is read comes
back from being written again, so that rewriting settles at once; and an object is read from the
given keys alone, with null for the absence of one. -/
structure Faithful (α : Type) [Wire α] (keys : List String) : Prop where
  comesBack : ∀ a : α, decode (encode a) = some a
  distinct : ∀ a b : α, encode a = encode b → a = b
  settles : ∀ (json : Json) (a : α), decode json = some a → decode (encode a) = some a
  idempotent : ∀ json : Json, (rewrite α json).bind (rewrite α) = rewrite α json
  readsOnly : ReadsOnly keys (decode : Json → Option α)

variable {α : Type} [Wire α] [Lawful α]

private theorem encode_injective {a b : α} (same : encode a = encode b) : a = b := by
  have read : (decode (encode a) : Option α) = some b := by rw [same, Lawful.decode_encode]
  rw [Lawful.decode_encode] at read
  exact Option.some.inj read

private theorem rewrite_rewrite (json : Json) :
    (rewrite α json).bind (rewrite α) = rewrite α json := by
  cases read : (decode json : Option α) <;> simp [rewrite, read]

private theorem Faithful.of_lawful {keys : List String}
    (reads : ReadsOnly keys (decode : Json → Option α)) : Faithful α keys where
  comesBack := Lawful.decode_encode
  distinct _ _ := encode_injective
  settles _ a _ := Lawful.decode_encode a
  idempotent := rewrite_rewrite
  readsOnly := reads

end Wire

/-- A validation is read from the keys of its validator and of its message. -/
private theorem ValidatorRule.decode_readsOnly :
    ReadsOnly ["type", "config", "error_message", "id", "transition_id", "position"]
      (decode : Json → Option ValidatorRule) := by
  show ReadsOnly (["type", "config", "error_message"] ++ ["id", "transition_id", "position"]) _
  refine Rule.ofWire_readsOnly ?_
  intro fields fields' agree
  have sameValidator := Validator.ofWire_readsOnly true fields fields'
    (agree.mono (by simp +contextual))
  have sameMessage := agree "error_message" (by simp)
  simp only [parts?, Option.bind_eq_bind, Option.bind_some, Parts.optional_named, sameValidator,
    sameMessage]

/-- Subjects, actors, field references and the rules of all three families. -/
theorem wire_forms_faithful :
    Faithful Grantee ["grantee_type", "grantee_id"] ∧
    Faithful Actor ["actor_type", "actor_id"] ∧
    Faithful FieldRef ["field_type", "field_name", "field_id"] ∧
    Faithful ConditionRule ["type", "config", "id", "transition_id", "position"] ∧
    Faithful ValidatorRule
      ["type", "config", "error_message", "id", "transition_id", "position"] ∧
    Faithful PostFunctionRule ["type", "config", "id", "transition_id", "position"] :=
  ⟨.of_lawful Grantee.decode_readsOnly, .of_lawful Actor.decode_readsOnly,
    .of_lawful (FieldRef.ofWire_readsOnly false),
    .of_lawful (Rule.ofWire_readsOnly (Condition.ofWire_readsOnly true)),
    .of_lawful ValidatorRule.decode_readsOnly,
    .of_lawful (Rule.ofWire_readsOnly (PostFunction.ofWire_readsOnly true))⟩

/-- Keys in another order, one that means nothing, and a copy that is given no target. -/
example : (decode (.object [("position", whole (-1)), ("note", .null), ("id", .string "r"),
    ("config", .object [
      ("to_field", .object [("field_id", .string "c"), ("field_type", .string "custom")]),
      ("from_field", .object [
        ("field_type", .string "standard"), ("field_name", .string "labels")])]),
    ("type", .string "copy_field_value"), ("transition_id", .string "t")]) :
      Option PostFunctionRule) = some {
    id := ⟨"r"⟩
    transitionId := ⟨"t"⟩
    content := .copyFieldValue (.standard .labels) (.custom ⟨"c"⟩) .thisIssue
    position := { value := -1 } } := by
  rfl

end IssueFlow
