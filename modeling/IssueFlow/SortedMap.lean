/-!
# Sorted maps

A finite map is the list of its entries with ascending keys, so equal maps are equal lists.
-/

namespace IssueFlow

variable {κ β : Type}

namespace EntryList

variable [Ord κ]

/-- The value of the first entry with that key. -/
def find? (key : κ) : List (κ × β) → Option β
  | [] => none
  | (k, v) :: rest => match compare key k with
    | .eq => some v
    | _ => find? key rest

/-- Sets a key, in its place among ascending keys. -/
def insert (key : κ) (value : β) : List (κ × β) → List (κ × β)
  | [] => [(key, value)]
  | (k, v) :: rest => match compare key k with
    | .lt => (key, value) :: (k, v) :: rest
    | .eq => (key, value) :: rest
    | .gt => (k, v) :: insert key value rest

/-- Removes a key. -/
def erase (key : κ) : List (κ × β) → List (κ × β)
  | [] => []
  | (k, v) :: rest => match compare key k with
    | .eq => rest
    | _ => (k, v) :: erase key rest

/-- The keys ascend. -/
def Ascending (entries : List (κ × β)) : Prop :=
  entries.Pairwise fun a b => compare a.1 b.1 = .lt

theorem mem_insert {key : κ} {value : β} {entries : List (κ × β)} {e : κ × β}
    (h : e ∈ insert key value entries) : e = (key, value) ∨ e ∈ entries := by
  induction entries with
  | nil => simp_all [insert]
  | cons kv rest ih =>
    simp only [insert] at h
    split at h <;> grind

theorem erase_sublist (key : κ) (entries : List (κ × β)) :
    (erase key entries).Sublist entries := by
  induction entries with
  | nil => exact .slnil
  | cons kv rest ih =>
    simp only [erase]
    split
    · exact List.sublist_cons_self _ _
    · exact ih.cons_cons _

theorem Ascending.erase {entries : List (κ × β)} (h : Ascending entries) (key : κ) :
    Ascending (erase key entries) :=
  List.Pairwise.sublist (erase_sublist key entries) h

theorem find?_eq_none_of_lt {entries : List (κ × β)} {key : κ}
    (h : ∀ e ∈ entries, compare key e.1 = .lt) : find? key entries = none := by
  induction entries with
  | nil => rfl
  | cons kv rest ih =>
    have first := h kv (List.mem_cons_self ..)
    simp only [find?, first]
    exact ih fun e he => h e (List.mem_cons_of_mem _ he)

variable [Std.LawfulEqOrd κ]

theorem find?_insert (key other : κ) (value : β) (entries : List (κ × β)) :
    find? other (insert key value entries) =
      if compare other key = .eq then some value else find? other entries := by
  induction entries with
  | nil => simp only [insert, find?]; split <;> simp_all
  | cons kv rest ih =>
    obtain ⟨k, v⟩ := kv
    simp only [insert]
    split
    · next lt =>
      simp only [find?]
      split <;> simp_all
    · next eq =>
      have := Std.LawfulEqCmp.eq_of_compare eq
      subst this
      simp only [find?]
      split <;> simp_all
    · next gt =>
      simp only [find?, ih]
      split
      · next h =>
        have := Std.LawfulEqCmp.eq_of_compare h
        subst this
        have : compare other key ≠ .eq := by
          intro h
          have := Std.LawfulEqCmp.eq_of_compare h
          subst this
          simp at gt
        simp [this]
      · rfl

theorem find?_eq_some_iff {entries : List (κ × β)} (h : Ascending entries) {key : κ} {value : β} :
    find? key entries = some value ↔ (key, value) ∈ entries := by
  induction entries with
  | nil => simp [find?]
  | cons kv rest ih =>
    obtain ⟨head, tail⟩ := List.pairwise_cons.1 h
    rw [find?, List.mem_cons]
    split
    · next eq =>
      have := Std.LawfulEqCmp.eq_of_compare eq
      subst this
      have absent : (kv.1, value) ∉ rest := fun member => by simpa using head _ member
      simp [absent, Prod.ext_iff, eq_comm]
    · next ne =>
      have differs : (key, value) ≠ kv := by
        rintro rfl
        simp at ne
      rw [ih tail, or_iff_right differs]

theorem find?_erase {entries : List (κ × β)} (h : Ascending entries) (key other : κ) :
    find? other (erase key entries) =
      if compare other key = .eq then none else find? other entries := by
  induction entries with
  | nil => simp [erase, find?]
  | cons kv rest ih =>
    obtain ⟨k, v⟩ := kv
    obtain ⟨head, tail⟩ := List.pairwise_cons.1 h
    simp only [erase]
    split
    · next eq =>
      have := Std.LawfulEqCmp.eq_of_compare eq
      subst this
      by_cases same : compare other key = .eq
      · have := Std.LawfulEqCmp.eq_of_compare same
        subst this
        simpa using find?_eq_none_of_lt head
      · simp [same, find?]
    · next ne =>
      simp only [find?, ih tail]
      by_cases same : compare other key = .eq
      · have := Std.LawfulEqCmp.eq_of_compare same
        subst this
        simp
      · simp [same]

variable [Std.TransOrd κ]

theorem Ascending.insert {entries : List (κ × β)} (h : Ascending entries) (key : κ) (value : β) :
    Ascending (insert key value entries) := by
  induction entries with
  | nil => simp [EntryList.insert, Ascending]
  | cons kv rest ih =>
    obtain ⟨k, v⟩ := kv
    obtain ⟨head, tail⟩ := List.pairwise_cons.1 h
    simp only [EntryList.insert]
    split
    · next lt =>
      refine List.pairwise_cons.2 ⟨fun e he => ?_, h⟩
      rcases List.mem_cons.1 he with rfl | he
      · exact lt
      · exact Std.TransCmp.lt_trans lt (head e he)
    · next eq =>
      have := Std.LawfulEqCmp.eq_of_compare eq
      subst this
      exact List.pairwise_cons.2 ⟨head, tail⟩
    · next gt =>
      refine List.pairwise_cons.2 ⟨fun e he => ?_, ih tail⟩
      rcases mem_insert he with rfl | he
      · exact Std.OrientedCmp.gt_iff_lt.1 gt
      · exact head e he

/-- Ascending lists that answer every key alike are equal. -/
theorem Ascending.ext {a b : List (κ × β)} (ha : Ascending a) (hb : Ascending b)
    (h : ∀ key, find? key a = find? key b) : a = b := by
  induction a generalizing b with
  | nil =>
    cases b with
    | nil => rfl
    | cons kv rest => simpa [find?] using h kv.1
  | cons x xs ih =>
    cases b with
    | nil => simpa [find?] using h x.1
    | cons y ys =>
      obtain ⟨hx, hxs⟩ := List.pairwise_cons.1 ha
      obtain ⟨hy, hys⟩ := List.pairwise_cons.1 hb
      have atX := h x.1
      have atY := h y.1
      simp only [find?, Std.ReflCmp.compare_self] at atX atY
      have keys : compare x.1 y.1 = .eq := by
        cases c : compare x.1 y.1 with
        | eq => rfl
        | lt =>
          rw [c] at atX
          have : find? x.1 ys = none :=
            find?_eq_none_of_lt fun e he => Std.TransCmp.lt_trans c (hy e he)
          simp [this] at atX
        | gt =>
          have lt := Std.OrientedCmp.gt_iff_lt.1 c
          rw [lt] at atY
          have : find? y.1 xs = none :=
            find?_eq_none_of_lt fun e he => Std.TransCmp.lt_trans lt (hx e he)
          simp [this] at atY
      have same := Std.LawfulEqCmp.eq_of_compare keys
      have values : x.2 = y.2 := by
        rw [keys] at atX
        exact Option.some.inj atX
      have head : x = y := Prod.ext same values
      subst head
      refine congrArg (x :: ·) (ih hxs hys fun key => ?_)
      by_cases eq : compare key x.1 = .eq
      · have := Std.LawfulEqCmp.eq_of_compare eq
        subst this
        rw [find?_eq_none_of_lt hx, find?_eq_none_of_lt hy]
      · have := h key
        simp only [find?] at this
        simp_all

end EntryList

/-- A finite map with ascending keys. -/
structure SortedMap (κ β : Type) [Ord κ] where
  entries : List (κ × β)
  ascending : EntryList.Ascending entries := by exact List.Pairwise.nil

namespace SortedMap

variable [Ord κ]

instance [DecidableEq κ] [DecidableEq β] : DecidableEq (SortedMap κ β) := fun a b =>
  decidable_of_iff (a.entries = b.entries) (by cases a; cases b; simp)

def empty : SortedMap κ β := { entries := [] }

instance : Inhabited (SortedMap κ β) := ⟨empty⟩

def get? (map : SortedMap κ β) (key : κ) : Option β :=
  EntryList.find? key map.entries

def erase (map : SortedMap κ β) (key : κ) : SortedMap κ β :=
  ⟨EntryList.erase key map.entries, map.ascending.erase key⟩

def keys (map : SortedMap κ β) : List κ :=
  map.entries.map Prod.fst

variable [Std.LawfulEqOrd κ]

theorem get?_erase (map : SortedMap κ β) (key other : κ) :
    (map.erase key).get? other = if compare other key = .eq then none else map.get? other :=
  EntryList.find?_erase map.ascending key other

@[simp] theorem get?_erase_self (map : SortedMap κ β) (key : κ) :
    (map.erase key).get? key = none := by
  simp [get?_erase]

variable [Std.TransOrd κ]

def insert (map : SortedMap κ β) (key : κ) (value : β) : SortedMap κ β :=
  ⟨EntryList.insert key value map.entries, map.ascending.insert key value⟩

/-- The map of the given entries; a later value of a key replaces an earlier one. -/
def ofList (entries : List (κ × β)) : SortedMap κ β :=
  entries.foldl (fun map (key, value) => map.insert key value) empty

theorem get?_insert (map : SortedMap κ β) (key other : κ) (value : β) :
    (map.insert key value).get? other =
      if compare other key = .eq then some value else map.get? other :=
  EntryList.find?_insert key other value map.entries

@[simp] theorem get?_insert_self (map : SortedMap κ β) (key : κ) (value : β) :
    (map.insert key value).get? key = some value := by
  simp [get?_insert]

/-- Maps that answer every key alike are equal. -/
theorem ext {a b : SortedMap κ β} (h : ∀ key, a.get? key = b.get? key) : a = b := by
  obtain ⟨xs, hx⟩ := a
  obtain ⟨ys, hy⟩ := b
  have := EntryList.Ascending.ext hx hy h
  subst this
  rfl

end SortedMap

end IssueFlow
