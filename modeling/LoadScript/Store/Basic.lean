import LoadScript.Value.Basic

/-!
# Variable stores

A store gives names their entries.  An entry is a plain variable with a typed
value or a subroutine with its body.  Entries are kept in increasing order of
their names, one per name, so that two stores with the same entries are equal
and the order in which names were written cannot be seen.

The main statement, `find?_set`, says what a write changes.
-/

namespace LoadScript

/-- What an entry stands for. -/
inductive Kind where
  /-- A plain variable. -/
  | variable
  /-- A subroutine; its value is its body. -/
  | subroutine
deriving DecidableEq

/-- The word for a kind of entry. -/
def Kind.text : Kind → Text
  | .variable => "variable".toList
  | .subroutine => "subroutine".toList

/-- What a store keeps under a name. -/
structure Entry where
  /-- What the entry stands for. -/
  kind : Kind
  /-- The value held. -/
  value : Value
deriving DecidableEq

/-- The text that replaces a reference to an entry.  The body of a subroutine
replaces nothing. -/
def Entry.referenceText? (entry : Entry) : Option Text :=
  match entry.kind with
  | .variable => some entry.value.text
  | .subroutine => none

/-- Puts an entry into its place in a row ordered by name. -/
def placeEntry (name : Text) (entry : Entry) : List (Text × Entry) → List (Text × Entry)
  | [] => [(name, entry)]
  | (other, old) :: rest =>
      if name < other then (name, entry) :: (other, old) :: rest
      else if name = other then (name, entry) :: rest
      else (other, old) :: placeEntry name entry rest

/-- A row ordered strictly by name. -/
def InOrder (entries : List (Text × Entry)) : Prop :=
  entries.Pairwise fun left right => left.1 < right.1

/-- Every member of a row after a placement is the new entry or was there. -/
theorem mem_placeEntry {name : Text} {entry : Entry} {entries : List (Text × Entry)}
    {member : Text × Entry} (present : member ∈ placeEntry name entry entries) :
    member = (name, entry) ∨ member ∈ entries := by
  induction entries with
  | nil => simpa [placeEntry] using present
  | cons head rest ih =>
      obtain ⟨other, old⟩ := head
      simp only [placeEntry] at present
      split at present
      · simpa using present
      · split at present
        · rcases List.mem_cons.1 present with same | present
          · exact .inl same
          · exact .inr (List.mem_cons_of_mem _ present)
        · rcases List.mem_cons.1 present with same | present
          · exact .inr (by simp [same])
          · rcases ih present with same | present
            · exact .inl same
            · exact .inr (List.mem_cons_of_mem _ present)

/-- Of two names that are not equal one comes first. -/
theorem name_lt_of_not_lt {left right : Text} (notLess : ¬left < right) (differ : left ≠ right) :
    right < left := by
  rcases Decidable.em (right < left) with less | notGreater
  · exact less
  · exact absurd (List.le_antisymm (List.not_lt.1 notGreater) (List.not_lt.1 notLess)) differ

/-- A placement keeps a row in order. -/
theorem inOrder_placeEntry (name : Text) (entry : Entry) {entries : List (Text × Entry)}
    (ordered : InOrder entries) : InOrder (placeEntry name entry entries) := by
  induction entries with
  | nil => simp [placeEntry, InOrder]
  | cons head rest ih =>
      obtain ⟨other, old⟩ := head
      obtain ⟨first, restOrdered⟩ := List.pairwise_cons.1 ordered
      simp only [placeEntry]
      split
      case isTrue less =>
          refine List.pairwise_cons.2 ⟨?_, ordered⟩
          intro member present
          rcases List.mem_cons.1 present with rfl | present
          · exact less
          · exact List.lt_trans less (first member present)
      case isFalse notLess =>
          split
          case isTrue same =>
              subst same
              exact List.pairwise_cons.2 ⟨first, restOrdered⟩
          case isFalse differ =>
              refine List.pairwise_cons.2 ⟨?_, ih restOrdered⟩
              intro member present
              rcases mem_placeEntry present with rfl | present
              · exact name_lt_of_not_lt notLess differ
              · exact first member present

/-- Names and their entries, in increasing order of the names. -/
structure Store where
  /-- The entries in order. -/
  entries : List (Text × Entry) := []
  /-- The order is strict, so no name occurs twice. -/
  ordered : InOrder entries := by exact List.Pairwise.nil

namespace Store

/-- The store without entries. -/
def empty : Store := {}

/-- Writes an entry; an older one of the same name is lost. -/
def insert (name : Text) (entry : Entry) (store : Store) : Store :=
  ⟨placeEntry name entry store.entries, inOrder_placeEntry name entry store.ordered⟩

/-- Writes a plain variable. -/
def set (name : Text) (value : Value) (store : Store) : Store :=
  store.insert name ⟨.variable, value⟩

/-- Writes a subroutine. -/
def defineSubroutine (name body : Text) (store : Store) : Store :=
  store.insert name ⟨.subroutine, .string body⟩

/-- The entry of a name. -/
def find? (store : Store) (name : Text) : Option Entry :=
  store.entries.lookup name

/-- The value of a name. -/
def value? (store : Store) (name : Text) : Option Value :=
  (store.find? name).map Entry.value

/-- The kind of a name's entry. -/
def kind? (store : Store) (name : Text) : Option Kind :=
  (store.find? name).map Entry.kind

/-- Whether a name has an entry. -/
def contains (store : Store) (name : Text) : Bool :=
  (store.find? name).isSome

/-- The number of entries. -/
def size (store : Store) : Nat :=
  store.entries.length

/-- The text that replaces a reference to a name. -/
def referenceText? (store : Store) (name : Text) : Option Text :=
  (store.find? name).bind Entry.referenceText?

/-- Stores with the same entries are equal. -/
@[ext]
theorem ext {left right : Store} (same : left.entries = right.entries) : left = right := by
  cases left
  cases right
  cases same
  rfl

/-- The first pair of a row decides whether the rest is looked at. -/
private theorem lookup_pair_cons (name key : Text) (entry : Entry)
    (rest : List (Text × Entry)) :
    ((key, entry) :: rest).lookup name = if name = key then some entry else rest.lookup name := by
  by_cases same : name = key
  · simp [same]
  · simp [List.lookup_cons, same, beq_eq_false_iff_ne.2 same]

/-- A write changes the entry of its name and no other. -/
theorem find?_insert (store : Store) (name other : Text) (entry : Entry) :
    (store.insert name entry).find? other =
      if other = name then some entry else store.find? other := by
  obtain ⟨entries, ordered⟩ := store
  simp only [insert, find?]
  clear ordered
  induction entries with
  | nil => simp only [placeEntry, lookup_pair_cons]
  | cons head rest ih =>
      obtain ⟨key, old⟩ := head
      simp only [placeEntry]
      split
      · simp only [lookup_pair_cons]
      · split
        case isTrue found =>
            subst found
            simp only [lookup_pair_cons]
            split <;> rfl
        case isFalse differ =>
            simp only [lookup_pair_cons, ih]
            by_cases hit : other = key
            · have miss : ¬other = name := fun same => differ (same.symm.trans hit)
              rw [if_pos hit, if_neg miss, if_pos hit]
            · simp [hit]

/-- What a write of a plain variable changes. -/
theorem find?_set (store : Store) (name other : Text) (value : Value) :
    (store.set name value).find? other =
      if other = name then some ⟨.variable, value⟩ else store.find? other :=
  find?_insert store name other ⟨.variable, value⟩

end Store

end LoadScript
