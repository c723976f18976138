import LoadScript.Proofs.Writes
import LoadScript.Store.Json
import LoadScript.Store.Table

/-!
# What a store shows of its writes

Variables and subroutines are written in any order and any number.  The store keeps the last
write of each name and forgets the rest, so nothing that can be read off it, neither by a name
nor from the printed table and object, tells how it came about.  Entries are listed in order of
the bytes of their names, which is the order of the characters.

The main statement is `ofOperations_shows_last`.
-/

namespace LoadScript

/-! ## The order of bytes -/

namespace Text

/-- The bytes of a text in UTF-8. -/
def bytes (text : Text) : List UInt8 :=
  text.flatMap String.utf8EncodeChar

/-- The bytes of a smaller character come first, whatever follows. -/
theorem utf8EncodeChar_append_lt {c d : Char} (less : c < d) (behind behind' : List UInt8) :
    String.utf8EncodeChar c ++ behind < String.utf8EncodeChar d ++ behind' := by
  have below : c.val.toNat < d.val.toNat := less
  have lead : d.val.toNat / 262144 < 8 := by
    rcases d.valid with low | high <;> omega
  have digit {m n : Nat} (less : m < n) :
      m / 64 < n / 64 ∨ m / 64 = n / 64 ∧ m % 64 < n % 64 := by
    omega
  have digits : c.val.toNat / 262144 < d.val.toNat / 262144 ∨
      c.val.toNat / 262144 = d.val.toNat / 262144 ∧
        (c.val.toNat / 4096 % 64 < d.val.toNat / 4096 % 64 ∨
          c.val.toNat / 4096 % 64 = d.val.toNat / 4096 % 64 ∧
            (c.val.toNat / 64 % 64 < d.val.toNat / 64 % 64 ∨
              c.val.toNat / 64 % 64 = d.val.toNat / 64 % 64 ∧
                c.val.toNat % 64 < d.val.toNat % 64)) := by
    rcases digit below with higher | last
    · rcases digit higher with higher | third
      · rcases digit higher with first | second <;> omega
      · omega
    · omega
  -- A first byte tells the number of bytes and grows with it; of characters with equally many
  -- bytes the digits in base sixty-four are compared, one to a byte.
  simp only [String.utf8EncodeChar]
  split_ifs <;>
    simp (disch := omega) only [List.cons_append, List.nil_append, List.cons_lt_cons_iff,
      UInt8.lt_iff_toNat_lt, ← UInt8.toNat_inj, UInt8.toNat_ofNat', Nat.mod_eq_of_lt] <;>
    omega

/-- Texts are ordered as their bytes are. -/
theorem bytes_lt {left right : Text} (less : left < right) : bytes left < bytes right := by
  induction left generalizing right with
  | nil =>
      cases right with
      | nil => exact absurd less (List.lt_irrefl _)
      | cons d right =>
          rcases List.exists_cons_of_ne_nil (String.utf8EncodeChar_ne_nil (c := d)) with
            ⟨byte, rest, encoded⟩
          rw [bytes, bytes, List.flatMap_cons, encoded]
          exact List.nil_lt_cons _ _
  | cons c left ih =>
      cases right with
      | nil => exact absurd less (List.not_lt_nil _)
      | cons d right =>
          rcases List.cons_lt_cons_iff.mp less with smaller | ⟨rfl, rest⟩
          · exact utf8EncodeChar_append_lt smaller _ _
          · exact List.append_left_lt (ih rest)

theorem bytes_lt_iff {left right : Text} : bytes left < bytes right ↔ left < right := by
  constructor
  · intro bytesLess
    by_contra notLess
    by_cases same : left = right
    · rw [same] at bytesLess
      exact List.lt_irrefl _ bytesLess
    · exact List.lt_asymm bytesLess (bytes_lt (name_lt_of_not_lt notLess same))
  · exact bytes_lt

end Text

namespace Store

/-- Sorting by the bytes of the names gives the order of the entries as well. -/
theorem mergeSort_bytes_eq_entries {store : Store} {listing : List (Text × Entry)}
    (listed : listing.Perm store.entries) :
    (listing.mergeSort fun left right => ¬Text.bytes right.1 < Text.bytes left.1) =
      store.entries := by
  have byName : (fun left right : Text × Entry => decide (¬Text.bytes right.1 < Text.bytes left.1))
      = fun left right => decide (¬right.1 < left.1) := by
    funext left right
    exact decide_eq_decide.mpr (not_congr Text.bytes_lt_iff)
  rw [byName, mergeSort_eq_entries listed]

/-! ## Operations -/

/-- An operation that writes to a store. -/
inductive Operation where
  /-- Writes a plain variable. -/
  | set (name : Text) (value : Value)
  /-- Writes a subroutine. -/
  | defineSubroutine (name body : Text)

namespace Operation

/-- The name that is written. -/
def name : Operation → Text
  | .set name _ => name
  | .defineSubroutine name _ => name

/-- The kind and the value that are written. -/
def entry : Operation → Entry
  | .set _ value => ⟨.variable, value⟩
  | .defineSubroutine _ body => ⟨.subroutine, .string body⟩

/-- The store after an operation. -/
def perform (store : Store) : Operation → Store
  | .set name value => store.set name value
  | .defineSubroutine name body => store.defineSubroutine name body

theorem perform_eq_insert (store : Store) (operation : Operation) :
    perform store operation = store.insert operation.name operation.entry := by
  cases operation with
  | set name value => rfl
  | defineSubroutine name body => rfl

/-- The last operation on a name. -/
def lastOn (name : Text) (operations : List Operation) : Option Operation :=
  operations.reverse.find? fun operation => operation.name == name

theorem lastOn_concat (name : Text) (operations : List Operation) (operation : Operation) :
    lastOn name (operations ++ [operation]) =
      if operation.name = name then some operation else lastOn name operations := by
  rw [lastOn, List.reverse_append, List.reverse_singleton, List.singleton_append,
    List.find?_cons]
  by_cases same : operation.name = name
  · simp [same]
  · simp [same, lastOn, beq_eq_false_iff_ne.mpr same]

theorem exists_lastOn {operations : List Operation} {operation : Operation}
    (member : operation ∈ operations) :
    ∃ last, lastOn operation.name operations = some last := by
  rw [← Option.isSome_iff_exists, lastOn, List.find?_isSome]
  exact ⟨operation, List.mem_reverse.mpr member, beq_self_eq_true _⟩

end Operation

/-- The store that some operations make, one after the other. -/
def ofOperations (operations : List Operation) : Store :=
  operations.foldl Operation.perform empty

/-- The last operation on a name decides what is found under it. -/
theorem find?_ofOperations (operations : List Operation) (name : Text) :
    (ofOperations operations).find? name =
      (Operation.lastOn name operations).map Operation.entry := by
  -- The last operation hides those before it that write the same name.
  induction operations using List.reverseRecOn with
  | nil => rfl
  | append_singleton operations operation ih =>
      rw [ofOperations, List.foldl_concat, Operation.perform_eq_insert, find?_insert,
        Operation.lastOn_concat]
      by_cases same : name = operation.name
      · rw [if_pos same, if_pos same.symm, Option.map_some]
      · rw [if_neg same, if_neg (Ne.symm same)]
        exact ih

/-- Entries that list the last operation on each name. -/
structure ListsLast (operations : List Operation) (entries : List (Text × Entry)) : Prop where
  /-- The bytes of the names increase. -/
  increasing : (entries.map fun row => Text.bytes row.1).Pairwise (· < ·)
  /-- Every name that was written is listed once. -/
  once : ∀ operation ∈ operations, (entries.map Prod.fst).count operation.name = 1
  /-- A name is listed with the kind and the value that were written last. -/
  last : ∀ name entry, (name, entry) ∈ entries ↔
    ∃ operation, Operation.lastOn name operations = some operation ∧ operation.entry = entry

theorem listsLast_ofOperations (operations : List Operation) :
    ListsLast operations (ofOperations operations).entries := by
  have last : ∀ name entry, (name, entry) ∈ (ofOperations operations).entries ↔
      ∃ operation, Operation.lastOn name operations = some operation ∧
        operation.entry = entry := by
    intro name entry
    rw [mem_entries_iff, find?_ofOperations, Option.map_eq_some_iff]
  refine ⟨?_, ?_, last⟩
  · rw [List.pairwise_map]
    exact (ofOperations operations).ordered.imp Text.bytes_lt
  · intro operation member
    rcases Operation.exists_lastOn member with ⟨final, isLast⟩
    have listed := (last operation.name final.entry).mpr ⟨final, isLast, rfl⟩
    exact List.count_eq_one_of_mem (nodup_map_fst_entries _) (List.mem_map_of_mem listed)

/-- Operations in which each name is written last in the same way, or not at all, cannot be told
apart afterwards: not by looking a name up, not by the number of entries, and not by the listing,
the table or the object that are printed.  The entries are listed in the order of bytes, one for
each name that was written, as it was written last. -/
theorem ofOperations_shows_last {first second : List Operation}
    (sameLast : ∀ name, Operation.lastOn name first = Operation.lastOn name second) :
    (∀ name,
      (ofOperations first).value? name = (ofOperations second).value? name ∧
      (ofOperations first).kind? name = (ofOperations second).kind? name ∧
      (ofOperations first).contains name = (ofOperations second).contains name ∧
      (ofOperations first).referenceText? name = (ofOperations second).referenceText? name) ∧
    (ofOperations first).size = (ofOperations second).size ∧
    ListsLast first (ofOperations first).entries ∧
    ListsLast second (ofOperations second).entries ∧
    (ofOperations first).entries = (ofOperations second).entries ∧
    (ofOperations first).table = (ofOperations second).table ∧
    (ofOperations first).json = (ofOperations second).json := by
  have same : ofOperations first = ofOperations second := by
    apply ext_find?
    intro name
    rw [find?_ofOperations, find?_ofOperations, sameLast]
  have listed := listsLast_ofOperations first
  have listed' := listsLast_ofOperations second
  rw [same] at listed ⊢
  exact ⟨fun _ => ⟨rfl, rfl, rfl, rfl⟩, rfl, listed, listed', rfl, rfl, rfl⟩

/-- A number in one row and a subroutine in the other are overwritten alike. -/
theorem ofOperations_shows_last_overwritten :
    (∀ name, Operation.lastOn name [.set ['b'] (.integer 1), .defineSubroutine ['a'] ['x'],
        .set ['b'] (.string ['y'])] =
      Operation.lastOn name [.defineSubroutine ['b'] ['z'], .set ['b'] (.string ['y']),
        .defineSubroutine ['a'] ['x']]) ∧
    (ofOperations [.set ['b'] (.integer 1), .defineSubroutine ['a'] ['x'],
        .set ['b'] (.string ['y'])]).json =
      (ofOperations [.defineSubroutine ['b'] ['z'], .set ['b'] (.string ['y']),
        .defineSubroutine ['a'] ['x']]).json := by
  have sameLast : ∀ name, Operation.lastOn name [.set ['b'] (.integer 1),
        .defineSubroutine ['a'] ['x'], .set ['b'] (.string ['y'])] =
      Operation.lastOn name [.defineSubroutine ['b'] ['z'], .set ['b'] (.string ['y']),
        .defineSubroutine ['a'] ['x']] := by
    intro name
    by_cases isA : ['a'] = name
    · subst isA
      rfl
    · by_cases isB : ['b'] = name
      · subst isB
        rfl
      · simp [Operation.lastOn, Operation.name, isA, isB]
  rcases ofOperations_shows_last sameLast with ⟨_, _, _, _, _, _, json⟩
  exact ⟨sameLast, json⟩

end Store

end LoadScript
