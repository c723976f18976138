import LoadScript.Store.Basic
import Mathlib.Data.Finset.Card
import Mathlib.Data.List.Induction
import Mathlib.Data.List.Sort

/-!
# Writes to a store

A row of writes is made one after the other.  The main statement, `find?_setAll`, says
that the last write of a name wins and that names without a write keep what they had.
The names of the store are therefore the old ones and the written ones, and its size
grows by the number of names that are new.  A store is known from what is found in it
(`ext_find?`), and its entries are any listing of them, sorted by name
(`mergeSort_eq_entries`).
-/

namespace LoadScript.Store

/-- Writes some variables, one after the other. -/
def setAll (writes : List (Text × Value)) (store : Store) : Store :=
  writes.foldl (fun store write => store.set write.1 write.2) store

@[simp]
theorem setAll_nil (store : Store) : store.setAll [] = store :=
  rfl

@[simp]
theorem setAll_singleton (store : Store) (name : Text) (value : Value) :
    store.setAll [(name, value)] = store.set name value :=
  rfl

theorem setAll_append (first second : List (Text × Value)) (store : Store) :
    store.setAll (first ++ second) = (store.setAll first).setAll second :=
  List.foldl_append

/-- The last write of a name wins, and a name without a write keeps its entry. -/
theorem find?_setAll (writes : List (Text × Value)) (store : Store) (name : Text) :
    (store.setAll writes).find? name =
      ((writes.reverse.lookup name).map (Entry.mk .variable)).or (store.find? name) := by
  -- The writes are taken from the last one on, which hides all those before it.
  induction writes using List.reverseRecOn with
  | nil => rfl
  | append_singleton writes write ih =>
      obtain ⟨other, value⟩ := write
      rw [setAll_append, setAll_singleton, find?_set, ih, List.reverse_append,
        List.reverse_singleton, List.singleton_append, List.lookup_cons]
      by_cases same : name = other
      · simp [same]
      · simp [same, beq_eq_false_iff_ne.mpr same]

theorem find?_setAll_of_forall_ne {writes : List (Text × Value)} {name : Text}
    (unwritten : ∀ write ∈ writes, write.1 ≠ name) (store : Store) :
    (store.setAll writes).find? name = store.find? name := by
  have absent : writes.reverse.lookup name = none := by
    rw [List.lookup_eq_none_iff]
    intro write member
    simpa using (unwritten write (List.mem_reverse.mp member)).symm
  rw [find?_setAll, absent]
  rfl

/-- A name that is written has the same entry whatever the store was before. -/
theorem find?_setAll_of_mem {writes : List (Text × Value)} {write : Text × Value}
    (member : write ∈ writes) (left right : Store) :
    (left.setAll writes).find? write.1 = (right.setAll writes).find? write.1 := by
  cases found : writes.reverse.lookup write.1 with
  | none =>
      rw [List.lookup_eq_none_iff] at found
      simpa using found write (List.mem_reverse.mpr member)
  | some value => rw [find?_setAll, find?_setAll, found, Option.map_some, Option.some_or,
      Option.some_or]

/-! ## Entries and lookups -/

/-- The entries of a store are what is found under their names. -/
theorem mem_entries_iff {store : Store} {name : Text} {entry : Entry} :
    (name, entry) ∈ store.entries ↔ store.find? name = some entry := by
  rw [find?, List.lookup_eq_some_iff]
  constructor
  · intro member
    rcases List.append_of_mem member with ⟨before, after, split⟩
    refine ⟨before, after, split, ?_⟩
    intro row inFront
    have ordered := store.ordered
    rw [split] at ordered
    have less : row.1 < name :=
      (List.pairwise_append.mp ordered).2.2 row inFront (name, entry) List.mem_cons_self
    simp only [bne_iff_ne]
    rintro rfl
    exact List.lt_irrefl _ less
  · rintro ⟨before, after, split, _⟩
    simp [split]

/-- Stores in which the same is found are equal. -/
theorem ext_find? {left right : Store} (same : ∀ name, left.find? name = right.find? name) :
    left = right := by
  have irreflexive : Std.Irrefl fun left right : Text × Entry => left.1 < right.1 :=
    ⟨fun row => List.lt_irrefl row.1⟩
  have antisymmetric : Std.Antisymm fun left right : Text × Entry => left.1 < right.1 :=
    ⟨fun _ _ before after => absurd (List.lt_trans before after) (List.lt_irrefl _)⟩
  apply Store.ext
  apply left.ordered.eq_of_mem_iff right.ordered
  rintro ⟨name, entry⟩
  rw [mem_entries_iff, mem_entries_iff, same]

/-- However the entries of a store are listed, they come into their order when they are sorted by
name.  No two of them are equal in that order, because no name has two entries. -/
theorem mergeSort_eq_entries {store : Store} {listing : List (Text × Entry)}
    (listed : listing.Perm store.entries) :
    (listing.mergeSort fun left right => ¬right.1 < left.1) = store.entries := by
  have sorted : (listing.mergeSort fun left right => ¬right.1 < left.1).Pairwise
      fun left right => decide (¬right.1 < left.1) = true := by
    apply List.pairwise_mergeSort
    · intro first second third before behind
      rw [decide_eq_true_iff, List.not_lt] at before behind ⊢
      exact List.le_trans before behind
    · intro left right
      rw [Bool.or_eq_true, decide_eq_true_iff, decide_eq_true_iff, List.not_lt, List.not_lt]
      exact List.le_total left.1 right.1
  have inOrder : store.entries.Pairwise fun left right => decide (¬right.1 < left.1) = true :=
    store.ordered.imp fun less => decide_eq_true (List.lt_asymm less)
  have same := (List.mergeSort_perm listing fun left right => ¬right.1 < left.1).trans listed
  apply same.eq_of_pairwise ?unique sorted inOrder
  rintro ⟨name, entry⟩ ⟨other, entry'⟩ member member' before behind
  rw [decide_eq_true_iff, List.not_lt] at before behind
  obtain rfl : name = other := List.le_antisymm before behind
  have found := mem_entries_iff.mp (same.mem_iff.mp member)
  have found' := mem_entries_iff.mp member'
  rw [Option.some.inj (found.symm.trans found')]

/-! ## Names -/

theorem contains_setAll_iff {writes : List (Text × Value)} {store : Store} {name : Text} :
    (store.setAll writes).contains name = true ↔
      store.contains name = true ∨ ∃ value, (name, value) ∈ writes := by
  rw [contains, contains, find?_setAll, Option.isSome_or, Option.isSome_map, Bool.or_eq_true,
    List.lookup_isSome_iff, or_comm]
  apply or_congr Iff.rfl
  constructor
  · rintro ⟨⟨other, value⟩, member, same⟩
    obtain rfl : name = other := by simpa using same
    exact ⟨value, List.mem_reverse.mp member⟩
  · rintro ⟨value, member⟩
    exact ⟨(name, value), List.mem_reverse.mpr member, by simp⟩

/-- The names that have an entry. -/
def names (store : Store) : Finset Text :=
  (store.entries.map Prod.fst).toFinset

@[simp]
theorem mem_names_iff {store : Store} {name : Text} :
    name ∈ store.names ↔ store.contains name = true := by
  rw [names, List.mem_toFinset, List.mem_map, contains, find?, List.lookup_isSome_iff]
  apply exists_congr
  intro entry
  rw [beq_iff_eq, eq_comm (a := name)]

/-- No name has two entries. -/
theorem nodup_map_fst_entries (store : Store) : (store.entries.map Prod.fst).Nodup := by
  rw [List.nodup_iff_pairwise_ne, List.pairwise_map]
  apply store.ordered.imp
  intro left right before same
  rw [same] at before
  exact List.lt_irrefl _ before

theorem card_names (store : Store) : store.names.card = store.size := by
  rw [names, List.toFinset_card_of_nodup store.nodup_map_fst_entries, List.length_map, size]

theorem names_setAll (writes : List (Text × Value)) (store : Store) :
    (store.setAll writes).names = store.names ∪ (writes.map Prod.fst).toFinset := by
  ext name
  simp [contains_setAll_iff]

/-- A store grows by the written names that are new to it. -/
theorem size_setAll (writes : List (Text × Value)) (store : Store) :
    (store.setAll writes).size =
      store.size + ((writes.map Prod.fst).toFinset \ store.names).card := by
  rw [← card_names, ← card_names, names_setAll, ← Finset.union_sdiff_self_eq_union,
    Finset.card_union_of_disjoint Finset.disjoint_sdiff]

end LoadScript.Store
