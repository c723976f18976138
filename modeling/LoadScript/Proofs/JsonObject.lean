import LoadScript.Proofs.Unbroken
import LoadScript.Store.Json

/-!
# The JSON object tells the whole store

Names and texts may hold quotes, braces and line ends that look like the parts of an object.
Each part is nevertheless written so that its end can be told from whatever follows: a string
ends with the first bare quote, a number with its line, and a field with its closing brace.  The
main statement, `eq_of_json_eq`, follows part by part: stores without floating-point numbers
that are written alike are equal.

Floating-point numbers are left out because the infinities and undefined results share one
writing.
-/

namespace LoadScript

open Text

/-- A way of writing in which the end of what is written can be told from whatever follows. -/
def SelfDelimiting {α : Type} (write : α → Text) : Prop :=
  ∀ ⦃left right : α⦄ ⦃behind behind' : Text⦄,
    write left ++ behind = write right ++ behind' → left = right ∧ behind = behind'

/-- It is enough that no writing begins with another one. -/
theorem selfDelimiting_of_prefix {α : Type} {write : α → Text}
    (apart : ∀ left right, write left <+: write right → left = right) :
    SelfDelimiting write := by
  intro left right behind behind' same
  have shorter : write left <+: write right ∨ write right <+: write left :=
    List.prefix_or_prefix_of_prefix (List.prefix_append _ behind) (same ▸ List.prefix_append _ _)
  obtain rfl : left = right := by
    rcases shorter with isFirst | isFirst
    · exact apart left right isFirst
    · exact (apart right left isFirst).symm
  exact ⟨rfl, List.append_cancel_left same⟩

/-! ## Strings -/

namespace Json

/-- The characters that do not stand for themselves in a string. -/
def escapes : List Char :=
  '\x22' :: '\\' :: (List.range 0x20).map Char.ofNat

theorem mem_escapes_of_control {c : Char} (control : c.toNat < 0x20) : c ∈ escapes := by
  simp only [escapes, List.mem_cons]
  exact .inr (.inr (List.mem_map.mpr ⟨c.toNat, List.mem_range.mpr control, Char.ofNat_toNat c⟩))

theorem stringChar_of_not_mem_escapes {c : Char} (plain : c ∉ escapes) : stringChar c = [c] := by
  have notControl : ¬c.toNat < 0x20 := fun control => plain (mem_escapes_of_control control)
  have other : ∀ d ∈ escapes, c ≠ d := fun d member same => plain (same ▸ member)
  unfold stringChar
  simp only [other _ (by decide : '\x22' ∈ escapes), other _ (by decide : '\\' ∈ escapes),
    other _ (by decide : '\x08' ∈ escapes), other _ (by decide : '\x0c' ∈ escapes),
    other _ (by decide : '\n' ∈ escapes), other _ (by decide : '\r' ∈ escapes),
    other _ (by decide : '\t' ∈ escapes), notControl, ↓reduceIte]

theorem exists_stringChar_eq_of_mem_escapes {c : Char} (escaped : c ∈ escapes) :
    ∃ code, stringChar c = '\\' :: code := by
  have marked : ∀ written ∈ escapes.map stringChar, written.head? = some '\\' := by decide
  exact List.head?_eq_some_iff.mp (marked _ (List.mem_map_of_mem escaped))

/-- No escape begins with another one. -/
theorem eq_of_stringChar_prefix_of_mem_escapes {c d : Char} (escaped : c ∈ escapes)
    (escaped' : d ∈ escapes) (begins : stringChar c <+: stringChar d) : c = d := by
  have apart : escapes.Pairwise fun c d =>
      ¬stringChar c <+: stringChar d ∧ ¬stringChar d <+: stringChar c := by
    decide
  have symmetric : Std.Symm fun c d : Char =>
      ¬stringChar c <+: stringChar d ∧ ¬stringChar d <+: stringChar c :=
    ⟨fun _ _ => And.symm⟩
  by_contra differ
  exact (apart.forall escaped escaped' differ).1 begins

/-- A character stands for itself or is written with a backslash in front.  None of these
writings begins with another one. -/
theorem selfDelimiting_stringChar : SelfDelimiting stringChar := by
  have backslash : '\\' ∈ escapes := by decide
  apply selfDelimiting_of_prefix
  intro c d begins
  by_cases escaped : c ∈ escapes
  · by_cases escaped' : d ∈ escapes
    · exact eq_of_stringChar_prefix_of_mem_escapes escaped escaped' begins
    · rcases exists_stringChar_eq_of_mem_escapes escaped with ⟨code, written⟩
      rw [written, stringChar_of_not_mem_escapes escaped', List.cons_prefix_cons] at begins
      exact absurd (begins.1 ▸ backslash) escaped'
  · rw [stringChar_of_not_mem_escapes escaped] at begins
    by_cases escaped' : d ∈ escapes
    · rcases exists_stringChar_eq_of_mem_escapes escaped' with ⟨code, written⟩
      rw [written, List.cons_prefix_cons] at begins
      exact absurd (begins.1 ▸ backslash) escaped
    · rw [stringChar_of_not_mem_escapes escaped', List.cons_prefix_cons] at begins
      exact begins.1

/-- No character is written with a bare quote in front. -/
theorem exists_stringChar_eq_cons (c : Char) :
    ∃ first code, stringChar c = first :: code ∧ first ≠ '\x22' := by
  by_cases escaped : c ∈ escapes
  · rcases exists_stringChar_eq_of_mem_escapes escaped with ⟨code, written⟩
    exact ⟨'\\', code, written, by decide⟩
  · refine ⟨c, [], stringChar_of_not_mem_escapes escaped, ?_⟩
    rintro rfl
    exact escaped (by decide)

/-- A string ends with its first bare quote. -/
theorem selfDelimiting_string : SelfDelimiting string := by
  intro left right behind behind' same
  simp only [string, List.cons_append, List.append_assoc, List.nil_append, List.cons.injEq,
    true_and] at same
  induction left generalizing right with
  | nil =>
      cases right with
      | nil => exact ⟨rfl, (List.cons.inj same).2⟩
      | cons d right =>
          rcases exists_stringChar_eq_cons d with ⟨first, code, written, notQuote⟩
          rw [List.flatMap_cons, written] at same
          exact absurd (List.cons.inj same).1.symm notQuote
  | cons c left ih =>
      cases right with
      | nil =>
          rcases exists_stringChar_eq_cons c with ⟨first, code, written, notQuote⟩
          rw [List.flatMap_cons, written] at same
          exact absurd (List.cons.inj same).1 notQuote
      | cons d right =>
          rw [List.flatMap_cons, List.flatMap_cons, List.append_assoc, List.append_assoc] at same
          rcases selfDelimiting_stringChar same with ⟨rfl, rest⟩
          rcases ih rest with ⟨rfl, sameBehind⟩
          exact ⟨rfl, sameBehind⟩

end Json

/-! ## Numbers -/

theorem decimalDigits_injective : Function.Injective decimalDigits := by
  intro m n same
  rw [← digitsValue_decimalDigits m, same, digitsValue_decimalDigits]

theorem decimalDigits_ne_minus_cons (n : Nat) (text : Text) : decimalDigits n ≠ '-' :: text := by
  intro same
  have member : '-' ∈ decimalDigits n := same ▸ List.mem_cons_self
  exact absurd (isDigit_of_mem_decimalDigits member) (by decide)

theorem integerText_injective : Function.Injective integerText := by
  intro m n same
  cases m with
  | ofNat m =>
      cases n with
      | ofNat n => rw [decimalDigits_injective same]
      | negSucc n => exact absurd same (decimalDigits_ne_minus_cons m _)
  | negSucc m =>
      cases n with
      | ofNat n => exact absurd same.symm (decimalDigits_ne_minus_cons n _)
      | negSucc n =>
          have digits := decimalDigits_injective (List.cons.inj same).2
          rw [Nat.succ.inj digits]

/-! ## Values and entries -/

namespace Value

/-- A value that is no floating-point number. -/
def Floatless : Value → Prop
  | .float _ => False
  | _ => True

instance : DecidablePred Floatless
  | .integer _ => .isTrue trivial
  | .float _ => .isFalse id
  | .string _ => .isTrue trivial

/-- A value ends with its line.  Integers and strings are told apart by the name of the type,
which is written first. -/
theorem Floatless.json_inj {left right : Value} (floatless : left.Floatless)
    (floatless' : right.Floatless) (sameType : left.typeName = right.typeName)
    {behind behind' : Text} (same : left.json ++ '\n' :: behind = right.json ++ '\n' :: behind') :
    left = right ∧ behind = behind' := by
  cases left with
  | float x => exact floatless.elim
  | integer m =>
      cases right with
      | float x => exact floatless'.elim
      | string t =>
          exact absurd sameType (by decide : ¬"integer".toList = "string".toList)
      | integer n =>
          have noFeed : ∀ k : Int, '\n' ∉ integerText k := fun k feed =>
            unbroken_integerText k '\n' feed (by decide)
          have cut : cutAt? '\n' (integerText m ++ '\n' :: behind) = some (integerText m, behind) :=
            cutAt?_eq_some_iff.mpr ⟨rfl, noFeed m⟩
          have cut' := cutAt?_eq_some_iff.mpr ⟨same, noFeed n⟩
          rcases Prod.mk.inj (Option.some.inj (cut.symm.trans cut')) with ⟨sameDigits, sameBehind⟩
          exact ⟨congrArg integer (integerText_injective sameDigits), sameBehind⟩
  | string s =>
      cases right with
      | float x => exact floatless'.elim
      | integer n =>
          exact absurd sameType (by decide : ¬"string".toList = "integer".toList)
      | string t =>
          rcases Json.selfDelimiting_string same with ⟨rfl, sameRest⟩
          exact ⟨rfl, (List.cons.inj sameRest).2⟩

end Value

theorem Kind.text_injective : Function.Injective Kind.text
  | .variable, .variable, _ => rfl
  | .variable, .subroutine, same => absurd same (by decide)
  | .subroutine, .variable, same => absurd same (by decide)
  | .subroutine, .subroutine, _ => rfl

namespace Store

/-- The field of an entry ends with its closing brace. -/
theorem jsonField_inj {name name' : Text} {entry entry' : Entry}
    (floatless : entry.value.Floatless) (floatless' : entry'.value.Floatless)
    {behind behind' : Text}
    (same : jsonField name entry ++ behind = jsonField name' entry' ++ behind') :
    (name, entry) = (name', entry') ∧ behind = behind' := by
  have closing (text : Text) :
      "\n  \x7d".toList ++ text = '\n' :: ("  \x7d".toList ++ text) :=
    congrArg (· ++ text) (by decide : "\n  \x7d".toList = '\n' :: "  \x7d".toList)
  unfold jsonField at same
  simp only [List.append_assoc] at same
  rw [closing, closing] at same
  -- The texts between the parts are the same on both sides and are taken off one by one.
  rcases Json.selfDelimiting_string (List.append_cancel_left same) with ⟨rfl, behindName⟩
  rcases Json.selfDelimiting_string (List.append_cancel_left (List.append_cancel_left behindName))
    with ⟨sameKind, behindKind⟩
  rcases Json.selfDelimiting_string (List.append_cancel_left (List.append_cancel_left behindKind))
    with ⟨sameType, behindType⟩
  rcases floatless.json_inj floatless' sameType
      (List.append_cancel_left (List.append_cancel_left behindType))
    with ⟨sameValue, behindValue⟩
  obtain ⟨kind, value⟩ := entry
  obtain ⟨kind', value'⟩ := entry'
  obtain rfl := Kind.text_injective sameKind
  obtain rfl := sameValue
  exact ⟨rfl, List.append_cancel_left behindValue⟩

/-- A store without floating-point numbers. -/
def Floatless (store : Store) : Prop :=
  ∀ row ∈ store.entries, row.2.value.Floatless

instance : DecidablePred Floatless := fun store =>
  inferInstanceAs (Decidable (∀ row ∈ store.entries, row.2.value.Floatless))

/-- What is written behind the first field: the other ones, each behind a comma, and the end of
the object. -/
def jsonRest (rows : List (Text × Entry)) : Text :=
  rows.flatMap (fun row => ",\n".toList ++ jsonField row.1 row.2) ++ "\n\x7d".toList

theorem jsonRest_cons (row : Text × Entry) (rows : List (Text × Entry)) :
    jsonRest (row :: rows) = ",\n".toList ++ (jsonField row.1 row.2 ++ jsonRest rows) := by
  rw [jsonRest, List.flatMap_cons, List.append_assoc, List.append_assoc]
  rfl

theorem jsonRest_cons_ne_nil (row : Text × Entry) (rows : List (Text × Entry)) :
    jsonRest (row :: rows) ≠ jsonRest [] := by
  intro same
  rw [jsonRest_cons] at same
  have first := congrArg List.head? same
  rw [List.head?_append_of_ne_nil _ (by decide)] at first
  exact absurd first (by decide)

theorem jsonRest_inj {rows rows' : List (Text × Entry)}
    (floatless : ∀ row ∈ rows, row.2.value.Floatless)
    (floatless' : ∀ row ∈ rows', row.2.value.Floatless) (same : jsonRest rows = jsonRest rows') :
    rows = rows' := by
  induction rows generalizing rows' with
  | nil =>
      cases rows' with
      | nil => rfl
      | cons row' rows' => exact absurd same.symm (jsonRest_cons_ne_nil row' rows')
  | cons row rows ih =>
      cases rows' with
      | nil => exact absurd same (jsonRest_cons_ne_nil row rows)
      | cons row' rows' =>
          rw [List.forall_mem_cons] at floatless floatless'
          rw [jsonRest_cons, jsonRest_cons] at same
          rcases jsonField_inj floatless.1 floatless'.1 (List.append_cancel_left same) with
            ⟨sameRow, sameRest⟩
          rw [ih floatless.2 floatless'.2 sameRest]
          exact congrArg (· :: rows') sameRow

theorem json_of_entries_eq_nil {store : Store} (entries : store.entries = []) :
    store.json = "\x7b\x7d".toList := by
  unfold json
  rw [entries, List.isEmpty_nil, if_pos rfl]

theorem json_of_entries_eq_cons {store : Store} {row : Text × Entry} {rows : List (Text × Entry)}
    (entries : store.entries = row :: rows) :
    store.json = "\x7b\n".toList ++ (jsonField row.1 row.2 ++ jsonRest rows) := by
  unfold json
  rw [entries, List.isEmpty_cons, if_neg Bool.false_ne_true, List.map_cons,
    Text.intercalate_cons, List.flatMap_map, List.append_assoc, List.append_assoc]
  rfl

/-- An object with fields begins with a line of its own, unlike one without. -/
theorem open_line_ne_closed (text : Text) : "\x7b\n".toList ++ text ≠ "\x7b\x7d".toList := by
  intro same
  have second := congrArg (fun text => text[1]?) same
  rw [List.getElem?_append_left (by decide)] at second
  exact absurd second (by decide)

/-- Stores without floating-point numbers that are shown by the same JSON object have the same
names, of the same kinds and with the same values. -/
theorem eq_of_json_eq {left right : Store} (floatless : left.Floatless)
    (floatless' : right.Floatless) (same : left.json = right.json) : left = right := by
  apply Store.ext
  unfold Floatless at floatless floatless'
  cases entries : left.entries with
  | nil =>
      cases entries' : right.entries with
      | nil => rfl
      | cons row' rows' =>
          rw [json_of_entries_eq_nil entries, json_of_entries_eq_cons entries'] at same
          exact absurd same.symm (open_line_ne_closed _)
  | cons row rows =>
      cases entries' : right.entries with
      | nil =>
          rw [json_of_entries_eq_cons entries, json_of_entries_eq_nil entries'] at same
          exact absurd same (open_line_ne_closed _)
      | cons row' rows' =>
          rw [entries] at floatless
          rw [entries'] at floatless'
          rw [json_of_entries_eq_cons entries, json_of_entries_eq_cons entries'] at same
          have sameRest : jsonRest (row :: rows) = jsonRest (row' :: rows') := by
            rw [jsonRest_cons, jsonRest_cons, List.append_cancel_left same]
          exact jsonRest_inj floatless floatless' sameRest

/-- A name and a body that look like parts of the object, written in either order. -/
theorem eq_of_json_eq_quotes_and_braces :
    ((empty.set ['\x22'] (.integer 1)).defineSubroutine ['\n', '\x7d'] ['\\', '\x22']).Floatless ∧
    ((empty.defineSubroutine ['\n', '\x7d'] ['\\', '\x22']).set ['\x22'] (.integer 1)).Floatless ∧
    ((empty.set ['\x22'] (.integer 1)).defineSubroutine ['\n', '\x7d'] ['\\', '\x22']).json =
      ((empty.defineSubroutine ['\n', '\x7d'] ['\\', '\x22']).set ['\x22'] (.integer 1)).json ∧
    (empty.set ['\x22'] (.integer 1)).defineSubroutine ['\n', '\x7d'] ['\\', '\x22'] =
      (empty.defineSubroutine ['\n', '\x7d'] ['\\', '\x22']).set ['\x22'] (.integer 1) := by
  have written : ((empty.set ['\x22'] (.integer 1)).defineSubroutine ['\n', '\x7d']
        ['\\', '\x22']).json =
      ((empty.defineSubroutine ['\n', '\x7d'] ['\\', '\x22']).set ['\x22'] (.integer 1)).json := by
    decide +kernel
  exact ⟨by decide, by decide, written, eq_of_json_eq (by decide) (by decide) written⟩

end Store

end LoadScript
