import LoadScript.Pattern.Match
import Mathlib.Data.List.Basic

/-!
# What patterns fit

The relation `Fits` says, by the tree of a pattern, which part of a text the pattern fits
between what stands before and behind it.  It leaves open in which order the ways to fit are
tried.

The main statement, `reads_attempt`, connects the search with this relation.  What the search
takes is a fit, and the search fails only where no fit lets the rest go on.
-/

namespace LoadScript.Pattern

/-- The place between two parts of a text. -/
def Cursor.between (before after : Text) : Cursor :=
  ⟨before.length, before.getLast?, after⟩

/-- A row of parts, each of which fits behind those before it. -/
def Row (fits : Text → Text → Text → Prop) : Text → List Text → Text → Prop
  | _, [], _ => True
  | before, part :: parts, after =>
      fits before part (parts.flatten ++ after) ∧ Row fits (before ++ part) parts after

/-- The pattern fits the text `piece` between `before` and `after`. -/
def Fits (flags : Flags) : Expr → Text → Text → Text → Prop
  | .empty, _, piece, _ => piece = []
  | .literal c, _, piece, _ => ∃ d, piece = [d] ∧ (variants flags d).contains c = true
  | .any, _, piece, _ => ∃ d, piece = [d] ∧ (flags.dotAll || d != '\n') = true
  | .oneOf negated items, _, piece, _ =>
      ∃ d, piece = [d] ∧ (inClass flags items d != negated) = true
  | .place place, before, piece, after =>
      piece = [] ∧ (Cursor.between before after).isAt flags place = true
  | .seq first second, before, piece, after =>
      ∃ left right, piece = left ++ right ∧ Fits flags first before left (right ++ after) ∧
        Fits flags second (before ++ left) right after
  | .alt first second, before, piece, after =>
      Fits flags first before piece after ∨ Fits flags second before piece after
  | .repeated expr least most _, before, piece, after =>
      -- Beyond the least number, only repetitions that take something count.
      ∃ base extra : List Text, piece = base.flatten ++ extra.flatten ∧ base.length = least ∧
        (∀ limit ∈ most, extra.length ≤ limit - least) ∧ (∀ part ∈ extra, part ≠ []) ∧
        Row (Fits flags expr) before base (extra.flatten ++ after) ∧
        Row (Fits flags expr) (before ++ base.flatten) extra after

theorem fits_seq_iff {flags : Flags} {first second : Expr} {before piece after : Text} :
    Fits flags (.seq first second) before piece after ↔
      ∃ left right, piece = left ++ right ∧ Fits flags first before left (right ++ after) ∧
        Fits flags second (before ++ left) right after :=
  Iff.rfl

/-! ## Attempts that read a relation -/

/-- What the attempt takes stands in the relation, and the attempt fails only where nothing
that stands in the relation lets the rest go on. -/
structure Attempt.Reads (attempt : Attempt) (fits : Text → Text → Text → Prop) : Prop where
  /-- What is taken fits. -/
  sound : ∀ before rest follow stop,
    attempt (.between before rest) follow = some stop →
      ∃ piece after, rest = piece ++ after ∧ fits before piece after ∧
        follow (.between (before ++ piece) after) = some stop
  /-- What fits is taken, or something else is. -/
  complete : ∀ before piece after follow, fits before piece after →
    (follow (.between (before ++ piece) after)).isSome = true →
      (attempt (.between before (piece ++ after)) follow).isSome = true

theorem Cursor.next?_between_cons (before : Text) (c : Char) (after : Text) :
    (between before (c :: after)).next? = some (c, between (before ++ [c]) after) := by
  simp [next?, between]

namespace Attempt

variable {attempt first second : Attempt} {fits firstFits secondFits : Text → Text → Text → Prop}

theorem reads_one (test : Char → Bool) :
    Reads (one test) fun _ piece _ => ∃ d, piece = [d] ∧ test d = true where
  sound before rest follow stop taken := by
    cases rest with
    | nil => simp [one, Cursor.next?, Cursor.between] at taken
    | cons c after =>
        rw [one, Cursor.next?_between_cons] at taken
        dsimp only at taken
        split at taken
        · rename_i passes
          exact ⟨[c], after, rfl, ⟨c, rfl, passes⟩, taken⟩
        · simp at taken
  complete before piece after follow fit goesOn := by
    rcases fit with ⟨d, rfl, passes⟩
    rw [List.singleton_append, one, Cursor.next?_between_cons]
    simpa only [passes, ↓reduceIte] using goesOn

theorem Reads.seq (readsFirst : first.Reads firstFits) (readsSecond : second.Reads secondFits) :
    Reads (fun cursor follow => first cursor fun next => second next follow)
      fun before piece after => ∃ left right, piece = left ++ right ∧
        firstFits before left (right ++ after) ∧ secondFits (before ++ left) right after where
  sound before rest follow stop taken := by
    rcases readsFirst.sound _ _ _ _ taken with ⟨left, behind, rfl, fitsLeft, takenBehind⟩
    rcases readsSecond.sound _ _ _ _ takenBehind with ⟨right, after, rfl, fitsRight, goesOn⟩
    refine ⟨left ++ right, after, by simp, ⟨left, right, rfl, fitsLeft, fitsRight⟩, ?_⟩
    rwa [← List.append_assoc]
  complete before piece after follow fit goesOn := by
    rcases fit with ⟨left, right, rfl, fitsLeft, fitsRight⟩
    rw [List.append_assoc]
    apply readsFirst.complete _ _ _ _ fitsLeft
    apply readsSecond.complete _ _ _ _ fitsRight
    rwa [List.append_assoc]

theorem eq_some_or_of_orElse {α : Type} {left : Option α} {right : Unit → Option α} {stop : α}
    (taken : left.orElse right = some stop) : left = some stop ∨ right () = some stop := by
  cases left with
  | none => exact .inr taken
  | some other => exact .inl taken

theorem isSome_orElse {α : Type} {left : Option α} {right : Unit → Option α} :
    (left.orElse right).isSome = true ↔ left.isSome = true ∨ (right ()).isSome = true := by
  cases left <;> simp

theorem Reads.alt (readsFirst : first.Reads firstFits) (readsSecond : second.Reads secondFits) :
    Reads (fun cursor follow => (first cursor follow).orElse fun _ => second cursor follow)
      fun before piece after => firstFits before piece after ∨ secondFits before piece after where
  sound before rest follow stop taken := by
    rcases eq_some_or_of_orElse taken with takenFirst | takenSecond
    · rcases readsFirst.sound _ _ _ _ takenFirst with ⟨piece, after, split, fit, goesOn⟩
      exact ⟨piece, after, split, .inl fit, goesOn⟩
    · rcases readsSecond.sound _ _ _ _ takenSecond with ⟨piece, after, split, fit, goesOn⟩
      exact ⟨piece, after, split, .inr fit, goesOn⟩
  complete before piece after follow fit goesOn := by
    rw [isSome_orElse]
    rcases fit with fit | fit
    · exact .inl (readsFirst.complete _ _ _ _ fit goesOn)
    · exact .inr (readsSecond.complete _ _ _ _ fit goesOn)

theorem Reads.exactly (reads : attempt.Reads fits) (count : Nat) :
    Reads (attempt.exactly count) fun before piece after =>
      ∃ parts, piece = parts.flatten ∧ parts.length = count ∧ Row fits before parts after where
  sound before rest follow stop taken := by
    induction count generalizing before rest with
    | zero => exact ⟨[], rest, rfl, ⟨[], rfl, rfl, trivial⟩, by simpa [Attempt.exactly] using taken⟩
    | succ count ih =>
        rcases reads.sound _ _ _ _ taken with ⟨part, behind, rfl, fit, takenBehind⟩
        rcases ih _ _ takenBehind with ⟨_, after, rfl, ⟨parts, rfl, length, row⟩, goesOn⟩
        refine ⟨(part :: parts).flatten, after, by simp, ⟨part :: parts, rfl, ?_, fit, row⟩, ?_⟩
        · rw [List.length_cons, length]
        · rwa [List.flatten_cons, ← List.append_assoc]
  complete before piece after follow fit goesOn := by
    rcases fit with ⟨parts, rfl, length, row⟩
    induction count generalizing before parts with
    | zero =>
        obtain rfl := List.length_eq_zero_iff.mp length
        simpa [Attempt.exactly] using goesOn
    | succ count ih =>
        cases parts with
        | nil => simp at length
        | cons part parts =>
            rw [List.flatten_cons, List.append_assoc]
            apply reads.complete _ _ _ _ row.1
            apply ih _ parts
            · rwa [List.append_assoc]
            · exact Nat.succ.inj length
            · exact row.2

/-- A text has no more parts that are not empty than characters. -/
theorem length_le_of_ne_nil {parts : List Text} (nonempty : ∀ part ∈ parts, part ≠ [])
    (after : Text) : parts.length ≤ (parts.flatten ++ after).length := by
  induction parts with
  | nil => simp
  | cons part parts ih =>
      have first : 0 < part.length := List.length_pos_iff.mpr (nonempty part List.mem_cons_self)
      have rest := ih fun other member => nonempty other (List.mem_cons_of_mem part member)
      rw [List.length_cons, List.flatten_cons, List.append_assoc, List.length_append]
      omega

theorem index_lt_between_append_iff {before part rest after : Text} :
    (Cursor.between before rest).index < (Cursor.between (before ++ part) after).index ↔
      part ≠ [] := by
  simp [Cursor.between, List.length_pos_iff]

theorem Reads.atMost (reads : attempt.Reads fits) (greedy : Bool) (count : Nat) :
    Reads (attempt.atMost greedy count) fun before piece after =>
      ∃ parts, piece = parts.flatten ∧ parts.length ≤ count ∧ (∀ part ∈ parts, part ≠ []) ∧
        Row fits before parts after where
  sound before rest follow stop taken := by
    induction count generalizing before rest with
    | zero =>
        refine ⟨[], rest, rfl, ⟨[], rfl, by simp, by simp, trivial⟩, ?_⟩
        simpa [Attempt.atMost] using taken
    | succ count ih =>
        have either : follow (.between before rest) = some stop ∨
            (attempt (.between before rest) fun next =>
              if (Cursor.between before rest).index < next.index then
                attempt.atMost greedy count next follow
              else none) = some stop := by
          rw [Attempt.atMost] at taken
          cases greedy with
          | false => exact eq_some_or_of_orElse taken
          | true => exact (eq_some_or_of_orElse taken).symm
        rcases either with here | further
        · exact ⟨[], rest, rfl, ⟨[], rfl, by simp, by simp, trivial⟩, by simpa using here⟩
        · rcases reads.sound _ _ _ _ further with ⟨part, behind, rfl, fit, takenBehind⟩
          split at takenBehind
          · rename_i advances
            rcases ih _ _ takenBehind with
              ⟨_, after, rfl, ⟨parts, rfl, length, nonempty, row⟩, goesOn⟩
            refine ⟨(part :: parts).flatten, after, by simp,
              ⟨part :: parts, rfl, ?_, ?_, fit, row⟩, ?_⟩
            · rw [List.length_cons]
              exact Nat.succ_le_succ length
            · exact List.forall_mem_cons.mpr ⟨index_lt_between_append_iff.mp advances, nonempty⟩
            · rwa [List.flatten_cons, ← List.append_assoc]
          · simp at takenBehind
  complete before piece after follow fit goesOn := by
    rcases fit with ⟨parts, rfl, length, nonempty, row⟩
    induction count generalizing before parts with
    | zero =>
        obtain rfl := List.length_eq_zero_iff.mp (Nat.le_zero.mp length)
        simpa [Attempt.atMost] using goesOn
    | succ count ih =>
        have either : (follow (.between before (parts.flatten ++ after))).isSome = true ∨
            (attempt (.between before (parts.flatten ++ after)) fun next =>
              if (Cursor.between before (parts.flatten ++ after)).index < next.index then
                attempt.atMost greedy count next follow
              else none).isSome = true := by
          cases parts with
          | nil => exact .inl (by simpa using goesOn)
          | cons part parts =>
              right
              rcases List.forall_mem_cons.mp nonempty with ⟨advances, nonemptyRest⟩
              rw [List.flatten_cons, List.append_assoc]
              apply reads.complete _ _ _ _ row.1
              rw [if_pos (index_lt_between_append_iff.mpr advances)]
              apply ih _ parts
              · rwa [List.append_assoc]
              · exact Nat.le_of_succ_le_succ length
              · exact nonemptyRest
              · exact row.2
        rw [Attempt.atMost]
        cases greedy with
        | false => exact isSome_orElse.mpr either
        | true => exact isSome_orElse.mpr either.symm

end Attempt

/-- The number of further repetitions that are tried at a place, where `behind` characters are
left. -/
theorem le_bound_iff {most : Option Nat} {least behind count : Nat} (few : count ≤ behind) :
    count ≤ (most.map fun most => min (most - least) behind).getD behind ↔
      ∀ limit ∈ most, count ≤ limit - least := by
  cases most with
  | none => simpa using few
  | some limit =>
      simp only [Option.map_some, Option.getD_some, Nat.le_min, few, and_true, Option.mem_def,
        Option.some.injEq, forall_eq']

theorem reads_repeated {flags : Flags} {expr : Expr}
    (reads : Attempt.Reads (attempt flags expr) (Fits flags expr)) (least : Nat)
    (most : Option Nat) (greedy : Bool) :
    Attempt.Reads (attempt flags (.repeated expr least most greedy))
      (Fits flags (.repeated expr least most greedy)) where
  sound before rest follow stop taken := by
    rcases (reads.exactly least).sound _ _ _ _ taken with
      ⟨_, behind, rfl, ⟨base, rfl, length, row⟩, takenBehind⟩
    rcases (reads.atMost greedy _).sound _ _ _ _ takenBehind with
      ⟨_, after, rfl, ⟨extra, rfl, few, nonempty, rowBehind⟩, goesOn⟩
    have inside := Attempt.length_le_of_ne_nil nonempty after
    refine ⟨base.flatten ++ extra.flatten, after, by simp, ⟨base, extra, rfl, length,
      (le_bound_iff inside).mp few, nonempty, row, rowBehind⟩, ?_⟩
    rwa [← List.append_assoc]
  complete before piece after follow fit goesOn := by
    rcases fit with ⟨base, extra, rfl, length, few, nonempty, row, rowBehind⟩
    have inside := Attempt.length_le_of_ne_nil nonempty after
    rw [List.append_assoc]
    apply (reads.exactly least).complete _ _ _ _ ⟨base, rfl, length, row⟩
    apply (reads.atMost greedy _).complete _ _ _ _
      ⟨extra, rfl, (le_bound_iff inside).mpr few, nonempty, rowBehind⟩
    rwa [List.append_assoc]

/-! ## The search -/

/-- The search for a pattern takes what the pattern fits. -/
theorem reads_attempt (flags : Flags) (expr : Expr) :
    Attempt.Reads (attempt flags expr) (Fits flags expr) := by
  induction expr with
  | empty =>
      constructor
      · intro before rest follow stop taken
        exact ⟨[], rest, rfl, rfl, by simpa [attempt] using taken⟩
      · rintro before piece after follow rfl goesOn
        simpa [attempt] using goesOn
  | literal c => exact Attempt.reads_one _
  | any => exact Attempt.reads_one _
  | oneOf negated items => exact Attempt.reads_one _
  | place place =>
      constructor
      · intro before rest follow stop taken
        rw [attempt] at taken
        split at taken
        · rename_i holds
          exact ⟨[], rest, rfl, ⟨rfl, holds⟩, by simpa using taken⟩
        · simp at taken
      · rintro before piece after follow ⟨rfl, holds⟩ goesOn
        rw [List.nil_append, attempt, if_pos holds]
        simpa using goesOn
  | seq first second readsFirst readsSecond => exact readsFirst.seq readsSecond
  | alt first second readsFirst readsSecond => exact readsFirst.alt readsSecond
  | repeated expr least most greedy reads => exact reads_repeated reads least most greedy

theorem attempt_eq_none_iff {flags : Flags} {expr : Expr} {before rest : Text} :
    attempt flags expr (.between before rest) some = none ↔
      ∀ piece after, rest = piece ++ after → ¬Fits flags expr before piece after := by
  constructor
  · rintro failed piece after rfl fit
    have found := (reads_attempt flags expr).complete before piece after some fit rfl
    rw [failed] at found
    contradiction
  · intro unfit
    rw [Option.eq_none_iff_forall_ne_some]
    intro stop taken
    rcases (reads_attempt flags expr).sound _ _ _ _ taken with ⟨piece, after, split, fit, _⟩
    exact unfit piece after split fit

theorem isSome_attempt_iff {flags : Flags} {expr : Expr} {before rest : Text} :
    (attempt flags expr (.between before rest) some).isSome = true ↔
      ∃ piece after, rest = piece ++ after ∧ Fits flags expr before piece after := by
  rw [← Option.ne_none_iff_isSome, ne_eq, attempt_eq_none_iff]
  simp only [not_forall, not_not, exists_prop]

/-! ## The parts found -/

/-- A part that is not empty is taken, and the search goes on behind it. -/
theorem findFrom_of_eq_some {flags : Flags} {expr : Expr} {fuel : Nat} {fresh : Bool}
    {cursor stop : Cursor} (taken : attempt flags expr cursor some = some stop)
    (advances : cursor.index < stop.index) :
    findFrom flags expr (fuel + 1) fresh cursor =
      cursor.upTo stop :: findFrom flags expr fuel false stop := by
  rw [findFrom, taken]
  simp only [Option.filter_some, advances, decide_true, ↓reduceIte]

/-- Where nothing is found the search goes on at the next character. -/
theorem findFrom_of_eq_none {flags : Flags} {expr : Expr} {fuel : Nat} {fresh : Bool}
    {cursor : Cursor} (failed : attempt flags expr cursor some = none) :
    findFrom flags expr (fuel + 1) fresh cursor =
      (cursor.next?.map fun next => findFrom flags expr fuel true next.2).getD [] := by
  rw [findFrom, failed]
  cases cursor.next? <;> rfl

/-- The first part that is found counts even if it is empty. -/
theorem findFrom_ne_nil {flags : Flags} {expr : Expr} {fuel : Nat} {cursor stop : Cursor}
    (taken : attempt flags expr cursor some = some stop) :
    findFrom flags expr (fuel + 1) true cursor ≠ [] := by
  rw [findFrom, taken]
  dsimp only
  split
  · exact List.cons_ne_nil _ _
  · cases cursor.next? with
    | none => exact List.cons_ne_nil _ _
    | some next => exact List.cons_ne_nil _ _

/-- A search finds nothing exactly if the pattern fits nowhere. -/
theorem findFrom_eq_nil_iff {flags : Flags} {expr : Expr} {fuel : Nat} (before : Text)
    {rest : Text} (enough : rest.length < fuel) :
    findFrom flags expr fuel true (.between before rest) = [] ↔
      ∀ front piece after, rest = front ++ (piece ++ after) →
        ¬Fits flags expr (before ++ front) piece after := by
  induction fuel generalizing before rest with
  | zero => exact absurd enough (Nat.not_lt_zero _)
  | succ fuel ih =>
      cases taken : attempt flags expr (.between before rest) some with
      | some stop =>
          rcases (reads_attempt flags expr).sound _ _ _ _ taken with ⟨piece, after, rfl, fit, _⟩
          rw [iff_false_left (findFrom_ne_nil taken)]
          intro unfit
          exact unfit [] piece after rfl (by rwa [List.append_nil])
      | none =>
          have unfitHere := attempt_eq_none_iff.mp taken
          rw [findFrom_of_eq_none taken]
          cases rest with
          | nil =>
              refine iff_of_true rfl ?_
              intro front piece after split
              rcases List.append_eq_nil_iff.mp split.symm with ⟨rfl, behind⟩
              rw [List.append_nil]
              exact unfitHere piece after behind.symm
          | cons c rest =>
              rw [Cursor.next?_between_cons, Option.map_some, Option.getD_some,
                ih _ (Nat.lt_of_succ_lt_succ enough)]
              constructor
              · intro unfitBehind front piece after split
                cases front with
                | nil =>
                    rw [List.append_nil]
                    exact unfitHere piece after split
                | cons d front =>
                    rcases List.cons.inj split with ⟨rfl, behind⟩
                    rw [List.append_cons]
                    exact unfitBehind front piece after behind
              · intro unfit front piece after split
                rw [← List.append_cons]
                exact unfit (c :: front) piece after (congrArg (c :: ·) split)

theorem findAll_eq_nil_iff {flags : Flags} {expr : Expr} {text : Text} :
    findAll flags expr text = [] ↔
      ∀ before piece after, text = before ++ (piece ++ after) →
        ¬Fits flags expr before piece after :=
  findFrom_eq_nil_iff [] (by omega)

theorem findAll_ne_nil_iff {flags : Flags} {expr : Expr} {text : Text} :
    findAll flags expr text ≠ [] ↔
      ∃ before piece after, text = before ++ (piece ++ after) ∧
        Fits flags expr before piece after := by
  rw [ne_eq, findAll_eq_nil_iff]
  simp only [not_forall, not_not, exists_prop]

/-- A search depends on a pattern only through the ways in which it is tried. -/
theorem findAll_congr {flags : Flags} {expr expr' : Expr}
    (same : attempt flags expr = attempt flags expr') (text : Text) :
    findAll flags expr text = findAll flags expr' text := by
  have sameFrom : ∀ fuel fresh cursor,
      findFrom flags expr fuel fresh cursor = findFrom flags expr' fuel fresh cursor := by
    intro fuel
    induction fuel with
    | zero => exact fun _ _ => rfl
    | succ fuel ih =>
        intro fresh cursor
        simp only [findFrom, same, ih]
  exact sameFrom _ _ _

section Count

variable {flags : Flags} {expr : Expr} {count : Text → Text → Nat}
  (atEnd : ∀ before, count before [] = 0)
  (overFit : ∀ before piece after, Fits flags expr before piece after →
    piece ≠ [] ∧ count before (piece ++ after) = 1 + count (before ++ piece) after)
  (overChar : ∀ before c rest,
    (∀ piece after, c :: rest = piece ++ after → ¬Fits flags expr before piece after) →
      count before (c :: rest) = count (before ++ [c]) rest)

include atEnd overFit overChar

/-- A number that goes down by one over a part that fits, and stays over a character at which
nothing fits, is the number of parts found. -/
theorem length_findFrom {fuel : Nat} {fresh : Bool} (before : Text) {rest : Text}
    (enough : rest.length < fuel) :
    (findFrom flags expr fuel fresh (.between before rest)).length = count before rest := by
  induction fuel generalizing fresh before rest with
  | zero => exact absurd enough (Nat.not_lt_zero _)
  | succ fuel ih =>
      cases taken : attempt flags expr (.between before rest) some with
      | none =>
          rw [findFrom_of_eq_none taken]
          cases rest with
          | nil => exact (atEnd before).symm
          | cons c rest =>
              rw [overChar before c rest (attempt_eq_none_iff.mp taken),
                Cursor.next?_between_cons, Option.map_some, Option.getD_some]
              exact ih _ (Nat.lt_of_succ_lt_succ enough)
      | some stop =>
          rcases (reads_attempt flags expr).sound _ _ _ _ taken with
            ⟨piece, after, rfl, fit, goesOn⟩
          obtain rfl := Option.some.inj goesOn
          rcases overFit before piece after fit with ⟨nonempty, counted⟩
          have shorter : after.length < fuel := by
            have positive := List.length_pos_iff.mpr nonempty
            rw [List.length_append] at enough
            omega
          rw [findFrom_of_eq_some taken (Attempt.index_lt_between_append_iff.mpr nonempty),
            List.length_cons, ih _ shorter, counted, Nat.add_comm]

theorem length_findAll (text : Text) : (findAll flags expr text).length = count [] text := by
  have enough : text.length < 2 * text.length + 2 := by omega
  exact length_findFrom atEnd overFit overChar [] enough

end Count

/-! ## Repeated characters -/

section Characters

variable {flags : Flags} {expr : Expr} {test : Char → Bool}
  (single : ∀ before piece after,
    Fits flags expr before piece after ↔ ∃ c, piece = [c] ∧ test c = true)

include single

theorem Row.of_singletons {before after : Text} {parts : List Text}
    (row : Row (Fits flags expr) before parts after) :
    parts.flatten.length = parts.length ∧ ∀ c ∈ parts.flatten, test c = true := by
  induction parts generalizing before with
  | nil => simp
  | cons part parts ih =>
      rcases (single _ _ _).mp row.1 with ⟨c, rfl, passes⟩
      rcases ih row.2 with ⟨length, each⟩
      simpa [length, passes] using each

theorem row_singletons {before after text : Text} (each : ∀ c ∈ text, test c = true) :
    Row (Fits flags expr) before (text.map fun c => [c]) after := by
  induction text generalizing before with
  | nil => trivial
  | cons c text ih =>
      rcases List.forall_mem_cons.mp each with ⟨passes, eachRest⟩
      exact ⟨(single _ _ _).mpr ⟨c, rfl, passes⟩, ih eachRest⟩

/-- A repeated character fits the runs of such characters that are long enough. -/
theorem fits_repeated_iff {least : Nat} {greedy : Bool} {before piece after : Text} :
    Fits flags (.repeated expr least none greedy) before piece after ↔
      least ≤ piece.length ∧ ∀ c ∈ piece, test c = true := by
  constructor
  · rintro ⟨base, extra, rfl, length, _, _, row, rowBehind⟩
    rcases row.of_singletons single with ⟨baseLength, eachBase⟩
    rcases rowBehind.of_singletons single with ⟨_, eachExtra⟩
    constructor
    · rw [List.length_append, baseLength, length]
      exact Nat.le_add_right _ _
    · exact List.forall_mem_append.mpr ⟨eachBase, eachExtra⟩
  · rintro ⟨long, each⟩
    have flat : ∀ text : Text, (text.map fun c => [c]).flatten = text := List.flatMap_singleton'
    refine ⟨(piece.take least).map fun c => [c], (piece.drop least).map fun c => [c], ?_, ?_, ?_,
      ?_, ?_, ?_⟩
    · rw [flat, flat, List.take_append_drop]
    · rw [List.length_map, List.length_take, Nat.min_eq_left long]
    · simp
    · intro part member
      rcases List.mem_map.mp member with ⟨c, _, rfl⟩
      exact List.cons_ne_nil c []
    · exact row_singletons single fun c member => each c (List.mem_of_mem_take member)
    · exact row_singletons single fun c member => each c (List.mem_of_mem_drop member)

end Characters

end LoadScript.Pattern
