import LoadScript.Proofs.PatternFits

/-!
# Groups in patterns

A group of a pattern holds what the pattern inside it takes when everything around it is matched,
too.  Where a run of characters is repeated greedily, the run is as long as possible, and the part
behind it begins with a character that is not repeated.

The main statements, `capture?_eq_some` and `attempt_repeated_eq`, say what a group can hold and
where a greedy run ends.
-/

namespace LoadScript.Pattern

/-! ## Groups -/

variable {flags : Flags} {first second group last : Expr} {before left right after : Text}

/-- The place where the first of two patterns ends when both are matched in a row. -/
def seam? (flags : Flags) (first second : Expr) (cursor : Cursor) : Option Cursor :=
  attempt flags first cursor fun next => (attempt flags second next some).map fun _ => next

/-- The part of a text that the middle one of three patterns takes when all of them are matched
in a row. -/
def capture? (flags : Flags) (first group last : Expr) (cursor : Cursor) : Option Text := do
  let start ← seam? flags first (.seq group last) cursor
  let stop ← seam? flags group last start
  return start.upTo stop

/-- Both patterns fit where they meet. -/
theorem seam?_eq_some {rest : Text} {next : Cursor}
    (found : seam? flags first second (.between before rest) = some next) :
    ∃ left right after, rest = left ++ (right ++ after) ∧
      next = .between (before ++ left) (right ++ after) ∧
      Fits flags first before left (right ++ after) ∧
      Fits flags second (before ++ left) right after := by
  rcases (reads_attempt flags first).sound _ _ _ _ found with ⟨left, behind, rfl, fits, goesOn⟩
  rcases Option.map_eq_some_iff.mp goesOn with ⟨stop, taken, rfl⟩
  rcases (reads_attempt flags second).sound _ _ _ _ taken with ⟨right, after, rfl, fits', _⟩
  exact ⟨left, right, after, rfl, rfl, fits, fits'⟩

theorem isSome_seam? (fits : Fits flags first before left (right ++ after))
    (fits' : Fits flags second (before ++ left) right after) :
    (seam? flags first second (.between before (left ++ (right ++ after)))).isSome = true := by
  apply (reads_attempt flags first).complete _ _ _ _ fits
  rw [Option.isSome_map]
  exact (reads_attempt flags second).complete _ _ _ _ fits' rfl

theorem Cursor.upTo_between (before part behind : Text) :
    (between before (part ++ behind)).upTo (between (before ++ part) behind) = part := by
  simp [upTo, between]

/-- What a group holds fits between what is matched around it. -/
theorem capture?_eq_some {rest part : Text}
    (found : capture? flags first group last (.between before rest) = some part) :
    ∃ left right after, rest = left ++ (part ++ (right ++ after)) ∧
      Fits flags first before left (part ++ (right ++ after)) ∧
      Fits flags group (before ++ left) part (right ++ after) ∧
      Fits flags last (before ++ left ++ part) right after := by
  simp only [capture?, Option.bind_eq_bind, Option.bind_eq_some_iff] at found
  rcases found with ⟨start, opened, stop, closed, whole⟩
  rcases seam?_eq_some opened with ⟨left, behind, after, rfl, rfl, fitsFirst, _⟩
  rcases seam?_eq_some closed with ⟨middle, right, after', split, rfl, fitsGroup, fitsLast⟩
  obtain rfl : middle = part := by
    rw [split, Cursor.upTo_between] at whole
    exact Option.some.inj whole
  rw [split] at fitsFirst ⊢
  exact ⟨left, right, after', rfl, fitsFirst, fitsGroup, fitsLast⟩

/-- A group holds something whenever the whole pattern is matched. -/
theorem isSome_capture?_iff {rest : Text} :
    (capture? flags first group last (.between before rest)).isSome = true ↔
      (attempt flags (.seq first (.seq group last)) (.between before rest) some).isSome = true := by
  rw [isSome_attempt_iff]
  constructor
  · intro captured
    rcases Option.isSome_iff_exists.mp captured with ⟨part, found⟩
    rcases capture?_eq_some found with ⟨left, right, after, rfl, fitsFirst, fitsGroup, fitsLast⟩
    refine ⟨left ++ (part ++ right), after, by simp, left, part ++ right, rfl, ?_, part, right, rfl,
      fitsGroup, fitsLast⟩
    rwa [List.append_assoc]
  · rintro ⟨_, after, rfl, left, inner, rfl, fitsFirst, fitsInner⟩
    rw [List.append_assoc]
    rcases Option.isSome_iff_exists.mp (isSome_seam? fitsFirst fitsInner) with ⟨start, opened⟩
    -- The group may begin elsewhere, but wherever it begins it can be closed.
    rcases seam?_eq_some opened with ⟨_, _, after', _, rfl, _, part, right, rfl, fits, fits'⟩
    have closes := isSome_seam? fits fits'
    rw [← List.append_assoc] at closes
    rcases Option.isSome_iff_exists.mp closes with ⟨stop, closed⟩
    rw [capture?, opened, Option.bind_eq_bind, Option.bind_some, closed]
    rfl

/-! ## Greedy runs -/

section Greedy

variable {test : Char → Bool} {follow : Cursor → Option Cursor} {run rest : Text}
  (passes : ∀ c ∈ run, test c = true) (stops : ∀ c ∈ rest.head?, test c = false)

theorem Attempt.one_cons {c : Char} (pass : test c = true) (before rest : Text) :
    Attempt.one test (.between before (c :: rest)) follow =
      follow (.between (before ++ [c]) rest) := by
  rw [Attempt.one, Cursor.next?_between_cons]
  exact if_pos pass

theorem Attempt.one_eq_none (stops : ∀ c ∈ rest.head?, test c = false) (before : Text) :
    Attempt.one test (.between before rest) follow = none := by
  cases rest with
  | nil => rfl
  | cons c rest =>
      rw [Attempt.one, Cursor.next?_between_cons]
      exact if_neg (Bool.eq_false_iff.mp (stops c rfl))

include passes

theorem Attempt.exactly_one (before : Text) :
    (Attempt.one test).exactly run.length (.between before (run ++ rest)) follow =
      follow (.between (before ++ run) rest) := by
  induction run generalizing before with
  | nil => rw [List.append_nil]; rfl
  | cons c run ih =>
      rcases List.forall_mem_cons.mp passes with ⟨pass, passesRest⟩
      rw [List.length_cons, Attempt.exactly, List.cons_append, Attempt.one_cons pass,
        ih passesRest, ← List.append_cons]

include stops

/-- A greedy run takes all characters that pass, if what follows accepts that. -/
theorem Attempt.atMost_one {count : Nat} (enough : run.length ≤ count) (before : Text)
    (accepted : (follow (.between (before ++ run) rest)).isSome = true) :
    (Attempt.one test).atMost true count (.between before (run ++ rest)) follow =
      follow (.between (before ++ run) rest) := by
  induction run generalizing before count with
  | nil =>
      rw [List.append_nil, List.nil_append]
      cases count with
      | zero => rfl
      | succ count =>
          rw [Attempt.atMost, if_pos rfl, Attempt.one_eq_none stops]
          rfl
  | cons c run ih =>
      rcases List.forall_mem_cons.mp passes with ⟨pass, passesRest⟩
      rw [List.append_cons] at accepted ⊢
      cases count with
      | zero => simp at enough
      | succ count =>
          have advances : (Cursor.between before (c :: (run ++ rest))).index <
              (Cursor.between (before ++ [c]) (run ++ rest)).index :=
            Attempt.index_lt_between_append_iff.mpr (List.cons_ne_nil c [])
          rw [Attempt.atMost, if_pos rfl, List.cons_append, Attempt.one_cons pass,
            if_pos advances, ih passesRest (Nat.le_of_succ_le_succ enough) _ accepted]
          rcases Option.isSome_iff_exists.mp accepted with ⟨stop, taken⟩
          rw [taken]
          rfl

/-- A greedy repetition of characters takes as many as there are. -/
theorem attempt_repeated_eq {expr : Expr} (single : attempt flags expr = Attempt.one test)
    {base : Text} (passesBase : ∀ c ∈ base, test c = true) (before : Text)
    (accepted : (follow (.between (before ++ base ++ run) rest)).isSome = true) :
    attempt flags (.repeated expr base.length none true) (.between before (base ++ (run ++ rest)))
      follow = follow (.between (before ++ base ++ run) rest) := by
  have enough : run.length ≤ (run ++ rest).length := by
    rw [List.length_append]
    exact Nat.le_add_right _ _
  rw [attempt, single, Attempt.exactly_one passesBase]
  exact Attempt.atMost_one passes stops enough _ accepted

end Greedy

end LoadScript.Pattern
