import LoadScript.Proofs.Lines

/-!
# Line ends of several styles

Lines may be joined by line feeds, by carriage returns and by both together, and one text may
mix the three.  Folding turns every line end into a line feed, one by one, as long as no
carriage return meets a line feed that belongs to the next line end: these two are read as one.

The main statement, `clean_joined_eq`, says that the choice of line ends does not show in the
clean text.
-/

namespace LoadScript.Script

open Text

/-- The styles in which lines end. -/
inductive LineEnd where
  /-- A line feed. -/
  | feed
  /-- A carriage return and a line feed. -/
  | returnAndFeed
  /-- A carriage return alone. -/
  | loneReturn
deriving DecidableEq

/-- The characters of a line end. -/
def LineEnd.text : LineEnd → Text
  | .feed => ['\n']
  | .returnAndFeed => ['\r', '\n']
  | .loneReturn => ['\r']

/-- Lines with line ends between them. -/
def joinedBy : List LineEnd → List Text → Text
  | lineEnd :: ends, line :: lines => line ++ (lineEnd.text ++ joinedBy ends lines)
  | [], line :: lines => line ++ joinedBy [] lines
  | _, [] => []

/-- No lone carriage return has the line feed of the next line end directly behind it.  The line
end with number `k` stands between the lines with the numbers `k` and `k + 1`. -/
def KeptApart (ends : List LineEnd) (lines : List Text) : Prop :=
  ∀ k < ends.length, ends[k]? = some .loneReturn → lines[k + 1]? = some [] →
    ends[k + 1]? ≠ some .feed

instance (ends : List LineEnd) (lines : List Text) : Decidable (KeptApart ends lines) :=
  inferInstanceAs (Decidable (∀ k < ends.length, _))

/-- A way to join lines. -/
structure Joining (lines : List Text) where
  /-- The line ends, in order. -/
  ends : List LineEnd
  /-- There is one between each line and the next. -/
  length_ends : ends.length = lines.length - 1
  /-- Each of them can be told from the next one. -/
  apart : KeptApart ends lines

/-- The lines as they are joined. -/
def Joining.text {lines : List Text} (joining : Joining lines) : Text :=
  joinedBy joining.ends lines

/-! ## Folding the line ends -/

/-- A line end is folded to a line feed unless it meets one. -/
theorem foldLineEnds_lineEnd {lineEnd : LineEnd} {rest : Text}
    (apart : lineEnd = .loneReturn → rest.head? ≠ some '\n') :
    foldLineEnds (lineEnd.text ++ rest) = '\n' :: foldLineEnds rest := by
  cases lineEnd with
  | feed => rfl
  | returnAndFeed => rfl
  | loneReturn =>
      apply foldLineEnds.eq_2
      rintro tail rfl
      exact apart rfl rfl

theorem KeptApart.tail {lineEnd : LineEnd} {ends : List LineEnd} {line : Text} {lines : List Text}
    (apart : KeptApart (lineEnd :: ends) (line :: lines)) : KeptApart ends lines := by
  intro k bound
  simpa using apart (k + 1) (Nat.succ_lt_succ bound)

/-- Behind a line end, joined lines begin with a line feed only if the first line is empty and
ends with one. -/
theorem head?_joinedBy_ne_feed {ends : List LineEnd} {line : Text} {lines : List Text}
    (noFeed : '\n' ∉ line) (length : ends.length = lines.length)
    (apart : line = [] → ends[0]? ≠ some .feed) :
    (joinedBy ends (line :: lines)).head? ≠ some '\n' := by
  cases line with
  | cons c line =>
      have notFeed : c ≠ '\n' := fun same => noFeed (same ▸ List.mem_cons_self)
      cases ends with
      | nil => simpa [joinedBy] using notFeed
      | cons lineEnd ends => simpa [joinedBy] using notFeed
  | nil =>
      cases ends with
      | nil =>
          have noLines : lines = [] := List.length_eq_zero_iff.mp length.symm
          simp [noLines, joinedBy]
      | cons lineEnd ends =>
          cases lineEnd with
          | feed => exact absurd rfl (apart rfl)
          | returnAndFeed => simp [joinedBy, LineEnd.text]
          | loneReturn => simp [joinedBy, LineEnd.text]

/-- However lines are joined, folding joins them by line feeds. -/
theorem foldLineEnds_joinedBy {ends : List LineEnd} {lines : List Text}
    (plain : ∀ line ∈ lines, '\r' ∉ line ∧ '\n' ∉ line) (length : ends.length = lines.length - 1)
    (apart : KeptApart ends lines) :
    foldLineEnds (joinedBy ends lines) = List.intercalate ['\n'] lines := by
  induction lines generalizing ends with
  | nil => simp [joinedBy, foldLineEnds]
  | cons line lines ih =>
      have plainLine := plain line List.mem_cons_self
      have plainLines : ∀ other ∈ lines, '\r' ∉ other ∧ '\n' ∉ other :=
        fun other member => plain other (List.mem_cons_of_mem line member)
      cases lines with
      | nil =>
          obtain rfl : ends = [] := List.length_eq_zero_iff.mp length
          simp [joinedBy, foldLineEnds_of_not_mem plainLine.1]
      | cons next lines =>
          cases ends with
          | nil => simp at length
          | cons lineEnd ends =>
              have sameLength : ends.length = lines.length := by simpa using length
              -- A lone return would meet a line feed only at an empty line that ends with one.
              have meetsNone : lineEnd = .loneReturn →
                  (joinedBy ends (next :: lines)).head? ≠ some '\n' := by
                rintro rfl
                apply head?_joinedBy_ne_feed (plainLines next List.mem_cons_self).2 sameLength
                rintro rfl
                exact apart 0 (Nat.succ_pos _) rfl rfl
              rw [joinedBy, foldLineEnds_append plainLine.1, foldLineEnds_lineEnd meetsNone,
                ih plainLines sameLength apart.tail, List.intercalate_cons_cons]
              simp

/-- The line ends between the lines of a script do not matter: two ways to join the same lines,
each with line ends of any styles, have the same clean text. -/
theorem clean_joined_eq {lines : List Text} (plain : ∀ line ∈ lines, '\r' ∉ line ∧ '\n' ∉ line)
    (first second : Joining lines) : clean first.text = clean second.text := by
  have folded : ∀ joining : Joining lines,
      foldLineEnds joining.text = List.intercalate ['\n'] lines := fun joining =>
    foldLineEnds_joinedBy plain joining.length_ends joining.apart
  rw [clean, clean, folded first, folded second]

/-- An empty line between a carriage return and another line end that begins with one. -/
theorem clean_joined_eq_mixed :
    clean "a;//x\r\r\nREM y\n//z\rb;".toList = clean "a;//x\n\rREM y\r\n//z\r\nb;".toList := by
  have plain : ∀ line ∈ ["a;//x".toList, [], "REM y".toList, "//z".toList, "b;".toList],
      '\r' ∉ line ∧ '\n' ∉ line := by
    decide
  exact clean_joined_eq plain ⟨[.loneReturn, .returnAndFeed, .feed, .loneReturn], rfl, by decide⟩
    ⟨[.feed, .loneReturn, .returnAndFeed, .returnAndFeed], rfl, by decide⟩

end LoadScript.Script
