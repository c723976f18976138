import LoadScript.Text.Basic

/-!
# Text without terminal commands

A terminal obeys control characters, and sequences that an escape character
opens, instead of showing them.  A message that repeats what a user typed leaves
them out.

A tab or a line end inside a sequence is shown nevertheless.  It suspends the
sequence: what follows is shown as well, up to the next control character.
-/

namespace LoadScript.Text

/-- Whether the code of a character lies between two bounds. -/
private def liesIn (first last : Nat) (c : Char) : Bool :=
  first ≤ c.toNat && c.toNat ≤ last

/-- How far a terminal has come in a sequence that it obeys. -/
inductive Sequence where
  /-- Outside of every sequence. -/
  | outside
  /-- Behind the escape character. -/
  | opened
  /-- Behind an escape character and a mark that announces one more character. -/
  | announced
  /-- In a control sequence. -/
  | control
  /-- In a command to the operating system. -/
  | command
  /-- At the beginning of a device control string. -/
  | device
  /-- Among the parameters of a device control string. -/
  | deviceParameter
  /-- Among the marks behind the parameters of a device control string. -/
  | deviceMark
  /-- In a string that is open up to its terminator. -/
  | string
deriving DecidableEq

namespace Sequence

/-- How far a terminal is behind one more character.  An escape character opens a
sequence anew wherever it stands, and two controls cancel every sequence. -/
def next (sequence : Sequence) (c : Char) : Sequence :=
  if c = '\x1B' then .opened
  else if c = '\x18' ∨ c = '\x1A' then .outside
  else
    match sequence with
    | .outside => .outside
    | .opened =>
        if c = '[' then .control
        else if c = ']' then .command
        else if c = 'P' then .device
        else if c = 'X' ∨ c = '^' ∨ c = '_' then .string
        else if liesIn 0x20 0x2F c then .announced
        else if liesIn 0x30 0x7E c then .outside
        else .opened
    | .announced => if liesIn 0x30 0x7E c then .outside else .announced
    | .control => if liesIn 0x40 0x7E c then .outside else .control
    | .command => if c = '\x07' then .outside else .command
    | .device =>
        if liesIn 0x20 0x2F c then .deviceMark
        else if liesIn 0x30 0x3F c then .deviceParameter
        else if liesIn 0x40 0x7E c then .string
        else .device
    | .deviceParameter =>
        if liesIn 0x20 0x2F c then .deviceMark
        else if liesIn 0x3C 0x7E c then .string
        else .deviceParameter
    | .deviceMark => if liesIn 0x30 0x7E c then .string else .deviceMark
    | .string => if (String.utf8EncodeChar c).contains 0x9C then .outside else .string

/-- Whether tabs and line ends inside a sequence have their usual effect. -/
def keepsLayout (sequence : Sequence) : Bool :=
  sequence ∈ [.opened, .announced, .control]

end Sequence

/-- A tab or a character that ends a line or a page. -/
def isSpacing (c : Char) : Bool :=
  c ∈ ['\t', '\n', '\x0C', '\r']

/-- A character that a terminal shows when no sequence is open. -/
def isVisible (c : Char) : Bool :=
  isSpacing c || liesIn 0x20 0x7E c || 0x80 ≤ c.toNat

/-- What is shown of a text that begins inside a sequence.  A character beyond
ASCII in a suspended sequence ends it. -/
def legibleFrom : (sequence : Sequence) → (suspended : Bool) → Text → Text
  | _, _, [] => []
  | sequence, suspended, c :: rest =>
      if isVisible c && (suspended || sequence == .outside) then
        let sequence := if c.toNat < 0x80 then sequence else .outside
        c :: legibleFrom sequence suspended rest
      else if isSpacing c && sequence.keepsLayout then
        c :: legibleFrom sequence true rest
      else legibleFrom (sequence.next c) false rest

/-- What a terminal shows of a text. -/
def legible (text : Text) : Text :=
  legibleFrom .outside false text

end LoadScript.Text
