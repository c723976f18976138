import LoadScript.Pattern.Parser
import LoadScript.Text.Blank
import LoadScript.Text.Caseless

/-!
# Finding a pattern in a text

A pattern is tried at a place in a text together with what has to follow it.  Its
ways to fit are tried in the order of preference, and the first one that what
follows accepts is taken.  Of all parts of a text that fit a pattern the leftmost
one is found, with its preferred end; the search then goes on behind it.
-/

namespace LoadScript.Pattern

open Text

/-- A place in a text: the number of characters before it, the last one of them
and the text behind it. -/
structure Cursor where
  /-- The number of characters before the place. -/
  index : Nat
  /-- The character before the place, if there is one. -/
  before : Option Char
  /-- The text behind the place. -/
  rest : Text

namespace Cursor

/-- The place before the first character of a text. -/
def start (text : Text) : Cursor :=
  ⟨0, none, text⟩

/-- The next character and the place behind it. -/
def next? (cursor : Cursor) : Option (Char × Cursor) :=
  match cursor.rest with
  | [] => none
  | c :: rest => some (c, ⟨cursor.index + 1, some c, rest⟩)

/-- The part of a text between a place and a later one. -/
def upTo (start stop : Cursor) : Text :=
  start.rest.take (stop.index - start.index)

/-- Whether a place is one of a given kind. -/
def isAt (flags : Flags) (cursor : Cursor) : Place → Bool
  | .lineStart => cursor.before.isNone || (flags.multiLine && cursor.before == some '\n')
  | .lineEnd => cursor.rest.isEmpty || (flags.multiLine && cursor.rest.head? == some '\n')
  | .textStart => cursor.before.isNone
  | .textEnd => cursor.rest.isEmpty
  | .wordEdge negated =>
      let wordBefore := cursor.before.any isWord
      let wordBehind := cursor.rest.head?.any isWord
      (wordBefore != wordBehind) != negated

end Cursor

/-- The characters that count as a given one. -/
def variants (flags : Flags) (c : Char) : List Char :=
  if flags.caseless then caseVariants c else [c]

/-- Whether a member of a class holds a character. -/
def ClassItem.holds (item : ClassItem) (c : Char) : Bool :=
  match item with
  | .range first last => first ≤ c && c ≤ last
  | .blank negated => isBlank c != negated
  | .word negated => isWord c != negated

/-- Whether a class holds a character or one that counts as it. -/
def inClass (flags : Flags) (items : List ClassItem) (c : Char) : Bool :=
  (variants flags c).any fun variant => items.any (ClassItem.holds · variant)

/-- A way to try something at a place: it is given the place and what has to
follow it, and yields the place where all of that ends. -/
abbrev Attempt := Cursor → (Cursor → Option Cursor) → Option Cursor

namespace Attempt

/-- Tries the next character, which has to pass a test. -/
def one (test : Char → Bool) : Attempt := fun cursor follow =>
  match cursor.next? with
  | some (c, next) => if test c then follow next else none
  | none => none

/-- Tries exactly so many repetitions. -/
def exactly (attempt : Attempt) : Nat → Attempt
  | 0, cursor, follow => follow cursor
  | count + 1, cursor, follow => attempt cursor fun next => exactly attempt count next follow

/-- Tries at most so many repetitions, each of which consumes something: as many
as possible first if it is greedy, else as few as possible. -/
def atMost (attempt : Attempt) (greedy : Bool) : Nat → Attempt
  | 0, cursor, follow => follow cursor
  | count + 1, cursor, follow =>
      let further := fun (_ : Unit) => attempt cursor fun next =>
        if cursor.index < next.index then atMost attempt greedy count next follow else none
      if greedy then (further ()).orElse fun _ => follow cursor
      else (follow cursor).orElse further

end Attempt

/-- Tries a pattern. -/
def attempt (flags : Flags) : Expr → Attempt
  | .empty, cursor, follow => follow cursor
  | .literal c, cursor, follow =>
      Attempt.one (fun d => (variants flags d).contains c) cursor follow
  | .any, cursor, follow => Attempt.one (fun d => flags.dotAll || d != '\n') cursor follow
  | .oneOf negated items, cursor, follow =>
      Attempt.one (fun d => inClass flags items d != negated) cursor follow
  | .place place, cursor, follow => if cursor.isAt flags place then follow cursor else none
  | .seq first second, cursor, follow =>
      attempt flags first cursor fun next => attempt flags second next follow
  | .alt first second, cursor, follow =>
      (attempt flags first cursor follow).orElse fun _ => attempt flags second cursor follow
  | .repeated expr least most greedy, cursor, follow =>
      Attempt.exactly (attempt flags expr) least cursor fun start =>
        let limit := start.rest.length
        let bound := (most.map fun most => min (most - least) limit).getD limit
        Attempt.atMost (attempt flags expr) greedy bound start follow

/-- All parts of a text that fit a pattern, from left to right and without
overlap.  An empty part directly behind another one does not count.  The fuel
bounds the number of places that are tried. -/
def findFrom (flags : Flags) (expr : Expr) :
    (fuel : Nat) → (fresh : Bool) → Cursor → List Text
  | 0, _, _ => []
  | fuel + 1, fresh, cursor =>
      let stop := attempt flags expr cursor some
      match stop.filter fun stop => cursor.index < stop.index with
      | some stop => cursor.upTo stop :: findFrom flags expr fuel false stop
      | none =>
          let here := if stop.isSome && fresh then [[]] else []
          match cursor.next? with
          | some (_, next) => here ++ findFrom flags expr fuel true next
          | none => here

/-- All parts of a text that fit a pattern. -/
def findAll (flags : Flags) (expr : Expr) (text : Text) : List Text :=
  findFrom flags expr (2 * text.length + 2) true (.start text)

end LoadScript.Pattern
