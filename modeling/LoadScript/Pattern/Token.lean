import LoadScript.Number.Decimal
import LoadScript.Pattern.Expression

/-!
# The tokens of a pattern

A written pattern is first cut into tokens: single characters and classes,
repetitions, and the marks of groups and alternatives.
-/

namespace LoadScript.Pattern

open Text

/-- A token of a written pattern. -/
inductive Token where
  /-- A pattern for one character or place. -/
  | atom (expr : Expr)
  /-- A repetition of what stands before. -/
  | repetition (least : Nat) (most : Option Nat) (greedy : Bool)
  /-- The mark between alternatives. -/
  | bar
  /-- The beginning of a group, with its name if it has one. -/
  | opening (name : Option Text)
  /-- The end of a group. -/
  | closing

/-- ASCII characters other than letters, digits, blanks and controls. -/
def isPunctuation (c : Char) : Bool :=
  0x20 < c.toNat && c.toNat < 0x7F && !isLetter c && !isDigit c

/-- What a backslash makes of the character behind it, if that is one
character. -/
def escapedChar? (c : Char) : Option Char :=
  if c = 'n' then some '\n'
  else if c = 't' then some '\t'
  else if c = 'r' then some '\r'
  else if c = 'f' then some '\x0c'
  else if c = 'v' then some '\x0b'
  else if c = 'a' then some '\x07'
  else if isPunctuation c then some c
  else none

/-- What a backslash makes of the character behind it, if that is a class. -/
def escapedClass? (c : Char) : Option ClassItem :=
  if c = 's' then some (.blank false)
  else if c = 'S' then some (.blank true)
  else if c = 'w' then some (.word false)
  else if c = 'W' then some (.word true)
  else none

/-- What a backslash makes of the character behind it, if that is a place. -/
def escapedPlace? (c : Char) : Option Place :=
  if c = 'b' then some (.wordEdge false)
  else if c = 'B' then some (.wordEdge true)
  else if c = 'A' then some .textStart
  else if c = 'z' then some .textEnd
  else none

/-- The pattern of an escaped character. -/
def escape (c : Char) : Except Flaw Expr :=
  match escapedChar? c, escapedClass? c, escapedPlace? c with
  | some literal, _, _ => .ok (.literal literal)
  | _, some item, _ => .ok (.oneOf false [item])
  | _, _, some place => .ok (.place place)
  | none, none, none => .error (.unknownEscape c)

/-! ## Classes -/

/-- Reads one member of a class: a character or, behind a backslash, a class. -/
def classMember : Text → Except Flaw (ClassItem × Text)
  | [] => .error .unclosedClass
  | ['\\'] => .error .danglingEscape
  | '\\' :: c :: rest =>
      match escapedChar? c, escapedClass? c with
      | some literal, _ => .ok (.range literal literal, rest)
      | none, some item => .ok (item, rest)
      | none, none => .error (.unknownEscape c)
  | c :: rest => .ok (.range c c, rest)

/-- Reads one item of a class: a member or a range between two characters. -/
def classItem (text : Text) : Except Flaw (ClassItem × Text) := do
  match ← classMember text with
  | (.range first _, '-' :: rest) =>
      if rest.head? = some ']' then return (.range first first, '-' :: rest)
      match ← classMember rest with
      | (.range last _, rest) =>
          if last < first then throw (.emptyRange first last)
          return (.range first last, rest)
      | _ => return (.range first first, '-' :: rest)
  | member => return member

/-- Reads the items of a class up to its closing bracket.  A bracket that stands
first is an item.  The fuel bounds the number of items. -/
def classItems : (fuel : Nat) → (first : Bool) → Text → Except Flaw (List ClassItem × Text)
  | 0, _, _ => .error .unclosedClass
  | fuel + 1, first, text =>
      match first, text with
      | false, ']' :: rest => .ok ([], rest)
      | _, text => do
          let (item, rest) ← classItem text
          let (items, rest) ← classItems fuel false rest
          return (item :: items, rest)

/-- Reads a class whose opening bracket has been read. -/
def bracketed (text : Text) : Except Flaw (Expr × Text) := do
  let (negated, text) :=
    match text with
    | '^' :: rest => (true, rest)
    | text => (false, text)
  let (items, rest) ← classItems (text.length + 1) true text
  return (.oneOf negated items, rest)

/-! ## Groups and repetitions -/

/-- Reads the name of a group up to its closing angle bracket. -/
def groupName (text : Text) : Except Flaw (Text × Text) :=
  match cutAt? '>' text with
  | some (name, rest) =>
      if !name.isEmpty && name.all isWord then .ok (name, rest) else .error .unknownGroup
  | none => .error .unknownGroup

/-- Reads the beginning of a group whose parenthesis has been read. -/
def opening : Text → Except Flaw (Token × Text)
  | '?' :: ':' :: rest => .ok (.opening none, rest)
  | '?' :: 'P' :: '<' :: rest => do
      let (name, rest) ← groupName rest
      return (.opening (some name), rest)
  | '?' :: '<' :: rest => do
      let (name, rest) ← groupName rest
      return (.opening (some name), rest)
  | '?' :: _ => .error .unknownGroup
  | rest => .ok (.opening none, rest)

/-- A repetition, rare when a question mark follows. -/
def repetition (least : Nat) (most : Option Nat) : Text → Token × Text
  | '?' :: rest => (.repetition least most false, rest)
  | rest => (.repetition least most true, rest)

/-- Reads a run of digits. -/
def count (text : Text) : Except Flaw (Nat × Text) :=
  let digits := text.takeWhile isDigit
  if digits.isEmpty then .error .malformedCount
  else .ok (digitsValue digits, text.dropWhile isDigit)

/-- Reads a number of repetitions whose opening brace has been read. -/
def counted (text : Text) : Except Flaw (Token × Text) := do
  let (least, rest) ← count text
  match rest with
  | '\x7d' :: rest => return repetition least (some least) rest
  | ',' :: '\x7d' :: rest => return repetition least none rest
  | ',' :: rest =>
      match ← count rest with
      | (most, '\x7d' :: rest) =>
          if most < least then throw (.emptyCount least most)
          return repetition least (some most) rest
      | _ => throw .malformedCount
  | _ => throw .malformedCount

/-- Reads a token that begins with a given character. -/
def token (c : Char) (rest : Text) : Except Flaw (Token × Text) :=
  match c with
  | '.' => .ok (.atom .any, rest)
  | '^' => .ok (.atom (.place .lineStart), rest)
  | '$' => .ok (.atom (.place .lineEnd), rest)
  | '|' => .ok (.bar, rest)
  | ')' => .ok (.closing, rest)
  | '*' => .ok (repetition 0 none rest)
  | '+' => .ok (repetition 1 none rest)
  | '?' => .ok (repetition 0 (some 1) rest)
  | '\x7b' => counted rest
  | '(' => opening rest
  | '[' => do
      let (expr, rest) ← bracketed rest
      return (.atom expr, rest)
  | '\\' =>
      match rest with
      | [] => .error .danglingEscape
      | c :: rest => (escape c).map fun expr => (.atom expr, rest)
  | c => .ok (.atom (.literal c), rest)

/-- Cuts a written pattern into at most as many tokens as the fuel allows. -/
def tokensWithin : (fuel : Nat) → Text → Except Flaw (List Token)
  | _, [] => .ok []
  | 0, _ :: _ => .ok []
  | fuel + 1, c :: rest => do
      let (first, rest) ← token c rest
      return first :: (← tokensWithin fuel rest)

/-- Cuts a written pattern into tokens.  Every token takes at least one
character, so there are no more tokens than characters. -/
def tokens (text : Text) : Except Flaw (List Token) :=
  tokensWithin text.length text

end LoadScript.Pattern
