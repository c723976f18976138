import LoadScript.Pattern.Token

/-!
# Reading a pattern

The tokens of a pattern are read from left to right.  Open groups wait on a
stack, each with the alternatives and the sequence read before the group.
-/

namespace LoadScript.Pattern

/-- A group that is being read: the alternatives that are complete, and the
sequence of the current one, last part first. -/
structure Level where
  /-- The complete alternatives, last one first. -/
  alternatives : List Expr := []
  /-- The current sequence, last part first. -/
  sequence : List Expr := []

namespace Level

/-- The pattern of the current alternative. -/
def current (level : Level) : Expr :=
  match level.sequence with
  | [] => .empty
  | last :: earlier => earlier.foldl (fun rest part => .seq part rest) last

/-- The pattern of the group. -/
def expr (level : Level) : Expr :=
  level.alternatives.foldl (fun rest alternative => .alt alternative rest) level.current

/-- Adds a part to the current sequence. -/
def push (level : Level) (part : Expr) : Level :=
  { level with sequence := part :: level.sequence }

end Level

/-- The group that is being read and the groups around it, innermost first. -/
structure Reader where
  /-- The innermost group. -/
  level : Level := {}
  /-- The groups around it. -/
  outer : List Level := []
  /-- The names of the groups so far. -/
  names : List Text := []

/-- Reads one token. -/
def Reader.read (reader : Reader) : Token → Except Flaw Reader
  | .atom expr => .ok { reader with level := reader.level.push expr }
  | .repetition least most greedy =>
      match reader.level.sequence with
      | [] => .error .nothingToRepeat
      | last :: earlier =>
          .ok { reader with
            level := { reader.level with
              sequence := .repeated last least most greedy :: earlier } }
  | .bar =>
      .ok { reader with
        level := { alternatives := reader.level.current :: reader.level.alternatives } }
  | .opening name =>
      match name with
      | none => .ok { reader with level := {}, outer := reader.level :: reader.outer }
      | some name =>
          if reader.names.contains name then .error (.repeatedName name)
          else
            .ok { level := {}
                  outer := reader.level :: reader.outer
                  names := name :: reader.names }
  | .closing =>
      match reader.outer with
      | [] => .error .unopenedGroup
      | level :: outer => .ok { reader with level := level.push reader.level.expr, outer := outer }

/-- Reads a written pattern. -/
def ofText (text : Text) : Except Flaw Expr := do
  let reader ← (← tokens text).foldlM Reader.read {}
  if reader.outer.isEmpty then return reader.level.expr else throw .unclosedGroup

end LoadScript.Pattern
