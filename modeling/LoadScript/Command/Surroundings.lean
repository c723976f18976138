import LoadScript.Command.Setup

/-!
# Surroundings of a run

What a run takes from outside its arguments: readable files, the environment and
the standard input.  The search for a prelude looks only at these.
-/

namespace LoadScript.Command

/-- Why a text could not be read. -/
inductive ReadFault where
  /-- There is no such file. -/
  | notFound
  /-- A part of the path other than its end is a file. -/
  | notADirectory
  /-- The path leads to a directory. -/
  | isADirectory
  /-- The path, or a name in it, is too long. -/
  | tooLong
  /-- The bytes are no text. -/
  | notText
  /-- The path holds a character that no path can hold. -/
  | unusablePath
  /-- Anything else, in the words of the host. -/
  | other (words : Text)
deriving DecidableEq

/-- The words for a fault. -/
def ReadFault.text : ReadFault → Text
  | .notFound => "No such file or directory (os error 2)".toList
  | .notADirectory => "Not a directory (os error 20)".toList
  | .isADirectory => "Is a directory (os error 21)".toList
  | .tooLong => "File name too long (os error 36)".toList
  | .notText => "stream did not contain valid UTF-8".toList
  | .unusablePath => "file name contained an unexpected NUL byte".toList
  | .other words => words

/-- What a run takes from outside. -/
structure Surroundings where
  /-- The text of a file. -/
  read : Text → Except ReadFault Text
  /-- Whether a path leads to a file or a directory. -/
  isThere : Text → Bool
  /-- The path that the environment names for the prelude. -/
  preludeVariable : Option Text := none
  /-- The directory of the program's settings. -/
  settingsDirectory : Option Text := none
  /-- The standard input. -/
  input : Except ReadFault Text := .ok []

/-- A path extended by one name.  The empty path stands for no directory, and the
name alone is left. -/
def joinPath (directory name : Text) : Text :=
  match directory.getLast? with
  | none => name
  | some '/' => directory ++ name
  | some _ => directory ++ '/' :: name

/-- The directory of the program's settings: below the directory that the
environment names for settings if that is absolute, else below the home
directory. -/
def settingsDirectory? (configHome home : Option Text) : Option Text :=
  let base :=
    match configHome.filter fun path => path.head? == some '/' with
    | some path => some path
    | none => home.map (joinPath · ".config".toList)
  base.map (joinPath · "qvs".toList)

/-- The prelude to run when none was chosen.  A path from the environment is taken
even if nothing is there, so that a misspelt one is reported; the settings
directory and the current directory count only if they hold a prelude. -/
def searchPrelude (isThere : Text → Bool) (named settings : Option Text) (current : Text) :
    Option Text :=
  match named.filter fun path => !path.isEmpty with
  | some path => some path
  | none =>
      let inSettings := (settings.map (joinPath · "prelude.qvs".toList)).toList
      (inSettings ++ [joinPath current ".qvsrc".toList]).find? isThere

/-- The prelude that a choice leads to. -/
def Surroundings.preludePath? (surroundings : Surroundings) : PreludeChoice → Option Text
  | .skip => none
  | .explicit path => some path
  | .search =>
      searchPrelude surroundings.isThere surroundings.preludeVariable
        surroundings.settingsDirectory ['.']

end LoadScript.Command
