import LoadScript.Command.Surroundings

/-!
# Directory trees

A directory tree held in memory, and the way a path is followed in it.  A tree
can serve as the files of a run's surroundings.
-/

namespace LoadScript.Command

/-- What a path leads to. -/
inductive Node where
  /-- A directory. -/
  | directory
  /-- A file, with its text if it holds one. -/
  | file (text : Option Text)

/-- The names on the way from the root to a node. -/
abbrev Route := List Text

/-- A directory tree.  The root is a directory without being listed; of two nodes
with one route the first one counts. -/
structure Tree where
  /-- The nodes below the root. -/
  nodes : List (Route × Node) := []

namespace Tree

/-- The number of bytes that a name can have. -/
def nameLimit : Nat := 255

/-- The number of bytes that a path can have. -/
def pathLimit : Nat := 4095

/-- Where a name leads from a route.  One dot stays there and two dots go up. -/
def advance (route : Route) (name : Text) : Route :=
  if name = [] ∨ name = ['.'] then route
  else if name = ['.', '.'] then route.dropLast
  else route ++ [name]

/-- Where a path leads from the root. -/
def routeOf (path : Text) : Route :=
  (path.splitOn '/').foldl advance []

/-- What a route leads to. -/
def node? (tree : Tree) (route : Route) : Option Node :=
  if route.isEmpty then some .directory else tree.nodes.lookup route

/-- Adds a node. -/
def add (route : Route) (node : Node) (tree : Tree) : Tree :=
  ⟨(route, node) :: tree.nodes⟩

/-- Adds a directory where there is nothing. -/
def ensureDirectory (route : Route) (tree : Tree) : Tree :=
  if (tree.node? route).isSome then tree else tree.add route .directory

/-- Adds every directory on the way along some names. -/
def addWay : Route → List Text → Tree → Tree
  | _, [], tree => tree
  | route, name :: rest, tree =>
      let next := advance route name
      addWay next rest (tree.ensureDirectory next)

/-- Adds a directory and those on the way to it. -/
def addDirectory (path : Text) (tree : Tree) : Tree :=
  tree.addWay [] (path.splitOn '/')

/-- Adds a file and the directories on the way to it. -/
def addFile (path : Text) (text : Option Text) (tree : Tree) : Tree :=
  (tree.addWay [] (path.splitOn '/').dropLast).add (routeOf path) (.file text)

/-- Follows names from a node. -/
def follow (tree : Tree) : Route → List Text → Except ReadFault Route
  | route, [] => .ok route
  | route, name :: rest =>
      match tree.node? route with
      | none => .error .notFound
      | some (.file _) => .error .notADirectory
      | some .directory =>
          if nameLimit < name.byteSize then .error .tooLong
          else
            let next := advance route name
            if (tree.node? next).isSome then tree.follow next rest else .error .notFound

/-- Follows a path from the current directory, or from the root if it begins with
a slash. -/
def resolve (tree : Tree) (current : Route) (path : Text) : Except ReadFault Node := do
  if path.isEmpty then throw .notFound
  if path.contains '\x00' then throw .unusablePath
  if pathLimit < path.byteSize then throw .tooLong
  let start := if path.head? = some '/' then [] else current
  let route ← tree.follow start (path.splitOn '/')
  match tree.node? route with
  | some node => return node
  | none => throw .notFound

/-- The text of the file that a path leads to. -/
def read (tree : Tree) (current : Route) (path : Text) : Except ReadFault Text := do
  match ← tree.resolve current path with
  | .directory => throw .isADirectory
  | .file none => throw .notText
  | .file (some text) => return text

/-- Whether a path leads to a node. -/
def isThere (tree : Tree) (current : Route) (path : Text) : Bool :=
  (tree.resolve current path).isOk

end Tree

end LoadScript.Command
