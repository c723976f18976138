import LoadScript.Store.Basic

/-!
# The table of variables

A store is shown as one line per entry in order of the names: the name, an equals
sign and the value, with texts between single quotes.
-/

namespace LoadScript

/-- A value as it stands in a table. -/
def Value.tableText : Value → Text
  | .string s => '\x27' :: (s ++ ['\x27'])
  | value => value.text

namespace Store

/-- One line of the table, without its line end. -/
def tableLine (name : Text) (entry : Entry) : Text :=
  name ++ " = ".toList ++ entry.value.tableText

/-- The table of a store. -/
def table (store : Store) : Text :=
  store.entries.flatMap fun (name, entry) => tableLine name entry ++ ['\n']

end Store

end LoadScript
