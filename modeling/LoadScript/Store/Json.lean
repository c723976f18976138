import LoadScript.Store.Basic
import LoadScript.Value.Json

/-!
# The variables as a JSON object

A store is shown as an object with one field per entry in order of the names.
The field's value is an object with the kind of the entry and the type and the
value of what it holds.  Nested lines are indented by two spaces each.
-/

namespace LoadScript.Store

/-- The lines of an entry's field. -/
def jsonField (name : Text) (entry : Entry) : Text :=
  "  ".toList ++ Json.string name ++ ": \x7b\n".toList ++
    "    \"kind\": ".toList ++ Json.string entry.kind.text ++ ",\n".toList ++
    "    \"type\": ".toList ++ Json.string entry.value.typeName ++ ",\n".toList ++
    "    \"value\": ".toList ++ entry.value.json ++ "\n  \x7d".toList

/-- The JSON object of a store. -/
def json (store : Store) : Text :=
  if store.entries.isEmpty then "\x7b\x7d".toList
  else
    "\x7b\n".toList ++
      List.intercalate ",\n".toList
        (store.entries.map fun (name, entry) => jsonField name entry) ++
      "\n\x7d".toList

end LoadScript.Store
