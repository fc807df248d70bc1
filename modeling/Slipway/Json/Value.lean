/-!
# JSON values

Model of `serde_json::Value`, for `read_json_version` (`keel_core::files`). A JSON text as a tree.
Numbers keep their text; an object keeps its members in the order in which they are written, and the
last one of a name counts.
-/

namespace Slipway.Json

/-- A JSON value. -/
inductive Value where
  | null
  | bool (b : Bool)
  | number (text : List Char)
  | string (s : List Char)
  | array (items : List Value)
  | object (members : List (List Char × Value))
  deriving Inhabited

namespace Value

/-- The member of a name in an object. -/
def member? (name : String) : Value → Option Value
  | object members => (members.reverse.find? fun m => m.1 = name.toList).map Prod.snd
  | _ => none

/-- The text of a string. -/
def string? : Value → Option (List Char)
  | string s => some s
  | _ => none

end Value

end Slipway.Json
