/-!
# TOML values

Model of the tables of `toml::from_str`, for `load_config` (`keel_config::loader`). A TOML document
as a tree. A table remembers how it came about, because that decides what may still be added to it
while the document is read.
-/

namespace Slipway.Toml

/-- How a table came about. -/
inductive Form where
  /-- Under a header of its own. -/
  | header
  /-- On the way to a table with a header. -/
  | implied
  /-- By a dotted key. -/
  | dotted
  /-- Between braces. -/
  | inline
  deriving DecidableEq, Repr

/-- A value of a document. Numbers with a fraction, dates and times keep their text. -/
inductive Value where
  | string (s : String)
  | integer (n : Int)
  | float (text : String)
  | boolean (b : Bool)
  | moment (text : String)
  | array (items : List Value)
  /-- Tables under one repeated header, in the order of the headers. -/
  | tables (items : List Value)
  | table (form : Form) (members : List (String × Value))
  deriving Inhabited

/-- The members of a table, in the order in which they are written. -/
abbrev Members := List (String × Value)

namespace Members

/-- The member of a name. -/
def get? (ms : Members) (name : String) : Option Value :=
  (ms.find? fun m => m.1 = name).map Prod.snd

/-- Sets the member of a name, at the end if there was none. -/
def set : Members → String → Value → Members
  | [], name, value => [(name, value)]
  | m :: ms, name, value => if m.1 = name then (name, value) :: ms else m :: set ms name value

end Members

end Slipway.Toml
