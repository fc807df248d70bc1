import Slipway.Toml.Value

/-!
# Assembling a document

Model of `toml::from_str`, for `load_config` (`keel_config::loader`). A document is a sequence of
headers and assignments. `Members.openTable?` and `Members.appendTable?` follow a header,
`Members.assign?` and `Members.assignBelow?` an assignment with a dotted key. They fail when a name
is given twice, when a table is extended that is complete, or when something else than a table
stands on the way.
-/

namespace Slipway.Toml.Members

/-- Changes the members of the table at the end of a path of headers; missing tables on the way are
implied. In a list of tables the way leads through the last one. -/
def update? (change : Members → Option Members) : Members → List String → Option Members
  | ms, [] => change ms
  | ms, name :: path =>
    match ms.get? name with
    | none => (update? change [] path).map fun below => ms.set name (.table .implied below)
    | some (.table .inline _) => none
    | some (.table form below) =>
      (update? change below path).map fun below => ms.set name (.table form below)
    | some (.tables items) =>
      match items.getLast? with
      | some (.table form below) =>
        (update? change below path).map fun below =>
          ms.set name (.tables (items.dropLast ++ [.table form below]))
      | _ => none
    | some _ => none

/-- Opens the table of a header. A table that was only implied may be opened once. -/
def openTable? (ms : Members) (path : List String) (name : String) : Option Members :=
  update? (fun above =>
    match above.get? name with
    | none => some (above.set name (.table .header []))
    | some (.table .implied below) => some (above.set name (.table .header below))
    | some _ => none) ms path

/-- Appends a table to the list of tables of a repeated header. -/
def appendTable? (ms : Members) (path : List String) (name : String) : Option Members :=
  update? (fun above =>
    match above.get? name with
    | none => some (above.set name (.tables [.table .header []]))
    | some (.tables items) => some (above.set name (.tables (items ++ [.table .header []])))
    | some _ => none) ms path

/-- Assigns a value below a dotted key, in a table that dotted keys have made. -/
def assignBelow? (value : Value) : Members → (name : String) → (path : List String) → Option Members
  | ms, name, [] => if (ms.get? name).isSome then none else some (ms.set name value)
  | ms, name, next :: path =>
    match ms.get? name with
    | none => (assignBelow? value [] next path).map fun below => ms.set name (.table .dotted below)
    | some (.table .dotted below) =>
      (assignBelow? value below next path).map fun below => ms.set name (.table .dotted below)
    | some (.table .implied below) =>
      if path = [] then none
      else (assignBelow? value below next path).map fun below => ms.set name (.table .implied below)
    | some _ => none

/-- Assigns a value to a dotted key; a key without a name is none. -/
def assign? (value : Value) (ms : Members) : (key : List String) → Option Members
  | [] => none
  | name :: path => assignBelow? value ms name path

end Slipway.Toml.Members
