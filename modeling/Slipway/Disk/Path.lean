/-!
# Paths

Model of `std::path`, as far as `keel_core` and `keel_config` use it. A path is text, kept as it was
written. Here are the operations that work on the text alone: joining, the parent, the last name,
the extension, the comparison of two paths part by part, and the rest of a path below another one.
Blank parts and `.` do not count as parts; `..` does.
-/

namespace Slipway.Path

/-- The names between the slashes of a path. -/
def splitSlash : List Char → List (List Char)
  | [] => [[]]
  | c :: cs =>
    if c = '/' then [] :: splitSlash cs
    else match splitSlash cs with
      | [] => [[c]]
      | part :: parts => (c :: part) :: parts

/-- Whether a path starts at the root of the disk. -/
def isAbsolute (path : String) : Bool := path.toList.head? == some '/'

/-- The parts that count. A relative path may begin with a `.` that counts. -/
def parts (path : String) : List String :=
  let names := (splitSlash path.toList).map String.ofList
  let counted := names.filter fun n => n ≠ "" ∧ n ≠ "."
  if !isAbsolute path ∧ names.head? = some "." then "." :: counted else counted

/-- Two paths that agree part by part. -/
def same (a b : String) : Bool := isAbsolute a == isAbsolute b && parts a == parts b

/-- `Path::join`: a path below another one; an absolute path stands for itself. -/
def join (base rel : String) : String :=
  if isAbsolute rel ∨ base = "" then rel
  else if base.toList.getLast? = some '/' then base ++ rel
  else base ++ "/" ++ rel

/-- Cuts the slashes and the `.` parts at the end of a path; what remains ends in a part that
counts, or is the root, or is empty. The path is given backwards, and the fuel is its length. -/
def cutEnd : Nat → List Char → List Char
  | 0, cs => cs
  | fuel + 1, cs =>
    match cs with
    | ['/'] => ['/']
    | '/' :: rest => cutEnd fuel rest
    | '.' :: '/' :: rest => cutEnd fuel ('/' :: rest)
    | _ => cs

/-- A path without slashes and `.` parts at its end. -/
def trimmed (path : String) : String :=
  let back := path.toList.reverse
  String.ofList (cutEnd back.length back).reverse

/-- A path without slashes at its end. -/
def dropSlashes (path : String) : String :=
  String.ofList (path.toList.reverse.dropWhile (· == '/')).reverse

/-- `Path::parent`: the path of the directory that holds a path; the root and the empty path have
none. -/
def parent? (path : String) : Option String :=
  if parts path = [] then none
  else
    let back := (trimmed path).toList.reverse
    let rest := back.dropWhile (· ≠ '/')
    some (String.ofList (cutEnd rest.length rest).reverse)

/-- The paths above a path, the nearest first. -/
def above (path : String) : List String :=
  go (parts path).length path
where
  /-- Climbs at most the given number of steps. -/
  go : Nat → String → List String
    | 0, _ => []
    | n + 1, path =>
      match parent? path with
      | none => []
      | some up => up :: go n up

/-- `Path::file_name`: the last part of a path, unless it is `..`. -/
def fileName? (path : String) : Option String :=
  (parts path).getLast?.filter fun n => n ≠ ".." ∧ n ≠ "."

/-- `Path::extension`: the text after the last dot of a name; a dot at its start does not count. -/
def extension? (path : String) : Option String := do
  let name := (← fileName? path).toList
  let back := name.reverse
  let ext := (back.takeWhile (· ≠ '.')).reverse
  if name.length ≤ ext.length + 1 then none else some (String.ofList ext)

/-- Drops the first parts of a path, as many as given, and the slashes and `.` parts around them. -/
def dropParts : Nat → List (List Char) → List (List Char)
  | _, [] => []
  | n, name :: names =>
    if name = [] ∨ name = ['.'] then dropParts n names
    else match n with
      | 0 => name :: names
      | n + 1 => dropParts n names

/-- Puts the slashes back between names. -/
def joinSlash (names : List (List Char)) : List Char := ['/'].intercalate names

/-- `Path::strip_prefix`: the rest of a path below a base, if it lies below it. Everything lies
below the empty path, as it is written. -/
def below? (base path : String) : Option String :=
  if base = "" then some (trimmed path)
  else if isAbsolute base = isAbsolute path ∧ (parts base).isPrefixOf (parts path) then
    some (trimmed (String.ofList (joinSlash
      (dropParts ((parts base).countP (· ≠ ".")) (splitSlash path.toList)))))
  else none

end Slipway.Path
