import Slipway.Shell.Token

/-!
# Shell scripts

Scripts of the shell that `SystemExecutor::execute` (`keel_core::process`) may launch: the commands
of a script and how they hang together. `Script.read?` reads a script; loops, functions and
substitutions of commands are not read.
-/

namespace Slipway.Shell

/-- A redirection with its target. -/
structure Redirect where
  descriptor : Nat
  kind : RedirectKind
  target : Word
  deriving DecidableEq, Repr

/-- One command: its words and its redirections. -/
structure SimpleCommand where
  words : List Word
  redirects : List Redirect
  deriving DecidableEq, Repr

/-- A script. -/
inductive Script where
  | nothing
  | simple (c : SimpleCommand)
  | sequence (first second : Script)
  | andIf (first second : Script)
  | orIf (first second : Script)
  | pipe (first second : Script)
  | negation (s : Script)
  /-- Runs in a shell of its own. -/
  | subshell (s : Script)
  | branch (test yes no : Script)
  deriving Repr

namespace Script

/-- A reserved word: text without quotes. -/
def isReserved (name : String) : Token → Bool
  | .word w =>
    w.all (fun
      | .text false _ => true
      | _ => false)
    && (w.flatMap fun
      | .text _ cs => cs
      | .parameter _ _ => []) = name.toList
  | _ => false

/-- The words that end a list of commands. -/
def closers : List String := ["\x7d", "then", "else", "elif", "fi"]

/-- A token that ends a list of commands. -/
def closes (t : Token) : Bool := t = .closeParen || closers.any fun name => isReserved name t

/-- Cuts line ends. -/
def dropNewlines (ts : List Token) : List Token := ts.dropWhile (· = .newline)

/-- The rest of a text of tokens after a reserved word. -/
def after? (name : String) : List Token → Option (List Token)
  | t :: ts => if isReserved name t then some ts else none
  | [] => none

/-- Reads the words and redirections of a command. -/
def readSimple? (c : SimpleCommand) : List Token → Option (SimpleCommand × List Token)
  | .word w :: ts => readSimple? { c with words := c.words ++ [w] } ts
  | .redirect descriptor kind :: .word w :: ts =>
    readSimple? { c with redirects := c.redirects ++ [⟨descriptor, kind, w⟩] } ts
  | .redirect _ _ :: _ => none
  | ts => some (c, ts)

mutual

/-- Reads commands with separators between them. The fuel is computed from the number of tokens. -/
def readList? : (fuel : Nat) → List Token → Option (Script × List Token)
  | 0, _ => none
  | fuel + 1, ts =>
    match dropNewlines ts with
    | [] => some (.nothing, [])
    | t :: ts =>
      if closes t then some (.nothing, t :: ts)
      else
        match readAndOr? fuel (t :: ts) with
        | some (s, .semicolon :: rest) | some (s, .newline :: rest) =>
          (readList? fuel rest).map fun (next, rest) => (.sequence s next, rest)
        | some (s, rest) => some (s, rest)
        | none => none

/-- Reads pipelines that depend on each other. -/
def readAndOr? : (fuel : Nat) → List Token → Option (Script × List Token)
  | 0, _ => none
  | fuel + 1, ts =>
    match readPipeline? fuel ts with
    | none => none
    | some (s, rest) => readAndOrRest? fuel s rest

/-- Reads what depends on the outcome of a script before it. -/
def readAndOrRest? : (fuel : Nat) → Script → List Token → Option (Script × List Token)
  | 0, _, _ => none
  | fuel + 1, s, .andIf :: ts =>
    match readPipeline? fuel (dropNewlines ts) with
    | some (next, rest) => readAndOrRest? fuel (.andIf s next) rest
    | none => none
  | fuel + 1, s, .orIf :: ts =>
    match readPipeline? fuel (dropNewlines ts) with
    | some (next, rest) => readAndOrRest? fuel (.orIf s next) rest
    | none => none
  | _ + 1, s, ts => some (s, ts)

/-- Reads commands with pipes between them, perhaps negated. -/
def readPipeline? : (fuel : Nat) → List Token → Option (Script × List Token)
  | 0, _ => none
  | fuel + 1, ts =>
    match after? "!" ts with
    | some ts => (readPipeline? fuel ts).map fun (s, rest) => (.negation s, rest)
    | none =>
      match readCommand? fuel ts with
      | none => none
      | some (s, .pipe :: rest) =>
        (readPipeline? fuel (dropNewlines rest)).map fun (next, rest) => (.pipe s next, rest)
      | some (s, rest) => some (s, rest)

/-- Reads one command. -/
def readCommand? : (fuel : Nat) → List Token → Option (Script × List Token)
  | 0, _ => none
  | fuel + 1, ts =>
    match ts with
    | .openParen :: rest =>
      match readList? fuel rest with
      | some (s, .closeParen :: rest) => some (.subshell s, rest)
      | _ => none
    | _ =>
      match after? "\x7b" ts, after? "if" ts with
      | some rest, _ =>
        match readList? fuel rest with
        | some (s, rest) => (after? "\x7d" rest).map fun rest => (s, rest)
        | none => none
      | none, some rest => readBranch? fuel rest
      | none, none =>
        match readSimple? ⟨[], []⟩ ts with
        | some (c, rest) =>
          if c.words = [] ∧ c.redirects = [] then none else some (.simple c, rest)
        | none => none

/-- Reads a branch, after its first word. -/
def readBranch? : (fuel : Nat) → List Token → Option (Script × List Token)
  | 0, _ => none
  | fuel + 1, ts => do
    let (test, rest) ← readList? fuel ts
    let rest ← after? "then" rest
    let (yes, rest) ← readList? fuel rest
    match after? "elif" rest, after? "else" rest with
    | some rest, _ => do
      let (no, rest) ← readBranch? fuel rest
      return (.branch test yes no, rest)
    | none, some rest => do
      let (no, rest) ← readList? fuel rest
      return (.branch test yes no, ← after? "fi" rest)
    | none, none => return (.branch test yes .nothing, ← after? "fi" rest)

end

/-- Reads a script. -/
def read? (text : String) : Option Script := do
  let tokens ← Token.readAll? (text.length + 1) text.toList
  match readList? (8 * tokens.length + 8) tokens with
  | some (s, []) => some s
  | _ => none

end Script

end Slipway.Shell
