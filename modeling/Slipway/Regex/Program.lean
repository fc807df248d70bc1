import Slipway.Regex.Node

/-!
# Matching programs

Model of the programs of the crate `regex`. A regular expression is matched by a program:
instructions that take a character, test the position, mark it, or fork into two ways of which the
first is preferred. A program is built from the end of the expression backwards, each part with the
address of what follows it.
-/

namespace Slipway.Regex

/-- An instruction with the addresses that follow it. -/
inductive Instruction where
  | take (set : CharClass) (next : Nat)
  | test (a : Assertion) (next : Nat)
  | mark (slot : Nat) (next : Nat)
  | fork (preferred other : Nat)
  | accept
  deriving Inhabited

/-- A matching program: its instructions and the address where it starts. -/
structure Program where
  code : Array Instruction
  start : Nat

/-- Appends an instruction and gives its address. -/
def emit (code : Array Instruction) (i : Instruction) : Nat × Array Instruction :=
  (code.size, code.push i)

/-- A fork between going on with an expression and leaving it. -/
def forkOn (greedy : Bool) (on leave : Nat) : Instruction :=
  if greedy then .fork on leave else .fork leave on

/-- Builds one part several times, each time in front of what was built before. -/
def buildTimes (build : Nat → Array Instruction → Nat × Array Instruction) :
    (count : Nat) → (next : Nat) → Array Instruction → Nat × Array Instruction
  | 0, next, code => (next, code)
  | count + 1, next, code =>
    let (start, code) := build next code
    buildTimes build count start code

/-- Builds a part that may be left out. -/
def buildOptional (build : Nat → Array Instruction → Nat × Array Instruction) (greedy : Bool)
    (leave next : Nat) (code : Array Instruction) : Nat × Array Instruction :=
  let (start, code) := build next code
  emit code (forkOn greedy start leave)

/-- Builds a part that is run once and may be run again. -/
def buildLoop (build : Nat → Array Instruction → Nat × Array Instruction) (greedy : Bool)
    (next : Nat) (code : Array Instruction) : Nat × Array Instruction :=
  let (again, code) := emit code .accept
  let (start, code) := build again code
  (start, code.setIfInBounds again (forkOn greedy start next))

/-- Builds an expression in front of the address `next`. -/
def Node.build : Node → (next : Nat) → Array Instruction → Nat × Array Instruction
  | .empty, next, code => (next, code)
  | .chars set, next, code => emit code (.take set next)
  | .assertion a, next, code => emit code (.test a next)
  | .group i body, next, code =>
    let (stop, code) := emit code (.mark (2 * i + 1) next)
    let (start, code) := body.build stop code
    emit code (.mark (2 * i) start)
  | .seq first second, next, code =>
    let (start, code) := second.build next code
    first.build start code
  | .alt left right, next, code =>
    let (other, code) := right.build next code
    let (preferred, code) := left.build next code
    emit code (.fork preferred other)
  | .times min none greedy body, next, code =>
    let (loop, code) := buildLoop body.build greedy next code
    if min = 0 then emit code (forkOn greedy loop next)
    else buildTimes body.build (min - 1) loop code
  | .times min (some max) greedy body, next, code =>
    let (start, code) :=
      buildTimes (buildOptional body.build greedy next) (max - min) next code
    buildTimes body.build min start code

/-- The number of bytes that the instructions of an expression are reckoned at. This is an estimate
(`SizeLimit.estimated`). -/
def Node.weight : Node → Nat
  | .empty => 0
  | .chars set => 32 + set.weight
  | .assertion _ => 32
  | .group _ body => 64 + body.weight
  | .seq first second => first.weight + second.weight
  | .alt left right => 40 + left.weight + right.weight
  | .times min none _ body => 40 + max 1 min * body.weight
  | .times min (some max) _ body => max * body.weight + (max - min) * 40

/-- The greatest weight of an expression that is accepted: 10 MiB, the default of
`regex::RegexBuilder::size_limit`. -/
def maxWeight : Nat := 10 * 1024 * 1024

/-- The program of an expression. -/
def Node.program (n : Node) : Program :=
  let (start, code) := n.build 0 #[.accept]
  ⟨code, start⟩

end Slipway.Regex
