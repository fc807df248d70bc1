import Slipway.Regex.CharClass

/-!
# Regular expressions

Model of the expressions of the crate `regex`. The tree of a regular expression. Among the ways in
which an expression matches at a position, the first one counts: the left alternative before the
right one, more repetitions before fewer where the repetition is greedy, and fewer before more where
it is not.
-/

namespace Slipway.Regex

/-- A condition on a position of the text. The boundaries of words come in two flavours, for all of
Unicode and for the first 128 characters. -/
inductive Assertion where
  | textStart
  | textEnd
  | lineStart
  | lineEnd
  /-- As `lineStart`, for lines that a carriage return may end. -/
  | lineStartCarriage
  | lineEndCarriage
  | wordBoundary (unicode : Bool)
  | notWordBoundary (unicode : Bool)
  | wordStart (unicode : Bool)
  | wordEnd (unicode : Bool)
  | wordStartHalf (unicode : Bool)
  | wordEndHalf (unicode : Bool)
  deriving DecidableEq, Repr

/-- A regular expression. -/
inductive Node where
  | empty
  | chars (set : CharClass)
  | assertion (a : Assertion)
  | group (index : Nat) (body : Node)
  | seq (first second : Node)
  | alt (left right : Node)
  | times (min : Nat) (max : Option Nat) (greedy : Bool) (body : Node)
  deriving Inhabited, Repr

/-- Why a text is no regular expression. -/
inductive Defect where
  | unclosedGroup
  | unopenedGroup
  | unclosedClass
  | invalidRange
  | invalidClassItem
  | danglingRepetition
  | invalidCount
  | invalidEscape
  | lookAround
  | backreference
  | invalidFlags
  | invalidGroupName
  | unknownProperty
  | bytesOnly
  | tooDeep
  | tooLarge
  deriving DecidableEq, Repr

/-- The wording of a defect. -/
def Defect.message : Defect → String
  | unclosedGroup => "unclosed group"
  | unopenedGroup => "unopened group"
  | unclosedClass => "unclosed character class"
  | invalidRange => "invalid character class range"
  | invalidClassItem => "invalid item in a character class"
  | danglingRepetition => "repetition operator missing expression"
  | invalidCount => "invalid repetition count"
  | invalidEscape => "invalid escape sequence"
  | lookAround => "look-around is not supported"
  | backreference => "backreferences are not supported"
  | invalidFlags => "invalid flags"
  | invalidGroupName => "invalid group name"
  | unknownProperty => "unknown property"
  | bytesOnly => "pattern can match invalid text"
  | tooDeep => "too many nested expressions"
  | tooLarge => "pattern is too large"

end Slipway.Regex
