import Slipway.Text.Numeral

/-!
# Formatted output

The commands `echo` and `printf`: escapes in texts, and formats with arguments. The output is made
of bytes, because an escape may name any byte.
-/

namespace Slipway.Shell

/-- Bytes that a command writes. -/
abbrev Bytes := List UInt8

/-- The bytes of a text. -/
def bytesOf (s : String) : Bytes := s.toUTF8.toList

/-- The bytes of a text. -/
def bytesOfChars (cs : List Char) : Bytes := bytesOf (String.ofList cs)

namespace Printf

/-- An octal digit. -/
def isOctal (c : Char) : Bool := '0' ≤ c && c ≤ '7'

/-- The byte of an octal numeral. -/
def octalByte (cs : List Char) : UInt8 :=
  UInt8.ofNat (cs.foldl (fun n c => 8 * n + (c.toNat - '0'.toNat)) 0)

/-- Reads an octal numeral of up to so many digits: its byte, and the rest. -/
def readOctal (width : Nat) (cs : List Char) : UInt8 × List Char :=
  let digits := (cs.take width).takeWhile isOctal
  (octalByte digits, cs.drop digits.length)

/-- The byte of an escape with a letter. -/
def letter? : Char → Option UInt8
  | 'a' => some 7
  | 'b' => some 8
  | 'e' => some 27
  | 'f' => some 12
  | 'n' => some 10
  | 'r' => some 13
  | 't' => some 9
  | 'v' => some 11
  | '\\' => some 92
  | _ => none

/-- Writes a text with its escapes; an octal numeral follows a zero. Gives whether the escape that
ends all output was met. The fuel is the length of the text. -/
def escaped : (fuel : Nat) → List Char → Bytes × Bool
  | 0, _ => ([], false)
  | _ + 1, [] => ([], false)
  | fuel + 1, '\\' :: c :: cs =>
    if c = 'c' then ([], true)
    else
      let (bytes, rest) : Bytes × List Char :=
        if c = '0' then let (b, rest) := readOctal 3 cs; ([b], rest)
        else
          match letter? c with
          | some b => ([b], cs)
          | none => (bytesOfChars ['\\', c], cs)
      let (more, ended) := escaped fuel rest
      (bytes ++ more, ended)
  | fuel + 1, c :: cs =>
    let (more, ended) := escaped fuel cs
    (bytesOfChars [c] ++ more, ended)

/-- Writes arguments with blanks between them, and a line end unless the first one is `-n`. The
command of the shell itself writes escapes, the program does not. -/
def echo (escapes : Bool) (args : List String) : Bytes :=
  let (words, newline) := match args with
    | "-n" :: words => (words, false)
    | words => (words, true)
  let text := (" ".intercalate words).toList
  let (bytes, ended) :=
    if escapes then escaped (text.length + 1) text else (bytesOfChars text, false)
  if ended || !newline then bytes else bytes ++ [10]

/-- Fills a text with blanks, or zeros, up to a width. -/
def pad (width : Nat) (left zeros : Bool) (bytes : Bytes) : Bytes :=
  let fill := List.replicate (width - bytes.length) (if zeros && !left then 48 else 32)
  if left then bytes ++ fill else fill ++ bytes

/-- The integer that an argument names; other texts count as zero. -/
def integerOf (arg : String) : Int :=
  match arg.toList with
  | '-' :: cs => if cs ≠ [] ∧ cs.all Text.isDigit then -(Text.numeralValue cs : Int) else 0
  | cs => if cs.all Text.isDigit then Text.numeralValue cs else 0

/-- A digit of a numeral with a base of up to sixteen. -/
def digit (upper : Bool) (n : Nat) : Char :=
  if n < 10 then Char.ofNat (48 + n) else Char.ofNat ((if upper then 55 else 87) + n)

/-- The numeral of a number with a base. The fuel is the number itself. -/
def numeral (base : Nat) (upper : Bool) : (fuel : Nat) → Nat → List Char
  | 0, n => [digit upper n]
  | fuel + 1, n =>
    if n < base then [digit upper n]
    else numeral base upper fuel (n / base) ++ [digit upper (n % base)]

/-- The text of an integer for the letter of a format. -/
def integerText (letter : Char) (n : Int) : Bytes :=
  let bits := (n % UInt64.size).toNat
  if letter = 'x' then bytesOfChars (numeral 16 false bits bits)
  else if letter = 'X' then bytesOfChars (numeral 16 true bits bits)
  else if letter = 'o' then bytesOfChars (numeral 8 false bits bits)
  else if letter = 'u' then bytesOfChars (numeral 10 false bits bits)
  else bytesOf (toString n)

/-- What one use of a format writes: the bytes, the arguments that are left, whether any was used,
and whether all output has ended. -/
structure Pass where
  bytes : Bytes
  rest : List String
  used : Bool
  ended : Bool

/-- Writes bytes before those of a pass. -/
def Pass.after (p : Pass) (bytes : Bytes) : Pass := { p with bytes := bytes ++ p.bytes }

/-- Goes through a format once. The fuel is the length of the format. -/
def pass : (fuel : Nat) → (format : List Char) → List String → Pass
  | 0, _, args => ⟨[], args, false, false⟩
  | _ + 1, [], args => ⟨[], args, false, false⟩
  | fuel + 1, '\\' :: c :: cs, args =>
    if isOctal c then
      let (b, rest) := readOctal 3 (c :: cs)
      (pass fuel rest args).after [b]
    else if c = 'c' then ⟨[], args, false, true⟩
    else if c = '"' ∨ c = '\'' then (pass fuel cs args).after (bytesOfChars [c])
    else
      match letter? c with
      | some b => (pass fuel cs args).after [b]
      | none => (pass fuel cs args).after (bytesOfChars ['\\', c])
  | fuel + 1, '%' :: '%' :: cs, args => (pass fuel cs args).after [37]
  | fuel + 1, '%' :: cs, args =>
    let flags := cs.takeWhile fun c => ['-', '0', '+', ' ', '#'].contains c
    let cs := cs.drop flags.length
    let width := cs.takeWhile Text.isDigit
    match cs.drop width.length with
    | [] => ⟨[37], args, false, false⟩
    | c :: cs =>
      let arg := args.head?.getD ""
      let put := pad (Text.numeralValue width) (flags.contains '-') (flags.contains '0')
      let (bytes, ended) : Bytes × Bool :=
        if ['d', 'i', 'u', 'x', 'X', 'o'].contains c then
          (put (integerText c (integerOf arg)), false)
        else if c = 'b' then escaped (arg.length + 1) arg.toList
        else if c = 'c' then (put (bytesOfChars (arg.toList.take 1)), false)
        else (put (bytesOf arg), false)
      if ended then ⟨bytes, args.drop 1, true, true⟩
      else { (pass fuel cs (args.drop 1)).after bytes with used := true }
  | fuel + 1, c :: cs, args => (pass fuel cs args).after (bytesOfChars [c])

/-- Goes through a format until the arguments are used up. The fuel is their number. -/
def passes : (fuel : Nat) → (format : List Char) → List String → Bytes
  | 0, _, _ => []
  | fuel + 1, format, args =>
    let p := pass (format.length + 1) format args
    if p.ended || !p.used || p.rest.isEmpty then p.bytes
    else p.bytes ++ passes fuel format p.rest

/-- Writes arguments by a format. -/
def printf (format : String) (args : List String) : Bytes :=
  passes (args.length + 1) format.toList args

end Printf

end Slipway.Shell
