import EdgeRoutes.Text.Blank
import EdgeRoutes.Text.Digit

/-! Reading whole numbers. Blanks may surround the number, a sign may precede it, single low lines may stand
between its digits, and the digits may come from any script. Very long digit texts are refused. -/

namespace EdgeRoutes.Number

open Text

/-- Why a text is not read as a whole number. -/
inductive IntegerError where
  | malformed (text : String)
  | tooLong (digits : Nat)
  deriving DecidableEq

/-- The longest digit text that is converted. -/
def maxDigits : Nat := 4300

/-- A character as the digit reader sees it: decimal digits of other scripts and blanks beyond ASCII have
their ASCII form. -/
def plainForm (c : Char) : Char :=
  if c.toNat < 127 then c
  else if isBlank c then ' '
  else match decimalValue? c with
    | some d => Nat.digitChar d
    | none => '?'

def isAsciiBlank (c : Char) : Bool :=
  (9 ≤ c.toNat && c.toNat ≤ 13) || c == ' '

/-- A run of digits with single low lines between them, and what follows it. `afterMark` tells that the
previous character was no digit. -/
def digitRun (afterMark : Bool) : List Char → Option (List Char × List Char)
  | [] => if afterMark then none else some ([], [])
  | c :: cs =>
    if c.isDigit then (digitRun false cs).map fun (ds, rest) => (c :: ds, rest)
    else if afterMark then none
    else if c = '_' then digitRun true cs
    else some ([], c :: cs)

/-- The number that decimal digits denote. -/
def ofDigits (ds : List Char) : Nat :=
  ds.foldl (fun n d => 10 * n + (d.toNat - 48)) 0

/-- The sign of a number and the text after it. -/
def signed : List Char → Bool × List Char
  | '-' :: cs => (true, cs)
  | '+' :: cs => (false, cs)
  | cs => (false, cs)

/-- Reads a whole number. The length of the digit run is checked before the text after it. -/
def readInteger (text : String) : Except IntegerError Int :=
  let (negative, body) := signed (trimWhile isAsciiBlank (text.toList.map plainForm))
  match digitRun true body with
  | none => .error (.malformed text)
  | some (ds, rest) =>
    if maxDigits < ds.length then .error (.tooLong ds.length)
    else if rest.isEmpty then
      let n : Int := ofDigits ds
      .ok (if negative then -n else n)
    else .error (.malformed text)

/-- Reads a whole number that has no sign, such as a text of digits only. -/
def readNatural (text : String) : Except IntegerError Nat :=
  (readInteger text).map Int.toNat

end EdgeRoutes.Number
