import EdgeRoutes.Data.Basic
import EdgeRoutes.Number.Integer

/-! What plain text stands for in a settings file: a truth value, a number, nothing, or itself. Text of the forms that
are listed here has to be quoted where it stands for itself. -/

namespace EdgeRoutes.Yaml

open Number

inductive Form where
  | bool (b : Bool)
  | float
  | int
  | merge
  | null
  | time
  | default
  | text
  deriving DecidableEq

def trueWords : List String := ["yes", "Yes", "YES", "true", "True", "TRUE", "on", "On", "ON"]

def falseWords : List String := ["no", "No", "NO", "false", "False", "FALSE", "off", "Off", "OFF"]

def nullWords : List String := ["", "~", "null", "Null", "NULL"]

/-- One or more characters with a property, and nothing else. -/
def isRun (p : Char → Bool) (cs : List Char) : Bool := !cs.isEmpty && cs.all p

def isDigitOrLine (c : Char) : Bool := c.isDigit || c == '_'

/-- A digit first, then digits and low lines. -/
def isDigits (cs : List Char) : Bool :=
  (cs.head?.any Char.isDigit) && cs.all isDigitOrLine

def isHexDigit (c : Char) : Bool :=
  c.isDigit || ('a' ≤ c && c ≤ 'f') || ('A' ≤ c && c ≤ 'F')

/-- A part of a number in base sixty: one digit, or two of which the first is at most five. -/
def isSixtieth : List Char → Bool
  | [d] => d.isDigit
  | [d, e] => '0' ≤ d && d ≤ '5' && e.isDigit
  | _ => false

/-- Parts in base sixty after a first number. -/
def isSexagesimal (first : List Char → Bool) (cs : List Char) : Bool :=
  match cs.splitOn ':' with
  | head :: part :: parts => first head && (part :: parts).all isSixtieth
  | _ => false

/-- Digits that do not start with a zero. -/
def isPositive (cs : List Char) : Bool := isDigits cs && cs.head? != some '0'

/-- A whole number without its sign. -/
def isNatural (cs : List Char) : Bool :=
  match cs with
  | ['0'] => true
  | '0' :: 'b' :: ds => isRun (fun c => c == '0' || c == '1' || c == '_') ds
  | '0' :: 'x' :: ds => isRun (fun c => isHexDigit c || c == '_') ds
  | '0' :: ds => isRun (fun c => ('0' ≤ c && c ≤ '7') || c == '_') ds
  | _ => isPositive cs || isSexagesimal isPositive cs

/-- Nothing, or an exponent, which has a sign. -/
def isExponent : List Char → Bool
  | [] => true
  | e :: sign :: ds =>
    (e == 'e' || e == 'E') && (sign == '+' || sign == '-') && isRun Char.isDigit ds
  | _ => false

/-- Digits and low lines, and perhaps an exponent. -/
def isFraction (cs : List Char) : Bool := isExponent (cs.dropWhile isDigitOrLine)

/-- A number with a point. The sign may be missing; with `signed` it is there. -/
def isPointed (signed : Bool) (cs : List Char) : Bool :=
  match Text.cut? ['.'] cs with
  | none => false
  | some ([], rest) =>
    ["inf", "Inf", "INF"].contains (String.ofList rest) ||
      !signed && (["nan", "NaN", "NAN"].contains (String.ofList rest) ||
        (rest.head?.any Char.isDigit && isFraction rest))
  | some (whole, rest) =>
    (isDigits whole && isFraction rest) || (isSexagesimal isDigits whole && rest.all isDigitOrLine)

/-- Splits off digits, between `least` and `most` of them. -/
def digits? (least most : Nat) (cs : List Char) : Option (List Char) :=
  let n := ((cs.take most).takeWhile Char.isDigit).length
  if least ≤ n then some (cs.drop n) else none

def mark? (c : Char) : List Char → Option (List Char)
  | d :: cs => if c = d then some cs else none
  | [] => none

/-- A year, a month and a day, with at least `least` digits for the last two. -/
def date? (least : Nat) (cs : List Char) : Option (List Char) := do
  let cs ← mark? '-' (← digits? 4 4 cs)
  let cs ← mark? '-' (← digits? least 2 cs)
  digits? least 2 cs

/-- Nothing, or the distance from universal time. -/
def isZone (cs : List Char) : Bool :=
  match cs.dropWhile fun c => c == ' ' || c == '\t' with
  | [] => cs.isEmpty
  | ['Z'] => true
  | sign :: rest =>
    (sign == '+' || sign == '-') &&
      match digits? 1 2 rest with
      | none => false
      | some [] => true
      | some rest => ((mark? ':' rest).bind (digits? 2 2)) == some []

/-- The time of a day, after a date. -/
def isClock (cs : List Char) : Bool :=
  let blanks := cs.takeWhile fun c => c == ' ' || c == '\t'
  let body := match cs with
    | 'T' :: rest | 't' :: rest => some rest
    | _ => if blanks.isEmpty then none else some (cs.drop blanks.length)
  let seconds := do
    let cs ← mark? ':' (← digits? 1 2 (← body))
    let cs ← mark? ':' (← digits? 2 2 cs)
    digits? 2 2 cs
  match seconds with
  | none => false
  | some ('.' :: rest) => isZone (rest.dropWhile Char.isDigit)
  | some rest => isZone rest

def isTime (cs : List Char) : Bool :=
  date? 2 cs == some [] || (date? 1 cs).any isClock

def form (s : String) : Form :=
  let cs := s.toList
  let (signed, body) := match cs with
    | '-' :: rest | '+' :: rest => (true, rest)
    | _ => (false, cs)
  if trueWords.contains s then .bool true
  else if falseWords.contains s then .bool false
  else if isPointed signed body then .float
  else if isNatural body then .int
  else if s == "<<" then .merge
  else if nullWords.contains s then .null
  else if isTime cs then .time
  else if s == "=" then .default
  else .text

/-- The digits of a number in a base that is a power of two. -/
def ofBase (base : Nat) (ds : List Char) : Option Nat :=
  if ds.isEmpty then none
  else
    some (ds.foldl (fun n d =>
      base * n + (if d.isDigit then d.toNat - 48 else (d.toLower).toNat - 87)) 0)

/-- A number in base ten, if its text is not too long. -/
def ofDecimal (ds : List Char) : Option Nat :=
  if ds.isEmpty || maxDigits < ds.length then none else some (ofDigits ds)

/-- The value of a whole number without its sign. -/
def naturalValue (cs : List Char) : Option Nat :=
  match cs.filter (· != '_') with
  | ['0'] => some 0
  | '0' :: 'b' :: ds => ofBase 2 ds
  | '0' :: 'x' :: ds => ofBase 16 ds
  | '0' :: ds => ofBase 8 ds
  | ds => do
    let parts ← (ds.splitOn ':').mapM ofDecimal
    return parts.foldl (fun n part => 60 * n + part) 0

def pointedValue (negative : Bool) (cs : List Char) : Binary64 :=
  let whole := cs.takeWhile Char.isDigit
  let fraction := ((cs.dropWhile Char.isDigit).drop 1).takeWhile Char.isDigit
  let exponent := ((cs.dropWhile Char.isDigit).drop 1).dropWhile Char.isDigit
  let (below, ds) := signed (exponent.drop 1)
  let e : Int := ofDigits ds
  .ofDecimal negative (ofDigits (whole ++ fraction)) ((if below then -e else e) - fraction.length)

/-- Adds parts in base sixty, the last part first, to a sum; nothing stands for infinity. -/
def addSixtieths (sum : Magnitude) (base : Nat) : List Binary64 → Option Magnitude
  | [] => some sum
  | part :: parts => do
    let .finite _ x := part | none
    let scaled ← x.mul (← Magnitude.ofNat base)
    addSixtieths (← sum.add scaled) (60 * base) parts

/-- The value of a number with a point. -/
def floatValue (s : String) : Binary64 :=
  let (negative, body) := signed (s.toList.filter (· != '_'))
  match body with
  | '.' :: c :: _ =>
    if c.toLower = 'i' then .infinite negative
    else if c.toLower = 'n' then .nan
    else pointedValue negative body
  | _ =>
    match body.splitOn ':' with
    | [_] => pointedValue negative body
    | parts =>
      match addSixtieths .zero 1 (parts.reverse.map (pointedValue false)) with
      | some x => .finite negative x
      | none => .infinite negative

/-- The value of plain text; text that asks for something else than a value has none. -/
def plainValue (s : String) : Option Scalar :=
  match form s with
  | .bool b => some (.bool b)
  | .null => some .null
  | .int =>
    let (negative, body) := signed s.toList
    (naturalValue body).map fun n => .int (if negative then -n else n)
  | .float => some (.float (floatValue s))
  | .time | .text => some (.text s)
  | .merge | .default => none

end EdgeRoutes.Yaml
