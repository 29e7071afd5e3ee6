import EdgeRoutes.Fault
import EdgeRoutes.Text.Blank

/-! Time values such as `30d`, `1h 30m` or `-1`: parts made of an amount and a unit, with blanks after a part. Amounts
are added up as binary numbers of 64 bits. -/

namespace EdgeRoutes.Http

open Number

inductive TimeUnit where
  | millisecond
  | second
  | minute
  | hour
  | day
  | week
  | month
  | year
  deriving DecidableEq

namespace TimeUnit

/-- The whole seconds of a unit; a millisecond has none. -/
def seconds? : TimeUnit → Option Nat
  | .millisecond => none
  | .second => some 1
  | .minute => some 60
  | .hour => some 3600
  | .day => some 86400
  | .week => some 604800
  | .month => some 2592000
  | .year => some 31536000

/-- The unit at the start of a text; an amount without a unit counts seconds. -/
def take : List Char → TimeUnit × List Char
  | 'm' :: 's' :: cs => (.millisecond, cs)
  | 's' :: cs => (.second, cs)
  | 'm' :: cs => (.minute, cs)
  | 'h' :: cs => (.hour, cs)
  | 'd' :: cs => (.day, cs)
  | 'w' :: cs => (.week, cs)
  | 'M' :: cs => (.month, cs)
  | 'y' :: cs => (.year, cs)
  | cs => (.second, cs)

end TimeUnit

/-- An amount of time: digits of any script, and a unit. -/
structure TimePart where
  digits : List Char
  unit : TimeUnit
  deriving DecidableEq

def isDecimal (c : Char) : Bool := (Text.decimalValue? c).isSome

/-- The parts of a time value; none if the text is not made of parts. -/
def timeParts? (cs : List Char) : Option (List TimePart) :=
  if cs.isEmpty then some []
  else
    let digits := cs.takeWhile isDecimal
    let (unit, rest) := TimeUnit.take (cs.dropWhile isDecimal)
    let rest := rest.dropWhile Text.isBlank
    if digits.isEmpty then none
    else if rest.length < cs.length then
      (timeParts? rest).map fun more => ⟨digits, unit⟩ :: more
    else none
termination_by cs.length

def thousandth : Magnitude := (Magnitude.ofDecimal 1 (-3)).getD .zero

/-- A whole number as a binary number. -/
def toBinary (n : Nat) : Except Fault Magnitude :=
  match Magnitude.ofNat n with
  | some x => .ok x
  | none => .error .beyondFloat

/-- The seconds of a part; nothing when they are beyond the finite numbers. -/
def TimePart.seconds (p : TimePart) : Except Fault (Option Magnitude) := do
  let amount ← (readNatural (String.ofList p.digits)).mapError .integer
  match p.unit.seconds? with
  | some s => return some (← toBinary (amount * s))
  | none => return (← toBinary amount).mul thousandth

/-- The sum of the parts, added to what is there already; nothing stands for infinity. -/
def sumParts (total : Option Magnitude) : List TimePart → Except Fault (Option Magnitude)
  | [] => .ok total
  | p :: ps => do
    let s ← p.seconds
    sumParts (total.bind fun t => s.bind t.add) ps

/-- The whole seconds of a time value; none if the text is not one. -/
def parseTime (value : String) : Except Fault (Option Int) :=
  let (negative, body) := Number.signed (Text.trim value).toList
  if body.isEmpty then .ok none
  else
    match timeParts? body with
    | none => .ok none
    | some parts => do
      match ← sumParts (some .zero) parts with
      | none => .error .infinite
      | some total =>
        let n : Int := total.floor
        return some (if negative then -n else n)

end EdgeRoutes.Http
