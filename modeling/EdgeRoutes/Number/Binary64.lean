/-! Binary floating-point numbers of 64 bits, in exact arithmetic: a finite value is `mant * 2 ^ exp`, and every
operation computes its exact result and rounds it to nearest, ties to even. -/

namespace EdgeRoutes.Number

/-- `n * base ^ exp`, as far as the exponent is not negative; a negative one changes nothing. -/
def scaleUp (base n : Nat) (exp : Int) : Nat := n * Nat.pow base exp.toNat

/-- A finite value that is not negative: `mant * 2 ^ exp`. -/
structure Magnitude where
  mant : Nat
  exp : Int
  deriving DecidableEq

namespace Magnitude

/-- The exponent of the smallest positive value. -/
def minExp : Int := -1074

/-- The exponent of the largest finite values. -/
def maxExp : Int := 971

def zero : Magnitude := ⟨0, minExp⟩

/-- The quotient of two naturals, to nearest, ties to even. -/
def roundDiv (num den : Nat) : Nat :=
  let q := num / den
  let r := num % den
  if 2 * r > den ∨ (2 * r = den ∧ q % 2 = 1) then q + 1 else q

/-- `num / den` rounded to a multiple of `2 ^ exp`. -/
def scaled (num den : Nat) (exp : Int) : Nat :=
  roundDiv (scaleUp 2 num (-exp)) (scaleUp 2 den exp)

/-- The exponent at which `num / den` has 53 significant bits, or the least exponent there is. -/
def exponentOf (num den : Nat) : Int :=
  let guess : Int := (Nat.log2 num : Int) - (Nat.log2 den : Int) - 53
  let fits := scaleUp 2 num (-guess) < scaleUp 2 den guess * Nat.pow 2 53
  max minExp (if fits then guess else guess + 1)

/-- The value nearest to `num / den`; nothing when it is beyond the finite values. -/
def ofQuotient (num den : Nat) : Option Magnitude :=
  if num = 0 then some zero
  else
    let exp := exponentOf num den
    let mant := scaled num den exp
    let value : Magnitude := if mant = Nat.pow 2 53 then ⟨Nat.pow 2 52, exp + 1⟩ else ⟨mant, exp⟩
    if maxExp < value.exp then none else some value

/-- The value nearest to `mant * 2 ^ exp`. -/
def round (mant : Nat) (exp : Int) : Option Magnitude :=
  ofQuotient (scaleUp 2 mant exp) (scaleUp 2 1 (-exp))

/-- The value nearest to a natural number. -/
def ofNat (n : Nat) : Option Magnitude :=
  ofQuotient n 1

def add (x y : Magnitude) : Option Magnitude :=
  let exp := min x.exp y.exp
  round (scaleUp 2 x.mant (x.exp - exp) + scaleUp 2 y.mant (y.exp - exp)) exp

def mul (x y : Magnitude) : Option Magnitude :=
  round (x.mant * y.mant) (x.exp + y.exp)

/-- The value without its fraction. -/
def floor (x : Magnitude) : Nat :=
  scaleUp 2 x.mant x.exp / scaleUp 2 1 (-x.exp)

/-- The value nearest to `digits * 10 ^ exp10`. Decimals far outside the range are settled by their size. -/
def ofDecimal (digits : Nat) (exp10 : Int) : Option Magnitude :=
  let size : Int := exp10 + (Nat.toDigits 10 digits).length
  if digits = 0 ∨ size < -330 then some zero
  else if 310 < size then none
  else ofQuotient (scaleUp 10 digits exp10) (scaleUp 10 1 (-exp10))

end Magnitude

/-- A number of 64 bits. -/
inductive Binary64 where
  | nan
  | infinite (negative : Bool)
  | finite (negative : Bool) (value : Magnitude)
  deriving DecidableEq

namespace Binary64

/-- The number nearest to a decimal. -/
def ofDecimal (negative : Bool) (digits : Nat) (exp10 : Int) : Binary64 :=
  match Magnitude.ofDecimal digits exp10 with
  | some value => .finite negative value
  | none => .infinite negative

/-- The number is zero, of either sign. -/
def isZero : Binary64 → Bool
  | .finite _ value => value.mant == 0
  | _ => false

end Binary64

end EdgeRoutes.Number
