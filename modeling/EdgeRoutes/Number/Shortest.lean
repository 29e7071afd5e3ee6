import EdgeRoutes.Number.Binary64

/-! The decimal text of a binary number: the fewest digits that read back as the number, and of those the
nearest. -/

namespace EdgeRoutes.Number

/-- A decimal `0.d₁d₂… * 10 ^ point`, given by its digits without trailing zeros. -/
structure Decimal where
  digits : List Char
  point : Int

namespace Magnitude

/-- The value as a quotient. -/
def num (x : Magnitude) : Nat := scaleUp 2 x.mant x.exp

def den (x : Magnitude) : Nat := scaleUp 2 1 (-x.exp)

/-- The least `k` with `x < 10 ^ k`, for a value that is not zero. -/
def decimalPoint (x : Magnitude) : Int :=
  if x.den ≤ x.num then (Nat.toDigits 10 (x.num / x.den)).length
  else
    let zeros := (List.range 400).find? fun (j : Nat) => x.den ≤ scaleUp 10 x.num (j + 1)
    Int.negOfNat (zeros.getD 0)

/-- Of the two neighbours of the value among the decimals with `n` digits, the one that reads back as the
value; of two, the nearer; halfway between them, the even one. -/
def withDigits? (x : Magnitude) (n : Nat) : Option Nat :=
  let grid : Int := x.decimalPoint - n
  let num := scaleUp 10 x.num (-grid)
  let den := scaleUp 10 x.den grid
  let low := num / den
  let back (d : Nat) : Bool := ofDecimal d grid == some x
  match back low, back (low + 1) with
  | true, false => some low
  | false, true => some (low + 1)
  | true, true =>
    let takesLow := 2 * (num % den) < den ∨ 2 * (num % den) = den ∧ low % 2 = 0
    some (if takesLow then low else low + 1)
  | false, false => none

/-- The shortest decimal that reads back as the value. -/
def shortest (x : Magnitude) : Decimal :=
  if x.mant = 0 then ⟨['0'], 1⟩
  else
    let found := (List.range 17).findSome? fun i => (x.withDigits? (i + 1)).map (·, i + 1)
    let (d, n) := found.getD (0, 1)
    let text := Nat.toDigits 10 d
    -- the upper neighbour may have one digit more
    let point := x.decimalPoint + (text.length - n : Nat)
    ⟨(text.reverse.dropWhile (· == '0')).reverse, point⟩

end Magnitude

namespace Decimal

/-- Positional notation, with at least one digit on either side of the point. -/
def positional (d : Decimal) : List Char :=
  let n := d.digits.length
  if d.point ≤ 0 then '0' :: '.' :: (List.replicate (-d.point).toNat '0' ++ d.digits)
  else if n ≤ d.point.toNat then
    d.digits ++ List.replicate (d.point.toNat - n) '0' ++ ['.', '0']
  else d.digits.take d.point.toNat ++ '.' :: d.digits.drop d.point.toNat

/-- One digit before the point, and an exponent of at least two digits with its sign. -/
def scientific (d : Decimal) : List Char :=
  let mantissa := match d.digits with
    | [c] => [c]
    | c :: cs => c :: '.' :: cs
    | [] => ['0']
  let e := d.point - 1
  let digits := Nat.toDigits 10 e.natAbs
  mantissa ++ 'e' :: (if e < 0 then '-' else '+') ::
    (List.replicate (2 - digits.length) '0' ++ digits)

/-- Values from `10 ^ -4` up to `10 ^ 16` are written positionally. -/
def text (d : Decimal) : List Char :=
  if -4 < d.point ∧ d.point ≤ 16 then d.positional else d.scientific

end Decimal

namespace Binary64

def text : Binary64 → String
  | .nan => "nan"
  | .infinite negative => if negative then "-inf" else "inf"
  | .finite negative value =>
    String.ofList ((if negative then ['-'] else []) ++ value.shortest.text)

end Binary64

end EdgeRoutes.Number
