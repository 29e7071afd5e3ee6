/-! Sets of characters, given by closed ranges of code points. The sets of this library are written down
for characters beyond ASCII only; each property decides ASCII by a rule of its own. -/

namespace EdgeRoutes.Text

/-- Closed ranges of code points, in increasing order. -/
structure CharSet where
  ranges : List (Nat × Nat)

namespace CharSet

/-- The value of a lower-case hexadecimal digit. -/
def hexValue (c : Char) : Nat :=
  if c.isDigit then c.toNat - 48 else c.toNat - 87

/-- A range is written `lo-hi`, or `lo` alone for a single character, in hexadecimal. -/
def rangeOfText (text : List Char) : Nat × Nat :=
  let number (ds : List Char) : Nat := ds.foldl (fun n d => 16 * n + hexValue d) 0
  let lo := number (text.takeWhile (· != '-'))
  match text.dropWhile (· != '-') with
  | [] => (lo, lo)
  | _ :: hi => (lo, number hi)

/-- Reads lines of ranges that are separated by blanks. -/
def ofText (lines : List String) : CharSet :=
  ⟨lines.flatMap fun line => (line.toList.splitOn ' ').map rangeOfText⟩

/-- The character lies in one of the ranges. -/
def contains (s : CharSet) (c : Char) : Bool :=
  s.ranges.any fun r => r.1 ≤ c.toNat && c.toNat ≤ r.2

end CharSet

end EdgeRoutes.Text
