import EdgeRoutes.Text.CharSet
import EdgeRoutes.Text.Cut
import EdgeRoutes.Text.Names.Aliases
import EdgeRoutes.Text.Names.Historic
import EdgeRoutes.Text.Names.Notations
import EdgeRoutes.Text.Names.Scripts
import EdgeRoutes.Text.Names.Syllabaries
import EdgeRoutes.Text.Names.Symbols

/-! Characters by name. Ideographs and a few other kinds of characters are named by their numbers, and syllables by their
letters; all other names are listed in tables. -/

namespace EdgeRoutes.Text

def isCapitalHex (c : Char) : Bool := c.isDigit || ('A' ≤ c && c ≤ 'F')

def hexNumber (ds : List Char) : Nat :=
  ds.foldl (fun n d => 16 * n + CharSet.hexValue d.toLower) 0

/-- The number, in four or five capital digits, that follows a head in a name. -/
def numberAfter? (head : String) (name : List Char) : Option Nat := do
  let digits ← after? head.toList name
  if (digits.length = 4 ∨ digits.length = 5) ∧ digits.all isCapitalHex then some (hexNumber digits) else none

/-- The ranges of the unified ideographs. -/
def ideographs : CharSet := CharSet.ofText
    ["3400-4dbf 4e00-9fff 20000-2a6df 2a700-2b738 2b740-2b81d 2b820-2cea1 2ceb0-2ebe0 30000-3134a"]

/-- The unified ideograph with a name. Here letter case counts, and the number may begin with a zero. -/
def ideographNamed? (name : List Char) : Option Nat := do
  let n ← numberAfter? "CJK UNIFIED IDEOGRAPH-" name
  if ideographs.contains (Char.ofNat n) then some n else none

/-- Further characters that are named by their numbers. -/
def numbered : List (String × CharSet) :=
  [("CJK COMPATIBILITY IDEOGRAPH-", CharSet.ofText ["f900-fa6d fa70-fad9 2f800-2fa1d"]),
    ("KHITAN SMALL SCRIPT CHARACTER-", CharSet.ofText ["18b00-18cd5"]),
    ("NUSHU CHARACTER-", CharSet.ofText ["1b170-1b2fb"])]

/-- The character that is named by its number in capital letters. The number has no digits that it does not need. -/
def numberedNamed? (name : List Char) : Option Nat :=
  numbered.findSome? fun (head, set) => do
    let n ← numberAfter? head name
    if set.contains (Char.ofNat n) && !starts (head ++ "0").toList name then some n else none

/-- The letters that a syllable starts with, has in its middle, and ends with. -/
def initialLetters : List String :=
  ["G", "GG", "N", "D", "DD", "R", "M", "B", "BB", "S", "SS", "", "J", "JJ", "C", "K", "T", "P", "H"]

def medialLetters : List String :=
  ["A", "AE", "YA", "YAE", "EO", "E", "YEO", "YE", "O", "WA", "WAE", "OE", "YO", "U", "WEO", "WE", "WI", "YU", "EU",
    "YI", "I"]

def finalLetters : List String :=
  ["", "G", "GG", "GS", "N", "NJ", "NH", "D", "L", "LG", "LM", "LB", "LS", "LT", "LP", "LH", "M", "B", "BS", "S", "SS",
    "NG", "J", "C", "K", "T", "P", "H"]

/-- The longest of some parts that a text starts with: its position, and what follows it. -/
def longest? (parts : List String) (cs : List Char) : Option (Nat × List Char) :=
  parts.zipIdx.foldl (fun found (part, position) =>
    match after? part.toList cs with
    | some rest => if found.all fun (_, other) => rest.length < other.length then some (position, rest) else found
    | none => found) none

/-- The syllable with a name. Here letter case counts. -/
def syllableNamed? (name : List Char) : Option Nat := do
  let letters ← after? "HANGUL SYLLABLE ".toList name
  let (initial, letters) ← longest? initialLetters letters
  let (medial, letters) ← longest? medialLetters letters
  let (final, letters) ← longest? finalLetters letters
  if letters.isEmpty then
    some (0xac00 + (initial * medialLetters.length + medial) * finalLetters.length + final)
  else none

/-- Characters that follow each other and have names with the same head. -/
structure NameFamily where
  first : Nat
  head : List Char
  tails : List (List Char)

namespace NameFamily

/-- Reads an entry of a table: the number of the first character, a blank, the head, and each tail behind a bar. -/
def ofEntry (entry : List Char) : NameFamily :=
  let number := entry.takeWhile (· != ' ')
  let names := (entry.drop (number.length + 1)).splitOn '|'
  { first := hexNumber number, head := names.headD [], tails := names.tail }

def named? (f : NameFamily) (name : List Char) : Option Nat := do
  let tail ← after? f.head name
  let position ← f.tails.idxOf? tail
  return f.first + position

end NameFamily

/-- The character that a table lists under a name. Each line of a table holds families, separated by semicolons. -/
def listedNamed? (table : List String) (name : List Char) : Option Nat :=
  table.findSome? fun line =>
    (line.toList.splitOn ';').findSome? fun entry => (NameFamily.ofEntry entry).named? name

def nameTables : List (List String) :=
  [scriptNames, symbolNames, syllabaryNames, historicNames, notationNames, aliasNames]

/-- The character with a name. Names that are listed are found without regard to letter case. -/
def characterNamed? (name : List Char) : Option Nat :=
  let capitals := name.map Char.toUpper
  ideographNamed? name <|> syllableNamed? name <|> numberedNamed? capitals <|>
    nameTables.findSome? fun table => listedNamed? table capitals

end EdgeRoutes.Text
