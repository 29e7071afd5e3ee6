import EdgeRoutes.Data.Basic

/-! Data as JSON text. Strings are written in ASCII: every character outside the printable ASCII range is escaped,
with a surrogate pair for characters beyond the first plane. -/

namespace EdgeRoutes.Json

open Number

/-- The escape of one sixteen-bit unit. -/
def unitEscape (n : Nat) : List Char :=
  '\\' :: 'u' :: Text.hexDigits 4 n

/-- One character of a JSON string. -/
def escapedChar (c : Char) : List Char :=
  if c = '"' then ['\\', '"']
  else if c = '\\' then ['\\', '\\']
  else if c = '\n' then ['\\', 'n']
  else if c = '\r' then ['\\', 'r']
  else if c = '\t' then ['\\', 't']
  else if c = '\x0c' then ['\\', 'f']
  else if c = '\x08' then ['\\', 'b']
  else if 32 ≤ c.toNat ∧ c.toNat < 127 then [c]
  else if c.toNat < 0x10000 then unitEscape c.toNat
  else
    let n := c.toNat - 0x10000
    unitEscape (0xD800 + n / 0x400) ++ unitEscape (0xDC00 + n % 0x400)

def string (s : String) : String :=
  String.ofList ('"' :: (s.toList.flatMap escapedChar ++ ['"']))

/-- A number of 64 bits, with the names that the reader accepts for values that are not finite. -/
def float (x : Binary64) : String :=
  match x with
  | .nan => "NaN"
  | .infinite negative => if negative then "-Infinity" else "Infinity"
  | x => x.text

def scalar : Scalar → String
  | .null => "null"
  | .bool b => if b then "true" else "false"
  | .int n => toString n
  | .float x => float x
  | .text s => string s

/-- A key is always written as a string. -/
def key : Scalar → String
  | .text s => string s
  | s => string (scalar s)

mutual

def line : Data → String
  | .scalar s => scalar s
  | .list items => "[" ++ Text.joined ", " (itemLines items) ++ "]"
  | .map entries => "\x7b" ++ Text.joined ", " (entryLines entries) ++ "\x7d"

def itemLines : List Data → List String
  | [] => []
  | d :: ds => line d :: itemLines ds

def entryLines : List (Scalar × Data) → List String
  | [] => []
  | (k, d) :: es => (key k ++ ": " ++ line d) :: entryLines es

end

/-- The line break before an item at a depth, with two blanks for each level. -/
def newline (depth : Nat) : String :=
  "\n" ++ String.ofList (List.replicate (2 * depth) ' ')

mutual

/-- JSON text with every item on a line of its own. -/
def page (depth : Nat) : Data → String
  | .scalar s => scalar s
  | .list [] => "[]"
  | .list items =>
    "[" ++ Text.joined "," (itemPages (depth + 1) items) ++ newline depth ++ "]"
  | .map [] => "\x7b\x7d"
  | .map entries =>
    "\x7b" ++ Text.joined "," (entryPages (depth + 1) entries) ++ newline depth ++ "\x7d"

def itemPages (depth : Nat) : List Data → List String
  | [] => []
  | d :: ds => (newline depth ++ page depth d) :: itemPages depth ds

def entryPages (depth : Nat) : List (Scalar × Data) → List String
  | [] => []
  | (k, d) :: es => (newline depth ++ key k ++ ": " ++ page depth d) :: entryPages depth es

end

end EdgeRoutes.Json
