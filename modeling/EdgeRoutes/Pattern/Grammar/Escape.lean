import EdgeRoutes.Number.Integer
import EdgeRoutes.Pattern.Grammar.Token
import EdgeRoutes.Text.CharacterName

/-! Escapes of characters, the part that patterns and sets have in common. -/

namespace EdgeRoutes.Pattern.Grammar

def isOctal (c : Char) : Bool := '0' ≤ c && c ≤ '7'

def isHex (c : Char) : Bool :=
  c.isDigit || ('a' ≤ c && c ≤ 'f') || ('A' ≤ c && c ≤ 'F')

/-- The number that digits denote in a base up to sixteen. -/
def ofBase (base : Nat) (ds : List Char) : Nat :=
  ds.foldl (fun n d => base * n + Text.CharSet.hexValue d.toLower) 0

def escapeText (c : Char) (digits : List Char) : String :=
  String.ofList ('\\' :: c :: digits)

/-- The code point of a letter that stands for a control character. -/
def controlEscape? : Char → Option Nat
  | 'a' => some 7
  | 'b' => some 8
  | 'f' => some 12
  | 'n' => some 10
  | 'r' => some 13
  | 't' => some 9
  | 'v' => some 11
  | '\\' => some 92
  | _ => none

/-- The letters of the character categories. -/
def isCategory (c : Char) : Bool :=
  c == 'd' || c == 'D' || c == 's' || c == 'S' || c == 'w' || c == 'W'

/-- A code point in exactly `n` hexadecimal digits. -/
def hexEscape (c : Char) (n : Nat) (cs : List Char) : Reading (Nat × List Char) := do
  let (digits, cs) ← takeUpTo isHex n cs
  if digits.length != n then reject (.incompleteEscape (escapeText c digits))
  else
    let code := ofBase 16 digits
    if 0x10FFFF < code then reject (.badEscape (escapeText c digits)) else return (code, cs)

/-- A code point by the name of its character. -/
def nameEscape (cs : List Char) : Reading (Nat × List Char) := do
  match ← accept '\x7b' cs with
  | none => reject .missingBrace
  | some cs =>
    let (name, cs) ← takeName '\x7d' "character name" cs
    match Text.characterNamed? name with
    | some code => return (code, cs)
    | none => reject (.undefinedCharacter (String.ofList name))

/-- The escapes that write a code point in digits or by name. -/
def codeEscape? (c : Char) (cs : List Char) : Option (Reading (Nat × List Char)) :=
  match c with
  | 'x' => some (hexEscape c 2 cs)
  | 'u' => some (hexEscape c 4 cs)
  | 'U' => some (hexEscape c 8 cs)
  | 'N' => some (nameEscape cs)
  | _ => none

/-- Any other character behind a backslash stands for itself, unless it is a letter of ASCII. -/
def otherEscape (c : Char) (cs : List Char) : Reading (Nat × List Char) :=
  if c.isAlpha then reject (.badEscape (escapeText c [])) else .ok (c.toNat, cs)

/-- A member of a set: a character, or a category of characters. -/
inductive Member where
  | code (n : Nat)
  | category

def setEscape (c : Char) (cs : List Char) : Reading (Member × List Char) :=
  match controlEscape? c with
  | some n => .ok (.code n, cs)
  | none =>
    if isCategory c then .ok (.category, cs)
    else
      match codeEscape? c cs with
      | some reading => do
        let (n, cs) ← reading
        return (.code n, cs)
      | none =>
        if isOctal c then do
          let (more, cs) ← takeUpTo isOctal 2 cs
          let n := ofBase 8 (c :: more)
          if 0o377 < n then reject (.octalRange (escapeText c more)) else return (.code n, cs)
        else if c.isDigit then reject (.badEscape (escapeText c []))
        else do
          let (n, cs) ← otherEscape c cs
          return (.code n, cs)

/-- The character or category that a token of a set stands for. -/
def setMember (t : Token) (cs : List Char) : Reading (Member × List Char) :=
  match t with
  | .plain c => .ok (.code c.toNat, cs)
  | .escaped c => setEscape c cs

/-- The members of a set up to its closing bracket. A closing bracket in first place is a member. -/
def setMembers (first : Bool) : Nat → List Char → Reading (List Char)
  | 0, _ => reject .unterminatedSet
  | fuel + 1, cs =>
    match next? cs with
    | none => reject .unterminatedSet
    | some low => do
      let cs ← advance cs
      if low = .plain ']' ∧ ¬first then return cs
      let (lowMember, cs) ← setMember low cs
      match ← accept '-' cs with
      | none => setMembers false fuel cs
      | some cs =>
        match next? cs with
        | none => reject .unterminatedSet
        | some high =>
          let cs ← advance cs
          if high = .plain ']' then return cs
          let (highMember, cs) ← setMember high cs
          let bad := Rejection.badRange (String.ofList low.text) (String.ofList high.text)
          match lowMember, highMember with
          | .code lo, .code hi => if hi < lo then reject bad else setMembers false fuel cs
          | _, _ => reject bad

/-- A set after its opening bracket. -/
def takeSet (cs : List Char) : Reading (List Char) := do
  let cs := (← accept '^' cs).getD cs
  setMembers true (cs.length + 1) cs

end EdgeRoutes.Pattern.Grammar
