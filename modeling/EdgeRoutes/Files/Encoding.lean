import EdgeRoutes.Files.Error

/-! Text files: UTF-8 bytes, with any of the three line endings read as a line feed. -/

namespace EdgeRoutes.Files

abbrev Bytes := List UInt8

/-- A byte that continues a character. -/
def isContinuation (b : Nat) : Bool := 0x80 ≤ b && b < 0xC0

/-- The bytes that can follow the first byte of a character. -/
def followsStart (first second : Nat) : Bool :=
  isContinuation second &&
    (if first = 0xE0 then 0xA0 ≤ second
     else if first = 0xED then second < 0xA0
     else if first = 0xF0 then 0x90 ≤ second
     else if first = 0xF4 then second < 0x90
     else true)

/-- How many bytes a character has, by its first byte; none for a byte that starts no character. -/
def characterLength? (first : Nat) : Option Nat :=
  if first < 0x80 then some 1
  else if first < 0xC2 then none
  else if first < 0xE0 then some 2
  else if first < 0xF0 then some 3
  else if first < 0xF5 then some 4
  else none

/-- The code point that the bytes of a character denote. -/
def codePoint (first : Nat) (more : List Nat) : Nat :=
  let lead := match more.length with
    | 0 => first
    | 1 => first - 0xC0
    | 2 => first - 0xE0
    | _ => first - 0xF0
  more.foldl (fun n b => 64 * n + (b - 0x80)) lead

/-- The first character of bytes that are not empty, and its length; `first` is its first byte. -/
def firstCharacter (first : Nat) (rest : List Nat) : Except (Malformed × Nat) (Char × Nat) :=
  match characterLength? first with
  | none => .error (.startByte, 1)
  | some n =>
    let more := rest.take (n - 1)
    let good : Nat → Nat → Bool := fun i b => if i = 0 then followsStart first b else isContinuation b
    match (more.zipIdx).find? fun (b, i) => !good i b with
    | some (_, i) => .error (.continuation, i + 1)
    | none =>
      if more.length < n - 1 then .error (.endOfData, 1 + rest.length)
      else .ok (Char.ofNat (codePoint first more), n)

/-- The characters of bytes from a position on. -/
def decodeFrom (position : Nat) (bs : List Nat) : Except EncodingError (List Char) :=
  match bs with
  | [] => .ok []
  | first :: rest =>
    match firstCharacter first rest with
    | .error (reason, length) => .error ⟨first, position, length, reason⟩
    | .ok (c, n) => do
      let more ← decodeFrom (position + n) (rest.drop (n - 1))
      return c :: more
termination_by bs.length
decreasing_by
  simp only [List.length_cons, List.length_drop]
  omega

def lineFeeds : List Char → List Char
  | [] => []
  | '\r' :: '\n' :: cs => '\n' :: lineFeeds cs
  | '\r' :: cs => '\n' :: lineFeeds cs
  | c :: cs => c :: lineFeeds cs

/-- The text of a file. -/
def decode (bytes : Bytes) : Except EncodingError String := do
  let cs ← decodeFrom 0 (bytes.map UInt8.toNat)
  return String.ofList (lineFeeds cs)

def encode (text : String) : Bytes := text.toUTF8.toList

end EdgeRoutes.Files
