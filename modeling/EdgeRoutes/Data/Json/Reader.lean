import EdgeRoutes.Data.Basic
import EdgeRoutes.Number.Integer

/-! Reading JSON text. The reader takes the first value of the text and requires nothing but blanks around it. Beyond
the standard it accepts `NaN` and `Infinity`; of a repeated key the last value counts. A defect is
reported with the place where reading stopped. -/

namespace EdgeRoutes.Json

open Number

/-- What is wrong with a JSON text. -/
inductive Defect where
  | noValue
  | noName
  | noColon
  | noComma
  | extraData
  | openString
  | controlCharacter
  | unknownEscape
  | unicodeEscape
  | byteOrderMark
  deriving DecidableEq

def Defect.message : Defect → String
  | .noValue => "Expecting value"
  | .noName => "Expecting property name enclosed in double quotes"
  | .noColon => "Expecting ':' delimiter"
  | .noComma => "Expecting ',' delimiter"
  | .extraData => "Extra data"
  | .openString => "Unterminated string starting at"
  | .controlCharacter => "Invalid control character at"
  | .unknownEscape => "Invalid \\escape"
  | .unicodeEscape => "Invalid \\uXXXX escape"
  | .byteOrderMark => "Unexpected UTF-8 BOM (decode using utf-8-sig)"

/-- Where a defect is: the characters before it, its line and its column. Lines and columns count from one. -/
structure Place where
  offset : Nat
  line : Nat
  column : Nat

/-- The place that has `left` characters of the text from it on. -/
def Place.before (text : List Char) (left : Nat) : Place :=
  let read := text.take (text.length - left)
  { offset := read.length
    line := read.count '\n' + 1
    column := (read.reverse.takeWhile (· != '\n')).length + 1 }

/-- Why a text is not read. Inside the reader a defect is placed by the number of characters left. -/
inductive Stop where
  | defect (what : Defect) (left : Nat)
  | integer (cause : IntegerError)

/-- The white space of JSON. -/
def isBlank (c : Char) : Bool :=
  c == ' ' || c == '\t' || c == '\n' || c == '\r'

def skipBlanks (cs : List Char) : List Char :=
  cs.dropWhile isBlank

def hexValue? (c : Char) : Option Nat :=
  if c.isDigit then some (c.toNat - 48)
  else if 'a' ≤ c ∧ c ≤ 'f' then some (c.toNat - 87)
  else if 'A' ≤ c ∧ c ≤ 'F' then some (c.toNat - 55)
  else none

/-- The sixteen-bit unit that four hexadecimal digits write, if a further character follows them. -/
def unit? : List Char → Option (Nat × List Char)
  | a :: b :: c :: d :: e :: rest => do
    let a ← hexValue? a
    let b ← hexValue? b
    let c ← hexValue? c
    let d ← hexValue? d
    return (((a * 16 + b) * 16 + c) * 16 + d, e :: rest)
  | _ => none

/-- The character that a unit stands for; a lone surrogate stands for none and becomes the replacement
character. -/
def charOfUnit (n : Nat) : Char :=
  if 0xD800 ≤ n ∧ n < 0xE000 then '\ufffd' else Char.ofNat n

/-- The low surrogate that completes a pair, written right after the high one. -/
def lowSurrogate? (cs : List Char) : Except Stop (Option (Nat × List Char)) :=
  match cs with
  | '\\' :: 'u' :: rest =>
    if rest.length < 5 then .ok none
    else match unit? rest with
      | none => .error (.defect .unicodeEscape (rest.length + 1))
      | some (n, rest) => .ok (if 0xDC00 ≤ n ∧ n < 0xE000 then some (n, rest) else none)
  | _ => .ok none

/-- The character after `\u`. -/
def unicodeEscape (rest : List Char) : Except Stop (Char × List Char) :=
  match unit? rest with
  | none => .error (.defect .unicodeEscape (rest.length + 1))
  | some (high, rest) =>
    if 0xD800 ≤ high ∧ high < 0xDC00 then do
      match ← lowSurrogate? rest with
      | some (low, rest) =>
        return (Char.ofNat (0x10000 + (high - 0xD800) * 0x400 + (low - 0xDC00)), rest)
      | none => return (charOfUnit high, rest)
    else .ok (charOfUnit high, rest)

/-- The character that a short escape stands for. -/
def shortEscape? : Char → Option Char
  | '"' => some '"'
  | '\\' => some '\\'
  | '/' => some '/'
  | 'b' => some '\x08'
  | 'f' => some '\x0c'
  | 'n' => some '\n'
  | 'r' => some '\r'
  | 't' => some '\t'
  | _ => none

/-- The rest of a string after its opening quote; `opened` is the number of characters from that quote on. -/
def stringRest (opened : Nat) (cs : List Char) : Except Stop (List Char × List Char) :=
  match cs with
  | [] => .error (.defect .openString opened)
  | '"' :: rest => .ok ([], rest)
  | '\\' :: rest =>
    match rest with
    | [] => .error (.defect .openString opened)
    | 'u' :: digits => do
      let (c, after) ← unicodeEscape digits
      if after.length < digits.length then
        let (s, rest) ← stringRest opened after
        return (c :: s, rest)
      else return ([], after)
    | e :: after =>
      match shortEscape? e with
      | none => .error (.defect .unknownEscape cs.length)
      | some c => do
        let (s, rest) ← stringRest opened after
        return (c :: s, rest)
  | c :: rest =>
    if c.toNat < 32 then .error (.defect .controlCharacter cs.length)
    else do
      let (s, rest) ← stringRest opened rest
      return (c :: s, rest)
termination_by cs.length

/-- A number text: sign, digits, fraction and exponent. The last two make it a float. -/
structure NumberText where
  negative : Bool
  digits : List Char
  fraction : Option (List Char)
  exponent : Option Int

/-- The digits after a point, if there is at least one. -/
def fraction? : List Char → Option (List Char × List Char)
  | '.' :: rest =>
    match rest.takeWhile Char.isDigit with
    | [] => none
    | ds => some (ds, rest.dropWhile Char.isDigit)
  | _ => none

/-- An exponent with at least one digit. -/
def exponent? : List Char → Option (Int × List Char)
  | e :: rest =>
    if e = 'e' ∨ e = 'E' then
      let (negative, rest) := signed rest
      match rest.takeWhile Char.isDigit with
      | [] => none
      | ds =>
        let n : Int := ofDigits ds
        some (if negative then -n else n, rest.dropWhile Char.isDigit)
    else none
  | [] => none

/-- The whole digits of a number: a single zero, or digits that do not start with one. -/
def wholeDigits? (cs : List Char) : Option (List Char × List Char) :=
  match cs with
  | '0' :: rest => some (['0'], rest)
  | c :: _ => if c.isDigit then some (cs.takeWhile Char.isDigit, cs.dropWhile Char.isDigit) else none
  | [] => none

def number? (cs : List Char) : Option (NumberText × List Char) := do
  let (negative, body) := match cs with
    | '-' :: rest => (true, rest)
    | _ => (false, cs)
  let (digits, rest) ← wholeDigits? body
  let (fraction, rest) := match fraction? rest with
    | some (ds, rest) => (some ds, rest)
    | none => (none, rest)
  let (exponent, rest) := match exponent? rest with
    | some (n, rest) => (some n, rest)
    | none => (none, rest)
  return (⟨negative, digits, fraction, exponent⟩, rest)

def NumberText.value (t : NumberText) : Except Stop Scalar :=
  if t.fraction.isNone && t.exponent.isNone then
    if maxDigits < t.digits.length then .error (.integer (.tooLong t.digits.length))
    else
      let n : Int := ofDigits t.digits
      .ok (.int (if t.negative then -n else n))
  else
    let ds := t.fraction.getD []
    .ok (.float (.ofDecimal t.negative (ofDigits (t.digits ++ ds)) (t.exponent.getD 0 - ds.length)))

def wordValues : List (List Char × Scalar) :=
  [("null".toList, .null), ("true".toList, .bool true), ("false".toList, .bool false),
   ("NaN".toList, .float .nan), ("Infinity".toList, .float (.infinite false)),
   ("-Infinity".toList, .float (.infinite true))]

/-- A value that has no parts: a word or a number. -/
def simpleValue (cs : List Char) : Except Stop (Scalar × List Char) :=
  match wordValues.findSome? fun (word, value) => (Text.after? word cs).map (value, ·) with
  | some found => .ok found
  | none =>
    match number? cs with
    | some (t, rest) => do return (← t.value, rest)
    | none => .error (.defect .noValue cs.length)

mutual

/-- The value at the start of the text. Each call spends one unit of fuel, and every value, item and entry takes at
least one character. -/
def value (fuel : Nat) (cs : List Char) : Except Stop (Data × List Char) :=
  match fuel with
  | 0 => .error (.defect .noValue cs.length)
  | fuel + 1 =>
    match cs with
    | '"' :: rest => do
      let (s, rest) ← stringRest cs.length rest
      return (.text (String.ofList s), rest)
    | '[' :: rest =>
      match skipBlanks rest with
      | ']' :: rest => .ok (.list [], rest)
      | rest => do
        let (items, rest) ← items fuel rest
        return (.list items, rest)
    | '{' :: rest =>
      match skipBlanks rest with
      | '}' :: rest => .ok (.map [], rest)
      | rest => do
        let (entries, rest) ← entries fuel [] rest
        return (.map entries, rest)
    | _ => do
      let (s, rest) ← simpleValue cs
      return (.scalar s, rest)

/-- The items of a list up to its closing bracket. -/
def items (fuel : Nat) (cs : List Char) : Except Stop (List Data × List Char) :=
  match fuel with
  | 0 => .error (.defect .noValue cs.length)
  | fuel + 1 => do
    let (item, rest) ← value fuel cs
    match skipBlanks rest with
    | ']' :: rest => return ([item], rest)
    | ',' :: rest =>
      let (more, rest) ← items fuel (skipBlanks rest)
      return (item :: more, rest)
    | rest => .error (.defect .noComma rest.length)

/-- The entries of a map up to its closing brace, put into those already read. -/
def entries (fuel : Nat) (read : List (Scalar × Data)) (cs : List Char) :
    Except Stop (List (Scalar × Data) × List Char) :=
  match fuel with
  | 0 => .error (.defect .noName cs.length)
  | fuel + 1 =>
    match cs with
    | '"' :: rest => do
      let (name, rest) ← stringRest cs.length rest
      match skipBlanks rest with
      | ':' :: rest =>
        let (item, rest) ← value fuel (skipBlanks rest)
        let read := Fields.putBy (· == ·) read (.text (String.ofList name)) item
        match skipBlanks rest with
        | '}' :: rest => return (read, rest)
        | ',' :: rest => entries fuel read (skipBlanks rest)
        | rest => .error (.defect .noComma rest.length)
      | rest => .error (.defect .noColon rest.length)
    | _ => .error (.defect .noName cs.length)

end

/-- Why a document is not read. -/
inductive ReadError where
  | defect (what : Defect) (place : Place)
  | integer (cause : IntegerError)

/-- Reads a document: one value with blanks around it. -/
def read (text : String) : Except ReadError Data :=
  let cs := text.toList
  let result : Except Stop Data :=
    match cs with
    | '\ufeff' :: _ => .error (.defect .byteOrderMark cs.length)
    | _ => do
      let (data, rest) ← value (2 * cs.length + 2) (skipBlanks cs)
      match skipBlanks rest with
      | [] => return data
      | rest => .error (.defect .extraData rest.length)
  result.mapError fun
    | .defect what left => .defect what (Place.before cs left)
    | .integer cause => .integer cause

end EdgeRoutes.Json
