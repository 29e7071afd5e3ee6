import EdgeRoutes.Data.Yaml.Plain
import EdgeRoutes.Js.Layout

/-! Writing settings files: maps and lists by indentation, lists not indented under their key. Text is written plain
where that reads back as the same text, else between single quotes, else between double quotes with
escapes. Long text is broken at blanks. -/

namespace EdgeRoutes.Yaml

open Number

/-- Text is broken where a line would be longer than this. -/
def lineWidth : Nat := 80

/-- How text may be written. -/
inductive Style where
  | plain
  | single
  | double
  deriving DecidableEq

/-- A blank, or the end of a line, or the end of the text. -/
def isSpacing : Option Char → Bool
  | none => true
  | some c => c == '\x00' || c == ' ' || c == '\t' || c == '\r' || c == '\n' || c == '\x85' ||
    c == '\u2028' || c == '\u2029'

/-- The character cannot stand in plain text outside brackets, because of the one before it and the one after. -/
def isIndicator (before : Option Char) (c : Char) (after : Option Char) : Bool :=
  match before with
  | none =>
    "#,[]\x7b\x7d&*!|>\x27\"%@\x60".toList.contains c ||
      (isSpacing after && (c == '?' || c == ':' || c == '-'))
  | some _ => (c == ':' && isSpacing after) || (c == '#' && isSpacing before)

/-- Some character of the text is an indicator. -/
def hasIndicator (before : Option Char) : List Char → Bool
  | [] => false
  | c :: rest => isIndicator before c rest.head? || hasIndicator (some c) rest

/-- Two neighbours with these properties. -/
def hasNeighbours (p q : Char → Bool) : List Char → Bool
  | c :: d :: rest => (p c && q d) || hasNeighbours p q (d :: rest)
  | _ => false

/-- The character needs an escape: it is no printable character of ASCII. -/
def isSpecial (c : Char) : Bool := c != '\n' && !(' ' ≤ c && c ≤ '~')

/-- Text can stand between single quotes. -/
def allowsSingle (cs : List Char) : Bool :=
  !cs.any isSpecial && !hasNeighbours (· == ' ') (· == '\n') cs && !hasNeighbours (· == '\n') (· == ' ') cs

/-- Text can stand by itself. -/
def allowsPlain (cs : List Char) : Bool :=
  let isEdge (c : Option Char) : Bool := c == some ' ' || c == some '\n'
  allowsSingle cs && !cs.contains '\n' && !isEdge cs.head? && !isEdge cs.getLast? &&
    !Text.starts "---".toList cs && !Text.starts "...".toList cs && !hasIndicator none cs

/-- How text is written; a key must be on one line. -/
def styleOf (isKey : Bool) (s : String) : Style :=
  let cs := s.toList
  if form s = .text ∧ allowsPlain cs then .plain
  else if allowsSingle cs ∧ !(isKey && cs.contains '\n') then .single
  else .double

/-- Text that is being written, and the column that it has reached. -/
structure Written where
  text : List Char := []
  column : Nat

namespace Written

def add (w : Written) (cs : List Char) : Written :=
  { text := w.text ++ cs, column := w.column + cs.length }

/-- Goes on in a new line. -/
def breakLine (w : Written) (indent : Nat) : Written :=
  { text := w.text ++ '\n' :: List.replicate indent ' ', column := indent }

end Written

/-- The pieces of a text: runs of blanks, runs of line ends, and runs of other characters. -/
def runs (cs : List Char) : List (List Char) :=
  cs.splitBy fun a b => (a == ' ') == (b == ' ') && (a == '\n') == (b == '\n')

/-- Plain text. A single blank is where a line may be broken. -/
def plainText (indent : Nat) (mayBreak : Bool) (w : Written) : List (List Char) → Written
  | [] => w
  | run :: more =>
    let w :=
      if run = [' '] ∧ lineWidth < w.column ∧ mayBreak then w.breakLine indent else w.add run
    plainText indent mayBreak w more

/-- A run of text between single quotes. -/
def singleRun (indent : Nat) (mayBreak inside : Bool) (w : Written) (run : List Char) : Written :=
  match run with
  | [' '] =>
    if lineWidth < w.column ∧ mayBreak ∧ inside then w.breakLine indent else w.add run
  | '\n' :: _ =>
    { text := w.text ++ run ++ '\n' :: List.replicate indent ' ', column := indent }
  | _ => w.add (run.flatMap fun c => if c = '\x27' then ['\x27', '\x27'] else [c])

/-- The runs of text between single quotes. A line is not broken at the ends of the text. -/
def singleText (indent : Nat) (mayBreak first : Bool) (w : Written) : List (List Char) → Written
  | [] => w
  | run :: more =>
    singleText indent mayBreak false
      (singleRun indent mayBreak (!first && !more.isEmpty) w run) more

def escapeLetter? : Char → Option Char
  | '\x00' => some '0'
  | '\x07' => some 'a'
  | '\x08' => some 'b'
  | '\t' => some 't'
  | '\n' => some 'n'
  | '\x0b' => some 'v'
  | '\x0c' => some 'f'
  | '\r' => some 'r'
  | '\x1b' => some 'e'
  | '"' => some '"'
  | '\\' => some '\\'
  | '\x85' => some 'N'
  | '\xa0' => some '_'
  | '\u2028' => some 'L'
  | '\u2029' => some 'P'
  | _ => none

/-- The digits of an escape are capitals. -/
def hexCapitals (width n : Nat) : List Char := (Text.hexDigits width n).map Char.toUpper

/-- The escape of a character that needs one. -/
def escape? (c : Char) : Option (List Char) :=
  if c != '"' && c != '\\' && ' ' ≤ c && c ≤ '~' then none
  else
    some <| match escapeLetter? c with
      | some letter => ['\\', letter]
      | none =>
        if c.toNat < 0x100 then '\\' :: 'x' :: hexCapitals 2 c.toNat
        else if c.toNat < 0x10000 then '\\' :: 'u' :: hexCapitals 4 c.toNat
        else '\\' :: 'U' :: hexCapitals 8 c.toNat

/-- Text between double quotes. `waiting` holds the characters that are not written yet. A line may be broken at
a blank and next to an escape, but not at the ends of the text. -/
def doubleText (indent : Nat) (mayBreak first : Bool) (w : Written) (waiting : List Char) :
    List Char → Written
  | [] => w.add waiting
  | c :: rest =>
    let inside := !first && !rest.isEmpty && mayBreak
    match escape? c with
    | some e =>
      let w := (w.add waiting).add e
      let w :=
        if inside ∧ lineWidth + 1 < w.column then
          let w := (w.add ['\\']).breakLine indent
          if rest.head? = some ' ' then w.add ['\\'] else w
        else w
      doubleText indent mayBreak false w [] rest
    | none =>
      if inside ∧ (c = ' ' ∨ waiting = []) ∧ lineWidth < w.column + waiting.length then
        let w := ((w.add waiting).add ['\\']).breakLine indent
        let w := if c = ' ' then w.add ['\\'] else w
        doubleText indent mayBreak false w [c] rest
      else doubleText indent mayBreak false w (waiting ++ [c]) rest

/-- Text after a blank, from a column on. -/
def textAt (indent column : Nat) (isKey : Bool) (s : String) : List Char :=
  let cs := s.toList
  match styleOf isKey s with
  | .plain => (plainText indent (!isKey) { column } (runs cs)).text
  | .single => '\x27' :: (singleText indent (!isKey) true { column := column + 1 } (runs cs)).text ++ ['\x27']
  | .double => '"' :: (doubleText indent (!isKey) true { column := column + 1 } [] cs).text ++ ['"']

/-- A number of 64 bits. A point is written even where there is only an exponent. -/
def floatText (x : Binary64) : List Char :=
  match x with
  | .nan => ".nan".toList
  | .infinite negative => if negative then "-.inf".toList else ".inf".toList
  | x =>
    let cs := x.text.toList
    match Text.cut? ['e'] cs with
    | some (before, after) =>
      if before.contains '.' then cs else before ++ ".0e".toList ++ after
    | none => cs

/-- A scalar, from a column on. -/
def scalarAt (indent column : Nat) (isKey : Bool) : Scalar → List Char
  | .null => "null".toList
  | .bool b => if b then "true".toList else "false".toList
  | .int n => (toString n).toList
  | .float x => floatText x
  | .text s => textAt indent column isKey s

/-- The key can stand before a colon on one line. -/
def isSimpleKey : Scalar → Bool
  | .text s => s.length < 128 && !s.isEmpty && !s.toList.contains '\n'
  | k => (scalarAt 0 0 true k).length < 128

def blanks (n : Nat) : List Char := List.replicate n ' '

mutual

/-- A value behind what stands in the line already, up to `column`. Maps and lists go to the next line, unless the
value is an item of a list. `inMap` tells that it belongs to a key. -/
def valueAt (indent column : Nat) (inMap : Bool) : Data → List Char
  | .scalar s => ' ' :: scalarAt (indent + 2) (column + 1) false s ++ ['\n']
  | .list [] => " []\n".toList
  | .map [] => " \x7b\x7d\n".toList
  | .list items =>
    if inMap then '\n' :: itemsAt indent items
    else ' ' :: (itemsAt (indent + 2) items).drop (indent + 2)
  | .map entries =>
    if inMap then '\n' :: entriesAt (indent + 2) entries
    else ' ' :: (entriesAt (indent + 2) entries).drop (indent + 2)

/-- The items of a list, each in a line of its own. -/
def itemsAt (indent : Nat) : List Data → List Char
  | [] => []
  | d :: ds => blanks indent ++ '-' :: valueAt indent (indent + 1) false d ++ itemsAt indent ds

/-- The entries of a map, each in a line of its own. -/
def entriesAt (indent : Nat) : List (Scalar × Data) → List Char
  | [] => []
  | (k, d) :: es =>
    let entry :=
      if isSimpleKey k then
        let name := scalarAt (indent + 2) indent true k
        name ++ ':' :: valueAt indent (indent + name.length + 1) true d
      else
        '?' :: ' ' :: scalarAt (indent + 2) (indent + 2) false k ++
          '\n' :: blanks indent ++ ':' :: valueAt indent (indent + 1) false d
    blanks indent ++ entry ++ entriesAt indent es

end

/-- A map as a file. -/
def page (entries : List (Scalar × Data)) : String :=
  String.ofList (entriesAt 0 entries)

end EdgeRoutes.Yaml
