import EdgeRoutes.Data.Json.Reader

/-! The tokens of a settings file. Indentation opens and closes blocks, and text becomes a key when a colon follows it
on the same line; both are settled here, so that what comes after sees brackets and separators only. -/

namespace EdgeRoutes.Yaml

inductive Token where
  | documentStart
  | documentEnd
  | listStart
  | mapStart
  | blockEnd
  | flowListStart
  | flowListEnd
  | flowMapStart
  | flowMapEnd
  | entry
  | comma
  | key
  | value
  /-- Text; plain text may stand for something else. -/
  | scalar (text : String) (plain : Bool)
  deriving DecidableEq

/-- The rest of a text and where it starts. -/
structure Cursor where
  rest : List Char
  index : Nat := 0
  line : Nat := 0
  column : Nat := 0

/-- The characters that end a line. -/
def isBreak (c : Char) : Bool :=
  c == '\n' || c == '\r' || c == '\x85' || c == '\u2028' || c == '\u2029'

/-- A blank, the end of a line, or the end of the text. -/
def isGap : Option Char → Bool
  | none => true
  | some c => c == ' ' || c == '\t' || isBreak c

namespace Cursor

def peek (c : Cursor) (n : Nat) : Option Char := c.rest[n]?

/-- The next place. -/
def next (c : Cursor) : Cursor :=
  match c.rest with
  | [] => c
  | ch :: rest =>
    if isBreak ch && !(ch == '\r' && rest.head? == some '\n') then
      { rest, index := c.index + 1, line := c.line + 1, column := 0 }
    else
      { rest, index := c.index + 1, line := c.line
        column := if ch == '\ufeff' then c.column else c.column + 1 }

/-- The place `n` characters on. -/
def skip (c : Cursor) : Nat → Cursor
  | 0 => c
  | n + 1 => c.next.skip n

/-- The place after the characters with a property. -/
def skipWhile (c : Cursor) (p : Char → Bool) : Cursor :=
  c.skip (c.rest.takeWhile p).length

/-- The end of a line, as the character it stands for, and the place after it. -/
def lineEnd? (c : Cursor) : Option (Char × Cursor) :=
  match c.rest with
  | '\r' :: '\n' :: _ => some ('\n', c.skip 2)
  | ch :: _ =>
    if ch == '\u2028' || ch == '\u2029' then some (ch, c.next)
    else if isBreak ch then some ('\n', c.next)
    else none
  | [] => none

/-- A mark of three characters that starts or ends a document. -/
def isMark (c : Cursor) (mark : String) : Bool :=
  Text.starts mark.toList c.rest && isGap (c.peek 3)

def isDocumentMark (c : Cursor) : Bool := c.isMark "---" || c.isMark "..."

/-- Skips blanks, comments and empty lines; tells whether a line ended. -/
def skipGap (c : Cursor) (fuel : Nat) : Cursor × Bool :=
  match fuel with
  | 0 => (c, false)
  | fuel + 1 =>
    let c := c.skipWhile (· == ' ')
    let c := if c.peek 0 == some '#' then c.skipWhile (!isBreak ·) else c
    match c.lineEnd? with
    | some (_, c) => ((c.skipGap fuel).1, true)
    | none => (c, false)

end Cursor

/-- The line ends and blanks inside a text, as the line ends that count; nothing if a document ends there. -/
def foldedBreaks (blank : Char → Bool) (c : Cursor) (fuel : Nat) : Option (List Char × Cursor) :=
  match fuel with
  | 0 => none
  | fuel + 1 =>
    if c.isDocumentMark then none
    else
      let c := c.skipWhile blank
      match c.lineEnd? with
      | some (b, c) => (foldedBreaks blank c fuel).map fun (bs, c) => (b :: bs, c)
      | none => some ([], c)

/-- What a line end and those after it become: a single one becomes a blank. -/
def folded (first : Char) (more : List Char) : List Char :=
  if first != '\n' then first :: more else if more.isEmpty then [' '] else more

/-- The character ends plain text. Inside brackets there are more such characters. -/
def endsPlain (flow : Bool) (c : Char) (next : Option Char) : Bool :=
  isGap (some c) ||
    (c == ':' && (isGap next || flow && next.any fun d => ",[]\x7b\x7d".toList.contains d)) ||
    (flow && ",?[]\x7b\x7d".toList.contains c)

/-- The characters of plain text up to a gap. -/
def plainRun (flow : Bool) : List Char → List Char
  | [] => []
  | c :: rest => if endsPlain flow c rest.head? then [] else c :: plainRun flow rest

/-- The gap after a run of plain text, the place after it, and whether a line ended in it. There is no gap where
a document ends. -/
def plainGap (c : Cursor) : List Char × Cursor × Bool :=
  let blanks := c.rest.takeWhile (· == ' ')
  let c := c.skip blanks.length
  match c.lineEnd? with
  | none => (blanks, c, false)
  | some (b, after) =>
    match foldedBreaks (· == ' ') after (after.rest.length + 1) with
    | some (more, c) => (folded b more, c, true)
    | none => ([], after, true)

/-- Plain text from the second run on: its characters, the place after it, and whether a line ended last. -/
def plainRest (flow : Bool) (indent : Int) (c : Cursor) (fuel : Nat) : List Char × Cursor × Bool :=
  match fuel with
  | 0 => ([], c, false)
  | fuel + 1 =>
    let (gap, after, crossed) := plainGap c
    if gap.isEmpty || after.peek 0 == some '#' || (!flow && (after.column : Int) < indent) then
      ([], after, crossed)
    else
      match plainRun flow after.rest with
      | [] => ([], after, crossed)
      | run =>
        let (more, last, crossed) := plainRest flow indent (after.skip run.length) fuel
        (gap ++ run ++ more, last, crossed)

/-- The character that an escape of one letter stands for. -/
def escapeValue? : Char → Option Char
  | '0' => some '\x00'
  | 'a' => some '\x07'
  | 'b' => some '\x08'
  | 't' | '\t' => some '\t'
  | 'n' => some '\n'
  | 'v' => some '\x0b'
  | 'f' => some '\x0c'
  | 'r' => some '\r'
  | 'e' => some '\x1b'
  | ' ' => some ' '
  | '"' => some '"'
  | '\\' => some '\\'
  | '/' => some '/'
  | 'N' => some '\x85'
  | '_' => some '\xa0'
  | 'L' => some '\u2028'
  | 'P' => some '\u2029'
  | _ => none

/-- How many hexadecimal digits follow the letter of an escape. -/
def escapeWidth? : Char → Option Nat
  | 'x' => some 2
  | 'u' => some 4
  | 'U' => some 8
  | _ => none

/-- The character that hexadecimal digits stand for. -/
def hexChar? (ds : List Char) (width : Nat) : Option Char := do
  let values ← ds.mapM Json.hexValue?
  let n := values.foldl (fun n v => 16 * n + v) 0
  if ds.length = width ∧ n < 0x110000 then some (Json.charOfUnit n) else none

/-- The blanks that are dropped around the end of a line in quoted text. -/
def isQuotedBlank (c : Char) : Bool := c == ' ' || c == '\t'

/-- The rest of quoted text after its opening quote. -/
def quotedRest (double : Bool) (c : Cursor) (fuel : Nat) : Option (List Char × Cursor) :=
  match fuel with
  | 0 => none
  | fuel + 1 =>
    match c.rest with
    | [] => none
    | ch :: rest =>
      let goOn (cs : List Char) (c : Cursor) :=
        (quotedRest double c fuel).map fun (more, c) => (cs ++ more, c)
      if ch == (if double then '"' else '\x27') then
        if !double && rest.head? == some '\x27' then goOn ['\x27'] (c.skip 2) else some ([], c.next)
      else if double && ch == '\\' then do
        let e ← rest.head?
        let after := c.skip 2
        match escapeValue? e, escapeWidth? e with
        | some value, _ => goOn [value] after
        | none, some width =>
          let value ← hexChar? (after.rest.take width) width
          goOn [value] (after.skip width)
        | none, none =>
          let (_, c) ← c.next.lineEnd?
          let (more, c) ← foldedBreaks isQuotedBlank c (c.rest.length + 1)
          goOn more c
      else if isGap (some ch) then
        let blanks := c.rest.takeWhile isQuotedBlank
        let c := c.skip blanks.length
        match c.lineEnd? with
        | none => goOn blanks c
        | some (b, c) => do
          let (more, c) ← foldedBreaks isQuotedBlank c (c.rest.length + 1)
          goOn (folded b more) c
      else goOn [ch] c.next

/-- Text that becomes a key if a colon follows it. -/
structure PendingKey where
  flow : Nat
  /-- How many tokens stand before it. -/
  position : Nat
  /-- Nothing else than a key can stand here. -/
  required : Bool
  index : Nat
  line : Nat
  column : Nat

/-- How far a text has been read. -/
structure Scanner where
  cursor : Cursor
  tokens : List Token := []
  /-- How deep the reading is inside brackets. -/
  flow : Nat := 0
  /-- The column of the innermost block, and of those around it. -/
  indent : Int := -1
  indents : List Int := []
  keyAllowed : Bool := true
  pending : List PendingKey := []

namespace Scanner

def push (s : Scanner) (t : Token) : Scanner := { s with tokens := s.tokens ++ [t] }

def insert (s : Scanner) (position : Nat) (t : Token) : Scanner :=
  { s with tokens := s.tokens.take position ++ t :: s.tokens.drop position }

/-- Closes the blocks that are indented more than a column. -/
def unwind (s : Scanner) (column : Int) : Scanner :=
  if s.flow ≠ 0 then s
  else
    let open_ := s.indent :: s.indents
    let closed := open_.takeWhile (column < ·)
    let left := open_.drop closed.length
    { s with
      tokens := s.tokens ++ closed.map fun _ => .blockEnd
      indent := left.head?.getD (-1)
      indents := left.drop 1 }

/-- Opens a block at a column that is indented more than the block around it. -/
def opensBlock (s : Scanner) (column : Nat) : Bool := s.indent < column

def indentTo (s : Scanner) (column : Nat) : Scanner :=
  if s.opensBlock column then { s with indent := column, indents := s.indent :: s.indents } else s

/-- Opens a block at the present column, if it is new there. -/
def openBlock (s : Scanner) (t : Token) : Scanner :=
  if s.opensBlock s.cursor.column then (s.push t).indentTo s.cursor.column else s

/-- Gives up a key that was pending at the present depth. -/
def dropKey (s : Scanner) : Option Scanner :=
  if s.pending.any fun k => k.flow == s.flow && k.required then none
  else some { s with pending := s.pending.filter (·.flow != s.flow) }

/-- Gives up the keys that are too far back: on another line, or more than 1024 characters away. -/
def dropStaleKeys (s : Scanner) : Option Scanner :=
  let stale (k : PendingKey) : Bool :=
    k.line != s.cursor.line || 1024 < s.cursor.index - k.index
  if s.pending.any fun k => stale k && k.required then none
  else some { s with pending := s.pending.filter (!stale ·) }

/-- What comes now may become a key. -/
def noteKey (s : Scanner) : Option Scanner :=
  if s.keyAllowed then do
    let required := s.flow == 0 && s.indent == s.cursor.column
    let s ← s.dropKey
    let key : PendingKey :=
      { flow := s.flow, position := s.tokens.length, required, index := s.cursor.index
        line := s.cursor.line, column := s.cursor.column }
    return { s with pending := key :: s.pending }
  else some s

/-- A mark that stands by itself. -/
def mark (s : Scanner) (t : Token) (width : Nat) : Scanner :=
  { s.push t with cursor := s.cursor.skip width }

/-- A mark that starts or ends a document. -/
def documentMark (s : Scanner) (t : Token) : Option Scanner := do
  let s ← (s.unwind (-1)).dropKey
  return { s.mark t 3 with keyAllowed := false }

def flowStart (s : Scanner) (t : Token) : Option Scanner := do
  let s ← s.noteKey
  return { s.mark t 1 with flow := s.flow + 1, keyAllowed := true }

def flowEnd (s : Scanner) (t : Token) : Option Scanner := do
  let s ← s.dropKey
  return { s.mark t 1 with flow := s.flow - 1, keyAllowed := false }

def comma (s : Scanner) : Option Scanner := do
  let s ← s.dropKey
  return { s.mark .comma 1 with keyAllowed := true }

/-- An entry of a list. -/
def entry (s : Scanner) : Option Scanner := do
  if s.flow == 0 && !s.keyAllowed then none
  let s := if s.flow == 0 then s.openBlock .listStart else s
  let s ← s.dropKey
  return { s.mark .entry 1 with keyAllowed := true }

/-- A key that is marked as one. -/
def explicitKey (s : Scanner) : Option Scanner := do
  if s.flow == 0 && !s.keyAllowed then none
  let s := if s.flow == 0 then s.openBlock .mapStart else s
  let s ← s.dropKey
  return { s.mark .key 1 with keyAllowed := s.flow == 0 }

/-- The colon before a value. Text that was pending becomes its key. -/
def value (s : Scanner) : Option Scanner :=
  match s.pending.find? (·.flow == s.flow) with
  | some k =>
    let s := { s with pending := s.pending.filter (·.flow != s.flow) }
    let s := s.insert k.position .key
    let s :=
      if s.flow == 0 && s.opensBlock k.column then
        (s.insert k.position .mapStart).indentTo k.column
      else s
    some { s.mark .value 1 with keyAllowed := false }
  | none => do
    if s.flow == 0 && !s.keyAllowed then none
    let s := if s.flow == 0 then s.openBlock .mapStart else s
    let s ← s.dropKey
    return { s.mark .value 1 with keyAllowed := s.flow == 0 }

def quoted (s : Scanner) (double : Bool) : Option Scanner := do
  let s ← s.noteKey
  let (text, cursor) ← quotedRest double s.cursor.next (s.cursor.rest.length + 1)
  return { s.push (.scalar (String.ofList text) false) with cursor, keyAllowed := false }

def plain (s : Scanner) : Option Scanner := do
  let s ← s.noteKey
  let flow := s.flow != 0
  let run := plainRun flow s.cursor.rest
  let (more, cursor, crossed) :=
    plainRest flow (s.indent + 1) (s.cursor.skip run.length) s.cursor.rest.length
  return { s.push (.scalar (String.ofList (run ++ more)) true) with cursor, keyAllowed := crossed }

/-- The character can start plain text. -/
def startsPlain (flow : Bool) (c : Char) (next : Option Char) : Bool :=
  !("-?:,[]\x7b\x7d#&*!|>\x27\"%@\x60".toList.contains c || isGap (some c)) ||
    (!isGap next && (c == '-' || !flow && (c == '?' || c == ':')))

/-- The token at a place where one starts. Anchors, tags and text in blocks are not known. -/
def token (s : Scanner) (c : Char) : Option Scanner :=
  let next := s.cursor.peek 1
  let flow := s.flow != 0
  let atStart := s.cursor.column == 0
  if atStart && c == '%' then none
  else if atStart && s.cursor.isMark "---" then s.documentMark .documentStart
  else if atStart && s.cursor.isMark "..." then s.documentMark .documentEnd
  else if c == '[' then s.flowStart .flowListStart
  else if c == '\x7b' then s.flowStart .flowMapStart
  else if c == ']' then s.flowEnd .flowListEnd
  else if c == '\x7d' then s.flowEnd .flowMapEnd
  else if c == ',' then s.comma
  else if c == '-' && isGap next then s.entry
  else if c == '?' && (flow || isGap next) then s.explicitKey
  else if c == ':' && (flow || isGap next) then s.value
  else if c == '\x27' then s.quoted false
  else if c == '"' then s.quoted true
  else if startsPlain flow c next then s.plain
  else none

/-- Reads on to the end of the text. Every token takes at least one character. -/
def finish (s : Scanner) (fuel : Nat) : Option (List Token) :=
  match fuel with
  | 0 => none
  | fuel + 1 => do
    let (cursor, crossed) := s.cursor.skipGap (s.cursor.rest.length + 1)
    let s := { s with cursor, keyAllowed := s.keyAllowed || (crossed && s.flow == 0) }
    let s ← s.dropStaleKeys
    let s := s.unwind s.cursor.column
    match s.cursor.rest with
    | [] =>
      let s ← (s.unwind (-1)).dropKey
      return s.tokens
    | c :: _ => (← s.token c).finish fuel

end Scanner

/-- The tokens of a text; nothing if it is malformed. A mark for the order of bytes may come first. -/
def tokens (cs : List Char) : Option (List Token) :=
  let start : Cursor := { rest := cs }
  let cursor := if cs.head? == some '\ufeff' then start.next else start
  Scanner.finish { cursor } (cs.length + 2)

end EdgeRoutes.Yaml
