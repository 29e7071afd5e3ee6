import EdgeRoutes.Js.Literal
import EdgeRoutes.Pattern.BracketClass
import EdgeRoutes.Text.Digit

/-! Translating the patterns of a configuration into JavaScript syntax. The translation reads a pattern piece by piece;
each piece contributes text, a problem or a note. -/

namespace EdgeRoutes.Pattern

/-- What a piece of a pattern contributes to its translation. -/
inductive Piece where
  | text (cs : List Char)
  | problem (p : Problem)
  | note (n : Note)

/-- The contributions of a piece and what remains to be read. -/
structure Step where
  pieces : List Piece
  rest : List Char

def Step.stop (problems : List Problem) : Step :=
  ⟨problems.map .problem, []⟩

/-- Escapes that have no counterpart. -/
def unsupportedEscapes : List Char := ['G', 'K', 'R', 'X', 'C']

/-- The piece after a backslash. -/
def escapeStep : List Char → Step
  | [] => .stop [.trailingBackslash]
  | 'Q' :: cs =>
    match Text.cut? ['\\', 'E'] cs with
    | some (literal, rest) => ⟨[.text (Js.escapePattern literal)], rest⟩
    | none => ⟨[.text (Js.escapePattern cs)], []⟩
  | 'A' :: cs => ⟨[.text ['^']], cs⟩
  | 'z' :: cs => ⟨[.text ['$']], cs⟩
  | 'Z' :: cs => ⟨[.text ['$']], cs⟩
  | 'h' :: cs => ⟨[.text ['[', ' ', '\\', 't', ']']], cs⟩
  | 'p' :: cs => ⟨[.problem .unicodeProperty], cs⟩
  | 'P' :: cs => ⟨[.problem .unicodeProperty], cs⟩
  | c :: cs =>
    if unsupportedEscapes.contains c then ⟨[.problem (.escape c)], cs⟩
    else if (Text.isDigit c && c != '0') || c == 'k' then
      ⟨[.note .backreference, .text ['\\', c]], cs⟩
    else ⟨[.text ['\\', c]], cs⟩

/-- Digits, perhaps signed, up to a closing parenthesis: a group called by its number. -/
def isNumberedCall (cs : List Char) : Bool :=
  let digits := match cs with
    | '+' :: ds => ds
    | '-' :: ds => ds
    | ds => ds
  let rest := digits.dropWhile fun c => (Text.decimalValue? c).isSome
  rest.length < digits.length && rest.head? == some ')'

/-- Option letters, some perhaps after a minus, up to a closing parenthesis or a colon. -/
def isInlineOptions (cs : List Char) : Bool :=
  let rest := cs.dropWhile Char.isAlpha
  let rest := match rest with
    | '-' :: more => more.dropWhile Char.isAlpha
    | more => more
  rest.head? == some ')' || rest.head? == some ':'

/-- The problem of a group that is not translated; `cs` follows the opening `(?`. -/
def groupProblem (cs : List Char) : Problem :=
  match cs with
  | '>' :: _ => .atomicGroup
  | 'R' :: ')' :: _ => .recursion
  | 'P' :: '>' :: _ => .recursion
  | '&' :: _ => .recursion
  | _ =>
    if isNumberedCall cs then .recursion
    else match cs with
      | '(' :: _ => .conditional
      | '|' :: _ => .branchReset
      | _ => if isInlineOptions cs then .inlineModifier else .unknownGroup

/-- The piece after an opening `(?`. Comments are dropped; of a group that is not translated only the parenthesis
is read. -/
def groupStep : List Char → Step
  | '#' :: cs =>
    match Text.cut? [')'] cs with
    | some (_, rest) => ⟨[], rest⟩
    | none => ⟨[], []⟩
  | 'P' :: '<' :: cs => ⟨[.note .namedGroup, .text ['(', '?', '<']], cs⟩
  | 'P' :: '=' :: cs =>
    match Text.cut? [')'] cs with
    | some (name, rest) => ⟨[.note .backreference, .text ("\\k<".toList ++ name ++ ['>'])], rest⟩
    | none => .stop [.unterminatedReference]
  | '<' :: '=' :: cs => ⟨[.note .lookbehind, .text ['(', '?', '<', '=']], cs⟩
  | '<' :: '!' :: cs => ⟨[.note .lookbehind, .text ['(', '?', '<', '!']], cs⟩
  | '<' :: cs => ⟨[.note .namedGroup, .text ['(', '?', '<']], cs⟩
  | ':' :: cs => ⟨[.text ['(', '?', ':']], cs⟩
  | '=' :: cs => ⟨[.text ['(', '?', '=']], cs⟩
  | '!' :: cs => ⟨[.text ['(', '?', '!']], cs⟩
  | cs => ⟨[.problem (groupProblem cs), .text ['(']], '?' :: cs⟩

/-- The piece that a bracket opens. An unterminated class gives no text and ends the pattern. -/
def classStep (cs : List Char) : Step :=
  let c := bracketClass cs
  match c.rest with
  | some rest => ⟨c.problems.map .problem ++ [.text c.text], rest⟩
  | none => .stop (c.problems ++ [.unterminatedClass])

/-- The characters that a `+` makes possessive. -/
def isQuantifier (c : Char) : Bool :=
  c == '*' || c == '+' || c == '?' || c == '\x7d'

/-- The first piece of a pattern that is not empty. -/
def step (c : Char) (cs : List Char) : Step :=
  match c, cs with
  | '\\', cs => escapeStep cs
  | '[', cs => classStep cs
  | '(', '?' :: cs => groupStep cs
  | c, '+' :: rest =>
    if isQuantifier c then ⟨[.problem .possessive, .text [c]], rest⟩ else ⟨[.text [c]], '+' :: rest⟩
  | c, cs => ⟨[.text [c]], cs⟩

def pieces (cs : List Char) : List Piece :=
  match cs with
  | [] => []
  | c :: cs =>
    let s := step c cs
    s.pieces ++ if s.rest.length < cs.length + 1 then pieces s.rest else []
termination_by cs.length
decreasing_by assumption

/-- The text of the pieces. -/
def sourceOf (ps : List Piece) : List Char :=
  ps.flatMap fun
    | .text cs => cs
    | _ => []

def problemsOf (ps : List Piece) : List Problem :=
  ps.filterMap fun
    | .problem p => some p
    | _ => none

/-- The notes, each once, in order of first occurrence. -/
def notesOf (ps : List Piece) : List Note :=
  (ps.filterMap fun
    | .note n => some n
    | _ => none).foldl (fun seen n => if seen.contains n then seen else seen ++ [n]) []

end EdgeRoutes.Pattern
