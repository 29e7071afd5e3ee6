import EdgeRoutes.Fault
import EdgeRoutes.Text.Blank
import EdgeRoutes.Text.Cut

/-! The layout of code: lines with a depth, and the width of the indentation. -/

namespace EdgeRoutes.Js

/-- `n` blanks. -/
def spaces (n : Nat) : String :=
  String.ofList (List.replicate n ' ')

/-- A text repeated. -/
def repeated (s : String) (n : Nat) : String :=
  String.join (List.replicate n s)

/-- Puts the indentation before every line that is not blank; blank lines become empty. A level below zero
indents as zero does. -/
def indentLines (lines : List String) (level : Int) (indent : String) : List String :=
  lines.map fun line =>
    if Text.isBlankText line then "" else repeated indent level.toNat ++ line

/-- A line of code and how deep it is nested. -/
structure CodeLine where
  depth : Nat
  text : String
  deriving DecidableEq

abbrev Code := List CodeLine

namespace Code

/-- Code on one level. -/
def flat (lines : List String) : Code :=
  lines.map (CodeLine.mk 0)

/-- The code one level deeper. -/
def nested (code : Code) : Code :=
  code.map fun line => { line with depth := line.depth + 1 }

/-- A block: its opening line, what it holds, and its closing line. -/
def block (opening : String) (body : Code) (closing : String) : Code :=
  flat [opening] ++ nested body ++ flat [closing]

/-- The text of the lines, with two blanks for each level. -/
def lines (code : Code) (level : Nat) : List String :=
  code.map fun line => if line.text.isEmpty then "" else spaces (2 * (level + line.depth)) ++ line.text

def render (code : Code) (level : Nat) : String :=
  Text.joined "\n" (code.lines level)

end Code

/-- Rewrites the leading blanks of a line: every full unit becomes one `indent`, the rest stays. -/
def reindentLine (indent : String) (unit : Nat) (line : List Char) : List Char :=
  let body := line.dropWhile (· == ' ')
  let width := line.length - body.length
  (List.replicate (width / unit) indent.toList).flatten ++ List.replicate (width % unit) ' ' ++ body

/-- Rewrites the indentation of a text from steps of `unit` to steps of `indent`. -/
def reindent (text indent unit : String) : Except Fault String :=
  if indent = unit then .ok text
  else if unit.isEmpty then .error .emptyUnit
  else
    .ok (String.ofList
      (['\n'].intercalate ((Text.lines text.toList).map (reindentLine indent unit.length))))

/-- Cuts a text down to a length, the suffix included. A length shorter than the suffix counts from the end of the
text. -/
def truncate (text : String) (max : Int) (suffix : String) : String :=
  if (text.length : Int) ≤ max then text
  else
    let keep : Int := max - suffix.length
    let kept := if keep < 0 then (text.length + keep).toNat else keep.toNat
    String.ofList (text.toList.take kept ++ suffix.toList)

end EdgeRoutes.Js
