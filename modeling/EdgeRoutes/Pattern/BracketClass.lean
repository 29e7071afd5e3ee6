import EdgeRoutes.Pattern.Problem
import EdgeRoutes.Text.Cut

/-! Bracket classes. A class is copied with three changes: a `]` that opens the class and an inner `[` are escaped, the
escape for horizontal blanks is spelled out, and named classes are replaced by their members. -/

namespace EdgeRoutes.Pattern

def namedClasses : List (String × String) :=
  [("alnum", "a-zA-Z0-9"), ("alpha", "a-zA-Z"), ("ascii", "\\x00-\\x7F"), ("blank", " \\t"),
   ("cntrl", "\\x00-\\x1F\\x7F"), ("digit", "0-9"), ("graph", "\\x21-\\x7E"), ("lower", "a-z"),
   ("print", "\\x20-\\x7E"), ("punct", "!-\\/:-@\\[-\x60\x7b-~"), ("space", " \\t\\r\\n\\v\\f"),
   ("upper", "A-Z"), ("word", "\\w"), ("xdigit", "0-9A-Fa-f")]

def namedClass (name : List Char) : List Char × List Problem :=
  match name with
  | '^' :: _ => ([], [.negatedClass (String.ofList name)])
  | _ =>
    match namedClasses.find? (·.1 == String.ofList name) with
    | some (_, members) => (members.toList, [])
    | none => ([], [.unknownClass (String.ofList name)])

/-- What was read of a class: its text, the problems met, and what follows the closing bracket, if there is
one. -/
structure ClassText where
  text : List Char
  problems : List Problem
  rest : Option (List Char)

/-- Puts text and problems before what was read. -/
def ClassText.before (c : ClassText) (text : List Char) (problems : List Problem) : ClassText :=
  { c with text := text ++ c.text, problems := problems ++ c.problems }

/-- The members of a class up to its closing bracket. -/
def classMembers (cs : List Char) : ClassText :=
  match cs with
  | [] => ⟨[], [], none⟩
  | '\\' :: 'h' :: cs => (classMembers cs).before [' ', '\\', 't'] []
  | '\\' :: c :: cs => (classMembers cs).before ['\\', c] []
  | '[' :: ':' :: cs =>
    match Text.cut? [':', ']'] cs with
    | some (name, rest) =>
      if rest.length < cs.length then
        let (text, problems) := namedClass name
        (classMembers rest).before text problems
      else ⟨[], [], none⟩
    | none => (classMembers (':' :: cs)).before ['\\', '['] []
  | '[' :: cs => (classMembers cs).before ['\\', '['] []
  | ']' :: cs => ⟨[']'], [], some cs⟩
  | c :: cs => (classMembers cs).before [c] []
termination_by cs.length

/-- A class after its opening bracket. -/
def bracketClass (cs : List Char) : ClassText :=
  match cs with
  | '^' :: ']' :: cs => (classMembers cs).before ['[', '^', '\\', ']'] []
  | '^' :: cs => (classMembers cs).before ['[', '^'] []
  | ']' :: cs => (classMembers cs).before ['[', '\\', ']'] []
  | cs => (classMembers cs).before ['['] []

end EdgeRoutes.Pattern
