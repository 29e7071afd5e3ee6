import EdgeRoutes.CommandLine.Form

/-! Usage lines and help pages of a form, laid out for a terminal of eighty columns. -/

namespace EdgeRoutes.CommandLine

/-- The columns in use. -/
def columns : Nat := 78

/-- The last column at which explanations start. -/
def explanationColumn : Nat := 24

def usageLabel : String := "usage: "

/-- Words put on lines, a blank between neighbours. A word that does not fit into the room left on a line starts the
next one. -/
def fillLines (width room : Nat) (line : List String) : List String → List String
  | [] => if line.isEmpty then [] else [Text.joined " " line]
  | word :: words =>
    if room < word.length && !line.isEmpty then
      Text.joined " " line :: fillLines width (width - word.length - 1) [word] words
    else fillLines width (room - word.length - 1) (line ++ [word]) words

def choice (words : List String) : String := "\x7b" ++ Text.joined "," words ++ "\x7d"

/-- A spelling with what stands for the value. -/
def Switch.spelled (s : Switch) (spelling : String) : String :=
  match s.placeholder? with
  | some value => spelling ++ " " ++ value
  | none => spelling

def Switch.usage (s : Switch) : String :=
  "[" ++ s.spelled (s.spellings.head?.getD "") ++ "]"

namespace Form

def operandWords (f : Form) : List String :=
  if f.verbs.isEmpty then f.operands.map Operand.name
  else [choice (f.verbs.map Verb.name), "..."]

/-- The usage lines. If one line is too short, the operands start on a line of their own. -/
def usage (f : Form) : String :=
  let switches := f.switches.map Switch.usage
  let line := usageLabel ++ Text.joined " " (f.program :: switches ++ f.operandWords)
  if line.length ≤ columns then line ++ "\n"
  else
    let margin := usageLabel.length + f.program.length + 1
    let width := columns - margin
    let first := fillLines width (columns - usageLabel.length) [] (f.program :: switches)
    let second := fillLines width width [] f.operandWords
    usageLabel ++ Text.joined ("\n" ++ Js.spaces margin) (first ++ second) ++ "\n"

end Form

/-- An entry of a help page: how far it is moved in, what it is about, and the explanation. -/
structure HelpEntry where
  margin : Nat := 2
  label : String
  explanation : String := ""

namespace HelpEntry

/-- The column that the explanation would have next to the label. -/
def column (e : HelpEntry) : Nat := e.margin + e.label.length + 2

/-- The entry with its explanation at a column, below the label if that is too long. -/
def lines (e : HelpEntry) (column : Nat) : List String :=
  let label := Js.spaces e.margin ++ e.label
  if e.explanation.isEmpty then [label]
  else if e.column ≤ column then [label ++ Js.spaces (column - label.length) ++ e.explanation]
  else [label, Js.spaces column ++ e.explanation]

end HelpEntry

namespace Form

def operandEntries (f : Form) : List HelpEntry :=
  if f.verbs.isEmpty then f.operands.map fun o => { label := o.name, explanation := o.meaning }
  else
    { label := choice (f.verbs.map Verb.name) } ::
      f.verbs.map fun v => { margin := 4, label := v.name, explanation := v.meaning }

def switchEntries (f : Form) : List HelpEntry :=
  f.switches.map fun s =>
    { label := Text.joined ", " (s.spellings.map s.spelled), explanation := s.meaning }

/-- Entries under a heading; without entries there is no heading. -/
def helpSection (column : Nat) (heading : String) (entries : List HelpEntry) : List String :=
  if entries.isEmpty then []
  else "" :: (heading ++ ":") :: entries.flatMap (·.lines column)

/-- The help page. -/
def help (f : Form) : String :=
  let entries := f.operandEntries ++ f.switchEntries
  let column := min ((entries.map HelpEntry.column).foldl max 0) explanationColumn
  let lines := (if f.description.isEmpty then [] else ["", f.description]) ++
    helpSection column "positional arguments" f.operandEntries ++
    helpSection column "options" f.switchEntries
  f.usage ++ String.join (lines.map (· ++ "\n"))

end Form

end EdgeRoutes.CommandLine
