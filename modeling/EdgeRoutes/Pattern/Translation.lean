import EdgeRoutes.Pattern.Grammar.Check
import EdgeRoutes.Pattern.Translate
import EdgeRoutes.Text.Word

/-! Translations: a pattern of the configuration together with its JavaScript form and everything there is to report
about it. -/

namespace EdgeRoutes.Pattern

/-- The engine that will run a pattern. -/
inductive Dialect where
  | ecmascript
  | minimal
  deriving DecidableEq

/-- Named groups in the spelling of the grammar check: `(?<` becomes `(?P<` unless it opens a lookbehind. -/
def namedGroupsSpelled : List Char → List Char
  | '(' :: '?' :: '<' :: cs =>
    if cs.head? == some '=' || cs.head? == some '!' then '(' :: '?' :: '<' :: namedGroupsSpelled cs
    else '(' :: '?' :: 'P' :: '<' :: namedGroupsSpelled cs
  | c :: cs => c :: namedGroupsSpelled cs
  | [] => []

/-- The name in `<name>`, if it is made of word characters, and what follows it. -/
def referenceName? (cs : List Char) : Option (List Char × List Char) :=
  match cs.takeWhile Text.isWordChar, cs.dropWhile Text.isWordChar with
  | c :: name, '>' :: rest => some (c :: name, rest)
  | _, _ => none

/-- Named references in the spelling of the grammar check: `\k<name>` becomes `(?P=name)`. -/
def referencesSpelled (cs : List Char) : List Char :=
  match cs with
  | '\\' :: 'k' :: '<' :: rest =>
    match referenceName? rest with
    | some (name, after) =>
      if after.length < rest.length then
        "(?P=".toList ++ name ++ ')' :: referencesSpelled after
      else []
    | none => '\\' :: 'k' :: '<' :: referencesSpelled rest
  | c :: cs => c :: referencesSpelled cs
  | [] => []
termination_by cs.length

/-- The copy of a source that the grammar check reads. -/
def checkedCopy (source : List Char) : List Char :=
  referencesSpelled (namedGroupsSpelled source)

/-- A translated pattern. It must not be used when there are problems. -/
structure Translation where
  pattern : String
  source : String
  ignoreCase : Bool
  problems : List Problem
  notes : List Note

namespace Translation

/-- The pattern can be used. -/
def supported (t : Translation) : Bool := t.problems.isEmpty

def flags (t : Translation) : String := if t.ignoreCase then "i" else ""

def literal (t : Translation) : String := Js.patternLiteral t.source t.flags

end Translation

def compileProblems (source : List Char) : Except Fault (List Problem) := do
  match ← Grammar.rejection? (checkedCopy source) with
  | some reason => return [.doesNotCompile reason.message]
  | none => return []

/-- A leading `(?i)` and the pattern after it. -/
def leadingIgnoreCase (cs : List Char) : Bool × List Char :=
  match cs with
  | '(' :: '?' :: 'i' :: ')' :: rest => (true, rest)
  | _ => (false, cs)

/-- Translates a pattern. Only a translation without problems is checked against the grammar. -/
def translate (pattern : String) (dialect : Dialect) (ignoreCase : Bool) :
    Except Fault Translation := do
  let (leading, body) := leadingIgnoreCase pattern.toList
  let ps := pieces body
  let source := sourceOf ps
  let found := problemsOf ps
  let problems ← if found.isEmpty then compileProblems source else pure found
  return {
    pattern
    source := String.ofList source
    ignoreCase := ignoreCase || leading
    problems
    notes := if dialect = .minimal then notesOf ps else [] }

end EdgeRoutes.Pattern
