import EdgeRoutes.Data.Fields
import EdgeRoutes.Data.Json.Writer
import EdgeRoutes.Text.Blank
import EdgeRoutes.Text.Cut

/-! JavaScript literals and comments. -/

namespace EdgeRoutes.Js

/-- A string literal. JSON strings are string literals. -/
def string (s : String) : String :=
  Json.string s

/-- The characters that have a meaning in a pattern, and the slash that ends a pattern literal. -/
def isPatternSpecial (c : Char) : Bool :=
  "\\^$.*+?()[]\x7b\x7d|/".toList.contains c

/-- One character of literal text in a pattern. -/
def escapeChar (c : Char) : List Char :=
  if isPatternSpecial c then ['\\', c] else [c]

/-- Text as a pattern that matches nothing else. -/
def escapePattern (cs : List Char) : List Char :=
  cs.flatMap escapeChar

/-- The body of a pattern literal: a slash or a line feed that is not part of an escape is escaped. -/
def literalBody : List Char → List Char
  | [] => []
  | ['\\'] => ['\\']
  | '\\' :: c :: cs => '\\' :: c :: literalBody cs
  | c :: cs =>
    if c = '/' then '\\' :: '/' :: literalBody cs
    else if c = '\n' then '\\' :: 'n' :: literalBody cs
    else c :: literalBody cs

/-- A pattern literal. An empty body would start a comment, so the empty pattern is a group of nothing. -/
def patternLiteral (pattern flags : String) : String :=
  let body := literalBody pattern.toList
  let body := if body.isEmpty then "(?:)".toList else body
  String.ofList ('/' :: (body ++ '/' :: flags.toList))

def objectLiteral (entries : Fields String) : String :=
  if entries.isEmpty then "\x7b\x7d"
  else
    "\x7b " ++ Text.joined ", " (entries.map fun (k, v) => string k ++ ": " ++ string v) ++ " \x7d"

/-- Text that can stand in a comment: blanks are single spaces and the end of a block comment is broken up. -/
def commentText (s : String) : String :=
  let spaced := [' '].intercalate (Text.words s.toList)
  String.ofList (Text.replaceAll "*/".toList "* /".toList spaced)

end EdgeRoutes.Js
