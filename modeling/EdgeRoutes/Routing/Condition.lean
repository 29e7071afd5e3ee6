import EdgeRoutes.Js.Literal
import EdgeRoutes.Pattern.Translation

/-! Conditions on a request: the tests that emitted code makes on the host name and on the path. -/

namespace EdgeRoutes

/-- A part of a host name with wildcards. -/
inductive Segment where
  /-- This text, letter case apart. -/
  | text (s : String)
  /-- Any text. -/
  | anything
  /-- Nothing, or any text that ends in a dot. -/
  | subdomains
  deriving DecidableEq

/-- The part of a pattern that a segment is written as. -/
def Segment.render : Segment → String
  | .text s => String.ofList (Js.escapePattern s.toList)
  | .anything => ".*"
  | .subdomains => "(?:.*\\.)?"

/-- A test on the value of an expression. -/
inductive Test where
  | constant (b : Bool)
  | equals (value : String)
  | startsWith (value : String)
  /-- A pattern of the configuration matches. -/
  | matchesPattern (source : String) (ignoreCase : Bool)
  /-- The whole value is made of these segments, letter case apart. -/
  | matchesSegments (segments : List Segment)
  deriving DecidableEq

def Test.render (subject : String) : Test → String
  | .constant b => if b then "true" else "false"
  | .equals value => subject ++ " === " ++ Js.string value
  | .startsWith value => subject ++ ".startsWith(" ++ Js.string value ++ ")"
  | .matchesPattern source ignoreCase =>
    Js.patternLiteral source (if ignoreCase then "i" else "") ++ ".test(" ++ subject ++ ")"
  | .matchesSegments segments =>
    "/^" ++ String.join (segments.map Segment.render) ++ "$/i.test(" ++ subject ++ ")"

/-- At least one of several tests succeeds. -/
structure Condition where
  tests : List Test
  /-- The alternatives stand in parentheses. -/
  enclosed : Bool := false
  deriving DecidableEq

def Condition.render (subject : String) (c : Condition) : String :=
  let text := Text.joined " || " (c.tests.map (Test.render subject))
  if c.enclosed then "(" ++ text ++ ")" else text

/-- The test that a translated pattern makes; an unusable pattern never matches. -/
def Pattern.Translation.test (t : Pattern.Translation) : Test :=
  if t.supported then .matchesPattern t.source t.ignoreCase else .constant false

end EdgeRoutes
