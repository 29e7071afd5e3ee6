import EdgeRoutes.Fault
import EdgeRoutes.Js.Literal

/-! Templates: text with holes for values, parts that depend on a value, and parts repeated for each member of one.
A name without a value stands for empty text and counts as false. -/

namespace EdgeRoutes.Template

/-- The values that a template is filled with. -/
abbrev Context := Fields Data

/-- A part of a template. -/
inductive Piece where
  | text (s : String)
  | newline
  /-- Text in whole lines. -/
  | lines (ls : List String)
  /-- The value of a name. -/
  | value (name : String)
  /-- The value of a name, made safe for a comment. -/
  | comment (name : String)
  /-- The members of a value as string literals, commas between them. -/
  | literals (name : String)
  /-- One of two parts, by whether the value of a name counts as true. -/
  | whenSet (name : String) (body otherwise : List Piece)
  /-- A part for each member of a value, the member under the name `item`. -/
  | forEach (item name : String) (body : List Piece)

def valueText (context : Context) (name : String) : String :=
  ((context.get? name).map Data.display).getD ""

/-- The value of a name counts as true. -/
def isSet (context : Context) (name : String) : Bool :=
  (context.get? name).any Data.truthy

/-- The members of a value. -/
def members (context : Context) (name : String) : Except Fault (List Data) :=
  match context.get? name with
  | none => .ok []
  | some value =>
    match value.members? with
    | some items => .ok items
    | none => .error (.notIterable value.kind)

def wholeLines (ls : List String) : String :=
  String.join (ls.map (· ++ "\n"))

mutual

/-- The text of a part. -/
def Piece.fill (context : Context) : Piece → Except Fault String
  | .text s => .ok s
  | .newline => .ok "\n"
  | .lines ls => .ok (wholeLines ls)
  | .value name => .ok (valueText context name)
  | .comment name => .ok (Js.commentText (valueText context name))
  | .literals name =>
    if isSet context name then do
      let items ← members context name
      return Text.joined ", " (items.map fun item => Js.string item.display)
    else .ok ""
  | .whenSet name body otherwise =>
    if isSet context name then Piece.fillAll context body else Piece.fillAll context otherwise
  | .forEach item name body => do
    let items ← members context name
    let texts ← items.mapM fun value => Piece.fillAll (Fields.put context item value) body
    return String.join texts

/-- The text of several parts. -/
def Piece.fillAll (context : Context) : List Piece → Except Fault String
  | [] => .ok ""
  | p :: ps => do
    let first ← p.fill context
    let rest ← Piece.fillAll context ps
    return first ++ rest

end

end EdgeRoutes.Template
