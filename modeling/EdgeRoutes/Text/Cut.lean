/-! Cutting text at a mark. The functions work on lists of characters and never lose one: what they return,
with the mark put back, is the text they were given. -/

namespace EdgeRoutes.Text

/-- What follows `mark` if the text starts with it. -/
def after? : List Char → List Char → Option (List Char)
  | [], cs => some cs
  | _ :: _, [] => none
  | m :: ms, c :: cs => if m = c then after? ms cs else none

def starts (mark cs : List Char) : Bool :=
  (after? mark cs).isSome

/-- What stands before and after the first occurrence of `mark`. -/
def cut? (mark : List Char) (cs : List Char) : Option (List Char × List Char) :=
  match after? mark cs with
  | some rest => some ([], rest)
  | none =>
    match cs with
    | [] => none
    | c :: cs => (cut? mark cs).map fun (before, rest) => (c :: before, rest)

/-- What stands before and after the last occurrence of the character `mark`. -/
def cutLast? (mark : Char) : List Char → Option (List Char × List Char)
  | [] => none
  | c :: cs =>
    match cutLast? mark cs with
    | some (before, rest) => some (c :: before, rest)
    | none => if c = mark then some ([], cs) else none

/-- The text with every occurrence of a non-empty `mark` replaced, from the left. -/
def replaceAll (mark new : List Char) (cs : List Char) : List Char :=
  if mark.isEmpty then cs
  else
    match cut? mark cs with
    | none => cs
    | some (before, rest) =>
      if rest.length < cs.length then before ++ new ++ replaceAll mark new rest else cs
termination_by cs.length

/-- The lines of a text: the pieces between line feeds. -/
def lines (cs : List Char) : List (List Char) :=
  cs.splitOn '\n'

/-- Text joined from pieces, a separator between neighbours. -/
def joined (sep : String) (pieces : List String) : String :=
  String.intercalate sep pieces

def startsWith (s mark : String) : Bool :=
  starts mark.toList s.toList

def endsWith (s : String) (mark : Char) : Bool :=
  s.toList.getLast? == some mark

end EdgeRoutes.Text
