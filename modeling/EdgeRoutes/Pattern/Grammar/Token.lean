import EdgeRoutes.Pattern.Grammar.Rejection

/-! The tokens of a pattern: single characters, and characters behind a backslash. A backslash at the very end is
noticed as soon as the token before it has been taken. -/

namespace EdgeRoutes.Pattern.Grammar

inductive Token where
  | plain (c : Char)
  | escaped (c : Char)
  deriving DecidableEq

namespace Token

def text : Token → List Char
  | .plain c => [c]
  | .escaped c => ['\\', c]

end Token

/-- The first token. -/
def next? : List Char → Option Token
  | [] => none
  | '\\' :: c :: _ => some (.escaped c)
  | c :: _ => some (.plain c)

/-- What follows the first token. -/
def afterToken : List Char → List Char
  | [] => []
  | '\\' :: _ :: cs => cs
  | _ :: cs => cs

/-- Text that starts at a token: it is not a lone backslash. -/
def atToken (cs : List Char) : Reading (List Char) :=
  if cs = ['\\'] then reject .danglingBackslash else .ok cs

/-- Takes the first token. -/
def advance (cs : List Char) : Reading (List Char) :=
  atToken (afterToken cs)

/-- Takes the first token if it is the character `c`. -/
def accept (c : Char) (cs : List Char) : Reading (Option (List Char)) :=
  if next? cs = some (.plain c) then (advance cs).map some else .ok none

/-- Takes at most `n` characters with property `p`. -/
def takeUpTo (p : Char → Bool) : Nat → List Char → Reading (List Char × List Char)
  | 0, cs => .ok ([], cs)
  | n + 1, cs =>
    match next? cs with
    | some (.plain c) =>
      if p c then do
        let cs ← advance cs
        let (taken, cs) ← takeUpTo p n cs
        return (c :: taken, cs)
      else .ok ([], cs)
    | _ => .ok ([], cs)

/-- Takes all characters with property `p` at the start. -/
def takeAll (p : Char → Bool) (cs : List Char) : Reading (List Char × List Char) :=
  takeUpTo p cs.length cs

/-- A name up to its terminator, which is taken too. `fuel` bounds the tokens of the name. -/
def nameTokens (terminator : Char) (what : String) :
    Nat → List Char → List Char → Reading (List Char × List Char)
  | 0, _, _ => reject (.missingName what)
  | fuel + 1, read, cs =>
    match next? cs with
    | none => reject (if read.isEmpty then .missingName what else .unterminatedName terminator)
    | some t => do
      let cs ← advance cs
      if t = .plain terminator then
        if read.isEmpty then reject (.missingName what) else return (read, cs)
      else nameTokens terminator what fuel (read ++ t.text) cs

/-- A name that is not empty, up to its terminator. -/
def takeName (terminator : Char) (what : String) (cs : List Char) :
    Reading (List Char × List Char) :=
  nameTokens terminator what (cs.length + 1) [] cs

end EdgeRoutes.Pattern.Grammar
