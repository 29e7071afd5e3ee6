import EdgeRoutes.Pattern.Grammar.Token
import EdgeRoutes.Text.Word

/-! Flags that a pattern sets for itself or for a group. -/

namespace EdgeRoutes.Pattern.Grammar

def flagLetters : List Char := ['i', 'L', 'm', 's', 'x', 'a', 't', 'u']

/-- Flags that choose the kind of text; at most one of them is on. -/
def isTypeFlag (c : Char) : Bool := c == 'a' || c == 'L' || c == 'u'

/-- The flag that holds for a whole pattern only. -/
def globalFlag : Char := 't'

/-- Flags for the whole pattern, or flags turned on and off for a group. -/
inductive FlagSetting where
  | whole (on : List Char)
  | group (on off : List Char)

/-- A token that is no flag: another letter, or something else in place of `expected`. -/
def notAFlag (t : Token) (expected : Rejection) : Rejection :=
  match t with
  | .plain c => if Text.isLetter c then .unknownFlag else expected
  | .escaped _ => expected

/-- A flag letter, if the token is one. -/
def flagOf? : Token → Option Char
  | .plain c => if flagLetters.contains c then some c else none
  | .escaped _ => none

def turnOn (on : List Char) (flag : Char) : Reading (List Char) :=
  if flag = 'L' then reject .localeFlag
  else if isTypeFlag flag && on.any (fun f => isTypeFlag f && f != flag) then reject .conflictingTypes
  else .ok (on ++ [flag])

/-- The flags turned on, from the flag `flag` up to the mark that ends them, and the mark. -/
def flagsOn (flag : Char) : Nat → List Char → List Char → Reading (List Char × Char × List Char)
  | 0, _, _ => reject .missingFlagEnd
  | fuel + 1, on, cs => do
    let on ← turnOn on flag
    match next? cs with
    | none => reject .missingFlagEnd
    | some t =>
      let cs ← advance cs
      if t = .plain ')' ∨ t = .plain '-' ∨ t = .plain ':' then return (on, t.text.headD ')', cs)
      match flagOf? t with
      | some flag => flagsOn flag fuel on cs
      | none => reject (notAFlag t .missingFlagEnd)

/-- The flags turned off, from the flag `flag` up to the colon. -/
def flagsOff (flag : Char) : Nat → List Char → List Char → Reading (List Char × List Char)
  | 0, _, _ => reject .missingColon
  | fuel + 1, off, cs => do
    if isTypeFlag flag then reject .typeFlagOff
    let off := off ++ [flag]
    match next? cs with
    | none => reject .missingColon
    | some t =>
      let cs ← advance cs
      if t = .plain ':' then return (off, cs)
      match flagOf? t with
      | some flag => flagsOff flag fuel off cs
      | none => reject (notAFlag t .missingColon)

/-- The flags after a minus. -/
def takeFlagsOff (cs : List Char) : Reading (List Char × List Char) :=
  match next? cs with
  | none => reject .missingFlag
  | some t => do
    let cs ← advance cs
    match flagOf? t with
    | some flag => flagsOff flag (cs.length + 1) [] cs
    | none => reject (notAFlag t .missingFlag)

def groupFlags (on off : List Char) : Reading FlagSetting :=
  if off.contains globalFlag then reject .globalFlagOff
  else if on.any off.contains then reject .flagBothWays
  else .ok (.group on off)

/-- The flags that start with the token `t`, a flag letter or a minus. -/
def takeFlags (t : Char) (cs : List Char) : Reading (FlagSetting × List Char) := do
  let (on, mark, cs) ←
    if t = '-' then pure ([], '-', cs) else flagsOn t (cs.length + 1) [] cs
  if mark = ')' then return (.whole on, cs)
  if on.contains globalFlag then reject .globalFlagOn
  let (off, cs) ← if mark = '-' then takeFlagsOff cs else pure ([], cs)
  return (← groupFlags on off, cs)

end EdgeRoutes.Pattern.Grammar
