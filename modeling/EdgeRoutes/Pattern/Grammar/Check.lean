import EdgeRoutes.Pattern.Grammar.Escape
import EdgeRoutes.Pattern.Grammar.Flags
import EdgeRoutes.Pattern.Grammar.Item
import EdgeRoutes.Text.Identifier

/-! The grammar check of patterns. A pattern is read token by token; the groups that are open form a stack. Patterns may
be nested to any depth: that a runtime may run out of its stack first is left out. -/

namespace EdgeRoutes.Pattern.Grammar

open Number

/-- What an open parenthesis will become. -/
inductive Opening where
  | whole
  | group (capture : Option Nat)
  | lookaround (behind : Bool) (outermost : Bool)
  /-- A conditional group; the first branch is kept while the second is read. -/
  | conditional (yes : Option (List Item))

/-- A group that is open: finished alternatives, the items of the current one with the last first, and whether blanks
are skipped in it. -/
structure Frame where
  opening : Opening
  verbose : Bool
  done : List (List Item) := []
  items : List Item := []

structure Reader where
  frame : Frame
  outer : List Frame := []
  /-- The width of each group, once it is closed; group zero is the pattern itself. -/
  widths : List (Option Width) := [none]
  names : List (String × Nat) := []
  /-- The first group that the outermost lookbehind cannot refer to. -/
  lookbehind : Option Nat := none
  /-- Groups that conditions refer to by number. -/
  conditions : List Nat := []
  flags : List Char := []

/-- More groups than this cannot be counted. -/
def maxGroups : Nat := 1073741823

namespace Frame

def body (f : Frame) : List Item :=
  if f.done.isEmpty then f.items.reverse else [.branch (f.done ++ [f.items.reverse])]

end Frame

namespace Reader

def push (r : Reader) (i : Item) : Reader :=
  { r with frame := { r.frame with items := i :: r.frame.items } }

def closedWidth? (r : Reader) (group : Nat) : Option Width :=
  (r.widths[group]?).join

/-- Inside a lookbehind only groups that were closed before it can be referred to. -/
def checkLookbehind (r : Reader) (group : Nat) : Reading Unit :=
  match r.lookbehind with
  | none => .ok ()
  | some first =>
    if (r.closedWidth? group).isNone then reject .openGroup
    else if first ≤ group then reject .sameLookbehind
    else .ok ()

def reference (r : Reader) (group : Nat) : Reading Item :=
  match r.closedWidth? group with
  | none => reject .openGroup
  | some w => do
    r.checkLookbehind group
    return .reference w

/-- Opens a group inside the current one. -/
def enter (r : Reader) (opening : Opening) (verbose : Bool) : Reader :=
  { r with frame := { opening, verbose }, outer := r.frame :: r.outer }

/-- A capturing group gets the next number, and a name of its own if it has one. -/
def openCapture (r : Reader) (name : Option String) : Reading Reader :=
  let index := r.widths.length
  let r := { r with widths := r.widths ++ [none] }
  let opened := r.enter (.group (some index)) r.frame.verbose
  match name with
  | none => .ok opened
  | some name =>
    match r.names.find? (·.1 == name) with
    | some (_, old) => reject (.redefinedName name index old)
    | none => .ok { opened with names := r.names ++ [(name, index)] }

/-- A decimal escape: an octal code of three digits, or a reference to a group. -/
def decimalEscape (r : Reader) (c : Char) (cs : List Char) : Reading (Item × List Char) := do
  let (second, cs) ← takeUpTo Char.isDigit 1 cs
  let octal := isOctal c && second.all isOctal && !second.isEmpty
  let (third, cs) ← if octal then takeUpTo isOctal 1 cs else pure ([], cs)
  if !third.isEmpty then
    if 0o377 < ofBase 8 (c :: (second ++ third)) then
      reject (.octalRange (escapeText c (second ++ third)))
    else return (.one, cs)
  else
    let group := ofDigits (c :: second)
    if group < r.widths.length then return (← r.reference group, cs)
    else reject (.invalidReference group)

/-- An escape outside sets. -/
def escape (r : Reader) (c : Char) (cs : List Char) : Reading (Item × List Char) :=
  if c == 'A' || c == 'b' || c == 'B' || c == 'Z' then .ok (.position, cs)
  else if isCategory c || (controlEscape? c).isSome then .ok (.one, cs)
  else
    match codeEscape? c cs with
    | some reading => do
      let (_, cs) ← reading
      return (.one, cs)
    | none =>
      if c = '0' then do
        let (_, cs) ← takeUpTo isOctal 2 cs
        return (.one, cs)
      else if c.isDigit then r.decimalEscape c cs
      else do
        let (_, cs) ← otherEscape c cs
        return (.one, cs)

/-- A repetition count. -/
def repeatCount (digits : List Char) : Reading Nat :=
  match readNatural (String.ofList digits) with
  | .error cause => .error (.fault (.integer cause))
  | .ok n => if maxRepeat ≤ n then .error (.fault .repetition) else .ok n

/-- The bounds between braces, if that is what follows an opening brace. -/
def repeatBounds? (cs : List Char) : Reading (Option (Nat × Option Nat × List Char)) := do
  let (low, cs) ← takeAll Char.isDigit cs
  let (high, cs) ←
    match ← accept ',' cs with
    | some cs => takeAll Char.isDigit cs
    | none => pure (low, cs)
  match ← accept '\x7d' cs with
  | none => return none
  | some cs =>
    let least ← if low.isEmpty then pure 0 else repeatCount low
    if high.isEmpty then return some (least, none, cs)
    let most ← repeatCount high
    if most < least then reject .repeatBounds
    return some (least, some most, cs)

/-- Repeats the last item. -/
def quantify (r : Reader) (least : Nat) (most : Option Nat) (cs : List Char) :
    Reading (Reader × List Char) :=
  match r.frame.items with
  | [] => reject .nothingToRepeat
  | .position :: _ => reject .nothingToRepeat
  | .repeated _ _ _ _ :: _ => reject .multipleRepeat
  | item :: items => do
    let (kind, cs) ←
      match ← accept '?' cs with
      | some cs => pure (RepeatKind.lazy, cs)
      | none =>
        match ← accept '+' cs with
        | some cs => pure (RepeatKind.possessive, cs)
        | none => pure (RepeatKind.greedy, cs)
    let frame := { r.frame with items := .repeated kind least most [item] :: items }
    return ({ r with frame }, cs)

/-- An opening brace: bounds of a repetition, or the character itself. -/
def brace (r : Reader) (cs : List Char) : Reading (Reader × List Char) :=
  if next? cs = some (.plain '\x7d') then .ok (r.push .one, cs)
  else do
    match ← repeatBounds? cs with
    | none => return (r.push .one, cs)
    | some (least, most, cs) => r.quantify least most cs

def groupName (terminator : Char) (cs : List Char) : Reading (String × List Char) := do
  let (name, cs) ← takeName terminator "group name" cs
  if Text.isIdentifier name then return (String.ofList name, cs)
  else reject (.badGroupName (String.ofList name))

def groupNamed (r : Reader) (name : String) : Reading Nat :=
  match r.names.find? (·.1 == name) with
  | some (_, group) => .ok group
  | none => reject (.unknownGroupName name)

def conditionNumber (name : String) : Reading Nat :=
  match readInteger name with
  | .error _ => reject (.badGroupName name)
  | .ok n =>
    if n < 0 then reject (.badGroupName name)
    else if n = 0 then reject .badGroupNumber
    else if maxGroups ≤ n.toNat then reject (.invalidReference n.toNat)
    else .ok n.toNat

def openConditional (r : Reader) (cs : List Char) : Reading (Reader × List Char) := do
  let (name, cs) ← takeName ')' "group name" cs
  let (group, r) ←
    if Text.isIdentifier name then do
      let group ← r.groupNamed (String.ofList name)
      pure (group, r)
    else do
      let group ← conditionNumber (String.ofList name)
      pure (group, { r with conditions := r.conditions ++ [group] })
  r.checkLookbehind group
  return (r.enter (.conditional none) r.frame.verbose, cs)

/-- A comment up to its closing parenthesis. -/
def skipComment : Nat → List Char → Reading (List Char)
  | 0, _ => reject .unterminatedComment
  | fuel + 1, cs =>
    match next? cs with
    | none => reject .unterminatedComment
    | some t => do
      let cs ← advance cs
      if t = .plain ')' then return cs else skipComment fuel cs

/-- A group after `(?P`. -/
def openNamed (r : Reader) (cs : List Char) : Reading (Reader × List Char) := do
  match ← accept '<' cs with
  | some cs =>
    let (name, cs) ← groupName '>' cs
    return (← r.openCapture (some name), cs)
  | none =>
    match ← accept '=' cs with
    | some cs =>
      let (name, cs) ← groupName ')' cs
      let group ← r.groupNamed name
      return (r.push (← r.reference group), cs)
    | none =>
      match next? cs with
      | none => reject .unexpectedEnd
      | some t =>
        let _ ← advance cs
        reject (.unknownExtension (String.ofList ('P' :: t.text)))

/-- A lookaround; inside the outermost lookbehind, groups opened from here on cannot be referred to. -/
def openLookaround (r : Reader) (behind : Bool) : Reader :=
  let outermost := behind && r.lookbehind.isNone
  let r := if outermost then { r with lookbehind := some r.widths.length } else r
  r.enter (.lookaround behind outermost) r.frame.verbose

/-- A lookbehind after `(?<`. -/
def openLookbehind (r : Reader) (cs : List Char) : Reading (Reader × List Char) :=
  match next? cs with
  | none => reject .unexpectedEnd
  | some t => do
    let cs ← advance cs
    if t = .plain '=' ∨ t = .plain '!' then return (r.openLookaround true, cs)
    else reject (.unknownExtension (String.ofList ('<' :: t.text)))

/-- Flags after `(?`: for the whole pattern, where they must come first, or for a group. -/
def openFlags (r : Reader) (c : Char) (cs : List Char) : Reading (Reader × List Char) := do
  let (setting, cs) ← takeFlags c cs
  match setting with
  | .whole on =>
    let flags := r.flags ++ on
    if !r.outer.isEmpty || !r.frame.done.isEmpty || !r.frame.items.isEmpty then
      reject .misplacedFlags
    return ({ r with flags, frame := { r.frame with verbose := flags.contains 'x' } }, cs)
  | .group on off =>
    let verbose := (r.frame.verbose || on.contains 'x') && !off.contains 'x'
    return (r.enter (.group none) verbose, cs)

/-- A group after `(?` and the token `t`. -/
def openExtension (r : Reader) (t : Token) (cs : List Char) : Reading (Reader × List Char) :=
  match t with
  | .plain 'P' => r.openNamed cs
  | .plain ':' => .ok (r.enter (.group none) r.frame.verbose, cs)
  | .plain '>' => .ok (r.enter (.group none) r.frame.verbose, cs)
  | .plain '#' => do
    let cs ← skipComment (cs.length + 1) cs
    return (r, cs)
  | .plain '=' => .ok (r.openLookaround false, cs)
  | .plain '!' => .ok (r.openLookaround false, cs)
  | .plain '<' => r.openLookbehind cs
  | .plain '(' => r.openConditional cs
  | .plain c =>
    if flagLetters.contains c || c == '-' then r.openFlags c cs
    else reject (.unknownExtension (String.singleton c))
  | t => reject (.unknownExtension (String.ofList t.text))

/-- A group after its opening parenthesis. -/
def openGroup (r : Reader) (cs : List Char) : Reading (Reader × List Char) := do
  match ← accept '?' cs with
  | none => return (← r.openCapture none, cs)
  | some cs =>
    match next? cs with
    | none => reject .unexpectedEnd
    | some t => r.openExtension t (← advance cs)

/-- The bar between alternatives. -/
def alternative (r : Reader) : Reading Reader :=
  match r.frame.opening with
  | .conditional none =>
    .ok { r with frame := { r.frame with
      opening := .conditional (some r.frame.items.reverse), items := [] } }
  | .conditional (some _) => reject .tooManyBranches
  | opening =>
    let verbose := match opening with
      | .whole => r.flags.contains 'x'
      | _ => r.frame.verbose
    .ok { r with frame := { r.frame with
      verbose, done := r.frame.done ++ [r.frame.items.reverse], items := [] } }

/-- Closes the current group inside the frame `parent`. -/
def close (r : Reader) (parent : Frame) (outer : List Frame) : Reader :=
  let body := r.frame.body
  let back := { r with frame := parent, outer }
  match r.frame.opening with
  | .whole | .group none => back.push (.group body)
  | .group (some index) =>
    let width := (Item.sequenceWidth body).capped
    { back with widths := r.widths.set index (some width) }.push (.group body)
  | .lookaround behind outermost =>
    let lookbehind := if outermost then none else r.lookbehind
    { back with lookbehind }.push (.lookaround behind body)
  | .conditional none => back.push (.conditional r.frame.items.reverse none)
  | .conditional (some yes) => back.push (.conditional yes (some r.frame.items.reverse))

/-- A comment in a pattern whose blanks are skipped ends with the line. -/
def skipLine : Nat → List Char → Reading (List Char)
  | 0, cs => .ok cs
  | fuel + 1, cs =>
    match next? cs with
    | none => .ok cs
    | some t => do
      let cs ← advance cs
      if t = .plain '\n' then return cs else skipLine fuel cs

/-- The blanks that a pattern can skip. -/
def isSkipped (c : Char) : Bool :=
  c == ' ' || c == '\t' || c == '\n' || c == '\r' || c == '\x0b' || c == '\x0c'

/-- Takes a token that neither separates alternatives nor closes a group; `cs` follows it. -/
def take (r : Reader) (t : Token) (cs : List Char) : Reading (Reader × List Char) :=
  match t with
  | .escaped c => do
    let (item, cs) ← r.escape c cs
    return (r.push item, cs)
  | .plain c =>
    if r.frame.verbose && isSkipped c then .ok (r, cs)
    else if r.frame.verbose && c == '#' then do
      let cs ← skipLine (cs.length + 1) cs
      return (r, cs)
    else
      match c with
      | '[' => do
        let cs ← takeSet cs
        return (r.push .one, cs)
      | '?' => r.quantify 0 (some 1) cs
      | '*' => r.quantify 0 none cs
      | '+' => r.quantify 1 none cs
      | '\x7b' => r.brace cs
      | '(' => r.openGroup cs
      | '^' => .ok (r.push .position, cs)
      | '$' => .ok (r.push .position, cs)
      | _ => .ok (r.push .one, cs)

/-- Reads a pattern to its end, or to a closing parenthesis that closes nothing. -/
def run (r : Reader) (cs : List Char) : Reading (Reader × Bool) :=
  match next? cs with
  | none => if r.outer.isEmpty then .ok (r, false) else reject .unterminatedGroup
  | some t =>
    match t, r.outer with
    | .plain ')', [] => .ok (r, true)
    | _, _ => do
      let rest ← advance cs
      let (r, rest) ←
        match t, r.outer with
        | .plain '|', _ => pure (← r.alternative, rest)
        | .plain ')', parent :: outer => pure (r.close parent outer, rest)
        | t, _ => r.take t rest
      if rest.length < cs.length then r.run rest else reject .unbalanced
termination_by cs.length

def finish (r : Reader) (unbalanced : Bool) : Reading Unit :=
  if r.flags.contains 'a' && r.flags.contains 'u' then .error (.fault .conflictingFlags)
  else if unbalanced then reject .unbalanced
  else
    match r.conditions.find? (r.widths.length ≤ ·) with
    | some group => reject (.invalidReference group)
    | none =>
      match Item.sequenceDefect? (r.flags.contains globalFlag) r.frame.body with
      | some reason => reject reason
      | none => .ok ()

end Reader

def check (pattern : List Char) : Reading Unit := do
  let cs ← atToken pattern
  let (r, unbalanced) ← Reader.run { frame := { opening := .whole, verbose := false } } cs
  r.finish unbalanced

/-- Why the grammar rejects a pattern, if it does. -/
def rejection? (pattern : List Char) : Except Fault (Option Rejection) :=
  match check pattern with
  | .ok () => .ok none
  | .error (.rejected reason) => .ok (some reason)
  | .error (.fault fault) => .error fault

end EdgeRoutes.Pattern.Grammar
