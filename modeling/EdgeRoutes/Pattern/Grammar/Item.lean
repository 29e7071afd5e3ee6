import EdgeRoutes.Pattern.Grammar.Rejection

/-! The items of a pattern, and how many characters they match at least and at most. -/

namespace EdgeRoutes.Pattern.Grammar

/-- The least and the greatest number of characters matched. -/
structure Width where
  low : Nat
  high : Nat

/-- Widths are not told apart beyond this. -/
def maxWidth : Nat := Nat.pow 2 64

/-- Repetition counts stay below this. -/
def maxRepeat : Nat := 4294967295

/-- How far back a lookbehind can look. -/
def maxLookbehind : Nat := 4294967295

def Width.add (a b : Width) : Width := ⟨a.low + b.low, a.high + b.high⟩

/-- The width of two alternatives. -/
def Width.either (a b : Width) : Width := ⟨min a.low b.low, max a.high b.high⟩

def Width.capped (a : Width) : Width := ⟨min a.low maxWidth, min a.high maxWidth⟩

inductive Item where
  /-- One character: literal, class or wildcard. -/
  | one
  /-- A test of the position. -/
  | position
  /-- Several alternatives. -/
  | branch (alternatives : List (List Item))
  /-- A group, capturing or not. -/
  | group (body : List Item)
  | repeated (kind : RepeatKind) (least : Nat) (most : Option Nat) (body : List Item)
  /-- What a closed group has matched; its width is known. -/
  | reference (width : Width)
  | conditional (yes : List Item) (no : Option (List Item))
  | lookaround (behind : Bool) (body : List Item)

namespace Item

mutual

def width : Item → Width
  | .one => ⟨1, 1⟩
  | .position => ⟨0, 0⟩
  | .branch alternatives => branchWidth alternatives
  | .group body => (sequenceWidth body).capped
  | .repeated _ least most body =>
    let w := (sequenceWidth body).capped
    ⟨w.low * least,
      match most with
      | none => if w.high = 0 then 0 else maxWidth
      | some n => w.high * n⟩
  | .reference w => w
  | .conditional yes none => ⟨0, (sequenceWidth yes).capped.high⟩
  | .conditional yes (some no) => (sequenceWidth yes).capped.either (sequenceWidth no).capped
  | .lookaround _ _ => ⟨0, 0⟩

def sequenceWidth : List Item → Width
  | [] => ⟨0, 0⟩
  | i :: is => i.width.add (sequenceWidth is)

/-- The width of alternatives. -/
def branchWidth : List (List Item) → Width
  | [] => ⟨maxWidth, 0⟩
  | is :: rest => (sequenceWidth is).capped.either (branchWidth rest)

end

mutual

/-- What the engine cannot run, first things first. With `template` set no repetition is allowed. -/
def defect? (template : Bool) : Item → Option Rejection
  | .one | .position | .reference _ => none
  | .branch alternatives => branchDefect? template alternatives
  | .group body => sequenceDefect? template body
  | .repeated kind _ _ body =>
    if template then some (.templateRepeat kind) else sequenceDefect? template body
  | .conditional yes none => sequenceDefect? template yes
  | .conditional yes (some no) =>
    (sequenceDefect? template yes).or (sequenceDefect? template no)
  | .lookaround behind body =>
    let w := (sequenceWidth body).capped
    if behind && maxLookbehind < w.low then some .lookbehindTooWide
    else if behind && w.low != w.high then some .lookbehindWidth
    else sequenceDefect? template body

def sequenceDefect? (template : Bool) : List Item → Option Rejection
  | [] => none
  | i :: is => (i.defect? template).or (sequenceDefect? template is)

def branchDefect? (template : Bool) : List (List Item) → Option Rejection
  | [] => none
  | is :: rest => (sequenceDefect? template is).or (branchDefect? template rest)

end

end Item

end EdgeRoutes.Pattern.Grammar
