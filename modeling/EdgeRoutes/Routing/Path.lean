import EdgeRoutes.Model.Basic
import EdgeRoutes.Routing.Condition

/-! Conditions on the path, and the order in which locations are tried. -/

namespace EdgeRoutes.Location

open Pattern

def translation? (l : Location) (dialect : Dialect) : Except Fault (Option Translation) :=
  if l.isRegex then
    (translate l.path dialect (l.modifier == some .regexIgnoreCase)).map some
  else .ok none

/-- The condition of a location whose path is a plain text. A path that ends in a slash is a directory; any other path
stands for itself and for the directory of that name. -/
def plainCondition (l : Location) : Condition :=
  match l.modifier with
  | some .exact => ⟨[.equals l.path], false⟩
  | some .priority => ⟨[.startsWith l.path], false⟩
  | _ =>
    if Text.endsWith l.path '/' then ⟨[.startsWith l.path], false⟩
    else ⟨[.equals l.path, .startsWith (l.path ++ "/")], true⟩

def condition (l : Location) (dialect : Dialect) : Except Fault Condition := do
  match ← l.translation? dialect with
  | some t => return ⟨[t.test], false⟩
  | none => return l.plainCondition

/-- Exact locations come first. -/
def rank (l : Location) : Nat :=
  if l.modifier = some .exact then 0 else 1

/-- Of two locations of the same rank the one with the longer path comes first. -/
def precedes (a b : Location) : Bool :=
  a.rank < b.rank || (a.rank == b.rank && b.path.length ≤ a.path.length)

/-- A location with its place among the locations of its server, counted from one. -/
structure Placed where
  position : Nat
  location : Location

/-- The locations in the order of their declaration. -/
def place (locations : List Location) : List Placed :=
  (locations.zipIdx 1).map fun (location, position) => ⟨position, location⟩

/-- Locations in the order in which they are tried; equal ones keep their order. -/
def sorted (locations : List Placed) : List Placed :=
  locations.mergeSort fun a b => precedes a.location b.location

end EdgeRoutes.Location
