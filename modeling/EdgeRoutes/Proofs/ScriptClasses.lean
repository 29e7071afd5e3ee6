import EdgeRoutes.Data.Json.Reader
import Mathlib.Data.List.Basic

/-! Classes of characters in the emitted code. A class is tried on one UTF-16 unit, so a character of two units is two
members of it; outside classes its two units only follow each other, as they do in the text. A class is written as a row
of atoms: units, dashes and sets. A dash between two atoms makes a range of them, and a dash elsewhere stands for itself;
where one of the two atoms is a set, the dash and both of them are members. -/

namespace EdgeRoutes.Js

/-- The sets that have an escape of their own: the digits, the characters of words, and the blanks. -/
inductive Shorthand where
  | digit | word | space
  deriving DecidableEq

def Shorthand.letter : Shorthand → Char
  | .digit => 'd'
  | .word => 'w'
  | .space => 's'

inductive ClassAtom where
  | unit (n : Nat)
  /-- A dash that is not escaped. -/
  | dash
  | set (s : Shorthand)
  deriving DecidableEq

namespace ClassAtom

def unit? : ClassAtom → Option Nat
  | .unit n => some n
  | .dash => some '-'.toNat
  | .set _ => none

/-- The atom stands for a unit, or for a set with the unit in it. -/
def Has (sets : Shorthand → Nat → Prop) (n : Nat) : ClassAtom → Prop
  | .unit m => n = m
  | .dash => n = '-'.toNat
  | .set s => sets s n

end ClassAtom

/-- The UTF-16 units of a character. -/
def utf16 (c : Char) : List Nat :=
  if c.toNat < 0x10000 then [c.toNat]
  else [0xD800 + (c.toNat - 0x10000) / 0x400, 0xDC00 + (c.toNat - 0x10000) % 0x400]

/-- What a letter or sign stands for after a backslash. A sign stands for itself; of the letters, only those that
translated classes use are read. -/
def classEscape? : Char → Option (List ClassAtom)
  | 't' => some [.unit 9]
  | 'n' => some [.unit 10]
  | 'v' => some [.unit 11]
  | 'f' => some [.unit 12]
  | 'r' => some [.unit 13]
  | 'd' => some [.set .digit]
  | 'w' => some [.set .word]
  | 's' => some [.set .space]
  | c => if c.isAlphanum then none else some ((utf16 c).map .unit)

/-- The atoms up to the closing bracket, which ends the text. -/
def classAtoms? : List Char → Option (List ClassAtom)
  | [] => none
  | '\\' :: 'x' :: a :: b :: cs => do
    let a ← Json.hexValue? a
    let b ← Json.hexValue? b
    return .unit (a * 16 + b) :: (← classAtoms? cs)
  | '\\' :: c :: cs => do return (← classEscape? c) ++ (← classAtoms? cs)
  | '-' :: cs => do return .dash :: (← classAtoms? cs)
  | ']' :: cs => if cs.isEmpty then some [] else none
  | c :: cs => do return (utf16 c).map .unit ++ (← classAtoms? cs)

/-- A part of a class: one atom, or a range from an atom to an atom. -/
inductive ClassPart where
  | one (a : ClassAtom)
  | range (a b : ClassAtom)
  deriving DecidableEq

namespace ClassPart

/-- A range does not end before it starts. -/
def inOrder : ClassPart → Bool
  | .range a b =>
    match a.unit?, b.unit? with
    | some m, some n => m ≤ n
    | _, _ => true
  | .one _ => true

def Has (sets : Shorthand → Nat → Prop) (n : Nat) : ClassPart → Prop
  | .one a => a.Has sets n
  | .range a b =>
    match a.unit?, b.unit? with
    | some lo, some hi => lo ≤ n ∧ n ≤ hi
    | _, _ => a.Has sets n ∨ n = '-'.toNat ∨ b.Has sets n

end ClassPart

/-- The parts that a row of atoms makes. -/
def classParts : List ClassAtom → List ClassPart
  | a :: .dash :: b :: as => .range a b :: classParts as
  | a :: as => .one a :: classParts as
  | [] => []

/-- A class as the emitted code reads it. -/
structure CharacterClass where
  negated : Bool
  parts : List ClassPart
  deriving DecidableEq

namespace CharacterClass

/-- The class of a row of atoms. There is none if a range is not in order. -/
def ofAtoms? (negated : Bool) (as : List ClassAtom) : Option CharacterClass :=
  if (classParts as).all ClassPart.inOrder then some ⟨negated, classParts as⟩ else none

/-- Reads a class from its opening to its closing bracket. -/
def read? : List Char → Option CharacterClass
  | '[' :: '^' :: cs => (classAtoms? cs).bind (ofAtoms? true)
  | '[' :: cs => (classAtoms? cs).bind (ofAtoms? false)
  | _ => none

/-- The class has the unit, given what the sets are. -/
def Has (sets : Shorthand → Nat → Prop) (n : Nat) (c : CharacterClass) : Prop :=
  if c.negated then ¬ ∃ p ∈ c.parts, p.Has sets n else ∃ p ∈ c.parts, p.Has sets n

end CharacterClass

section Atoms

variable {cs : List Char}

theorem utf16_of_lt {c : Char} (h : c.toNat < 0x10000) : utf16 c = [c.toNat] := if_pos h

theorem classAtoms?_plain {c : Char} (hescape : c ≠ '\\') (hdash : c ≠ '-') (hclose : c ≠ ']') (h : c.toNat < 0x10000) :
    classAtoms? (c :: cs) = (classAtoms? cs).map (ClassAtom.unit c.toNat :: ·) := by
  rw [classAtoms?, utf16_of_lt h]
  · cases classAtoms? cs <;> rfl
  all_goals simp_all

theorem classAtoms?_escape {c : Char} {as : List ClassAtom} (hhex : c ≠ 'x') (h : classEscape? c = some as) :
    classAtoms? ('\\' :: c :: cs) = (classAtoms? cs).map (as ++ ·) := by
  rw [classAtoms?, h]
  · cases classAtoms? cs <;> rfl
  · exact fun a b ds hc => absurd hc hhex

theorem classAtoms?_sign {c : Char} (hsign : c.isAlphanum = false) (h : c.toNat < 0x10000) :
    classAtoms? ('\\' :: c :: cs) = (classAtoms? cs).map (ClassAtom.unit c.toNat :: ·) := by
  have hescape : classEscape? c = some [.unit c.toNat] := by
    unfold classEscape?
    split <;> simp_all [utf16_of_lt]
  refine classAtoms?_escape ?_ hescape
  rintro rfl
  cases hsign

theorem classAtoms?_dash : classAtoms? ('-' :: cs) = (classAtoms? cs).map (ClassAtom.dash :: ·) := by
  rw [classAtoms?]
  cases classAtoms? cs <;> rfl

end Atoms

section Parts

/-- The row goes on with a dash that is not its end. -/
def GoesOn (as : List ClassAtom) : Prop := ∃ b bs, as = .dash :: b :: bs

theorem classParts_cons {a : ClassAtom} {as : List ClassAtom} (h : ¬ GoesOn as) :
    classParts (a :: as) = .one a :: classParts as := by
  rw [classParts]
  rintro b bs rfl
  exact h ⟨b, bs, rfl⟩

theorem not_goesOn_nil : ¬ GoesOn [] := by
  rintro ⟨b, bs, h⟩
  cases h

theorem not_goesOn_unit (n : Nat) (as : List ClassAtom) : ¬ GoesOn (.unit n :: as) := by
  rintro ⟨b, bs, h⟩
  cases h

/-- Units are parts of their own, unless a range starts with the last of them. -/
theorem classParts_append_units {us : List Nat} {as : List ClassAtom} (h : us ≠ [] → ¬ GoesOn as) :
    classParts (us.map .unit ++ as) = us.map (fun n => .one (.unit n)) ++ classParts as := by
  induction us with
  | nil => rfl
  | cons u us ih =>
      have has : ¬ GoesOn as := h (List.cons_ne_nil u us)
      have hgoes : ¬ GoesOn (us.map .unit ++ as) := by
        cases us with
        | nil => exact has
        | cons v us => exact not_goesOn_unit v _
      rw [List.map_cons, List.cons_append, classParts_cons hgoes, ih fun _ => has]
      rfl

end Parts

end EdgeRoutes.Js
