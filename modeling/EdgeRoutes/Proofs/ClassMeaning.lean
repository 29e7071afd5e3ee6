import EdgeRoutes.Proofs.ClassItems

/-! The meaning of bracket classes. The translation of a class is read as a class of the emitted code, and the two have
the same characters, unless a hyphen that stands for itself gets between two atoms of the translation, where it is the
sign of a range. -/

namespace EdgeRoutes.Pattern

open Js

section Meaning

variable {cs : List Char}

/-- The atoms of a range. -/
def span (lo hi : Char) : List ClassAtom := [.unit lo.toNat, .dash, .unit hi.toNat]

/-- The atoms that a character is translated to. -/
def ClassLiteral.atom : ClassLiteral → ClassAtom
  | .hyphen => .dash
  | l => .unit l.char.toNat

def ClassName.atoms : ClassName → List ClassAtom
  | alnum => span 'a' 'z' ++ span 'A' 'Z' ++ span '0' '9'
  | alpha => span 'a' 'z' ++ span 'A' 'Z'
  | ascii => span '\x00' '\x7F'
  | blank => [32, 9].map .unit
  | cntrl => span '\x00' '\x1F' ++ [.unit 127]
  | digit => span '0' '9'
  | graph => span '!' '~'
  | lower => span 'a' 'z'
  | print => span ' ' '~'
  | punct => span '!' '/' ++ span ':' '@' ++ span '[' '\x60' ++ span '\x7b' '~'
  | space => [32, 9, 13, 10, 11, 12].map .unit
  | upper => span 'A' 'Z'
  | word => [.set .word]
  | xdigit => span '0' '9' ++ span 'A' 'F' ++ span 'a' 'f'

def ClassItem.atoms : ClassItem → List ClassAtom
  | .one l => [l.atom]
  | .range lo hi => [lo.atom, .dash, hi.atom]
  | .shorthand s => [.set s]
  | .blank => [32, 9].map .unit
  | .named n => n.atoms

theorem classAtoms?_named (n : ClassName) :
    classAtoms? ((namedClass n.name.toList).1 ++ cs) = (classAtoms? cs).map (n.atoms ++ ·) := by
  cases n
  all_goals
    simp [namedClass, namedClasses, ClassName.name, classAtoms?, utf16]
    cases classAtoms? cs <;> rfl

theorem classAtoms?_literal {l : ClassLiteral} (hl : l.WellFormed) (h : l.char.toNat < 0x10000) :
    classAtoms? (l.written ++ cs) = (classAtoms? cs).map (l.atom :: ·) := by
  cases l with
  | plain c =>
      simp only [ClassLiteral.WellFormed, List.mem_cons, List.not_mem_nil, or_false, not_or] at hl
      exact classAtoms?_plain hl.1 hl.2.2.2 hl.2.2.1 h
  | escaped c => exact classAtoms?_sign hl h
  | opening => exact classAtoms?_sign (by decide) (by decide)
  | closing => exact classAtoms?_sign (by decide) (by decide)
  | hyphen => exact classAtoms?_dash

theorem classAtoms?_item {i : ClassItem} (hi : i.WellFormed) (h : ∀ l ∈ i.literals, l.char.toNat < 0x10000) :
    classAtoms? (i.written ++ cs) = (classAtoms? cs).map (i.atoms ++ ·) := by
  cases i with
  | one l => exact classAtoms?_literal hi (h l (by simp [ClassItem.literals]))
  | range lo hi' =>
      obtain ⟨hlo, hhi, -⟩ := hi
      simp only [ClassItem.written, ClassItem.spelled, List.append_assoc, List.cons_append]
      rw [classAtoms?_literal hlo (h lo (by simp [ClassItem.literals])), classAtoms?_dash,
        classAtoms?_literal hhi (h hi' (by simp [ClassItem.literals])), Option.map_map, Option.map_map]
      rfl
  | shorthand s => cases s <;> exact classAtoms?_escape (by decide) rfl
  | blank =>
      change classAtoms? (' ' :: '\\' :: 't' :: cs) = _
      rw [classAtoms?_plain (by decide) (by decide) (by decide) (by decide), classAtoms?_escape (by decide) rfl,
        Option.map_map]
      rfl
  | named n => exact classAtoms?_named n

theorem classAtoms?_items {is : List ClassItem} (hwf : ∀ i ∈ is, i.WellFormed)
    (h : ∀ i ∈ is, ∀ l ∈ i.literals, l.char.toNat < 0x10000) :
    classAtoms? (is.flatMap ClassItem.written ++ [']']) = some (is.flatMap ClassItem.atoms) := by
  induction is with
  | nil => rfl
  | cons i is ih =>
      obtain ⟨hi, his⟩ := List.forall_mem_cons.mp hwf
      obtain ⟨hbasic, hrest⟩ := List.forall_mem_cons.mp h
      rw [List.flatMap_cons, List.append_assoc, classAtoms?_item hi hbasic, ih his hrest]
      rfl

theorem eq_iff_toNat {x y : Char} : x = y ↔ x.toNat = y.toNat :=
  ⟨congrArg Char.toNat, fun h => Char.ext (UInt32.toNat_inj.mp h)⟩

theorem le_iff_toNat {x y : Char} : x ≤ y ↔ x.toNat ≤ y.toNat := by
  rw [Char.le_def, UInt32.le_iff_toNat_le]
  rfl

theorem ClassLiteral.unit?_atom (l : ClassLiteral) : l.atom.unit? = some l.char.toNat := by
  cases l <;> rfl

theorem ClassLiteral.has_atom (l : ClassLiteral) (sets : Shorthand → Nat → Prop) (x : Char) :
    l.atom.Has sets x.toNat ↔ x = l.char := by
  rw [eq_iff_toNat]
  cases l <;> rfl

theorem isUpper_iff {x : Char} : x.isUpper = true ↔ 65 ≤ x.toNat ∧ x.toNat ≤ 90 := by
  have hdef : x.isUpper = decide (65 ≤ x.val ∧ x.val ≤ 90) := rfl
  rw [hdef, decide_eq_true_iff]
  exact and_congr UInt32.le_iff_toNat_le UInt32.le_iff_toNat_le

theorem isLower_iff {x : Char} : x.isLower = true ↔ 97 ≤ x.toNat ∧ x.toNat ≤ 122 := by
  have hdef : x.isLower = (decide (97 ≤ x.val) && decide (x.val ≤ 122)) := rfl
  rw [hdef, Bool.and_eq_true, decide_eq_true_iff, decide_eq_true_iff]
  exact and_congr UInt32.le_iff_toNat_le UInt32.le_iff_toNat_le

theorem isAlpha_iff {x : Char} : x.isAlpha = true ↔
    65 ≤ x.toNat ∧ x.toNat ≤ 90 ∨ 97 ≤ x.toNat ∧ x.toNat ≤ 122 := by
  have hdef : x.isAlpha = (x.isUpper || x.isLower) := rfl
  rw [hdef, Bool.or_eq_true, isUpper_iff, isLower_iff]

theorem isDigit_iff {x : Char} : x.isDigit = true ↔ 48 ≤ x.toNat ∧ x.toNat ≤ 57 := by
  rw [Char.isDigit, Bool.and_eq_true, decide_eq_true_iff, decide_eq_true_iff]
  exact and_congr UInt32.le_iff_toNat_le UInt32.le_iff_toNat_le

/-- The parts that a named class is translated to have its characters. -/
theorem ClassName.has_parts (n : ClassName) (sets : Shorthand → Nat → Prop) (x : Char) :
    (∃ p ∈ classParts n.atoms, p.Has sets x.toNat) ↔ n.Has sets x := by
  have halnum : x.isAlphanum = true ↔
      (65 ≤ x.toNat ∧ x.toNat ≤ 90 ∨ 97 ≤ x.toNat ∧ x.toNat ≤ 122) ∨ 48 ≤ x.toNat ∧ x.toNat ≤ 57 := by
    rw [Char.isAlphanum, Bool.or_eq_true, isAlpha_iff, isDigit_iff]
  cases n
  all_goals
    simp [atoms, span, classParts, ClassPart.Has, ClassAtom.Has, ClassAtom.unit?, ClassName.Has, isAlpha_iff,
      isUpper_iff, isLower_iff, isDigit_iff, halnum, eq_iff_toNat, le_iff_toNat, ← Bool.not_eq_true]
  all_goals omega

/-- The parts of an item are in order and have its characters. -/
theorem ClassItem.has_parts {i : ClassItem} (hi : i.WellFormed) (sets : Shorthand → Nat → Prop) :
    (∀ p ∈ classParts i.atoms, p.inOrder = true) ∧
      ∀ x : Char, (∃ p ∈ classParts i.atoms, p.Has sets x.toNat) ↔ i.Has sets x := by
  cases i with
  | one l =>
      have hparts : classParts (ClassItem.one l).atoms = [.one l.atom] := classParts_cons not_goesOn_nil
      rw [hparts]
      exact ⟨by simp [ClassPart.inOrder], fun x => by simp [ClassPart.Has, l.has_atom, Has]⟩
  | range lo hi' =>
      have hparts : classParts (ClassItem.range lo hi').atoms = [.range lo.atom hi'.atom] := rfl
      obtain ⟨-, -, hle⟩ := hi
      rw [le_iff_toNat] at hle
      rw [hparts]
      refine ⟨by simp [ClassPart.inOrder, ClassLiteral.unit?_atom, hle], fun x => ?_⟩
      simp [ClassPart.Has, ClassLiteral.unit?_atom, Has, le_iff_toNat]
  | shorthand s => simp [atoms, classParts, ClassPart.Has, ClassPart.inOrder, ClassAtom.Has, Has]
  | blank =>
      simp [atoms, classParts, ClassPart.Has, ClassPart.inOrder, ClassAtom.Has, Has, eq_iff_toNat]
  | named n => exact ⟨by cases n <;> decide, n.has_parts sets⟩

end Meaning

section Hyphens

/-- What the text that an item is translated to ends with. -/
inductive Tail where
  | range | unit | set
  deriving DecidableEq

def ClassName.tail : ClassName → Tail
  | blank | cntrl | space => .unit
  | word => .set
  | _ => .range

namespace ClassItem

def tail : ClassItem → Tail
  | .one _ | .blank => .unit
  | .range _ _ => .range
  | .shorthand _ => .set
  | .named n => n.tail

/-- The text that the item is translated to starts with a range. -/
def startsRange : ClassItem → Bool
  | .range _ _ => true
  | .named n => n ∉ [.blank, .space, .word]
  | _ => false

/-- In the translation, no hyphen after the item is taken for the sign of a range. -/
def parted (i : ClassItem) (is : List ClassItem) : Bool :=
  match i.tail, is with
  | .range, _ | _, [] | _, [.one .hyphen] => true
  | .set, .one .hyphen :: next :: _ => !next.startsRange
  | _, next :: _ => !next.startsHyphen

end ClassItem

def Parted : List ClassItem → Bool
  | [] => true
  | i :: is => i.parted is && Parted is

/-- The atoms are read as parts in order, which have the characters of the items. -/
def Means (sets : Shorthand → Nat → Prop) (as : List ClassAtom) (is : List ClassItem) : Prop :=
  (∀ p ∈ classParts as, p.inOrder = true) ∧
    ∀ x : Char, (∃ p ∈ classParts as, p.Has sets x.toNat) ↔ ∃ i ∈ is, i.Has sets x

variable {sets : Shorthand → Nat → Prop}

theorem Means.cons {i : ClassItem} (hi : i.WellFormed) {as : List ClassAtom} {is : List ClassItem}
    (h : Means sets as is) (hparts : classParts (i.atoms ++ as) = classParts i.atoms ++ classParts as) :
    Means sets (i.atoms ++ as) (i :: is) := by
  obtain ⟨horder, hhas⟩ := i.has_parts hi sets
  unfold Means
  rw [hparts]
  refine ⟨List.forall_mem_append.mpr ⟨horder, h.1⟩, fun x => ?_⟩
  simp only [List.mem_append, or_and_right, exists_or, List.mem_cons, exists_eq_left, hhas x, h.2 x]

/-- A dash after a set stands for itself, and so does the atom after the dash. -/
theorem Means.set {i next : ClassItem} {s : Shorthand} (hset : ∀ x, i.Has sets x ↔ sets s x.toNat) {a : ClassAtom}
    {us : List Nat} (hnext : next.WellFormed) (hatoms : next.atoms = a :: us.map .unit) {as : List ClassAtom}
    {is : List ClassItem} (h : Means sets as is) (hgoes : us ≠ [] → ¬ GoesOn as) :
    Means sets (.set s :: .dash :: (next.atoms ++ as)) (i :: .one .hyphen :: next :: is) := by
  have hparts : classParts (.set s :: .dash :: (next.atoms ++ as)) =
      .range (.set s) a :: (us.map (fun n => .one (.unit n)) ++ classParts as) := by
    rw [hatoms, List.cons_append, classParts, classParts_append_units hgoes]
  have hown : classParts next.atoms = .one a :: us.map fun n => .one (.unit n) := by
    have hunits := @classParts_append_units us [] fun _ => not_goesOn_nil
    rw [List.append_nil, classParts, List.append_nil] at hunits
    rw [hatoms, classParts_cons, hunits]
    cases us with
    | nil => exact not_goesOn_nil
    | cons u us => exact not_goesOn_unit u _
  obtain ⟨-, hhas⟩ := next.has_parts hnext sets
  rw [hown] at hhas
  unfold Means
  rw [hparts]
  constructor
  · simp only [List.forall_mem_cons, List.forall_mem_append, List.forall_mem_map]
    exact ⟨rfl, fun _ _ => rfl, h.1⟩
  · intro x
    have hnext := hhas x
    simp only [List.mem_cons, List.mem_map, or_and_right, exists_or, exists_eq_left] at hnext
    simp only [List.mem_cons, List.mem_append, or_and_right, exists_or, exists_eq_left, h.2 x, List.mem_map, hset,
      ← hnext]
    have hhyphen : ClassItem.Has sets x (.one .hyphen) ↔ x.toNat = '-'.toNat := eq_iff_toNat
    rw [hhyphen]
    simp only [ClassPart.Has, ClassAtom.unit?, ClassAtom.Has, or_assoc]

theorem ClassItem.atoms_of_set {i : ClassItem} (h : i.tail = .set) :
    ∃ s, i.atoms = [.set s] ∧ ∀ sets x, i.Has sets x ↔ sets s x.toNat := by
  cases i with
  | shorthand s => exact ⟨s, rfl, fun _ _ => Iff.rfl⟩
  | named n =>
      cases n
      case word => exact ⟨.word, rfl, fun _ _ => Iff.rfl⟩
      all_goals cases h
  | one | range | blank => cases h

theorem ClassItem.atoms_of_not_range {i : ClassItem} (h : i.startsRange = false) :
    ∃ a us, i.atoms = a :: us.map .unit ∧ (us ≠ [] → i.tail = .unit) := by
  cases i with
  | one l => exact ⟨l.atom, [], rfl, fun hne => absurd rfl hne⟩
  | shorthand s => exact ⟨.set s, [], rfl, fun hne => absurd rfl hne⟩
  | blank => exact ⟨.unit 32, [9], rfl, fun _ => rfl⟩
  | named n =>
      cases n
      case blank => exact ⟨.unit 32, [9], rfl, fun _ => rfl⟩
      case space => exact ⟨.unit 32, [9, 13, 10, 11, 12], rfl, fun _ => rfl⟩
      case word => exact ⟨.set .word, [], rfl, fun hne => absurd rfl hne⟩
      all_goals cases h
  | range => cases h

theorem ClassLiteral.eq_hyphen_of_atom {l : ClassLiteral} (h : l.atom = .dash) : l = .hyphen := by
  cases l with
  | hyphen => rfl
  | plain | escaped | opening | closing => cases h

/-- A row of items goes on with a dash only where a hyphen starts it. -/
theorem goesOn_items {is : List ClassItem} (h : GoesOn (is.flatMap ClassItem.atoms)) :
    (∃ next rest, is = .one .hyphen :: next :: rest) ∨ ∃ hi rest, is = .range .hyphen hi :: rest := by
  obtain ⟨b, bs, h⟩ := h
  rcases is with _ | ⟨i, is⟩
  · cases h
  · rw [List.flatMap_cons] at h
    cases i with
    | one l =>
        obtain ⟨hl, hrest⟩ := List.cons.inj h
        obtain rfl := l.eq_hyphen_of_atom hl
        rcases is with _ | ⟨next, rest⟩
        · cases hrest
        · exact Or.inl ⟨next, rest, rfl⟩
    | range lo hi =>
        obtain rfl := lo.eq_hyphen_of_atom (List.cons.inj h).1
        exact Or.inr ⟨hi, is, rfl⟩
    | shorthand | blank => cases h
    | named n => cases n <;> cases h

/-- A hyphen that stands between two items is not taken for the sign of a range only after a set, and before an item
that does not start with a range. -/
theorem ClassItem.of_parted {i : ClassItem} {is : List ClassItem} (h : i.parted is = true) (hrange : i.tail ≠ .range)
    (hgoes : GoesOn (is.flatMap ClassItem.atoms)) :
    i.tail = .set ∧ ∃ next rest, is = .one .hyphen :: next :: rest ∧ next.startsRange = false := by
  unfold parted at h
  cases htail : i.tail with
  | range => exact absurd htail hrange
  | unit =>
      rw [htail] at h
      rcases goesOn_items hgoes with ⟨next, rest, rfl⟩ | ⟨hi, rest, rfl⟩ <;> cases h
  | set =>
      rw [htail] at h
      rcases goesOn_items hgoes with ⟨next, rest, rfl⟩ | ⟨hi, rest, rfl⟩
      · exact ⟨rfl, next, rest, rfl, by simpa using h⟩
      · cases h

/-- The parts of a class are those of its items one by one, where no range goes on across them. -/
theorem classParts_item {i : ClassItem} {as : List ClassAtom} (h : i.tail ≠ .range → ¬ GoesOn as) :
    classParts (i.atoms ++ as) = classParts i.atoms ++ classParts as := by
  cases i with
  | range lo hi => rfl
  | one l =>
      change classParts (l.atom :: as) = classParts [l.atom] ++ _
      rw [classParts_cons (h nofun), classParts_cons not_goesOn_nil]
      rfl
  | shorthand s =>
      change classParts (.set s :: as) = _
      rw [classParts_cons (h nofun)]
      rfl
  | blank => exact classParts_append_units fun _ => h (by decide)
  | named n =>
      cases n
      case blank | space => exact classParts_append_units fun _ => h (by decide)
      case cntrl =>
          have hlast := @classParts_append_units [127] as fun _ => h (by decide)
          exact congrArg (_ :: ·) hlast
      case word =>
          change classParts (.set .word :: as) = _
          rw [classParts_cons (h (by decide))]
          rfl
      all_goals rfl

/-- The atoms of the items have their characters, unless a hyphen is taken for the sign of a range. -/
theorem means_items {is : List ClassItem} (hwf : ∀ i ∈ is, i.WellFormed) (hparted : Parted is = true) :
    Means sets (is.flatMap ClassItem.atoms) is := by
  induction hlength : is.length using Nat.strong_induction_on generalizing is with
  | _ length ih =>
  rcases is with _ | ⟨i, is⟩
  · exact ⟨nofun, fun x => by simp [classParts]⟩
  · obtain ⟨hi, his⟩ := List.forall_mem_cons.mp hwf
    rw [Parted, Bool.and_eq_true] at hparted
    rw [List.length_cons] at hlength
    by_cases hgoes : i.tail ≠ .range → ¬ GoesOn (is.flatMap ClassItem.atoms)
    · exact Means.cons hi (ih is.length (by omega) his hparted.2 rfl) (classParts_item hgoes)
    · push Not at hgoes
      obtain ⟨htail, hgoes⟩ := hgoes
      obtain ⟨hset, next, rest, rfl, hstart⟩ := i.of_parted hparted.1 htail hgoes
      obtain ⟨s, hatoms, hhas⟩ := i.atoms_of_set hset
      obtain ⟨a, us, hnext, hunit⟩ := next.atoms_of_not_range hstart
      obtain ⟨-, hnextwf, hrestwf⟩ := List.forall_mem_cons.mp his |>.imp id List.forall_mem_cons.mp
      rw [Parted, Parted, Bool.and_eq_true, Bool.and_eq_true] at hparted
      obtain ⟨-, -, hbehind, hrest⟩ := hparted
      have hunits : us ≠ [] → ¬ GoesOn (rest.flatMap ClassItem.atoms) := by
        intro hne hgoes
        have htail := hunit hne
        obtain ⟨hset, -⟩ := next.of_parted hbehind (by rw [htail]; decide) hgoes
        cases htail.symm.trans hset
      simp only [List.length_cons] at hlength
      have hmeans := ih rest.length (by omega) hrestwf hrest rfl
      change Means sets (i.atoms ++ .dash :: (next.atoms ++ rest.flatMap ClassItem.atoms)) _
      rw [hatoms]
      exact Means.set (hhas sets) hnextwf hnext hmeans hunits

end Hyphens

section Classes

/-- Every character of the class is one UTF-16 unit. -/
def BracketClass.OneUnit (c : BracketClass) : Prop :=
  ∀ i ∈ c.items, ∀ l ∈ i.literals, l.char.toNat < 0x10000

instance (c : BracketClass) : Decidable c.OneUnit :=
  inferInstanceAs (Decidable (∀ i ∈ c.items, ∀ l ∈ i.literals, l.char.toNat < 0x10000))

/-- No opening bracket with a colon after it finds the end of a named class in what follows the class. -/
def BracketClass.EndsBefore (c : BracketClass) (q : List Char) : Prop :=
  opensName c.items = true → ¬ [':', ']'] <:+: q

variable {c : BracketClass} {q : List Char}

/-- The translation of a class that ends before what follows it. -/
theorem bracketClass_eq_written (hc : c.WellFormed) (h : c.EndsBefore q) : bracketClass (c.text ++ q) =
    ⟨'[' :: (if c.negated then ['^'] else []) ++ (c.items.flatMap ClassItem.written ++ [']']), [], some q⟩ := by
  obtain ⟨first, rest, hitems, hfirst, hrest⟩ := hc.closing
  have hunnamed : Unnamed (']' :: q) c.items :=
    (unnamed_iff hc.unnamed).mpr fun hopens => Text.cut?_eq_none_iff.mpr (h hopens)
  have hwf := hc.items
  rw [bracketClass_text hc hitems hfirst]
  rw [hitems] at hunnamed hwf ⊢
  rw [classMembers_items hwf hrest hunnamed]
  rfl

/-- Problems are met, or not, by what follows the class alone. -/
theorem ends_iff (hc : c.WellFormed) (q : List Char) :
    (bracketClass (c.text ++ q)).problems = [] ∧ (bracketClass (c.text ++ q)).rest = some q ↔ c.EndsBefore q := by
  constructor
  · rintro ⟨hproblems, -⟩
    by_contra hends
    obtain ⟨first, rest, hitems, hfirst, hrest⟩ := hc.closing
    have hnot : ¬ Unnamed (']' :: q) c.items := by
      rw [unnamed_iff hc.unnamed, Text.cut?_eq_none_iff]
      exact hends
    have hwf := hc.items
    have hunnamed := hc.unnamed
    rw [bracketClass_text hc hitems hfirst, problems_before] at hproblems
    rw [hitems] at hnot hwf hunnamed
    exact problems_items hwf hrest hunnamed hnot hproblems
  · intro hends
    rw [bracketClass_eq_written hc hends]
    exact ⟨rfl, rfl⟩

/-- A caret at the start of the translation comes from the start of the class. -/
theorem head_written {i : ClassItem} {cs ds : List Char} (h : (i.written ++ cs).head? = some '^') :
    (i.text ++ ds).head? = some '^' := by
  have hliteral : ∀ {l : ClassLiteral} {cs ds : List Char},
      (l.written ++ cs).head? = some '^' → (l.text ++ ds).head? = some '^' := by
    intro l cs ds h
    cases l with
    | plain c => exact h
    | escaped | opening | closing | hyphen => cases h
  cases i with
  | one l => exact hliteral h
  | range lo hi =>
      simp only [ClassItem.written, ClassItem.text, ClassItem.spelled, List.append_assoc] at h ⊢
      exact hliteral h
  | shorthand | blank => cases h
  | named n =>
      have hnamed : namedClass n.name.toList = ((namedClass n.name.toList).1, []) := Prod.ext rfl (namedClass_name n)
      obtain ⟨d, new, hnew, -, -, hcaret, -⟩ := namedClass_eq hnamed
      rw [ClassItem.written, hnew] at h
      exact absurd (Option.some.inj h) hcaret

/-- The translation is read as the atoms of the items. -/
theorem read?_written (hc : c.WellFormed) (hunits : c.OneUnit) :
    CharacterClass.read? ('[' :: (if c.negated then ['^'] else []) ++ (c.items.flatMap ClassItem.written ++ [']'])) =
      CharacterClass.ofAtoms? c.negated (c.items.flatMap ClassItem.atoms) := by
  have hatoms := classAtoms?_items hc.items hunits
  cases hnegated : c.negated with
  | true =>
      change (classAtoms? (c.items.flatMap ClassItem.written ++ [']'])).bind _ = _
      rw [hatoms]
      rfl
  | false =>
      change CharacterClass.read? ('[' :: (c.items.flatMap ClassItem.written ++ [']'])) = _
      rw [CharacterClass.read?, hatoms]
      · rfl
      · intro cs hcs
        obtain ⟨first, rest, hitems, -, -⟩ := hc.closing
        refine hc.caret hnegated ?_
        have hhead := congrArg List.head? hcs
        rw [hitems, List.flatMap_cons, List.append_assoc] at hhead
        rw [hitems, itemsText_cons]
        exact head_written hhead

/-- Bracket classes keep their meaning. A class ends before what follows it, without a problem, just if no opening
bracket finds the end of a named class there. Then its translation is read as a class that has the same characters, if
no hyphen is taken for the sign of a range and no character has two units. -/
theorem bracket_class_kept (hc : c.WellFormed) (q : List Char) :
    ((bracketClass (c.text ++ q)).problems = [] ∧ (bracketClass (c.text ++ q)).rest = some q ↔ c.EndsBefore q) ∧
    (c.EndsBefore q → Parted c.items = true → c.OneUnit →
      ∃ js, CharacterClass.read? (bracketClass (c.text ++ q)).text = some js ∧
        ∀ sets (x : Char), x.toNat < 0x10000 → (js.Has sets x.toNat ↔ c.Has sets x)) := by
  refine ⟨ends_iff hc q, fun hends hparted hunits => ?_⟩
  have hmeans : ∀ sets, Means sets (c.items.flatMap ClassItem.atoms) c.items := fun sets => means_items hc.items hparted
  have horder : (classParts (c.items.flatMap ClassItem.atoms)).all ClassPart.inOrder = true :=
    List.all_eq_true.mpr (hmeans fun _ _ => False).1
  refine ⟨⟨c.negated, classParts (c.items.flatMap ClassItem.atoms)⟩, ?_, fun sets x _ => ?_⟩
  · rw [bracketClass_eq_written hc hends, read?_written hc hunits]
    exact if_pos horder
  · simp only [CharacterClass.Has, BracketClass.Has, (hmeans sets).2 x]

/-- A negated class with nearly everything in it. -/
def mixed : BracketClass where
  negated := true
  items := [.one .closing, .shorthand .word, .one .hyphen, .one (.plain '.'), .named .alpha, .one .hyphen,
    .one .opening, .one (.plain ':'), .range (.plain '0') (.escaped ']')]

theorem bracket_class_kept_mixed : mixed.text = "^]\\w-.[:alpha:]-[:0-\\]]".toList ∧
    (bracketClass (mixed.text ++ "/:".toList)).problems = [] ∧
    (bracketClass (mixed.text ++ "/:".toList)).rest = some "/:".toList ∧
    ∃ js, CharacterClass.read? (bracketClass (mixed.text ++ "/:".toList)).text = some js ∧
      ∀ sets (x : Char), x.toNat < 0x10000 → (js.Has sets x.toNat ↔ mixed.Has sets x) := by
  have hwf : mixed.WellFormed := by
    refine ⟨by decide +kernel, ⟨_, _, rfl, by decide, by decide⟩, nofun, by decide, ?_⟩
    simp only [mixed, Unnamed, ClassItem.endsOpen, decide_eq_true_iff, reduceCtorEq, Bool.false_eq_true, false_imp_iff,
      true_imp_iff, true_and, and_true]
    intro cs hcs
    cases hcs
    decide
  have hends : mixed.EndsBefore "/:".toList := fun _ => by decide
  obtain ⟨hread, hmeans⟩ := bracket_class_kept hwf "/:".toList
  obtain ⟨hproblems, hrest⟩ := hread.mpr hends
  exact ⟨by decide, hproblems, hrest, hmeans hends (by decide) (by decide)⟩

/-- A hyphen after the horizontal blanks. -/
def blankHyphen : BracketClass where
  negated := false
  items := [.blank, .one .hyphen, .one (.plain 'z')]

/-- A hyphen between the digits and a range. -/
def digitHyphen : BracketClass where
  negated := false
  items := [.shorthand .digit, .one .hyphen, .range (.plain 'a') (.plain 'z')]

/-- A range to a character of two units. -/
def wideRange : BracketClass where
  negated := false
  items := [.range (.plain 'a') (.plain '😀')]

/-- An opening bracket and a colon. -/
def openColon : BracketClass where
  negated := false
  items := [.one .opening, .one (.plain ':'), .one (.plain 'a')]

/-- Classes that lose their meaning: the blanks and a hyphen become a range to the next character, a hyphen between
digits and a range takes the range apart, a range ends at the first unit of a character, and a bracket and a colon are
taken for the start of a name that ends after the class. -/
theorem class_meaning_lost :
    (blankHyphen.WellFormed ∧ blankHyphen.text = "\\h-z]".toList ∧
      ∃ js, CharacterClass.read? (bracketClass blankHyphen.text).text = some js ∧
        ∀ sets, js.Has sets 'a'.toNat ∧ ¬ blankHyphen.Has sets 'a') ∧
    (digitHyphen.WellFormed ∧ digitHyphen.text = "\\d-a-z]".toList ∧
      ∃ js, CharacterClass.read? (bracketClass digitHyphen.text).text = some js ∧
        ∀ sets, ¬ sets .digit 'b'.toNat → ¬ js.Has sets 'b'.toNat ∧ digitHyphen.Has sets 'b') ∧
    (wideRange.WellFormed ∧ wideRange.text = "a-😀]".toList ∧
      ∃ js, CharacterClass.read? (bracketClass wideRange.text).text = some js ∧
        ∀ sets, ¬ js.Has sets '\uFFFD'.toNat ∧ wideRange.Has sets '\uFFFD') ∧
    openColon.WellFormed ∧ openColon.text = "[:a]".toList ∧
      (bracketClass (openColon.text ++ "x:]".toList)).problems = [.unknownClass "a]x"] := by
  refine ⟨⟨?_, by decide, ⟨false, [.one (.unit 32), .range (.unit 9) (.unit 122)]⟩, by decide +kernel, ?_⟩,
    ⟨?_, by decide, ⟨false, [.range (.set .digit) (.unit 97), .one .dash, .one (.unit 122)]⟩, by decide +kernel, ?_⟩,
    ⟨?_, by decide, ⟨false, [.range (.unit 97) (.unit 0xD83D), .one (.unit 0xDE00)]⟩, by decide +kernel, ?_⟩,
    ?_, by decide, by decide +kernel⟩
  · exact ⟨by decide +kernel, ⟨_, _, rfl, by decide, by decide⟩, fun _ => by decide, by decide, nofun, nofun, nofun,
      trivial⟩
  · simp [CharacterClass.Has, BracketClass.Has, ClassPart.Has, ClassAtom.Has, ClassAtom.unit?, blankHyphen,
      ClassItem.Has, ClassLiteral.char]
  · exact ⟨by decide +kernel, ⟨_, _, rfl, by decide, by decide⟩, fun _ => by decide, by decide, nofun, nofun, nofun,
      trivial⟩
  · intro sets hset
    simpa [CharacterClass.Has, BracketClass.Has, ClassPart.Has, ClassAtom.Has, ClassAtom.unit?, digitHyphen,
      ClassItem.Has, ClassLiteral.char] using hset
  · exact ⟨by decide +kernel, ⟨_, _, rfl, by decide, by decide⟩, fun _ => by decide, by decide, nofun, trivial⟩
  · simp [CharacterClass.Has, BracketClass.Has, ClassPart.Has, ClassAtom.Has, ClassAtom.unit?, wideRange,
      ClassItem.Has, ClassLiteral.char]
  · refine ⟨by decide +kernel, ⟨_, _, rfl, by decide, by decide⟩, fun _ => by decide, by decide, fun _ cs hcs => ?_,
      nofun, nofun, trivial⟩
    cases hcs
    decide

end Classes

end EdgeRoutes.Pattern
