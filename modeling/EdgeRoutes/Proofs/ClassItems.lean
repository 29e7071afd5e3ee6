import EdgeRoutes.Proofs.ScriptClasses
import EdgeRoutes.Proofs.UpstreamAddresses

/-! The items of bracket classes. A class of a configuration is a row of items: characters, ranges, sets and named
classes, with a hyphen among them where it stands for itself. Items are translated one by one, and the class ends at its
own bracket, unless an opening bracket in it finds the end of a named class in what follows the class. -/

namespace EdgeRoutes

/-- A mark that is not in a text is found in what follows it, unless it starts at the end of the text. -/
theorem Text.cut?_append_of_none {m n : Char} {a b : List Char} (h : Text.cut? [m, n] a = none)
    (hlast : a.getLast? ≠ some m) : Text.cut? [m, n] (a ++ b) = (Text.cut? [m, n] b).map fun p => (a ++ p.1, p.2) := by
  induction a with
  | nil => simp
  | cons c a ih =>
      unfold Text.cut? at h
      cases hafter : Text.after? [m, n] (c :: a) with
      | some rest =>
          rw [hafter] at h
          cases h
      | none =>
          simp only [hafter, Option.map_eq_none_iff] at h
          have hnone : Text.after? [m, n] (c :: (a ++ b)) = none := by
            cases a with
            | nil => exact Text.after?_eq_none_of_ne (fun hc => hlast (by simp [hc])) _ _
            | cons d a => simpa [Text.after?] using hafter
          have htail : a.getLast? ≠ some m := by
            cases a with
            | nil => simp
            | cons d a => simpa using hlast
          rw [List.cons_append, Text.cut?, hnone]
          dsimp only
          rw [ih h htail, Option.map_map]
          rfl

theorem Text.cut?_eq_none_iff {m : Char} {ms cs : List Char} :
    Text.cut? (m :: ms) cs = none ↔ ¬ m :: ms <:+: cs := by
  induction cs with
  | nil => simp [Text.cut?, Text.after?]
  | cons c cs ih =>
      rw [Text.cut?, List.infix_cons_iff, not_or, ← ih]
      cases hafter : Text.after? (m :: ms) (c :: cs) with
      | some rest =>
          have hstarts : m :: ms <+: c :: cs := ⟨rest, (Text.after?_eq_some hafter).symm⟩
          simp [hstarts]
      | none =>
          have hnot : ¬ m :: ms <+: c :: cs := by
            rintro ⟨rest, hrest⟩
            rw [← hrest, Text.after?_append] at hafter
            cases hafter
          simp [hnot]

namespace Pattern

open Js

section Classes

/-- A character of a class as it is written. -/
inductive ClassLiteral where
  | plain (c : Char)
  | escaped (c : Char)
  /-- An opening bracket. -/
  | opening
  /-- A closing bracket where the class begins. -/
  | closing
  | hyphen
  deriving DecidableEq

namespace ClassLiteral

def char : ClassLiteral → Char
  | .plain c | .escaped c => c
  | .opening => '['
  | .closing => ']'
  | .hyphen => '-'

def text : ClassLiteral → List Char
  | .plain c => [c]
  | .escaped c => ['\\', c]
  | .opening => ['[']
  | .closing => [']']
  | .hyphen => ['-']

/-- The character is one that can be written this way. -/
def WellFormed : ClassLiteral → Prop
  | .plain c => c ∉ ['\\', '[', ']', '-']
  | .escaped c => c.isAlphanum = false
  | _ => True

instance : DecidablePred WellFormed
  | .plain _ => inferInstanceAs (Decidable (_ ∉ _))
  | .escaped _ => inferInstanceAs (Decidable (_ = _))
  | .opening | .closing | .hyphen => isTrue trivial

end ClassLiteral

/-- The named classes. -/
inductive ClassName where
  | alnum | alpha | ascii | blank | cntrl | digit | graph | lower | print | punct | space | upper | word | xdigit
  deriving DecidableEq

namespace ClassName

def name : ClassName → String
  | alnum => "alnum"
  | alpha => "alpha"
  | ascii => "ascii"
  | blank => "blank"
  | cntrl => "cntrl"
  | digit => "digit"
  | graph => "graph"
  | lower => "lower"
  | print => "print"
  | punct => "punct"
  | space => "space"
  | upper => "upper"
  | word => "word"
  | xdigit => "xdigit"

def Has (sets : Shorthand → Nat → Prop) (x : Char) : ClassName → Prop
  | alnum => x.isAlphanum = true
  | alpha => x.isAlpha = true
  | ascii => x.toNat < 128
  | blank => x = ' ' ∨ x = '\t'
  | cntrl => x.toNat < 32 ∨ x.toNat = 127
  | digit => x.isDigit = true
  | graph => 32 < x.toNat ∧ x.toNat < 127
  | lower => x.isLower = true
  | print => 32 ≤ x.toNat ∧ x.toNat < 127
  | punct => 32 < x.toNat ∧ x.toNat < 127 ∧ x.isAlphanum = false
  | space => x = ' ' ∨ 9 ≤ x.toNat ∧ x.toNat ≤ 13
  | upper => x.isUpper = true
  | word => sets .word x.toNat
  | xdigit => x.isDigit = true ∨ 'A' ≤ x ∧ x ≤ 'F' ∨ 'a' ≤ x ∧ x ≤ 'f'

end ClassName

inductive ClassItem where
  | one (l : ClassLiteral)
  | range (lo hi : ClassLiteral)
  | shorthand (s : Shorthand)
  /-- The horizontal blanks. -/
  | blank
  | named (n : ClassName)
  deriving DecidableEq

namespace ClassItem

def literals : ClassItem → List ClassLiteral
  | .one l => [l]
  | .range lo hi => [lo, hi]
  | _ => []

/-- The item as it is written, given how characters are. -/
def spelled (literal : ClassLiteral → List Char) : ClassItem → List Char
  | .one l => literal l
  | .range lo hi => literal lo ++ '-' :: literal hi
  | .shorthand s => ['\\', s.letter]
  | .blank => ['\\', 'h']
  | .named n => '[' :: ':' :: (n.name.toList ++ [':', ']'])

def text : ClassItem → List Char := spelled ClassLiteral.text

/-- The characters of an item. A blank, `\h`, is a space or a tab, as the translation takes it: of the further blanks that
it has elsewhere there is none here. -/
def Has (sets : Shorthand → Nat → Prop) (x : Char) : ClassItem → Prop
  | .one l => x = l.char
  | .range lo hi => lo.char ≤ x ∧ x ≤ hi.char
  | .shorthand s => sets s x.toNat
  | .blank => x = ' ' ∨ x = '\t'
  | .named n => n.Has sets x

/-- The characters are well formed, and a range is in order. -/
def WellFormed : ClassItem → Prop
  | .one l => l.WellFormed
  | .range lo hi => lo.WellFormed ∧ hi.WellFormed ∧ lo.char ≤ hi.char
  | _ => True

instance : DecidablePred WellFormed
  | .one _ => inferInstanceAs (Decidable (ClassLiteral.WellFormed _))
  | .range _ _ => inferInstanceAs (Decidable (_ ∧ _ ∧ _))
  | .shorthand _ | .blank | .named _ => isTrue trivial

/-- The item starts with a hyphen that is not escaped. -/
def startsHyphen : ClassItem → Bool
  | .one l => l = .hyphen
  | .range lo _ => lo = .hyphen
  | _ => false

def endsOpen : ClassItem → Bool
  | .one l => l = .opening
  | .range _ hi => hi = .opening
  | _ => false

/-- The item is a single character. -/
def isOne : ClassItem → Bool
  | .one _ => true
  | _ => false

end ClassItem

def itemsText (is : List ClassItem) : List Char := is.flatMap ClassItem.text

theorem itemsText_cons (i : ClassItem) (is : List ClassItem) : itemsText (i :: is) = i.text ++ itemsText is :=
  List.flatMap_cons

/-- Hyphens that start an item stand where they stand for themselves: at the start, at the end, or after an item that is
no single character. -/
def hyphensPlaced (free : Bool) : List ClassItem → Bool
  | [] => true
  | i :: is => (!i.startsHyphen || free || i == .one .hyphen && is.isEmpty) && hyphensPlaced (!i.isOne) is

/-- No opening bracket has a colon after it and the end of a named class further on, `after` being what follows the
items. -/
def Unnamed (after : List Char) : List ClassItem → Prop
  | [] => True
  | i :: is =>
    (i.endsOpen = true → ∀ cs, itemsText is ++ after = ':' :: cs → Text.cut? [':', ']'] cs = none) ∧ Unnamed after is

/-- Some opening bracket has a colon after it. -/
def opensName : List ClassItem → Bool
  | [] => false
  | i :: is => i.endsOpen && (itemsText is).head? == some ':' || opensName is

structure BracketClass where
  negated : Bool
  items : List ClassItem

namespace BracketClass

/-- The class after its opening bracket. -/
def text (c : BracketClass) : List Char :=
  (if c.negated then ['^'] else []) ++ itemsText c.items ++ [']']

/-- The characters of the class. -/
def Has (sets : Shorthand → Nat → Prop) (x : Char) (c : BracketClass) : Prop :=
  if c.negated then ¬ ∃ i ∈ c.items, i.Has sets x else ∃ i ∈ c.items, i.Has sets x

/-- The items are what the text of the class is read as: a closing bracket is the first character if it is one of them,
a class that is not negated does not start with a caret, hyphens are where they stand for themselves, and an opening
bracket does not start a named class. -/
structure WellFormed (c : BracketClass) : Prop where
  items : ∀ i ∈ c.items, i.WellFormed
  closing : ∃ first rest, c.items = first :: rest ∧ .closing ∉ first.literals.tail ∧ ∀ i ∈ rest, .closing ∉ i.literals
  caret : c.negated = false → (itemsText c.items).head? ≠ some '^'
  hyphens : hyphensPlaced true c.items = true
  unnamed : Unnamed [']'] c.items

end BracketClass

end Classes

section Translation

variable {cs q : List Char}

/-- The text of a character behind the place where a closing bracket stands for itself: there it has to be escaped. -/
def ClassLiteral.inside : ClassLiteral → List Char
  | .closing => ['\\', ']']
  | l => l.text

/-- What a character is translated to. -/
def ClassLiteral.written : ClassLiteral → List Char
  | .opening => ['\\', '[']
  | l => l.inside

/-- What an item is translated to. -/
def ClassItem.written : ClassItem → List Char
  | .blank => [' ', '\\', 't']
  | .named n => (namedClass n.name.toList).1
  | i => i.spelled ClassLiteral.written

theorem ClassText.before_before (c : ClassText) (a b : List Char) (ps qs : List Problem) :
    (c.before b qs).before a ps = c.before (a ++ b) (ps ++ qs) := by
  simp only [ClassText.before, List.append_assoc]

/-- A literal of a class is written in its own way, and the class goes on behind it. An opening bracket is one only
where no named class begins. -/
theorem classMembers_literal {l : ClassLiteral} (hl : l.WellFormed)
    (hopen : l = .opening → ∀ ds, cs = ':' :: ds → Text.cut? [':', ']'] ds = none) :
    classMembers (l.inside ++ cs) = (classMembers cs).before l.written [] := by
  cases l with
  | plain c =>
      simp only [ClassLiteral.WellFormed, List.mem_cons, List.not_mem_nil, or_false, not_or] at hl
      exact classMembers_append (show isCopied [c] = true by simp [isCopied, hl]) cs
  | escaped c =>
      refine classMembers_append (show isCopied ['\\', c] = true from ?_) cs
      rw [isCopied, isCopied, Bool.and_true, bne_iff_ne]
      rintro rfl
      cases hl
  | opening =>
      change classMembers ('[' :: cs) = (classMembers cs).before ['\\', '['] []
      by_cases hcolon : ∃ ds, cs = ':' :: ds
      · obtain ⟨ds, rfl⟩ := hcolon
        rw [classMembers, hopen rfl ds rfl]
      · rw [classMembers]
        exact fun ds hds => hcolon ⟨ds, hds⟩
  | closing => exact classMembers_append (show isCopied ['\\', ']'] = true by decide) cs
  | hyphen => exact classMembers_append (show isCopied ['-'] = true by decide) cs

theorem classMembers_hyphen : classMembers ('-' :: cs) = (classMembers cs).before ['-'] [] :=
  classMembers_append (show isCopied ['-'] = true by decide) cs

theorem namedClass_name (n : ClassName) : (namedClass n.name.toList).2 = [] := by
  cases n <;> decide +kernel

theorem classMembers_named (n : ClassName) :
    classMembers ((ClassItem.named n).text ++ cs) = (classMembers cs).before (namedClass n.name.toList).1 [] := by
  have hcolon : ':' ∉ n.name.toList := by cases n <;> decide +kernel
  have hcut : Text.cut? [':', ']'] (n.name.toList ++ ([':', ']'] ++ cs)) = some (n.name.toList, cs) :=
    Text.cut?_append hcolon cs
  have htext : (ClassItem.named n).text ++ cs = '[' :: ':' :: (n.name.toList ++ ([':', ']'] ++ cs)) := by
    simp [ClassItem.text, ClassItem.spelled]
  rw [htext, classMembers, hcut]
  dsimp only
  rw [if_pos (by simp only [List.length_append, List.length_cons]; omega), namedClass_name]

/-- An item is translated by itself, whatever follows it. -/
theorem classMembers_item {i : ClassItem} (hi : i.WellFormed)
    (hopen : i.endsOpen = true → ∀ ds, cs = ':' :: ds → Text.cut? [':', ']'] ds = none) :
    classMembers (i.spelled ClassLiteral.inside ++ cs) = (classMembers cs).before i.written [] := by
  cases i with
  | one l => exact classMembers_literal hi fun hl => hopen (decide_eq_true hl)
  | range lo hi' =>
      obtain ⟨hlo, hhi, -⟩ := hi
      have hhyphen : lo = .opening → ∀ ds, '-' :: (hi'.inside ++ cs) = ':' :: ds → Text.cut? [':', ']'] ds = none := by
        intro _ ds hds
        cases hds
      simp only [ClassItem.spelled, List.append_assoc, List.cons_append]
      rw [classMembers_literal hlo hhyphen, classMembers_hyphen, ClassText.before_before,
        classMembers_literal hhi fun hl => hopen (decide_eq_true hl), ClassText.before_before]
      simp [ClassItem.written, ClassItem.spelled]
  | shorthand s => cases s <;> exact classMembers_append (by decide) cs
  | blank =>
      change classMembers ('\\' :: 'h' :: cs) = _
      rw [classMembers]
      rfl
  | named n => exact classMembers_named n

theorem ClassLiteral.inside_eq {l : ClassLiteral} (h : l ≠ .closing) : l.inside = l.text := by
  cases l with
  | closing => exact absurd rfl h
  | plain | escaped | opening | hyphen => rfl

theorem ClassItem.inside_eq {i : ClassItem} (h : .closing ∉ i.literals) : i.spelled ClassLiteral.inside = i.text := by
  cases i with
  | one l => exact ClassLiteral.inside_eq fun hl => h (by simp [literals, hl])
  | range lo hi =>
      have hlo : lo ≠ .closing := fun hl => h (by simp [literals, hl])
      have hhi : hi ≠ .closing := fun hl => h (by simp [literals, hl])
      simp only [text, spelled, ClassLiteral.inside_eq hlo, ClassLiteral.inside_eq hhi]
  | shorthand | blank | named => rfl

/-- The class ends at its own bracket, with its items translated one by one. -/
theorem classMembers_items {i : ClassItem} {is : List ClassItem} (hwf : ∀ j ∈ i :: is, j.WellFormed)
    (hclosing : ∀ j ∈ is, .closing ∉ j.literals) (h : Unnamed (']' :: q) (i :: is)) :
    classMembers (i.spelled ClassLiteral.inside ++ (itemsText is ++ ']' :: q)) =
      ⟨(i :: is).flatMap ClassItem.written ++ [']'], [], some q⟩ := by
  obtain ⟨hi, his⟩ := List.forall_mem_cons.mp hwf
  rw [classMembers_item hi h.1]
  induction is generalizing i with
  | nil =>
      change (classMembers (']' :: q)).before _ _ = _
      rw [classMembers]
      simp [ClassText.before]
  | cons j is ih =>
      obtain ⟨hj, hrest⟩ := List.forall_mem_cons.mp hclosing
      obtain ⟨hjwf, hisrest⟩ := List.forall_mem_cons.mp his
      rw [itemsText_cons, ← ClassItem.inside_eq hj, List.append_assoc, classMembers_item hjwf h.2.1,
        ih his hrest h.2 hjwf hisrest]
      simp [ClassText.before]

/-- A name with a bracket in it is no known one. -/
theorem namedClass_of_bracket {name : List Char} (h : ']' ∈ name) : (namedClass name).2 ≠ [] := by
  have hnames : ∀ e ∈ namedClasses, ']' ∉ e.1.toList := by decide +kernel
  unfold namedClass
  split
  · exact List.cons_ne_nil _ _
  · split
    · next e members hfind =>
        have hname : e = String.ofList name := by simpa using List.find?_some hfind
        have hnot := hnames _ (List.mem_of_find?_eq_some hfind)
        rw [hname, String.toList_ofList] at hnot
        exact absurd h hnot
    · exact List.cons_ne_nil _ _

theorem problems_before (c : ClassText) (text : List Char) : (c.before text []).problems = c.problems := rfl

/-- Where a name with a bracket in it is found, that is reported. -/
theorem problems_opening {name rest : List Char} (hcut : Text.cut? [':', ']'] cs = some (name, rest)) (h : ']' ∈ name) :
    (classMembers ('[' :: ':' :: cs)).problems ≠ [] := by
  have hlength : rest.length < cs.length := by
    rw [Text.cut?_eq_some hcut]
    simp only [List.length_append, List.length_cons]
    omega
  rw [classMembers, hcut]
  dsimp only
  rw [if_pos hlength]
  exact fun hnil => namedClass_of_bracket h (List.append_eq_nil_iff.mp hnil).1

theorem problems_item {i : ClassItem} (hi : i.WellFormed) (hopen : i.endsOpen = true) :
    (classMembers (i.spelled ClassLiteral.inside ++ cs)).problems = (classMembers ('[' :: cs)).problems := by
  cases i with
  | one l =>
      obtain rfl := of_decide_eq_true hopen
      rfl
  | range lo hi' =>
      obtain rfl := of_decide_eq_true hopen
      have hhyphen : lo = .opening → ∀ ds, '-' :: '[' :: cs = ':' :: ds → Text.cut? [':', ']'] ds = none := by
        intro _ ds hds
        cases hds
      simp only [ClassItem.spelled, List.append_assoc, List.cons_append]
      change (classMembers (lo.inside ++ '-' :: '[' :: cs)).problems = _
      rw [classMembers_literal hi.1 hhyphen, classMembers_hyphen, problems_before, problems_before]
  | shorthand | blank | named => cases hopen

/-- The text after a bracket, if a colon comes first. -/
theorem itemsText_colon {is : List ClassItem} {after : List Char} {c : Char} (hc : c ≠ ':') {cs : List Char} :
    itemsText is ++ c :: after = ':' :: cs ↔ ∃ t, itemsText is = ':' :: t ∧ cs = t ++ c :: after := by
  cases itemsText is with
  | nil => simp [hc]
  | cons d t =>
      simp only [List.cons_append, List.cons.injEq]
      constructor
      · rintro ⟨rfl, rfl⟩
        exact ⟨t, ⟨rfl, rfl⟩, rfl⟩
      · rintro ⟨t', ⟨rfl, rfl⟩, rfl⟩
        exact ⟨rfl, rfl⟩

theorem cut?_class {t : List Char} (h : Text.cut? [':', ']'] (t ++ [']']) = none) :
    Text.cut? [':', ']'] (t ++ ']' :: q) = (Text.cut? [':', ']'] q).map fun p => (t ++ [']'] ++ p.1, p.2) := by
  rw [← Text.cut?_append_of_none h (by simp), List.append_assoc, List.singleton_append]

/-- No opening bracket is taken for the start of a named class just if none has a colon after it, or the end of a named
class does not come after the class. -/
theorem unnamed_iff {is : List ClassItem} (h : Unnamed [']'] is) :
    Unnamed (']' :: q) is ↔ (opensName is = true → Text.cut? [':', ']'] q = none) := by
  induction is with
  | nil => simp [Unnamed, opensName]
  | cons i is ih =>
      rw [Unnamed, ih h.2, opensName]
      simp only [itemsText_colon (show ']' ≠ ':' by decide)]
      have hclass := h.1
      simp only [itemsText_colon (show ']' ≠ ':' by decide)] at hclass
      cases hends : i.endsOpen with
      | false => simp
      | true =>
          cases htext : itemsText is with
          | nil => simp
          | cons d t =>
              by_cases hd : d = ':'
              · subst hd
                have hnone := hclass hends _ ⟨t, htext, rfl⟩
                simpa [cut?_class hnone] using fun hq _ => hq
              · simp [hd]

/-- Otherwise a name is found that is not known. -/
theorem problems_items {i : ClassItem} {is : List ClassItem} (hwf : ∀ j ∈ i :: is, j.WellFormed)
    (hclosing : ∀ j ∈ is, .closing ∉ j.literals) (h : Unnamed [']'] (i :: is)) (hnot : ¬ Unnamed (']' :: q) (i :: is)) :
    (classMembers (i.spelled ClassLiteral.inside ++ (itemsText is ++ ']' :: q))).problems ≠ [] := by
  induction is generalizing i with
  | nil =>
      refine absurd ⟨fun _ cs hcs => ?_, trivial⟩ hnot
      cases hcs
  | cons j is ih =>
      obtain ⟨hi, his⟩ := List.forall_mem_cons.mp hwf
      obtain ⟨hj, hrest⟩ := List.forall_mem_cons.mp hclosing
      by_cases hends : i.endsOpen = true →
          ∀ ds, itemsText (j :: is) ++ ']' :: q = ':' :: ds → Text.cut? [':', ']'] ds = none
      · rw [classMembers_item hi hends, problems_before, itemsText_cons, ← ClassItem.inside_eq hj, List.append_assoc]
        exact ih his hrest h.2 fun his => hnot ⟨hends, his⟩
      · push Not at hends
        obtain ⟨hopen, ds, hds, hfound⟩ := hends
        rw [problems_item hi hopen, hds]
        obtain ⟨t, ht, rfl⟩ := (itemsText_colon (by decide)).mp hds
        have hnone : Text.cut? [':', ']'] (t ++ [']']) = none := h.1 hopen _ (by rw [ht]; rfl)
        rw [cut?_class hnone] at hfound
        obtain ⟨p, hp⟩ := Option.ne_none_iff_exists'.mp hfound
        obtain ⟨⟨name, rest⟩, hcut, rfl⟩ := Option.map_eq_some_iff.mp hp
        refine problems_opening ((cut?_class hnone).trans hp) ?_
        simp

theorem bracketClass_closing (negated : Bool) : bracketClass ((if negated then ['^'] else []) ++ ']' :: cs) =
    (classMembers ('\\' :: ']' :: cs)).before ('[' :: if negated then ['^'] else []) [] := by
  have hescaped : classMembers ('\\' :: ']' :: cs) = (classMembers cs).before ['\\', ']'] [] :=
    classMembers_append (show isCopied ['\\', ']'] = true by decide) cs
  rw [hescaped, ClassText.before_before]
  cases negated <;> rfl

theorem bracketClass_other {negated : Bool} {d : Char} (hclose : d ≠ ']') (hcaret : negated = false → d ≠ '^') :
    bracketClass ((if negated then ['^'] else []) ++ d :: cs) =
      (classMembers (d :: cs)).before ('[' :: if negated then ['^'] else []) [] := by
  cases negated with
  | true =>
      change bracketClass ('^' :: d :: cs) = _
      rw [bracketClass]
      · rfl
      · simp [hclose]
  | false =>
      change bracketClass (d :: cs) = _
      rw [bracketClass]
      · rfl
      all_goals simp [hclose, hcaret rfl]

/-- The first item starts with a closing bracket, or it reads the same inside the class. -/
theorem ClassItem.inside_cases {i : ClassItem} (hi : i.WellFormed) (h : .closing ∉ i.literals.tail) :
    (∃ t, i.text = ']' :: t ∧ i.spelled ClassLiteral.inside = '\\' :: ']' :: t) ∨
      i.spelled ClassLiteral.inside = i.text ∧ ∃ d t, i.text = d :: t ∧ d ≠ ']' := by
  have hliteral : ∀ {l : ClassLiteral}, l.WellFormed → l ≠ .closing → ∃ d t, l.text = d :: t ∧ d ≠ ']' := by
    intro l hl hne
    cases l with
    | plain c => exact ⟨c, [], rfl, fun hc => hl (by simp [hc])⟩
    | closing => exact absurd rfl hne
    | escaped | opening | hyphen => exact ⟨_, _, rfl, by decide⟩
  cases i with
  | one l =>
      by_cases hl : l = .closing
      · subst hl
        exact Or.inl ⟨[], rfl, rfl⟩
      · exact Or.inr ⟨ClassLiteral.inside_eq hl, hliteral hi hl⟩
  | range lo hi' =>
      have hhi : hi' ≠ .closing := fun hl => h (by simp [literals, hl])
      by_cases hlo : lo = .closing
      · subst hlo
        exact Or.inl ⟨'-' :: hi'.text, rfl, by rw [spelled, ClassLiteral.inside_eq hhi]; rfl⟩
      · obtain ⟨d, t, ht, hd⟩ := hliteral hi.1 hlo
        refine Or.inr ⟨ClassItem.inside_eq ?_, d, t ++ '-' :: hi'.text, ?_, hd⟩
        · simp [literals, Ne.symm hlo, Ne.symm hhi]
        · simp [text, spelled, ht]
  | shorthand | blank | named => exact Or.inr ⟨rfl, _, _, rfl, by decide⟩

/-- A class is read as its items, after the bracket and the caret that it starts with. -/
theorem bracketClass_text {c : BracketClass} (hwf : c.WellFormed) {first : ClassItem} {rest : List ClassItem}
    (hitems : c.items = first :: rest) (hfirst : .closing ∉ first.literals.tail) : bracketClass (c.text ++ q) =
      (classMembers (first.spelled ClassLiteral.inside ++ (itemsText rest ++ ']' :: q))).before
        ('[' :: if c.negated then ['^'] else []) [] := by
  have htext : c.text ++ q =
      (if c.negated then ['^'] else []) ++ (first.text ++ (itemsText rest ++ ']' :: q)) := by
    simp [BracketClass.text, hitems, itemsText_cons]
  rw [htext]
  have hi : first.WellFormed := hwf.items first (by simp [hitems])
  rcases first.inside_cases hi hfirst with ⟨t, ht, hinside⟩ | ⟨hinside, d, t, ht, hd⟩
  · rw [ht, hinside]
    exact bracketClass_closing c.negated
  · rw [hinside, ht]
    refine bracketClass_other hd fun hnegated hcaret => hwf.caret hnegated ?_
    rw [hitems, itemsText_cons, ht, hcaret]
    rfl

end Translation

end Pattern

end EdgeRoutes
