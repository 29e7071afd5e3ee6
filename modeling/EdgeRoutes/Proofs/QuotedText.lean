import EdgeRoutes.Proofs.ConditionReading
import EdgeRoutes.Proofs.OrdinaryPatterns
import EdgeRoutes.Proofs.PatternLiterals
import EdgeRoutes.Proofs.Retranslation

/-! Quoted text. A text that is escaped for a pattern is read as one literal for each of its characters, whatever they
are, so the pattern matches the text and nothing else. The translation of a quotation is such a pattern. The grammar
check of it stops early only where the text spells a named reference, which the check takes for one.

Patterns are read here by characters, and classes elsewhere by UTF-16 units. That makes no difference for literals: a
character of two units is two literals in a row, which match the two units of that character and no others. In a class
the two units are two members, either of which matches alone, so there they have to be told apart. -/

namespace EdgeRoutes

namespace Js

/-- The characters that have a meaning in patterns of the language. -/
def syntaxCharacters : List Char := "^$\\.*+?()[]\x7b\x7d|".toList

/-- The character that a unit stands for outside brackets, if it stands for just one character: one without a meaning by
itself, and one with a meaning, or a slash, behind a backslash. -/
def PatternUnit.literal? : PatternUnit → Option Char
  | .single c => if syntaxCharacters.contains c then none else some c
  | .pair c => if syntaxCharacters.contains c || c == '/' then some c else none

/-- The pattern that a text is read as outside brackets, if all its units are literals. -/
def readLiterals? (cs : List Char) : Option Regex :=
  ((units cs).mapM PatternUnit.literal?).map fun cs => .seqs (cs.map .char)

/-- The unit that a character of literal text is written as. -/
def escapedUnit (c : Char) : PatternUnit :=
  if isPatternSpecial c then .pair c else .single c

theorem isPatternSpecial_eq (c : Char) : isPatternSpecial c = (syntaxCharacters.contains c || c == '/') := by
  have hperm : "\\^$.*+?()[]\x7b\x7d|/".toList.Perm (syntaxCharacters ++ ['/']) := by decide
  rw [isPatternSpecial, Bool.eq_iff_iff, Bool.or_eq_true, List.contains_iff_mem, List.contains_iff_mem, beq_iff_eq,
    hperm.mem_iff, List.mem_append, List.mem_singleton]

theorem literal?_escapedUnit (c : Char) : (escapedUnit c).literal? = some c := by
  unfold escapedUnit
  split_ifs with hspecial
  · rw [PatternUnit.literal?, if_pos (isPatternSpecial_eq c ▸ hspecial)]
  · rw [isPatternSpecial_eq, Bool.or_eq_true, not_or] at hspecial
    rw [PatternUnit.literal?, if_neg hspecial.1]

theorem units_escapePattern (s : List Char) : units (escapePattern s) = s.map escapedUnit := by
  have htext : escapePattern s = (s.map escapedUnit).flatMap PatternUnit.text := by
    rw [escapePattern, List.flatMap_map]
    refine List.flatMap_congr fun c _ => ?_
    rw [escapeChar, escapedUnit]
    split_ifs <;> rfl
  have hpaired : .single '\\' ∉ s.map escapedUnit := by
    intro hmem
    obtain ⟨c, -, hc⟩ := List.mem_map.mp hmem
    have hliteral := literal?_escapedUnit c
    rw [hc] at hliteral
    cases hliteral
  rw [htext, units_flatMap_text hpaired]

/-- Each character of the text is one literal. -/
theorem literals_escapePattern (s : List Char) : (units (escapePattern s)).map PatternUnit.literal? = s.map some := by
  rw [units_escapePattern, List.map_map]
  exact List.map_congr_left fun c _ => literal?_escapedUnit c

theorem readLiterals?_escapePattern (s : List Char) :
    readLiterals? (escapePattern s) = some (.seqs (s.map .char)) := by
  have hunits : (s.map escapedUnit).mapM PatternUnit.literal? = some s := by
    induction s with
    | nil => rfl
    | cons c s ih => rw [List.map_cons, List.mapM_cons, literal?_escapedUnit, ih]; rfl
  rw [readLiterals?, units_escapePattern, hunits]
  rfl

theorem escapePattern_injective : Function.Injective escapePattern := by
  intro s t h
  have hliterals := congrArg (fun cs => (units cs).map PatternUnit.literal?) h
  simp only [literals_escapePattern] at hliterals
  exact List.map_injective_iff.mpr (Option.some_injective _) hliterals

theorem escapePattern_append (s t : List Char) : escapePattern (s ++ t) = escapePattern s ++ escapePattern t :=
  List.flatMap_append

/-- Literals in a row match just the text that they spell. -/
theorem Regex.matches_literals {s pre mid post : List Char} :
    (seqs (s.map char)).Matches false pre mid post ↔ mid = s := by
  induction s generalizing pre mid with
  | nil => rfl
  | cons c s ih =>
      constructor
      · rintro ⟨x, y, rfl, ⟨d, rfl, hd⟩, hs⟩
        obtain rfl : c = d := hd
        rw [ih.mp hs, List.singleton_append]
      · rintro rfl
        exact ⟨[c], s, rfl, ⟨c, rfl, rfl⟩, ih.mpr rfl⟩

end Js

namespace Pattern.Grammar

theorem next?_plain {c : Char} (hc : c ≠ '\\') (cs : List Char) : next? (c :: cs) = some (.plain c) := by
  rw [next?]
  exact fun _ _ h _ => hc h

theorem advance_plain {c : Char} (hc : c ≠ '\\') {cs : List Char} (hcs : cs ≠ ['\\']) : advance (c :: cs) = .ok cs := by
  have hafter : afterToken (c :: cs) = cs := by
    rw [afterToken]
    exact fun _ _ h _ => hc h
  rw [advance, hafter, atToken, if_neg hcs]

theorem advance_escaped (c : Char) {cs : List Char} (hcs : cs ≠ ['\\']) : advance ('\\' :: c :: cs) = .ok cs := by
  rw [advance, afterToken, atToken, if_neg hcs]

namespace Reader

variable {r r' : Reader} {cs rest : List Char}

/-- A token that neither separates alternatives nor closes a group is taken, and the run goes on from there. -/
theorem run_of_take {t : Token} {after : List Char} (hnext : next? cs = some t) (hadvance : advance cs = .ok rest)
    (hbar : t ≠ .plain '|') (hclose : t ≠ .plain ')') (htake : r.take t rest = .ok (r', after))
    (hlt : after.length < cs.length) : r.run cs = r'.run after := by
  rw [run, hnext]
  simp only
  split
  · exact absurd rfl hclose
  · rw [hadvance]
    simp only [bind, Except.bind]
    split
    · exact absurd rfl hbar
    · exact absurd rfl hclose
    · rw [htake]
      simp only
      rw [if_pos hlt]

/-- No group is open, and blanks are not skipped. -/
structure Flat (r : Reader) : Prop where
  outer : r.outer = []
  verbose : r.frame.verbose = false

theorem Flat.push (h : Flat r) (i : Item) : Flat (r.push i) := ⟨h.outer, h.verbose⟩

theorem Flat.take_unspecial (h : Flat r) {c : Char} (hc : Js.isPatternSpecial c = false) (cs : List Char) :
    r.take (.plain c) cs = .ok (r.push .one, cs) := by
  simp only [take, h.verbose, Bool.false_and, Bool.false_eq_true, if_false]
  split
  all_goals first | cases hc | rfl

/-- A character without a meaning is an item. -/
theorem Flat.run_unspecial (h : Flat r) {c : Char} (hc : Js.isPatternSpecial c = false) (hcs : cs ≠ ['\\']) :
    r.run (c :: cs) = (r.push .one).run cs := by
  have hne : ∀ d, Js.isPatternSpecial d = true → c ≠ d := by
    rintro d hd rfl
    rw [hc] at hd
    cases hd
  have hbackslash := hne '\\' rfl
  refine run_of_take (next?_plain hbackslash cs) (advance_plain hbackslash hcs) ?_ ?_ (h.take_unspecial hc cs)
    (Nat.lt_succ_self _)
  · exact fun heq => hne '|' rfl (Token.plain.inj heq)
  · exact fun heq => hne ')' rfl (Token.plain.inj heq)

theorem take_special {c : Char} (hc : Js.isPatternSpecial c = true) (cs : List Char) :
    r.take (.escaped c) cs = .ok (r.push .one, cs) := by
  have hescape : r.escape c cs = .ok (.one, cs) := by
    rw [Js.isPatternSpecial, List.contains_iff_mem, String.toList_ofList] at hc
    simp only [List.mem_cons, List.not_mem_nil, or_false] at hc
    rcases hc with rfl | rfl | rfl | rfl | rfl | rfl | rfl | rfl | rfl | rfl | rfl | rfl | rfl | rfl | rfl <;> rfl
  rw [take, hescape]
  rfl

/-- So is one with a meaning behind a backslash. -/
theorem run_special {c : Char} (hc : Js.isPatternSpecial c = true) (hcs : cs ≠ ['\\']) :
    r.run ('\\' :: c :: cs) = (r.push .one).run cs := by
  refine run_of_take rfl (advance_escaped c hcs) nofun nofun (take_special hc cs) ?_
  rw [List.length_cons, List.length_cons]
  omega

/-- A question mark after an item changes nothing but that item, where no group is open. -/
theorem Flat.run_question (h : Flat r) {items : List Item} (hitems : r.frame.items = .one :: items) {c : Char}
    (hc : Js.isPatternSpecial c = false) (cs : List Char) :
    ∃ r', r.run ('?' :: c :: cs) = r'.run (c :: cs) ∧ Flat r' ∧ r'.flags = r.flags := by
  have hne : ∀ d, Js.isPatternSpecial d = true → some (Token.plain c) ≠ some (.plain d) := by
    rintro d hd heq
    obtain rfl := Token.plain.inj (Option.some.inj heq)
    rw [hc] at hd
    cases hd
  have hbackslash : c ≠ '\\' := by
    rintro rfl
    cases hc
  have hnext := next?_plain hbackslash cs
  refine ⟨{ r with frame := { r.frame with items := .repeated .greedy 0 (some 1) [.one] :: items } }, ?_, ?_, rfl⟩
  · refine run_of_take (next?_plain (by decide) _) (advance_plain (by decide) ?_) nofun nofun ?_ (Nat.lt_succ_self _)
    · rintro heq
      exact hbackslash (List.cons.inj heq).1
    · have hquestion : accept '?' (c :: cs) = .ok none := by rw [accept, hnext, if_neg (hne '?' rfl)]
      have hplus : accept '+' (c :: cs) = .ok none := by rw [accept, hnext, if_neg (hne '+' rfl)]
      simp only [take, h.verbose, Bool.false_and, Bool.false_eq_true, if_false, quantify, hitems, hquestion, hplus]
      rfl
  · exact ⟨h.outer, h.verbose⟩

/-- Items of one character each, as many as given. -/
def pushes (r : Reader) (n : Nat) : Reader := (fun r => r.push .one)^[n] r

theorem pushes_initial (n : Nat) : initial.pushes n =
    { frame := { opening := .whole, verbose := false, items := List.replicate n .one } } := by
  induction n with
  | zero => rfl
  | succ n ih =>
      rw [pushes, Function.iterate_succ_apply', ← pushes, ih]
      rfl

theorem finish_pushes (n : Nat) : (initial.pushes n).finish false = .ok () := by
  have hdefect : Item.sequenceDefect? false (List.replicate n .one) = none := by
    induction n with
    | zero => rfl
    | succ n ih => rw [List.replicate_succ, Item.sequenceDefect?, ih]; rfl
  rw [pushes_initial, finish]
  simp [Frame.body, globalFlag, hdefect]

/-- A parenthesis that closes nothing ends the run. -/
theorem Flat.run_word (h : Flat r) {name : List Char} (hname : ∀ c ∈ name, Js.isPatternSpecial c = false)
    (more : List Char) : ∃ r', r.run (name ++ ')' :: more) = .ok (r', true) ∧ r'.flags = r.flags := by
  induction name generalizing r with
  | nil =>
      refine ⟨r, ?_, rfl⟩
      rw [List.nil_append, run, next?_plain (by decide), h.outer]
      rfl
  | cons c name ih =>
      obtain ⟨hc, hname⟩ := List.forall_mem_cons.mp hname
      obtain ⟨r', hrun, hflags⟩ := ih (h.push .one) hname
      refine ⟨r', ?_, hflags⟩
      rw [List.cons_append, h.run_unspecial hc, hrun]
      cases name with
      | nil => exact fun heq => absurd (List.cons.inj heq).1 (by decide)
      | cons d name => simp

end Reader
end Pattern.Grammar

namespace Pattern

open Grammar

/-- Escaped text has no named groups to respell. -/
theorem namedGroupsSpelled_escapePattern (s : List Char) :
    namedGroupsSpelled (Js.escapePattern s) = Js.escapePattern s := by
  induction s with
  | nil => rfl
  | cons c s ih =>
      rw [Js.escapePattern, List.flatMap_cons, ← Js.escapePattern, Js.escapeChar]
      split_ifs with hc
      · have hparen : namedGroupsSpelled (c :: Js.escapePattern s) = c :: namedGroupsSpelled (Js.escapePattern s) := by
          rw [namedGroupsSpelled]
          rintro rest rfl hrest
          cases s with
          | nil => cases hrest
          | cons d s =>
              obtain ⟨e, more, heq, hquestion, -⟩ := escapePattern_cons_eq d s
              rw [heq] at hrest
              exact hquestion (List.cons.inj hrest).1
        rw [List.cons_append, List.singleton_append, namedGroupsSpelled_cons (by decide), hparen, ih]
      · have hparen : c ≠ '(' := by
          rintro rfl
          exact hc rfl
        rw [List.singleton_append, namedGroupsSpelled_cons hparen, ih]

theorem isPatternSpecial_of_isWordChar {c : Char} (h : Text.isWordChar c = true) : Js.isPatternSpecial c = false := by
  rw [Bool.eq_false_iff]
  intro hc
  rw [Js.isPatternSpecial, List.contains_iff_mem] at hc
  have hnone : "\\^$.*+?()[]\x7b\x7d|/".toList.all (fun c => !Text.isWordChar c) = true := by decide +kernel
  have hno := List.all_eq_true.mp hnone c hc
  rw [h] at hno
  cases hno

theorem isWordChar_of_referenceName? {cs name rest : List Char} (h : referenceName? cs = some (name, rest)) :
    ∀ c ∈ name, Text.isWordChar c = true := by
  unfold referenceName? at h
  split at h
  · next c name' rest' hname hrest =>
      cases h
      exact fun d hd => List.mem_takeWhile_imp (hname ▸ hd)
  · cases h

theorem referencesSpelled_unspecial {c : Char} (hc : Js.isPatternSpecial c = false) (s : List Char) :
    referencesSpelled (Js.escapePattern (c :: s)) = c :: referencesSpelled (Js.escapePattern s) := by
  have hbackslash : c ≠ '\\' := by
    rintro rfl
    cases hc
  rw [Js.escapePattern, List.flatMap_cons, Js.escapeChar, hc]
  exact referencesSpelled_cons hbackslash _

theorem referencesSpelled_special {c : Char} (hc : Js.isPatternSpecial c = true) (hbackslash : c ≠ '\\')
    (s : List Char) :
    referencesSpelled (Js.escapePattern (c :: s)) = '\\' :: c :: referencesSpelled (Js.escapePattern s) := by
  rw [Js.escapePattern, List.flatMap_cons, ← Js.escapePattern, Js.escapeChar, if_pos hc, List.cons_append,
    List.singleton_append, referencesSpelled, referencesSpelled_cons hbackslash]
  rintro rest - heq
  obtain ⟨rfl, -⟩ := List.cons.inj heq
  cases hc

/-- The backslash that a backslash of the text is written as is copied, or goes with a name that follows. -/
theorem referencesSpelled_backslash (s : List Char) :
    referencesSpelled (Js.escapePattern ('\\' :: s)) = '\\' :: '\\' :: referencesSpelled (Js.escapePattern s) ∨
      ∃ name more, (∀ c ∈ name, Js.isPatternSpecial c = false) ∧ ['k', '<'] <+: s ∧
        referencesSpelled (Js.escapePattern ('\\' :: s)) = '\\' :: '(' :: '?' :: 'P' :: '=' :: (name ++ ')' :: more) := by
  have hfirst : referencesSpelled (Js.escapePattern ('\\' :: s)) =
      '\\' :: referencesSpelled ('\\' :: Js.escapePattern s) := by
    change referencesSpelled ('\\' :: '\\' :: Js.escapePattern s) = _
    rw [referencesSpelled]
    rintro rest - heq
    cases heq
  rw [hfirst]
  generalize hall : '\\' :: Js.escapePattern s = all
  fun_cases referencesSpelled all with
  | case1 rest name after hname hlt =>
      have hrest : Js.escapePattern s = 'k' :: '<' :: rest := (List.cons.inj hall).2
      refine Or.inr ⟨name, referencesSpelled after, fun c hc => ?_, ?_, ?_⟩
      · exact isPatternSpecial_of_isWordChar (isWordChar_of_referenceName? hname c hc)
      · have hliterals := Js.literals_escapePattern s
        rw [hrest, Js.units_single (by decide), Js.units_single (by decide)] at hliterals
        have hspells : s.map some = some 'k' :: some '<' :: (Js.units rest).map Js.PatternUnit.literal? := hliterals.symm
        obtain ⟨c, s, rfl, hk, hspells⟩ := List.map_eq_cons_iff.mp hspells
        obtain ⟨d, s, rfl, hangle, -⟩ := List.map_eq_cons_iff.mp hspells
        cases hk
        cases hangle
        exact ⟨s, rfl⟩
      · simp
  | case2 rest name after hname hlt =>
      rw [referenceName?_eq hname] at hlt
      rw [List.length_append, List.length_cons] at hlt
      omega
  | case3 rest hname =>
      have hrest : Js.escapePattern s = 'k' :: '<' :: rest := (List.cons.inj hall).2
      rw [hrest, referencesSpelled_cons (by decide), referencesSpelled_cons (by decide)]
      exact Or.inl rfl
  | case4 c rest hnot =>
      obtain ⟨rfl, rfl⟩ := List.cons.inj hall
      exact Or.inl rfl
  | case5 => cases hall

theorem referencesSpelled_ne_backslash (s : List Char) : referencesSpelled (Js.escapePattern s) ≠ ['\\'] := by
  cases s with
  | nil =>
      rw [Js.escapePattern, List.flatMap_nil, referencesSpelled]
      exact (List.cons_ne_nil _ _).symm
  | cons c s =>
      by_cases hbackslash : c = '\\'
      · subst hbackslash
        rcases referencesSpelled_backslash s with hcopy | ⟨name, more, -, -, hcopy⟩ <;> rw [hcopy] <;>
          exact fun heq => absurd (List.cons.inj heq).2 (List.cons_ne_nil _ _)
      · by_cases hc : Js.isPatternSpecial c = true
        · rw [referencesSpelled_special hc hbackslash]
          exact fun heq => absurd (List.cons.inj heq).2 (List.cons_ne_nil _ _)
        · rw [referencesSpelled_unspecial (Bool.eq_false_iff.mpr hc)]
          exact fun heq => hbackslash (List.cons.inj heq).1

/-- The check takes escaped text character by character. It gets to the end unless the text spells a reference. -/
theorem run_referencesSpelled (s : List Char) {r : Reader} (h : r.Flat) :
    r.run (referencesSpelled (Js.escapePattern s)) = .ok (r.pushes s.length, false) ∨
      ['\\', 'k', '<'] <:+: s ∧
        ∃ r', r.run (referencesSpelled (Js.escapePattern s)) = .ok (r', true) ∧ r'.flags = r.flags := by
  induction s generalizing r with
  | nil =>
      left
      rw [Js.escapePattern, List.flatMap_nil, referencesSpelled, Reader.run, next?, h.outer]
      rfl
  | cons c s ih =>
      -- one character is one item, and the rest follows by the induction hypothesis
      have hstep (hrun : r.run (referencesSpelled (Js.escapePattern (c :: s))) =
          (r.push .one).run (referencesSpelled (Js.escapePattern s))) :
          r.run (referencesSpelled (Js.escapePattern (c :: s))) = .ok (r.pushes (c :: s).length, false) ∨
            ['\\', 'k', '<'] <:+: c :: s ∧
              ∃ r', r.run (referencesSpelled (Js.escapePattern (c :: s))) = .ok (r', true) ∧ r'.flags = r.flags := by
        rw [hrun]
        exact (ih (h.push .one)).imp_right (And.imp_left List.infix_cons)
      have hrest := referencesSpelled_ne_backslash s
      by_cases hbackslash : c = '\\'
      · subst hbackslash
        rcases referencesSpelled_backslash s with hcopy | ⟨name, more, hname, hprefix, hcopy⟩
        · refine hstep ?_
          rw [hcopy, Reader.run_special rfl hrest]
        · -- the parenthesis that opens the reference is behind a backslash, so the one that closes it closes nothing
          refine Or.inr ⟨(List.cons_prefix_cons.mpr ⟨rfl, hprefix⟩).isInfix, ?_⟩
          obtain ⟨r₁, hquestion, hflat, hflags⟩ := (h.push .one).run_question rfl (c := 'P') rfl
            ('=' :: (name ++ ')' :: more))
          have hspecial : ∀ c ∈ 'P' :: '=' :: name, Js.isPatternSpecial c = false :=
            List.forall_mem_cons.mpr ⟨rfl, List.forall_mem_cons.mpr ⟨rfl, hname⟩⟩
          obtain ⟨r₂, hword, hflags₂⟩ := hflat.run_word hspecial more
          refine ⟨r₂, ?_, hflags₂.trans hflags⟩
          rw [hcopy, Reader.run_special rfl (by simp), hquestion]
          exact hword
      · by_cases hc : Js.isPatternSpecial c = true
        · refine hstep ?_
          rw [referencesSpelled_special hc hbackslash, Reader.run_special hc hrest]
        · refine hstep ?_
          rw [referencesSpelled_unspecial (Bool.eq_false_iff.mpr hc), h.run_unspecial (Bool.eq_false_iff.mpr hc) hrest]

/-- The check of escaped text comes to a verdict. -/
theorem rejection?_escapePattern (s : List Char) : rejection? (checkedCopy (Js.escapePattern s)) = .ok none ∨
    ['\\', 'k', '<'] <:+: s ∧ rejection? (checkedCopy (Js.escapePattern s)) = .ok (some .unbalanced) := by
  have hat : atToken (checkedCopy (Js.escapePattern s)) = .ok (referencesSpelled (Js.escapePattern s)) := by
    rw [checkedCopy, namedGroupsSpelled_escapePattern, atToken, if_neg (referencesSpelled_ne_backslash s)]
  have hcheck : check (checkedCopy (Js.escapePattern s)) =
      (Reader.initial.run (referencesSpelled (Js.escapePattern s))).bind fun read => read.1.finish read.2 := by
    rw [check, hat]
    rfl
  rcases run_referencesSpelled s (r := Reader.initial) ⟨rfl, rfl⟩ with hrun | ⟨hspelled, r, hrun, hflags⟩
  · left
    rw [hrun] at hcheck
    rw [rejection?, hcheck.trans (Reader.finish_pushes s.length)]
  · have hfinish : r.finish true = reject .unbalanced := by
      rw [Reader.finish, show r.flags = [] from hflags]
      rfl
    rw [hrun] at hcheck
    exact Or.inr ⟨hspelled, by rw [rejection?, hcheck.trans hfinish]; rfl⟩

/-- A quotation ends at its mark, and a backslash before the mark is part of the text. -/
theorem cut?_quotation {s : List Char} (h : ¬ ['\\', 'E'] <:+: s) (rest : List Char) :
    Text.cut? ['\\', 'E'] (s ++ '\\' :: 'E' :: rest) = some (s, rest) := by
  induction s with
  | nil => rw [List.nil_append, Text.cut?]; rfl
  | cons c s ih =>
      have hnone : Text.after? ['\\', 'E'] (c :: (s ++ '\\' :: 'E' :: rest)) = none := by
        rw [Option.eq_none_iff_forall_ne_some]
        intro after hafter
        obtain ⟨rfl, hrest⟩ := List.cons.inj (Text.after?_eq_some hafter)
        cases s with
        | nil => cases hrest
        | cons d s =>
            obtain ⟨rfl, -⟩ := List.cons.inj hrest
            exact h ⟨[], s, rfl⟩
      rw [List.cons_append, Text.cut?, hnone]
      simp only [ih (mt List.infix_cons h), Option.map_some]

/-- A quotation has the escaped text for its source, and no problem unless the text spells a reference. -/
theorem translate_quotation {s : String} (h : ¬ ['\\', 'E'] <:+: s.toList) (dialect : Dialect) (ignoreCase : Bool) :
    ∃ t, translate ("\\Q" ++ s ++ "\\E") dialect ignoreCase = .ok t ∧
      t.source = String.ofList (Js.escapePattern s.toList) ∧ t.ignoreCase = ignoreCase ∧
      (¬ ['\\', 'k', '<'] <:+: s.toList → t.problems = []) := by
  have hpattern : ("\\Q" ++ s ++ "\\E").toList = '\\' :: 'Q' :: (s.toList ++ ['\\', 'E']) := by
    rw [String.toList_append, String.toList_append, List.append_assoc]
    rfl
  have hreads : Reads ('\\' :: 'Q' :: (s.toList ++ ['\\', 'E'])) (Js.escapePattern s.toList) [] :=
    .quoted (cut?_quotation h [])
  have hsource : sourceOf (pieces ('\\' :: 'Q' :: (s.toList ++ ['\\', 'E']))) = Js.escapePattern s.toList := by
    rw [hreads.sourceOf_eq, pieces]
    exact List.append_nil _
  have hproblems : problemsOf (pieces ('\\' :: 'Q' :: (s.toList ++ ['\\', 'E']))) = [] := by
    rw [hreads.problemsOf_eq, pieces]
    rfl
  have hfound : ∃ problems, foundProblems (pieces ('\\' :: 'Q' :: (s.toList ++ ['\\', 'E']))) = .ok problems ∧
      (¬ ['\\', 'k', '<'] <:+: s.toList → problems = []) := by
    rw [foundProblems, hproblems, hsource, List.isEmpty_nil, if_pos rfl, compileProblems]
    rcases rejection?_escapePattern s.toList with hverdict | ⟨hspelled, hverdict⟩ <;> rw [hverdict]
    · exact ⟨[], rfl, fun _ => rfl⟩
    · exact ⟨_, rfl, fun hnone => absurd hspelled hnone⟩
  obtain ⟨problems, hfound, hnone⟩ := hfound
  have hleading : leadingIgnoreCase ('\\' :: 'Q' :: (s.toList ++ ['\\', 'E'])) =
      (false, '\\' :: 'Q' :: (s.toList ++ ['\\', 'E'])) := rfl
  rw [translate_eq, hpattern, hleading, hfound, hsource]
  exact ⟨_, rfl, rfl, Bool.or_false _, hnone⟩

end Pattern

namespace Js

/-- Quoted text matches only itself. The escaped text is a row of literals, one for each character, that spell the text,
so it matches the text and nothing else. Escaping goes character by character and loses nothing. And a quotation, which
ends at its mark, is translated to the escaped text. -/
theorem quoted_matches_itself (s t : String) :
    (units (escapePattern s.toList)).length = s.length ∧
      (units (escapePattern s.toList)).map PatternUnit.literal? = s.toList.map some ∧
      (∃ r, readLiterals? (escapePattern s.toList) = some r ∧
        ∀ pre mid post, r.Matches false pre mid post ↔ mid = s.toList) ∧
      escapePattern (s ++ t).toList = escapePattern s.toList ++ escapePattern t.toList ∧
      (escapePattern s.toList = escapePattern t.toList → s = t) ∧
      (¬ ['\\', 'E'] <:+: s.toList → ∀ dialect ignoreCase, ∃ u,
        Pattern.translate ("\\Q" ++ s ++ "\\E") dialect ignoreCase = .ok u ∧
          u.source.toList = escapePattern s.toList ∧ u.ignoreCase = ignoreCase ∧
          (¬ ['\\', 'k', '<'] <:+: s.toList → u.supported = true)) := by
  refine ⟨?_, literals_escapePattern _, ⟨_, readLiterals?_escapePattern _, fun _ _ _ => Regex.matches_literals⟩, ?_, ?_,
    fun h dialect ignoreCase => ?_⟩
  · rw [units_escapePattern, List.length_map, String.length_toList]
  · rw [String.toList_append, escapePattern_append]
  · exact fun h => String.toList_injective (escapePattern_injective h)
  · obtain ⟨u, htranslate, hsource, hflag, hproblems⟩ := Pattern.translate_quotation h dialect ignoreCase
    refine ⟨u, htranslate, ?_, hflag, fun hreference => ?_⟩
    · rw [hsource, String.toList_ofList]
    · rw [Pattern.Translation.supported, hproblems hreference]
      rfl

/-- A text of marks that ends in a backslash: the backslash is quoted too, and the quotation ends after it. -/
theorem quoted_matches_itself_marks : ¬ ['\\', 'E'] <:+: "(a|b)*/\\".toList ∧
    ∃ u, Pattern.translate ("\\Q" ++ "(a|b)*/\\" ++ "\\E") .ecmascript false = .ok u ∧
      u.source.toList = "\\(a\\|b\\)\\*\\/\\\\".toList ∧ u.supported = true ∧
      ∃ r, readLiterals? u.source.toList = some r ∧
        ∀ pre mid post, r.Matches false pre mid post ↔ mid = "(a|b)*/\\".toList := by
  have hend : ¬ ['\\', 'E'] <:+: "(a|b)*/\\".toList := by decide
  obtain ⟨-, -, hmatches, -, -, hquotation⟩ := quoted_matches_itself "(a|b)*/\\" ""
  obtain ⟨u, htranslate, hsource, -, hsupported⟩ := hquotation hend .ecmascript false
  refine ⟨hend, u, htranslate, hsource, hsupported (by decide), ?_⟩
  rwa [hsource]

end Js

end EdgeRoutes
