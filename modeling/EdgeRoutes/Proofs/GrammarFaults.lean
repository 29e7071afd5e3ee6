import EdgeRoutes.Pattern.Translation
import Mathlib.Data.List.Infix

/-! Faults of the grammar check. Whatever a pattern is like, the check comes to a verdict, unless a repetition count in it
is too large or flags for the whole pattern contradict each other. -/

namespace EdgeRoutes.Pattern.Grammar

open Number

variable {α β : Type}

/-- The fault of a repetition count that stands in the text. -/
def CountFault (cs : List Char) (fault : Fault) : Prop :=
  ∃ digits, digits ≠ [] ∧ digits <:+: cs ∧ (∀ c ∈ digits, c.isDigit = true) ∧
    Reader.repeatCount digits = .error (.fault fault)

/-- Reading the text leads to a value with property `P`, to a rejection, or to the fault of a count in the text. -/
structure Consumes (cs : List Char) (P : α → Prop) (x : Reading α) : Prop where
  result : ∀ a, x = .ok a → P a
  fault : ∀ fault, x = .error (.fault fault) → CountFault cs fault

namespace Consumes

variable {cs : List Char} {P Q : α → Prop}

theorem ok {a : α} (h : P a) : Consumes cs P (.ok a) := by
  refine ⟨fun b hb => ?_, nofun⟩
  cases hb
  exact h

theorem pure {a : α} (h : P a) : Consumes cs P (Pure.pure a) := ok h

theorem reject (reason : Rejection) : Consumes cs P (Grammar.reject reason) :=
  ⟨nofun, nofun⟩

theorem bind {P : α → Prop} {Q : β → Prop} {x : Reading α} {f : α → Reading β} (hx : Consumes cs P x)
    (hf : ∀ a, P a → Consumes cs Q (f a)) : Consumes cs Q (x >>= f) := by
  cases x with
  | error stop =>
      refine ⟨nofun, fun fault hfault => ?_⟩
      cases hfault
      exact hx.fault fault rfl
  | ok a => exact hf a (hx.result a rfl)

theorem ite_bind {P : α → Prop} {Q : β → Prop} {p : Prop} [Decidable p] {x y : Reading α} {f : α → Reading β}
    (hx : p → Consumes cs P x) (hy : ¬ p → Consumes cs P y) (hf : ∀ a, P a → Consumes cs Q (f a)) :
    Consumes cs Q (if p then x >>= f else y >>= f) := by
  split_ifs with hp
  · exact (hx hp).bind hf
  · exact (hy hp).bind hf

theorem imp {x : Reading α} (h : Consumes cs P x) (hPQ : ∀ a, P a → Q a) : Consumes cs Q x :=
  ⟨fun a ha => hPQ a (h.result a ha), h.fault⟩

end Consumes

theorem suffix_afterToken (cs : List Char) : afterToken cs <:+ cs := by
  unfold afterToken
  split
  · exact List.suffix_rfl
  · exact (List.suffix_cons _ _).trans (List.suffix_cons _ _)
  · exact List.suffix_cons _ _

theorem consumes_atToken (cs cs' : List Char) : Consumes cs (· = cs') (atToken cs') := by
  unfold atToken
  split_ifs
  · exact .reject _
  · exact .ok rfl

theorem consumes_advance {cs cs' : List Char} (h : cs' <:+ cs) : Consumes cs (· <:+ cs) (advance cs') := by
  refine (consumes_atToken cs (afterToken cs')).imp ?_
  rintro _ rfl
  exact (suffix_afterToken cs').trans h

theorem consumes_accept (c : Char) {cs cs' : List Char} (h : cs' <:+ cs) :
    Consumes cs (fun found => ∀ rest, found = some rest → rest <:+ cs) (accept c cs') := by
  unfold accept
  split_ifs
  · refine (consumes_advance h).bind fun rest hrest => .ok ?_
    rintro _ ⟨⟩
    exact hrest
  · exact .ok (by rintro _ ⟨⟩)

theorem eq_cons_of_next? {c : Char} {cs : List Char} (h : next? cs = some (.plain c)) : cs = c :: afterToken cs := by
  unfold next? at h
  split at h
  · cases h
  · cases h
  · next c' cs' hne =>
      cases h
      unfold afterToken
      split
      · contradiction
      · next d cs'' heq =>
          obtain ⟨rfl, rfl⟩ := List.cons.inj heq
          exact (hne d cs'' rfl rfl).elim
      · next heq => rw [(List.cons.inj heq).2]

theorem suffix_of_append {xs ys cs cs' : List Char} (h : xs ++ ys = cs') (hcs : cs' <:+ cs) : ys <:+ cs :=
  (show ys <:+ cs' from ⟨xs, h⟩).trans hcs

theorem consumes_takeUpTo (p : Char → Bool) (n : Nat) {cs cs' : List Char} (h : cs' <:+ cs) :
    Consumes cs (fun a => (∀ c ∈ a.1, p c = true) ∧ a.1 ++ a.2 = cs') (takeUpTo p n cs') := by
  induction n generalizing cs' with
  | zero => exact .ok ⟨by simp, rfl⟩
  | succ n ih =>
      rw [takeUpTo]
      split
      · next c hnext =>
          split_ifs with hp
          · refine (consumes_atToken cs (afterToken cs')).bind fun rest hrest => ?_
            subst hrest
            refine (ih ((suffix_afterToken cs').trans h)).bind fun a ha => .pure ⟨?_, ?_⟩
            · exact List.forall_mem_cons.mpr ⟨hp, ha.1⟩
            · rw [List.cons_append, ha.2, ← eq_cons_of_next? hnext]
          · exact .ok ⟨by simp, rfl⟩
      · exact .ok ⟨by simp, rfl⟩

theorem consumes_takeAll (p : Char → Bool) {cs cs' : List Char} (h : cs' <:+ cs) :
    Consumes cs (fun a => (∀ c ∈ a.1, p c = true) ∧ a.1 ++ a.2 = cs') (takeAll p cs') :=
  consumes_takeUpTo p cs'.length h

theorem consumes_nameTokens (terminator : Char) (what : String) (fuel : Nat) (read : List Char) {cs cs' : List Char}
    (h : cs' <:+ cs) : Consumes cs (fun a => a.2 <:+ cs) (nameTokens terminator what fuel read cs') := by
  induction fuel generalizing read cs' with
  | zero => exact .reject _
  | succ fuel ih =>
      rw [nameTokens]
      split
      · exact .reject _
      · refine (consumes_advance h).bind fun rest hrest => ?_
        split_ifs
        · exact .reject _
        · exact .pure hrest
        · exact ih _ hrest

theorem consumes_takeName (terminator : Char) (what : String) {cs cs' : List Char} (h : cs' <:+ cs) :
    Consumes cs (fun a => a.2 <:+ cs) (takeName terminator what cs') :=
  consumes_nameTokens terminator what _ [] h

theorem consumes_hexEscape (c : Char) (n : Nat) {cs cs' : List Char} (h : cs' <:+ cs) :
    Consumes cs (fun a => a.2 <:+ cs) (hexEscape c n cs') := by
  refine (consumes_takeUpTo isHex n h).bind fun a ha => ?_
  dsimp only
  split_ifs
  · exact .reject _
  · exact .reject _
  · exact .pure (suffix_of_append ha.2 h)

theorem consumes_nameEscape {cs cs' : List Char} (h : cs' <:+ cs) :
    Consumes cs (fun a => a.2 <:+ cs) (nameEscape cs') := by
  refine (consumes_accept '\x7b' h).bind fun found hfound => ?_
  cases found with
  | none => exact .reject _
  | some rest =>
      refine (consumes_takeName '\x7d' "character name" (hfound rest rfl)).bind fun a ha => ?_
      dsimp only
      split
      · exact .pure ha
      · exact .reject _

theorem consumes_codeEscape? {c : Char} {cs cs' : List Char} (h : cs' <:+ cs) {reading : Reading (Nat × List Char)}
    (hreading : codeEscape? c cs' = some reading) : Consumes cs (fun a => a.2 <:+ cs) reading := by
  unfold codeEscape? at hreading
  split at hreading
  · cases hreading
    exact consumes_hexEscape _ _ h
  · cases hreading
    exact consumes_hexEscape _ _ h
  · cases hreading
    exact consumes_hexEscape _ _ h
  · cases hreading
    exact consumes_nameEscape h
  · cases hreading

theorem consumes_otherEscape (c : Char) {cs cs' : List Char} (h : cs' <:+ cs) :
    Consumes cs (fun a => a.2 <:+ cs) (otherEscape c cs') := by
  unfold otherEscape
  split_ifs
  · exact .reject _
  · exact .ok h

/-- What an escape in a set leaves is part of the text. -/
theorem consumes_setEscape (c : Char) {cs cs' : List Char} (h : cs' <:+ cs) :
    Consumes cs (fun a => a.2 <:+ cs) (setEscape c cs') := by
  unfold setEscape
  split
  · exact .ok h
  · by_cases hcategory : isCategory c = true
    · rw [if_pos hcategory]
      exact .ok h
    · rw [if_neg hcategory]
      split
      · next hreading => exact (consumes_codeEscape? h hreading).bind fun a ha => .pure ha
      · split_ifs
        · refine (consumes_takeUpTo isOctal 2 h).bind fun a ha => ?_
          dsimp only
          split_ifs
          · exact .reject _
          · exact .pure (suffix_of_append ha.2 h)
        · exact .reject _
        · exact (consumes_otherEscape c h).bind fun a ha => .pure ha

theorem consumes_setMember (t : Token) {cs cs' : List Char} (h : cs' <:+ cs) :
    Consumes cs (fun a => a.2 <:+ cs) (setMember t cs') := by
  cases t with
  | plain c => exact .ok h
  | escaped c => exact consumes_setEscape c h

theorem consumes_setMembers (first : Bool) (fuel : Nat) {cs cs' : List Char} (h : cs' <:+ cs) :
    Consumes cs (· <:+ cs) (setMembers first fuel cs') := by
  induction fuel generalizing first cs' with
  | zero => exact .reject _
  | succ fuel ih =>
      rw [setMembers]
      split
      · exact .reject _
      · next low _ =>
          refine (consumes_advance h).bind fun rest hrest => ?_
          split_ifs
          · exact .pure hrest
          · refine (consumes_setMember low hrest).bind fun a ha => ?_
            refine (consumes_accept '-' ha).bind fun found hfound => ?_
            cases found with
            | none => exact ih false ha
            | some rest =>
                have hrest := hfound rest rfl
                dsimp only
                split
                · exact .reject _
                · next high _ =>
                    refine (consumes_advance hrest).bind fun rest hrest => ?_
                    split_ifs
                    · exact .pure hrest
                    · refine (consumes_setMember high hrest).bind fun b hb => ?_
                      split
                      · split_ifs
                        · exact .reject _
                        · exact ih false hb
                      · exact .reject _

theorem consumes_takeSet {cs cs' : List Char} (h : cs' <:+ cs) : Consumes cs (· <:+ cs) (takeSet cs') := by
  refine (consumes_accept '^' h).bind fun found hfound => consumes_setMembers true _ ?_
  cases found with
  | none => exact h
  | some rest => exact hfound rest rfl

theorem consumes_turnOn (on : List Char) (flag : Char) (cs : List Char) :
    Consumes cs (fun _ => True) (turnOn on flag) := by
  unfold turnOn
  split_ifs
  · exact .reject _
  · exact .reject _
  · exact .ok trivial

theorem consumes_flagsOn (flag : Char) (fuel : Nat) (on : List Char) {cs cs' : List Char} (h : cs' <:+ cs) :
    Consumes cs (fun a => a.2.2 <:+ cs) (flagsOn flag fuel on cs') := by
  induction fuel generalizing flag on cs' with
  | zero => exact .reject _
  | succ fuel ih =>
      rw [flagsOn]
      refine (consumes_turnOn on flag cs).bind fun on _ => ?_
      split
      · exact .reject _
      · refine (consumes_advance h).bind fun rest hrest => ?_
        split_ifs
        · exact .pure hrest
        · split
          · exact ih _ _ hrest
          · exact .reject _

theorem consumes_flagsOff (flag : Char) (fuel : Nat) (off : List Char) {cs cs' : List Char} (h : cs' <:+ cs) :
    Consumes cs (fun a => a.2 <:+ cs) (flagsOff flag fuel off cs') := by
  induction fuel generalizing flag off cs' with
  | zero => exact .reject _
  | succ fuel ih =>
      rw [flagsOff]
      split_ifs
      · exact .reject _
      · split
        · exact .reject _
        · refine (consumes_advance h).bind fun rest hrest => ?_
          split_ifs
          · exact .pure hrest
          · split
            · exact ih _ _ hrest
            · exact .reject _

theorem consumes_takeFlagsOff {cs cs' : List Char} (h : cs' <:+ cs) :
    Consumes cs (fun a => a.2 <:+ cs) (takeFlagsOff cs') := by
  unfold takeFlagsOff
  split
  · exact .reject _
  · refine (consumes_advance h).bind fun rest hrest => ?_
    split
    · exact consumes_flagsOff _ _ _ hrest
    · exact .reject _

theorem consumes_groupFlags (on off cs : List Char) : Consumes cs (fun _ => True) (groupFlags on off) := by
  unfold groupFlags
  split_ifs
  · exact .reject _
  · exact .reject _
  · exact .ok trivial

theorem consumes_takeFlags (t : Char) {cs cs' : List Char} (h : cs' <:+ cs) :
    Consumes cs (fun a => a.2 <:+ cs) (takeFlags t cs') := by
  unfold takeFlags
  refine .ite_bind (P := fun a => a.2.2 <:+ cs) (fun _ => .pure h) (fun _ => consumes_flagsOn _ _ _ h) fun a ha => ?_
  obtain ⟨on, mark, rest⟩ := a
  dsimp only at ha ⊢
  split_ifs
  · exact .pure ha
  · exact .reject _
  · exact .reject _
  · refine (consumes_takeFlagsOff ha).bind fun b hb => ?_
    exact (consumes_groupFlags _ _ _).bind fun setting _ => .pure hb
  · exact (consumes_groupFlags _ _ _).bind fun setting _ => .pure ha

namespace Reader

theorem consumes_checkLookbehind (r : Reader) (group : Nat) (cs : List Char) :
    Consumes cs (fun _ => True) (r.checkLookbehind group) := by
  unfold checkLookbehind
  split
  · exact .ok trivial
  · split_ifs
    · exact .reject _
    · exact .reject _
    · exact .ok trivial

theorem consumes_reference (r : Reader) (group : Nat) (cs : List Char) :
    Consumes cs (fun _ => True) (r.reference group) := by
  unfold reference
  split
  · exact .reject _
  · exact (r.consumes_checkLookbehind group cs).bind fun _ _ => .pure trivial

theorem consumes_openCapture (r : Reader) (name : Option String) (cs : List Char) :
    Consumes cs (fun opened => opened.flags = r.flags) (r.openCapture name) := by
  unfold openCapture
  cases name with
  | none => exact .ok rfl
  | some name =>
      dsimp only
      split
      · exact .reject _
      · exact .ok rfl

theorem consumes_decimalEscape (r : Reader) (c : Char) {cs cs' : List Char} (h : cs' <:+ cs) :
    Consumes cs (fun a => a.2 <:+ cs) (r.decimalEscape c cs') := by
  refine (consumes_takeUpTo Char.isDigit 1 h).bind fun a ha => ?_
  obtain ⟨second, rest⟩ := a
  have hrest : rest <:+ cs := suffix_of_append ha.2 h
  refine .ite_bind (P := fun b => b.2 <:+ cs) (fun _ => (consumes_takeUpTo isOctal 1 hrest).imp fun b hb =>
    suffix_of_append hb.2 hrest) (fun _ => .pure hrest) fun b hb => ?_
  dsimp only
  split_ifs
  · exact .reject _
  · exact .pure hb
  · exact (r.consumes_reference _ cs).bind fun item _ => .pure hb
  · exact .reject _

theorem consumes_escape (r : Reader) (c : Char) {cs cs' : List Char} (h : cs' <:+ cs) :
    Consumes cs (fun a => a.2 <:+ cs) (r.escape c cs') := by
  unfold escape
  by_cases hposition : (c == 'A' || c == 'b' || c == 'B' || c == 'Z') = true
  · rw [if_pos hposition]
    exact .ok h
  · rw [if_neg hposition]
    by_cases hone : (isCategory c || (controlEscape? c).isSome) = true
    · rw [if_pos hone]
      exact .ok h
    · rw [if_neg hone]
      split
      · next hreading => exact (consumes_codeEscape? h hreading).bind fun a ha => .pure ha
      · split_ifs
        · exact (consumes_takeUpTo isOctal 2 h).bind fun a ha => .pure (suffix_of_append ha.2 h)
        · exact r.consumes_decimalEscape c h
        · exact (consumes_otherEscape c h).bind fun a ha => .pure ha

theorem infix_of_append {xs ys cs cs' : List Char} (h : xs ++ ys = cs') (hcs : cs' <:+ cs) : xs <:+: cs :=
  (show xs <+: cs' from ⟨ys, h⟩).isInfix.trans hcs.isInfix

/-- The digits of a bound, which stand in the text, and the rest after them. -/
def IsBound (cs : List Char) (bound : List Char × List Char) : Prop :=
  (∀ c ∈ bound.1, c.isDigit = true) ∧ bound.1 <:+: cs ∧ bound.2 <:+ cs

theorem consumes_repeatCount {cs digits rest : List Char} (hne : ¬ digits.isEmpty = true)
    (hbound : IsBound cs (digits, rest)) : Consumes cs (fun _ => True) (repeatCount digits) :=
  ⟨fun _ _ => trivial, fun _ hfault => ⟨digits, mt List.isEmpty_iff.mpr hne, hbound.2.1, hbound.1, hfault⟩⟩

theorem consumes_takeBound {cs cs' : List Char} (h : cs' <:+ cs) :
    Consumes cs (IsBound cs) (takeAll Char.isDigit cs') :=
  (consumes_takeAll Char.isDigit h).imp fun _ ha => ⟨ha.1, infix_of_append ha.2 h, suffix_of_append ha.2 h⟩

theorem consumes_repeatBounds? {cs cs' : List Char} (h : cs' <:+ cs) :
    Consumes cs (fun found => ∀ bounds, found = some bounds → bounds.2.2 <:+ cs) (repeatBounds? cs') := by
  refine (consumes_takeBound h).bind fun a hlow => ?_
  obtain ⟨low, rest⟩ := a
  refine (consumes_accept ',' hlow.2.2).bind fun found hfound => ?_
  -- Without a comma the lower bound is the upper bound too; from here on both cases go on in the same way.
  cases found
  on_goal 1 => refine .bind (P := IsBound cs) (.pure hlow) ?_
  on_goal 2 => refine .bind (P := IsBound cs) (consumes_takeBound (hfound _ rfl)) ?_
  all_goals
    rintro ⟨high, rest⟩ hhigh
    refine (consumes_accept '\x7d' hhigh.2.2).bind fun closed hclosed => ?_
    cases closed with
    | none => exact .pure (by rintro _ ⟨⟩)
    | some after =>
        refine .ite_bind (P := fun _ => True) (fun _ => .pure trivial)
          (fun hne => consumes_repeatCount hne hlow) fun least _ => ?_
        dsimp only
        split_ifs with hempty
        · refine .pure ?_
          rintro _ ⟨⟩
          exact hclosed after rfl
        · refine (consumes_repeatCount hempty hhigh).bind fun most _ => ?_
          split_ifs
          · exact .reject _
          · refine .pure ?_
            rintro _ ⟨⟩
            exact hclosed after rfl

theorem consumes_quantify (r : Reader) (least : Nat) (most : Option Nat) {cs cs' : List Char} (h : cs' <:+ cs) :
    Consumes cs (fun a => a.2 <:+ cs ∧ a.1.flags = r.flags) (r.quantify least most cs') := by
  unfold quantify
  split
  · exact .reject _
  · exact .reject _
  · exact .reject _
  · refine (consumes_accept '?' h).bind fun found hfound => ?_
    cases found with
    | some rest => exact .pure ⟨hfound rest rfl, rfl⟩
    | none =>
        refine (consumes_accept '+' h).bind fun found hfound => ?_
        cases found with
        | some rest => exact .pure ⟨hfound rest rfl, rfl⟩
        | none => exact .pure ⟨h, rfl⟩

theorem consumes_brace (r : Reader) {cs cs' : List Char} (h : cs' <:+ cs) :
    Consumes cs (fun a => a.2 <:+ cs ∧ a.1.flags = r.flags) (r.brace cs') := by
  unfold brace
  split_ifs
  · exact .ok ⟨h, rfl⟩
  · refine (consumes_repeatBounds? h).bind fun found hfound => ?_
    cases found with
    | none => exact .pure ⟨h, rfl⟩
    | some bounds => exact r.consumes_quantify _ _ (hfound bounds rfl)

theorem consumes_groupName (terminator : Char) {cs cs' : List Char} (h : cs' <:+ cs) :
    Consumes cs (fun a => a.2 <:+ cs) (groupName terminator cs') := by
  refine (consumes_takeName terminator "group name" h).bind fun a ha => ?_
  dsimp only
  split_ifs
  · exact .pure ha
  · exact .reject _

theorem consumes_groupNamed (r : Reader) (name : String) (cs : List Char) :
    Consumes cs (fun _ => True) (r.groupNamed name) := by
  unfold groupNamed
  split
  · exact .ok trivial
  · exact .reject _

theorem consumes_conditionNumber (name : String) (cs : List Char) :
    Consumes cs (fun _ => True) (conditionNumber name) := by
  unfold conditionNumber
  split
  · exact .reject _
  · split_ifs
    · exact .reject _
    · exact .reject _
    · exact .reject _
    · exact .ok trivial

theorem consumes_openConditional (r : Reader) {cs cs' : List Char} (h : cs' <:+ cs) :
    Consumes cs (fun a => a.2 <:+ cs ∧ a.1.flags = r.flags) (r.openConditional cs') := by
  refine (consumes_takeName ')' "group name" h).bind fun a ha => ?_
  dsimp only
  split_ifs
  · refine (r.consumes_groupNamed _ cs).bind fun group _ => ?_
    exact (r.consumes_checkLookbehind group cs).bind fun _ _ => .pure ⟨ha, rfl⟩
  · refine (consumes_conditionNumber _ cs).bind fun group _ => ?_
    exact (consumes_checkLookbehind _ group cs).bind fun _ _ => .pure ⟨ha, rfl⟩

theorem consumes_skipComment (fuel : Nat) {cs cs' : List Char} (h : cs' <:+ cs) :
    Consumes cs (· <:+ cs) (skipComment fuel cs') := by
  induction fuel generalizing cs' with
  | zero => exact .reject _
  | succ fuel ih =>
      rw [skipComment]
      split
      · exact .reject _
      · refine (consumes_advance h).bind fun rest hrest => ?_
        split_ifs
        · exact .pure hrest
        · exact ih hrest

theorem consumes_openNamed (r : Reader) {cs cs' : List Char} (h : cs' <:+ cs) :
    Consumes cs (fun a => a.2 <:+ cs ∧ a.1.flags = r.flags) (r.openNamed cs') := by
  refine (consumes_accept '<' h).bind fun found hfound => ?_
  cases found with
  | some rest =>
      refine (consumes_groupName '>' (hfound rest rfl)).bind fun a ha => ?_
      exact (r.consumes_openCapture _ cs).bind fun opened hopened => .pure ⟨ha, hopened⟩
  | none =>
      refine (consumes_accept '=' h).bind fun found hfound => ?_
      cases found with
      | some rest =>
          refine (consumes_groupName ')' (hfound rest rfl)).bind fun a ha => ?_
          refine (r.consumes_groupNamed _ cs).bind fun group _ => ?_
          exact (r.consumes_reference group cs).bind fun item _ => .pure ⟨ha, rfl⟩
      | none =>
          dsimp only
          split
          · exact .reject _
          · exact (consumes_advance h).bind fun _ _ => .reject _

theorem flags_openLookaround (r : Reader) (behind : Bool) : (r.openLookaround behind).flags = r.flags := by
  simp only [openLookaround, enter]
  split_ifs <;> rfl

theorem consumes_openLookbehind (r : Reader) {cs cs' : List Char} (h : cs' <:+ cs) :
    Consumes cs (fun a => a.2 <:+ cs ∧ a.1.flags = r.flags) (r.openLookbehind cs') := by
  unfold openLookbehind
  split
  · exact .reject _
  · refine (consumes_advance h).bind fun rest hrest => ?_
    split_ifs
    · exact .pure ⟨hrest, r.flags_openLookaround true⟩
    · exact .reject _

theorem consumes_openFlags (r : Reader) (c : Char) {cs cs' : List Char} (h : cs' <:+ cs) :
    Consumes cs (fun a => a.2 <:+ cs) (r.openFlags c cs') := by
  refine (consumes_takeFlags c h).bind fun a ha => ?_
  obtain ⟨setting, rest⟩ := a
  cases setting with
  | whole on =>
      dsimp only
      split_ifs
      · exact .reject _
      · exact .pure ha
  | group on off => exact .pure ha

/-- The letter sets flags, alone or after a minus. -/
def setsFlags (c : Char) : Bool := flagLetters.contains c || c == '-'

theorem consumes_openExtension (r : Reader) (t : Token) {cs cs' : List Char} (h : cs' <:+ cs) :
    Consumes cs (fun a => a.2 <:+ cs ∧ (a.1.flags = r.flags ∨ ∃ c, t = .plain c ∧ setsFlags c = true))
      (r.openExtension t cs') := by
  unfold openExtension
  split
  · exact (r.consumes_openNamed h).imp fun a ha => ⟨ha.1, Or.inl ha.2⟩
  · exact .ok ⟨h, Or.inl rfl⟩
  · exact .ok ⟨h, Or.inl rfl⟩
  · exact (consumes_skipComment _ h).bind fun rest hrest => .pure ⟨hrest, Or.inl rfl⟩
  · exact .ok ⟨h, Or.inl (r.flags_openLookaround false)⟩
  · exact .ok ⟨h, Or.inl (r.flags_openLookaround false)⟩
  · exact (r.consumes_openLookbehind h).imp fun a ha => ⟨ha.1, Or.inl ha.2⟩
  · exact (r.consumes_openConditional h).imp fun a ha => ⟨ha.1, Or.inl ha.2⟩
  · next c _ _ _ _ _ _ _ _ =>
      split_ifs with hflags
      · exact (r.consumes_openFlags c h).imp fun a ha => ⟨ha, Or.inr ⟨c, rfl, hflags⟩⟩
      · exact .reject _
  · exact .reject _

/-- The text sets flags for a part of it or for all of it. -/
def HasFlags (cs : List Char) : Prop := ∃ c, setsFlags c = true ∧ ['(', '?', c] <:+: cs

/-- Only an extension that sets flags changes the flags of the reader. -/
theorem consumes_openGroup (r : Reader) {cs cs' : List Char} (h : cs' <:+ cs) :
    Consumes cs (fun a => a.2 <:+ cs ∧ (a.1.flags = r.flags ∨ ∃ c, setsFlags c = true ∧ ['?', c] <+: cs'))
      (r.openGroup cs') := by
  unfold openGroup
  unfold accept
  split_ifs with hnext
  · have hcs := eq_cons_of_next? hnext
    refine .bind (P := fun found => found = some (afterToken cs')) ?_ ?_
    · refine (consumes_atToken cs (afterToken cs')).bind fun rest hrest => .ok ?_
      rw [hrest]
    · rintro _ rfl
      dsimp only
      split
      · exact .reject _
      · next t ht =>
          have hrest := (suffix_afterToken cs').trans h
          refine (consumes_advance hrest).bind fun rest hrest => ?_
          refine (r.consumes_openExtension t hrest).imp fun a ha => ⟨ha.1, ha.2.imp_right ?_⟩
          rintro ⟨c, rfl, hc⟩
          refine ⟨c, hc, ?_⟩
          rw [hcs, eq_cons_of_next? ht]
          exact ⟨_, rfl⟩
  · refine .bind (P := fun found => found = none) (.ok rfl) ?_
    rintro _ rfl
    exact (r.consumes_openCapture none cs).bind fun opened hopened => .pure ⟨h, Or.inl hopened⟩

theorem consumes_alternative (r : Reader) (cs : List Char) :
    Consumes cs (fun a => a.flags = r.flags) r.alternative := by
  unfold alternative
  split
  · exact .ok rfl
  · exact .reject _
  · exact .ok rfl

theorem flags_close (r : Reader) (parent : Frame) (outer : List Frame) : (r.close parent outer).flags = r.flags := by
  unfold close
  split <;> rfl

theorem consumes_skipLine (fuel : Nat) {cs cs' : List Char} (h : cs' <:+ cs) :
    Consumes cs (· <:+ cs) (skipLine fuel cs') := by
  induction fuel generalizing cs' with
  | zero => exact .ok h
  | succ fuel ih =>
      rw [skipLine]
      split
      · exact .ok h
      · refine (consumes_advance h).bind fun rest hrest => ?_
        split_ifs
        · exact .pure hrest
        · exact ih hrest

theorem consumes_take (r : Reader) (t : Token) {cs cs' : List Char} (h : cs' <:+ cs) :
    Consumes cs (fun a => a.2 <:+ cs ∧
      (a.1.flags = r.flags ∨ t = .plain '(' ∧ ∃ c, setsFlags c = true ∧ ['?', c] <+: cs')) (r.take t cs') := by
  unfold take
  split
  · exact (r.consumes_escape _ h).bind fun a ha => .pure ⟨ha, Or.inl rfl⟩
  · split_ifs
    · exact .ok ⟨h, Or.inl rfl⟩
    · exact (consumes_skipLine _ h).bind fun rest hrest => .pure ⟨hrest, Or.inl rfl⟩
    · split
      · exact (consumes_takeSet h).bind fun rest hrest => .pure ⟨hrest, Or.inl rfl⟩
      · exact (r.consumes_quantify _ _ h).imp fun a ha => ⟨ha.1, Or.inl ha.2⟩
      · exact (r.consumes_quantify _ _ h).imp fun a ha => ⟨ha.1, Or.inl ha.2⟩
      · exact (r.consumes_quantify _ _ h).imp fun a ha => ⟨ha.1, Or.inl ha.2⟩
      · exact (r.consumes_brace h).imp fun a ha => ⟨ha.1, Or.inl ha.2⟩
      · exact (r.consumes_openGroup h).imp fun a ha => ⟨ha.1, ha.2.imp_right fun hflags => ⟨rfl, hflags⟩⟩
      · exact .ok ⟨h, Or.inl rfl⟩
      · exact .ok ⟨h, Or.inl rfl⟩
      · exact .ok ⟨h, Or.inl rfl⟩

/-- A pattern without flags in it is read with the flags that reading began with. -/
theorem consumes_run (r : Reader) {cs cs' : List Char} (h : cs' <:+ cs) :
    Consumes cs (fun a => a.1.flags = r.flags ∨ HasFlags cs) (r.run cs') := by
  induction hlength : cs'.length using Nat.strong_induction_on generalizing r cs' with
  | h n ih =>
      rw [run]
      split
      · split_ifs
        · exact .ok (Or.inl rfl)
        · exact .reject _
      · next t ht =>
          -- One token has been taken; what is left is shorter, so the rest of the run is covered.
          have hgo : ∀ b : Reader × List Char, b.2 <:+ cs ∧ (b.1.flags = r.flags ∨ HasFlags cs) →
              Consumes cs (fun a => a.1.flags = r.flags ∨ HasFlags cs)
                (if b.2.length < cs'.length then b.1.run b.2 else reject .unbalanced) := by
            rintro ⟨r', rest⟩ ⟨hrest, hflags⟩
            split_ifs with hlt
            · refine (ih rest.length (hlength ▸ hlt) r' hrest rfl).imp fun a ha => ?_
              rcases ha with ha | ha
              · exact hflags.imp_left ha.trans
              · exact Or.inr ha
            · exact .reject _
          split
          · exact .ok (Or.inl rfl)
          · refine (consumes_atToken cs (afterToken cs')).bind fun rest hrest => ?_
            subst hrest
            have hrest := (suffix_afterToken cs').trans h
            dsimp only
            split
            · refine (r.consumes_alternative cs).bind fun r' hr' => ?_
              exact hgo (r', afterToken cs') ⟨hrest, Or.inl hr'⟩
            · next parent outer _ _ =>
                exact hgo (r.close parent outer, afterToken cs') ⟨hrest, Or.inl (r.flags_close parent outer)⟩
            · refine (r.consumes_take _ hrest).bind fun b hb => hgo b ⟨hb.1, hb.2.imp_right ?_⟩
              rintro ⟨rfl, c, hc, hprefix⟩
              refine ⟨c, hc, List.IsInfix.trans ?_ h.isInfix⟩
              rw [eq_cons_of_next? ht]
              exact (List.cons_prefix_cons.mpr ⟨rfl, hprefix⟩).isInfix

end Reader

theorem Reader.fault_of_finish {r : Reader} {unbalanced : Bool} {fault : Fault}
    (h : r.finish unbalanced = .error (.fault fault)) : fault = .conflictingFlags ∧ r.flags ≠ [] := by
  unfold finish at h
  split_ifs at h with hflags
  · cases h
    refine ⟨rfl, fun hempty => ?_⟩
    rw [hempty] at hflags
    cases hflags
  · cases h
  · split at h
    · cases h
    · split at h <;> cases h

/-- The reader of a pattern before it has read anything. -/
def Reader.initial : Reader := { frame := { opening := .whole, verbose := false } }

/-- The fault of a check is that of a count in the text, or of flags that the run has taken. -/
theorem fault_of_check_run {cs : List Char} {fault : Fault} (h : check cs = .error (.fault fault)) :
    CountFault cs fault ∨
      fault = .conflictingFlags ∧ ∃ found, Reader.initial.run cs = .ok found ∧ found.1.flags ≠ [] := by
  unfold check at h
  cases hat : atToken cs with
  | error stop =>
      rw [hat] at h
      cases h
      exact Or.inl ((consumes_atToken cs cs).fault fault hat)
  | ok start =>
      obtain rfl := (consumes_atToken cs cs).result start hat
      rw [hat] at h
      have hconsumes := Reader.initial.consumes_run (List.suffix_rfl (l := start))
      cases hrun : Reader.run { frame := { opening := .whole, verbose := false } } start with
      | error stop =>
          simp only [bind, Except.bind, hrun] at h
          cases h
          exact Or.inl (hconsumes.fault fault hrun)
      | ok found =>
          simp only [bind, Except.bind, hrun] at h
          obtain ⟨rfl, hflags⟩ := Reader.fault_of_finish h
          exact Or.inr ⟨rfl, found, hrun, hflags⟩

theorem fault_of_check {cs : List Char} {fault : Fault} (h : check cs = .error (.fault fault)) :
    CountFault cs fault ∨ fault = .conflictingFlags ∧ Reader.HasFlags cs := by
  refine (fault_of_check_run h).imp_right fun ⟨hfault, found, hrun, hflags⟩ => ⟨hfault, ?_⟩
  exact ((Reader.initial.consumes_run (List.suffix_rfl (l := cs))).result found hrun).resolve_left hflags

/-- The check comes to a verdict, or its fault is that of a count in the text, or of flags in it. -/
theorem fault_of_rejection? {cs : List Char} {fault : Fault} (h : rejection? cs = .error fault) :
    CountFault cs fault ∨ fault = .conflictingFlags ∧ Reader.HasFlags cs := by
  unfold rejection? at h
  split at h
  · cases h
  · cases h
  · next hcheck =>
      cases h
      exact fault_of_check hcheck

end EdgeRoutes.Pattern.Grammar
