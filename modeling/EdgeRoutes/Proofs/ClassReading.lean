import EdgeRoutes.Pattern.BracketClass
import Mathlib.Data.List.Infix

/-! Reading bracket classes. The text that a class is translated to is a class again, and reading that class changes
nothing any more. -/

namespace EdgeRoutes

theorem Text.after?_eq_some {mark cs rest : List Char} (h : after? mark cs = some rest) : cs = mark ++ rest := by
  induction mark generalizing cs with
  | nil => exact Option.some.inj h
  | cons m ms ih =>
      cases cs with
      | nil => cases h
      | cons c cs =>
          rw [after?] at h
          split_ifs at h with hm
          rw [hm, List.cons_append, ← ih h]

theorem Text.after?_append (mark cs : List Char) : after? mark (mark ++ cs) = some cs := by
  induction mark with
  | nil => rfl
  | cons m ms ih => rw [List.cons_append, after?, if_pos rfl, ih]

theorem Text.startsWith_iff {s mark : String} : startsWith s mark = true ↔ mark.toList <+: s.toList := by
  rw [startsWith, starts, Option.isSome_iff_exists]
  constructor
  · rintro ⟨rest, hrest⟩
    exact ⟨rest, (after?_eq_some hrest).symm⟩
  · rintro ⟨rest, hrest⟩
    exact ⟨rest, by rw [← hrest, after?_append]⟩

/-- Cutting loses nothing. -/
theorem Text.cut?_eq_some {mark cs before rest : List Char} (h : cut? mark cs = some (before, rest)) :
    cs = before ++ (mark ++ rest) := by
  induction cs generalizing before with
  | nil =>
      unfold cut? at h
      split at h
      · next hafter =>
          cases h
          rw [List.nil_append, ← after?_eq_some hafter]
      · cases h
  | cons c cs ih =>
      unfold cut? at h
      split at h
      · next hafter =>
          cases h
          rw [List.nil_append, ← after?_eq_some hafter]
      · obtain ⟨⟨before', rest'⟩, hcut, heq⟩ := Option.map_eq_some_iff.mp h
        cases heq
        rw [List.cons_append, ← ih hcut]

theorem head?_ne_of_forall {c : Char} {cs : List Char} (h : ∀ ds, cs = c :: ds → False) : cs.head? ≠ some c := by
  intro hhead
  obtain ⟨ds, hds⟩ := List.head?_eq_some_iff.mp hhead
  exact h ds hds

namespace Pattern

theorem ClassText.before_eq_iff {c : ClassText} {text new rest : List Char} {problems : List Problem} :
    c.before new problems = ⟨text, [], some rest⟩ ↔
      ∃ old, c = ⟨old, [], some rest⟩ ∧ new ++ old = text ∧ problems = [] := by
  obtain ⟨old, found, after⟩ := c
  simp only [before, ClassText.mk.injEq, List.append_eq_nil_iff]
  constructor
  · rintro ⟨htext, ⟨hproblems, hfound⟩, hafter⟩
    exact ⟨old, ⟨rfl, hfound, hafter⟩, htext, hproblems⟩
  · rintro ⟨old', ⟨hold, hfound, hafter⟩, htext, hproblems⟩
    exact ⟨hold ▸ htext, ⟨hproblems, hfound⟩, hafter⟩

/-- Members of a class that are copied as they stand. -/
def isCopied : List Char → Bool
  | [] => true
  | '\\' :: c :: cs => c != 'h' && isCopied cs
  | c :: cs => c != '\\' && c != '[' && c != ']' && isCopied cs

theorem isCopied_append {a b : List Char} (ha : isCopied a = true) (hb : isCopied b = true) :
    isCopied (a ++ b) = true := by
  fun_induction isCopied a with
  | case1 => exact hb
  | case2 c cs ih =>
      rw [Bool.and_eq_true] at ha
      rw [List.cons_append, List.cons_append, isCopied, ha.1, ih ha.2, Bool.and_true]
  | case3 c cs hescape ih =>
      simp only [Bool.and_eq_true, bne_iff_ne] at ha
      rw [List.cons_append, isCopied]
      · simp [ha, ih]
      · rintro d ds rfl
        exact fun _ => ha.1.1.1 rfl

theorem classMembers_append {body : List Char} (hbody : isCopied body = true) (cs : List Char) :
    classMembers (body ++ cs) = (classMembers cs).before body [] := by
  fun_induction isCopied body with
  | case1 => rfl
  | case2 c body ih =>
      rw [Bool.and_eq_true, bne_iff_ne] at hbody
      rw [List.cons_append, List.cons_append, classMembers, ih hbody.2]
      · simp [ClassText.before]
      · exact hbody.1
  | case3 c body hescape ih =>
      simp only [Bool.and_eq_true, bne_iff_ne] at hbody
      rw [List.cons_append, classMembers, ih hbody.2]
      · simp [ClassText.before]
      all_goals simp_all

/-- A class that ends is read as its members and the bracket that ends it. -/
theorem classMembers_append_close {body : List Char} (hbody : isCopied body = true) (cs : List Char) :
    classMembers (body ++ ']' :: cs) = ⟨body ++ [']'], [], some cs⟩ := by
  rw [classMembers_append hbody, classMembers]
  rfl

/-- The members of a class without problems, `body`, against the text that they were read from. -/
structure Members (cs body rest : List Char) : Prop where
  suffix : rest <:+ cs
  copied : isCopied body = true
  /-- The signs that have a meaning at the start of a class do not come there from elsewhere. -/
  head : ∀ c, c = '^' ∨ c = ']' → (body ++ [']']).head? = some c → cs.head? = some c
  count : body.count '(' + rest.count '(' ≤ cs.count '('

/-- Members are put before others, for some text that was read. -/
theorem Members.before {cs body rest : List Char} (h : Members cs body rest) (read : List Char) (d : Char)
    (new : List Char) (hcopied : isCopied (d :: new) = true) (hcount : (d :: new).count '(' ≤ read.count '(')
    (hhead : d = '^' ∨ d = ']' → read.head? = some d) : Members (read ++ cs) (d :: new ++ body) rest where
  suffix := h.suffix.trans (List.suffix_append read cs)
  copied := isCopied_append hcopied h.copied
  head c hc hd := by
    obtain rfl : d = c := by simpa using hd
    rw [List.head?_append, hhead hc, Option.some_or]
  count := by
    rw [List.count_append, List.count_append]
    have := h.count
    omega

/-- The same for what is read of a class: members before those that the rest of the class gives. -/
theorem exists_members_before {cs text rest : List Char} {c : ClassText} {problems : List Problem}
    (ih : ∀ old, c = ⟨old, [], some rest⟩ → ∃ body, old = body ++ [']'] ∧ Members cs body rest) (read : List Char)
    {d : Char} {new : List Char} (h : c.before (d :: new) problems = ⟨text, [], some rest⟩)
    (hcopied : isCopied (d :: new) = true) (hcount : (d :: new).count '(' ≤ read.count '(')
    (hhead : d = '^' ∨ d = ']' → read.head? = some d) :
    ∃ body, text = body ++ [']'] ∧ Members (read ++ cs) body rest := by
  obtain ⟨old, hold, rfl, -⟩ := ClassText.before_eq_iff.mp h
  obtain ⟨body, rfl, hbody⟩ := ih old hold
  exact ⟨_, (List.append_assoc _ _ _).symm, hbody.before read d new hcopied hcount hhead⟩

theorem members_of_namedClasses : ∀ e ∈ namedClasses, ∃ d new, e.2.toList = d :: new ∧
    isCopied (d :: new) = true ∧ (d :: new).count '(' = 0 ∧ d ≠ '^' ∧ d ≠ ']' := by
  simp only [namedClasses, List.forall_mem_cons]
  refine ⟨?_, ?_, ?_, ?_, ?_, ?_, ?_, ?_, ?_, ?_, ?_, ?_, ?_, ?_, nofun⟩ <;>
    exact ⟨_, _, rfl, by decide, by decide, by decide, by decide⟩

theorem namedClass_eq {name text : List Char} (h : namedClass name = (text, [])) :
    ∃ d new, text = d :: new ∧ isCopied (d :: new) = true ∧ (d :: new).count '(' = 0 ∧ d ≠ '^' ∧ d ≠ ']' := by
  unfold namedClass at h
  split at h
  · cases h
  · split at h
    · next e members hfind =>
        cases h
        exact members_of_namedClasses _ (List.mem_of_find?_eq_some hfind)
    · cases h

/-- A class without problems is a sequence of members up to the bracket that closes it. -/
theorem members_of_classMembers {cs text rest : List Char} (h : classMembers cs = ⟨text, [], some rest⟩) :
    ∃ body, text = body ++ [']'] ∧ Members cs body rest := by
  fun_induction classMembers cs generalizing text with
  | case1 => cases h
  | case2 cs ih => exact exists_members_before @ih ['\\', 'h'] h (by decide) (by decide) (by decide)
  | case3 c cs hc ih =>
      refine exists_members_before @ih ['\\', c] h ?_ (Nat.le_refl _) (fun _ => rfl)
      rw [isCopied, isCopied, Bool.and_true, bne_iff_ne]
      exact hc
  | case4 cs name after hcut hlength new problems hnamed ih =>
      obtain ⟨-, -, -, rfl⟩ := ClassText.before_eq_iff.mp h
      obtain ⟨d, new, rfl, hcopied, hcount, hcaret, hclose⟩ := namedClass_eq hnamed
      have hcs : '[' :: ':' :: cs = ('[' :: ':' :: name ++ [':', ']']) ++ after := by
        rw [Text.cut?_eq_some hcut]
        simp
      rw [hcs]
      refine exists_members_before @ih _ h hcopied (by omega) ?_
      exact fun hd => False.elim (hd.elim hcaret hclose)
  | case5 => cases h
  | case6 cs hcut ih => exact exists_members_before @ih ['['] h (by decide) (by decide) (by decide)
  | case7 cs hcs ih => exact exists_members_before @ih ['['] h (by decide) (by decide) (by decide)
  | case8 cs =>
      cases h
      refine ⟨[], rfl, ⟨List.suffix_cons _ _, rfl, ?_, ?_⟩⟩
      · intro c hc hhead
        exact hhead
      · simp
  | case9 c cs hblank hescape hnamed hopen hclose ih =>
      -- A backslash comes here at the end of the text only, and there the class is not closed.
      have hbackslash : c ≠ '\\' := by
        rintro rfl
        cases cs with
        | nil =>
            rw [classMembers] at h
            cases h
        | cons d cs => exact hescape d cs rfl rfl
      refine exists_members_before @ih [c] h ?_ (Nat.le_refl _) (fun _ => rfl)
      rw [isCopied]
      · simp [isCopied, hbackslash, show c ≠ '[' from hopen, show c ≠ ']' from hclose]
      · exact fun d ds hc _ => hbackslash hc

theorem bracketClass_copied {body : List Char} (hbody : isCopied body = true)
    (hcaret : (body ++ [']']).head? ≠ some '^') (hclose : (body ++ [']']).head? ≠ some ']') (cs : List Char) :
    bracketClass (body ++ ']' :: cs) = ⟨'[' :: (body ++ [']']), [], some cs⟩ := by
  cases body with
  | nil => exact False.elim (hclose rfl)
  | cons d body =>
      rw [List.cons_append, bracketClass, ← List.cons_append, classMembers_append_close hbody]
      · rfl
      all_goals simp_all

theorem bracketClass_negated {body : List Char} (hbody : isCopied body = true)
    (hclose : (body ++ [']']).head? ≠ some ']') (cs : List Char) :
    bracketClass ('^' :: (body ++ ']' :: cs)) = ⟨'[' :: '^' :: (body ++ [']']), [], some cs⟩ := by
  cases body with
  | nil => exact False.elim (hclose rfl)
  | cons d body =>
      rw [List.cons_append, bracketClass, ← List.cons_append, classMembers_append_close hbody]
      · rfl
      · simp_all

/-- The text of a class without problems is read as the same class again. -/
theorem bracketClass_eq {cs text rest : List Char} (h : bracketClass cs = ⟨text, [], some rest⟩) :
    rest <:+ cs ∧ text.count '(' + rest.count '(' ≤ cs.count '(' ∧
      ∃ body, text = '[' :: body ∧ ∀ after, bracketClass (body ++ after) = ⟨text, [], some after⟩ := by
  fun_cases bracketClass cs with
  | case1 cs =>
      obtain ⟨old, hold, rfl, -⟩ := ClassText.before_eq_iff.mp h
      obtain ⟨body, rfl, hbody⟩ := members_of_classMembers hold
      have hescaped : Members ('^' :: ']' :: cs) ('\\' :: ']' :: body) rest :=
        hbody.before ['^', ']'] '\\' [']'] (by decide) (by decide) (by decide)
      refine ⟨hescaped.suffix, ?_, '^' :: ('\\' :: ']' :: body ++ [']']), rfl, fun after => ?_⟩
      · simpa [List.count_cons] using hescaped.count
      · rw [List.cons_append, List.append_assoc]
        exact bracketClass_negated hescaped.copied (by simp) after
  | case2 cs hcs =>
      rw [bracketClass.eq_2 cs hcs] at h
      obtain ⟨old, hold, rfl, -⟩ := ClassText.before_eq_iff.mp h
      obtain ⟨body, rfl, hbody⟩ := members_of_classMembers hold
      refine ⟨hbody.suffix.trans (List.suffix_cons _ _), ?_, '^' :: (body ++ [']']), rfl, fun after => ?_⟩
      · simpa [List.count_cons] using hbody.count
      · rw [List.cons_append, List.append_assoc]
        refine bracketClass_negated hbody.copied (fun hhead => ?_) after
        exact head?_ne_of_forall hcs (hbody.head ']' (Or.inr rfl) hhead)
  | case3 cs =>
      obtain ⟨old, hold, rfl, -⟩ := ClassText.before_eq_iff.mp h
      obtain ⟨body, rfl, hbody⟩ := members_of_classMembers hold
      have hescaped : Members (']' :: cs) ('\\' :: ']' :: body) rest :=
        hbody.before [']'] '\\' [']'] (by decide) (by decide) (by decide)
      refine ⟨hescaped.suffix, ?_, '\\' :: ']' :: body ++ [']'], rfl, fun after => ?_⟩
      · simpa [List.count_cons] using hescaped.count
      · rw [List.append_assoc]
        exact bracketClass_copied hescaped.copied (by simp) (by simp) after
  | case4 _ hboth hcaret hclose =>
      rw [bracketClass.eq_4 cs hboth hcaret hclose] at h
      obtain ⟨old, hold, rfl, -⟩ := ClassText.before_eq_iff.mp h
      obtain ⟨body, rfl, hbody⟩ := members_of_classMembers hold
      refine ⟨hbody.suffix, ?_, body ++ [']'], rfl, fun after => ?_⟩
      · simpa [List.count_cons] using hbody.count
      · rw [List.append_assoc]
        refine bracketClass_copied hbody.copied (fun hhead => ?_) (fun hhead => ?_) after
        · exact head?_ne_of_forall hcaret (hbody.head '^' (Or.inl rfl) hhead)
        · exact head?_ne_of_forall hclose (hbody.head ']' (Or.inr rfl) hhead)

/-- The text of a class without problems ends in the bracket that closes the class. -/
theorem exists_concat_of_bracketClass {cs text rest : List Char} (h : bracketClass cs = ⟨text, [], some rest⟩) :
    ∃ body, text = body ++ [']'] := by
  have hbefore : ∀ {members opening}, (classMembers members).before opening [] = ⟨text, [], some rest⟩ →
      ∃ body, text = body ++ [']'] := by
    intro members opening h
    obtain ⟨old, hold, rfl, -⟩ := ClassText.before_eq_iff.mp h
    obtain ⟨body, rfl, -⟩ := members_of_classMembers hold
    exact ⟨opening ++ body, (List.append_assoc _ _ _).symm⟩
  unfold bracketClass at h
  split at h <;> exact hbefore h

end Pattern

end EdgeRoutes
