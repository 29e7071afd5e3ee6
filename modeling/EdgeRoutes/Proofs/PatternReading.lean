import EdgeRoutes.Pattern.Translation
import EdgeRoutes.Proofs.ClassReading
import EdgeRoutes.Proofs.Results

/-! Reading patterns piece by piece. A piece is read from the front of a pattern and leaves a shorter rest, so what holds
for a whole pattern follows from what holds for one piece. The pieces that raise no problem are listed once, each with
the text that it contributes. -/

namespace EdgeRoutes.Pattern

/-- The problems of a translation: those of its pieces, or else what the grammar check says about its source. -/
def foundProblems (ps : List Piece) : Except Fault (List Problem) :=
  if (problemsOf ps).isEmpty then compileProblems (sourceOf ps) else .ok (problemsOf ps)

theorem translate_eq (pattern : String) (dialect : Dialect) (ignoreCase : Bool) :
    translate pattern dialect ignoreCase =
      (foundProblems (pieces (leadingIgnoreCase pattern.toList).2)).map fun problems =>
        { pattern
          source := String.ofList (sourceOf (pieces (leadingIgnoreCase pattern.toList).2))
          ignoreCase := ignoreCase || (leadingIgnoreCase pattern.toList).1
          problems
          notes := if dialect = .minimal then notesOf (pieces (leadingIgnoreCase pattern.toList).2) else [] } := by
  unfold translate foundProblems
  dsimp only
  by_cases hfound : (problemsOf (pieces (leadingIgnoreCase pattern.toList).2)).isEmpty = true
  · rw [if_pos hfound, if_pos hfound]
    cases compileProblems (sourceOf (pieces (leadingIgnoreCase pattern.toList).2)) <;> rfl
  · rw [if_neg hfound, if_neg hfound]
    rfl

/-- A translation that can be used comes from pieces that raise no problem. -/
theorem source_of_supported {pattern : String} {dialect : Dialect} {ignoreCase : Bool} {t : Translation}
    (h : translate pattern dialect ignoreCase = .ok t) (hsupported : t.supported = true) :
    problemsOf (pieces (leadingIgnoreCase pattern.toList).2) = [] ∧
      t.source = String.ofList (sourceOf (pieces (leadingIgnoreCase pattern.toList).2)) := by
  rw [translate_eq] at h
  obtain ⟨problems, hproblems, rfl⟩ := map_eq_ok_iff.mp h
  obtain rfl : problems = [] := List.isEmpty_iff.mp hsupported
  refine ⟨?_, rfl⟩
  unfold foundProblems at hproblems
  split_ifs at hproblems with hempty
  · exact List.isEmpty_iff.mp hempty
  · exact Except.ok.inj hproblems

/-- A translation is known once its parts are. -/
theorem translate_of_parts {pattern : String} {dialect : Dialect} {ignoreCase : Bool} {t : Translation}
    (h : (translate pattern dialect ignoreCase).toOption.map
      (fun t => (t.pattern, t.source, t.ignoreCase, t.problems, t.notes)) =
        some (t.pattern, t.source, t.ignoreCase, t.problems, t.notes)) :
    translate pattern dialect ignoreCase = .ok t := by
  obtain ⟨found, hfound, hparts⟩ := Option.map_eq_some_iff.mp h
  obtain ⟨pattern', source, ignoreCase', problems, notes⟩ := found
  obtain ⟨rfl, rfl, rfl, rfl, rfl⟩ := hparts
  exact toOption_eq_some_iff.mp hfound

@[simp] theorem sourceOf_append (ps qs : List Piece) : sourceOf (ps ++ qs) = sourceOf ps ++ sourceOf qs :=
  List.flatMap_append

@[simp] theorem problemsOf_append (ps qs : List Piece) : problemsOf (ps ++ qs) = problemsOf ps ++ problemsOf qs :=
  List.filterMap_append

/-- The letters whose escapes are not copied. -/
def changedEscapes : List Char := ['Q', 'A', 'z', 'Z', 'h', 'p', 'P'] ++ unsupportedEscapes

/-- `Reads input text rest` says that the first piece of `input` raises no problem, contributes `text`, and leaves
`rest` to be read. -/
inductive Reads : List Char → List Char → List Char → Prop
  | escape {c : Char} {cs : List Char} (hc : c ∉ changedEscapes) : Reads ('\\' :: c :: cs) ['\\', c] cs
  | start {cs : List Char} : Reads ('\\' :: 'A' :: cs) ['^'] cs
  | stop {c : Char} {cs : List Char} (hc : c = 'z' ∨ c = 'Z') : Reads ('\\' :: c :: cs) ['$'] cs
  | blank {cs : List Char} : Reads ('\\' :: 'h' :: cs) ['[', ' ', '\\', 't', ']'] cs
  | quoted {cs literal rest : List Char} (hcut : Text.cut? ['\\', 'E'] cs = some (literal, rest)) :
      Reads ('\\' :: 'Q' :: cs) (Js.escapePattern literal) rest
  | quotedToEnd {cs : List Char} (hcut : Text.cut? ['\\', 'E'] cs = none) :
      Reads ('\\' :: 'Q' :: cs) (Js.escapePattern cs) []
  | bracket {cs text rest : List Char} (hclass : bracketClass cs = ⟨text, [], some rest⟩) :
      Reads ('[' :: cs) text rest
  | comment {cs inner rest : List Char} (hcut : Text.cut? [')'] cs = some (inner, rest)) :
      Reads ('(' :: '?' :: '#' :: cs) [] rest
  | commentToEnd {cs : List Char} (hcut : Text.cut? [')'] cs = none) : Reads ('(' :: '?' :: '#' :: cs) [] []
  | group {c : Char} {cs : List Char} (hc : c = ':' ∨ c = '=' ∨ c = '!') :
      Reads ('(' :: '?' :: c :: cs) ['(', '?', c] cs
  | lookbehind {c : Char} {cs : List Char} (hc : c = '=' ∨ c = '!') :
      Reads ('(' :: '?' :: '<' :: c :: cs) ['(', '?', '<', c] cs
  | named {cs : List Char} (hcs : cs.head? ≠ some '=' ∧ cs.head? ≠ some '!') :
      Reads ('(' :: '?' :: '<' :: cs) ['(', '?', '<'] cs
  | respelled {cs : List Char} : Reads ('(' :: '?' :: 'P' :: '<' :: cs) ['(', '?', '<'] cs
  | reference {cs name rest : List Char} (hcut : Text.cut? [')'] cs = some (name, rest)) :
      Reads ('(' :: '?' :: 'P' :: '=' :: cs) ('\\' :: 'k' :: '<' :: (name ++ ['>'])) rest
  | plain {c : Char} {cs : List Char} (hescape : c ≠ '\\') (hclass : c ≠ '[')
      (hgroup : c = '(' → cs.head? ≠ some '?') (hquantifier : isQuantifier c = true → cs.head? ≠ some '+') :
      Reads (c :: cs) [c] cs

/-- The pieces contribute this text and no problem. -/
inductive Contributes : List Piece → List Char → Prop
  | nothing : Contributes [] []
  | text {text : List Char} : Contributes [.text text] text
  | noted {note : Note} {text : List Char} : Contributes [.note note, .text text] text

theorem Contributes.sourceOf_eq {ps : List Piece} {text : List Char} (h : Contributes ps text) :
    sourceOf ps = text := by
  cases h <;> simp [sourceOf]

theorem Contributes.problemsOf_eq {ps : List Piece} {text : List Char} (h : Contributes ps text) :
    problemsOf ps = [] := by
  cases h <;> rfl

theorem escapeStep_of_not_mem {c : Char} (hc : c ∉ changedEscapes) (cs : List Char) :
    (escapeStep (c :: cs)).rest = cs ∧ Contributes (escapeStep (c :: cs)).pieces ['\\', c] := by
  simp only [changedEscapes, List.cons_append, List.nil_append, List.mem_cons, not_or] at hc
  obtain ⟨hQ, hA, hz, hZ, hh, hp, hP, hunsupported⟩ := hc
  rw [escapeStep] <;> try assumption
  rw [if_neg (by simpa using hunsupported)]
  split_ifs
  · exact ⟨rfl, .noted⟩
  · exact ⟨rfl, .text⟩

/-- A step reads what the reading of the pattern says, and adds the same text. -/
theorem Reads.step_eq {c : Char} {cs text rest : List Char} (h : Reads (c :: cs) text rest) :
    (step c cs).rest = rest ∧ Contributes (step c cs).pieces text := by
  cases h with
  | escape hc => exact escapeStep_of_not_mem hc _
  | start => exact ⟨rfl, .text⟩
  | stop hc => rcases hc with rfl | rfl <;> exact ⟨rfl, .text⟩
  | blank => exact ⟨rfl, .text⟩
  | quoted hcut =>
      rw [step, escapeStep, hcut]
      exact ⟨rfl, .text⟩
  | quotedToEnd hcut =>
      rw [step, escapeStep, hcut]
      exact ⟨rfl, .text⟩
  | bracket hclass =>
      rw [step, classStep, hclass]
      exact ⟨rfl, .text⟩
  | comment hcut =>
      rw [step, groupStep, hcut]
      exact ⟨rfl, .nothing⟩
  | commentToEnd hcut =>
      rw [step, groupStep, hcut]
      exact ⟨rfl, .nothing⟩
  | group hc => rcases hc with rfl | rfl | rfl <;> exact ⟨rfl, .text⟩
  | lookbehind hc => rcases hc with rfl | rfl <;> exact ⟨rfl, .noted⟩
  | named hcs =>
      rw [step, groupStep]
      · exact ⟨rfl, .noted⟩
      · rintro ds rfl
        exact hcs.1 rfl
      · rintro ds rfl
        exact hcs.2 rfl
  | respelled => exact ⟨rfl, .noted⟩
  | reference hcut =>
      rw [step, groupStep, hcut]
      exact ⟨rfl, .noted⟩
  | plain hescape hclass hgroup hquantifier =>
      fun_cases step c cs with
      | case1 => exact False.elim (hescape rfl)
      | case2 => exact False.elim (hclass rfl)
      | case3 => exact False.elim (hgroup rfl rfl)
      | case4 _ _ _ _ hq => exact False.elim (hquantifier hq rfl)
      | case5 => exact ⟨rfl, .text⟩
      | case6 => exact ⟨rfl, .text⟩

/-- An escape without problems is read. -/
theorem exists_reads_escape {cs : List Char} (h : problemsOf (escapeStep cs).pieces = []) :
    ∃ text rest, Reads ('\\' :: cs) text rest := by
  fun_cases escapeStep cs with
  | case1 => cases h
  | case2 cs literal rest hcut => exact ⟨_, _, .quoted hcut⟩
  | case3 cs hcut => exact ⟨_, _, .quotedToEnd hcut⟩
  | case4 => exact ⟨_, _, .start⟩
  | case5 => exact ⟨_, _, .stop (Or.inl rfl)⟩
  | case6 => exact ⟨_, _, .stop (Or.inr rfl)⟩
  | case7 => exact ⟨_, _, .blank⟩
  | case8 => cases h
  | case9 => cases h
  | case10 c cs hQ hA hz hZ hh hp hP hunsupported =>
      rw [escapeStep, if_pos hunsupported] at h <;> try assumption
      cases h
  | case11 c cs hQ hA hz hZ hh hp hP hunsupported =>
      refine ⟨_, _, .escape ?_⟩
      simp_all [changedEscapes]
  | case12 c cs hQ hA hz hZ hh hp hP hunsupported =>
      refine ⟨_, _, .escape ?_⟩
      simp_all [changedEscapes]

theorem exists_reads_class {cs : List Char} (h : problemsOf (classStep cs).pieces = []) :
    ∃ text rest, Reads ('[' :: cs) text rest := by
  obtain ⟨text, problems, after, hclass⟩ : ∃ text problems after, bracketClass cs = ⟨text, problems, after⟩ :=
    ⟨_, _, _, rfl⟩
  rw [classStep, hclass] at h
  cases after with
  | none =>
      simp only [Step.stop, problemsOf, List.filterMap_map, List.filterMap_append] at h
      cases (List.append_eq_nil_iff.mp h).2
  | some rest =>
      rw [problemsOf_append] at h
      have hproblems := (List.append_eq_nil_iff.mp h).1
      obtain rfl : problems = [] := by
        cases problems with
        | nil => rfl
        | cons p ps => cases hproblems
      exact ⟨_, _, .bracket hclass⟩

/-- The opening of a group without problems is read. -/
theorem exists_reads_group {cs : List Char} (h : problemsOf (groupStep cs).pieces = []) :
    ∃ text rest, Reads ('(' :: '?' :: cs) text rest := by
  fun_cases groupStep cs with
  | case1 cs inner rest hcut => exact ⟨_, _, .comment hcut⟩
  | case2 cs hcut => exact ⟨_, _, .commentToEnd hcut⟩
  | case3 => exact ⟨_, _, .respelled⟩
  | case4 cs name rest hcut => exact ⟨_, _, .reference hcut⟩
  | case5 cs hcut =>
      rw [groupStep, hcut] at h
      cases h
  | case6 => exact ⟨_, _, .lookbehind (Or.inl rfl)⟩
  | case7 => exact ⟨_, _, .lookbehind (Or.inr rfl)⟩
  | case8 cs hequals hbang =>
      exact ⟨_, _, .named ⟨head?_ne_of_forall hequals, head?_ne_of_forall hbang⟩⟩
  | case9 => exact ⟨_, _, .group (Or.inl rfl)⟩
  | case10 => exact ⟨_, _, .group (Or.inr (Or.inl rfl))⟩
  | case11 => exact ⟨_, _, .group (Or.inr (Or.inr rfl))⟩
  | case12 =>
      rw [groupStep] at h <;> try assumption
      cases h

/-- Whatever is read without a problem is one of the listed pieces. -/
theorem exists_reads {c : Char} {cs : List Char} (h : problemsOf (step c cs).pieces = []) :
    ∃ text rest, Reads (c :: cs) text rest := by
  fun_cases step c cs with
  | case1 cs => exact exists_reads_escape h
  | case2 cs => exact exists_reads_class h
  | case3 cs => exact exists_reads_group h
  | case4 c rest hescape hclass hq =>
      rw [step, if_pos hq] at h <;> try assumption
      cases h
  | case5 c rest hescape hclass hq =>
      exact ⟨_, _, .plain hescape hclass (fun _ => by simp) (fun hq' => False.elim (hq hq'))⟩
  | case6 c _ hescape hclass hgroup hplus =>
      have hmark : c = '(' → cs.head? ≠ some '?' := fun hc => head?_ne_of_forall fun ds hds => hgroup ds hc hds
      exact ⟨_, _, .plain hescape hclass hmark fun _ => head?_ne_of_forall hplus⟩

theorem suffix_of_cut? {mark cs before rest : List Char} (h : Text.cut? mark cs = some (before, rest)) :
    rest <:+ cs := by
  rw [Text.cut?_eq_some h]
  exact (List.suffix_append _ _).trans (List.suffix_append _ _)

theorem Reads.suffix {c : Char} {cs text rest : List Char} (h : Reads (c :: cs) text rest) : rest <:+ cs := by
  cases h with
  | quoted hcut => exact (suffix_of_cut? hcut).trans (List.suffix_cons _ _)
  | quotedToEnd | commentToEnd => exact List.nil_suffix
  | bracket hclass => exact (bracketClass_eq hclass).1
  | comment hcut => exact (suffix_of_cut? hcut).trans (List.suffix_append ['?', '#'] _)
  | reference hcut => exact (suffix_of_cut? hcut).trans (List.suffix_append ['?', 'P', '='] _)
  | escape | start | stop | blank => exact List.suffix_cons _ _
  | group => exact List.suffix_append ['?', _] _
  | lookbehind => exact List.suffix_append ['?', '<', _] _
  | named => exact List.suffix_append ['?', '<'] _
  | respelled => exact List.suffix_append ['?', 'P', '<'] _
  | plain => exact List.suffix_refl _

/-- A whole pattern is read as its first piece and the rest. -/
theorem Reads.pieces_eq {c : Char} {cs text rest : List Char} (h : Reads (c :: cs) text rest) :
    ∃ first, Contributes first text ∧ pieces (c :: cs) = first ++ pieces rest := by
  obtain ⟨hrest, hfirst⟩ := h.step_eq
  refine ⟨_, hfirst, ?_⟩
  rw [pieces, hrest, if_pos (Nat.lt_succ_of_le h.suffix.length_le)]

theorem Reads.sourceOf_eq {c : Char} {cs text rest : List Char} (h : Reads (c :: cs) text rest) :
    sourceOf (pieces (c :: cs)) = text ++ sourceOf (pieces rest) := by
  obtain ⟨first, hfirst, hpieces⟩ := h.pieces_eq
  rw [hpieces, sourceOf_append, hfirst.sourceOf_eq]

theorem Reads.problemsOf_eq {c : Char} {cs text rest : List Char} (h : Reads (c :: cs) text rest) :
    problemsOf (pieces (c :: cs)) = problemsOf (pieces rest) := by
  obtain ⟨first, hfirst, hpieces⟩ := h.pieces_eq
  rw [hpieces, problemsOf_append, hfirst.problemsOf_eq, List.nil_append]

/-- A problem of the first piece is a problem of the pattern. -/
theorem problemsOf_step {c : Char} {cs : List Char} (h : problemsOf (pieces (c :: cs)) = []) :
    problemsOf (step c cs).pieces = [] := by
  rw [pieces, problemsOf_append] at h
  exact (List.append_eq_nil_iff.mp h).1

/-- What holds for the empty pattern and, with the rest of a pattern, for the pattern, holds for every pattern without
problems. -/
theorem reads_induction {motive : List Char → Prop} (hnil : motive [])
    (hcons : ∀ {c cs text rest}, Reads (c :: cs) text rest → problemsOf (pieces rest) = [] → motive rest →
      motive (c :: cs)) {cs : List Char} (h : problemsOf (pieces cs) = []) : motive cs := by
  induction hlength : cs.length using Nat.strong_induction_on generalizing cs with
  | _ n ih =>
      cases cs with
      | nil => exact hnil
      | cons c cs =>
          obtain ⟨text, rest, hreads⟩ := exists_reads (problemsOf_step h)
          have hrest : problemsOf (pieces rest) = [] := hreads.problemsOf_eq.symm.trans h
          have hlt : rest.length < n := hlength ▸ Nat.lt_succ_of_le hreads.suffix.length_le
          exact hcons hreads hrest (ih _ hlt hrest rfl)

theorem count_escapePattern (cs : List Char) : (Js.escapePattern cs).count '(' = cs.count '(' := by
  induction cs with
  | nil => rfl
  | cons c cs ih =>
      rw [Js.escapePattern, List.flatMap_cons, List.count_append, ← Js.escapePattern, ih]
      have hchar : (Js.escapeChar c).count '(' = [c].count '(' := by
        rw [Js.escapeChar]
        split_ifs
        · rw [List.count_cons, if_neg (by decide), Nat.add_zero]
        · rfl
      rw [hchar, ← List.count_append, List.singleton_append]

/-- Reading never adds a parenthesis. -/
theorem Reads.count_le {c : Char} {cs text rest : List Char} (h : Reads (c :: cs) text rest) :
    text.count '(' + rest.count '(' ≤ (c :: cs).count '(' := by
  cases h with
  | bracket hclass =>
      have := (bracketClass_eq hclass).2.1
      rw [List.count_cons]
      omega
  | quoted hcut =>
      rw [Text.cut?_eq_some hcut, count_escapePattern]
      simp [List.count_append]
  | comment hcut =>
      rw [Text.cut?_eq_some hcut]
      simp [List.count_append]
      omega
  | reference hcut =>
      rw [Text.cut?_eq_some hcut]
      simp [List.count_append]
  | quotedToEnd => simp [count_escapePattern]
  | _ => simp [List.count_cons] <;> omega

theorem count_sourceOf_le {cs : List Char} (h : problemsOf (pieces cs) = []) :
    (sourceOf (pieces cs)).count '(' ≤ cs.count '(' := by
  refine reads_induction (motive := fun cs => (sourceOf (pieces cs)).count '(' ≤ cs.count '(') ?_ ?_ h
  · simp [pieces, sourceOf]
  · intro c cs text rest hreads _ ih
    have := hreads.count_le
    rw [hreads.sourceOf_eq, List.count_append]
    omega

end EdgeRoutes.Pattern
