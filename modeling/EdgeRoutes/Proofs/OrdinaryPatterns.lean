import EdgeRoutes.Proofs.CheckedCopies
import EdgeRoutes.Proofs.GrammarFlags
import EdgeRoutes.Proofs.PatternConversion
import EdgeRoutes.Proofs.PatternReading

/-! Ordinary patterns: those made of characters, escapes, bracket classes, groups and quantifiers that both syntaxes
have in common. They are copied as they stand, and what there is to report about one is the verdict of the grammar
check. The check comes to one unless a number in the pattern is too large for a repetition count. -/

namespace EdgeRoutes.Pattern

open Number Grammar

/-- The characters that are never copied by themselves. -/
def specialCharacters : List Char := ['\\', '[', '(', '*', '+', '?', '\x7d']

/-- The openings of groups that have the same meaning on both sides. -/
def groupOpenings : List (List Char) :=
  [['(', '?', ':'], ['(', '?', '='], ['(', '?', '!'], ['(', '?', '<', '='], ['(', '?', '<', '!'], ['(', '?', '<']]

/-- A pattern put together from parts that both syntaxes have in common. -/
inductive Ordinary : List Char → Prop
  | nil : Ordinary []
  | char {c : Char} {cs : List Char} (hc : c ∉ specialCharacters) (h : Ordinary cs) : Ordinary (c :: cs)
  | escape {c : Char} {cs : List Char} (hc : c ∉ changedEscapes) (h : Ordinary cs) : Ordinary ('\\' :: c :: cs)
  | bracket {body cs : List Char} (hbody : isCopied body = true) (hempty : body ≠ [] ∧ body ≠ ['^']) (h : Ordinary cs) :
      Ordinary ('[' :: (body ++ ']' :: cs))
  | capture {cs : List Char} (hcs : cs.head? ≠ some '?') (h : Ordinary cs) : Ordinary ('(' :: cs)
  | group {opening cs : List Char} (hopening : opening ∈ groupOpenings) (h : Ordinary cs) : Ordinary (opening ++ cs)
  | quantifier {c : Char} {cs : List Char} (hc : isQuantifier c = true) (hcs : cs.head? ≠ some '+') (h : Ordinary cs) :
      Ordinary (c :: cs)

/-- The pattern is read without a problem and copied as it stands. -/
structure Verbatim (cs : List Char) : Prop where
  problems : problemsOf (pieces cs) = []
  source : sourceOf (pieces cs) = cs

theorem Verbatim.cons {c : Char} {cs text rest : List Char} (hreads : Reads (c :: cs) text rest)
    (htext : text ++ rest = c :: cs) (h : Verbatim rest) : Verbatim (c :: cs) :=
  ⟨hreads.problemsOf_eq.trans h.problems, by rw [hreads.sourceOf_eq, h.source, htext]⟩

theorem Verbatim.tail {c : Char} {cs : List Char} (hreads : Reads (c :: cs) [c] cs) (h : Verbatim (c :: cs)) :
    Verbatim cs := by
  refine ⟨hreads.problemsOf_eq.symm.trans h.problems, ?_⟩
  have hsource := h.source
  rw [hreads.sourceOf_eq] at hsource
  exact (List.cons.inj hsource).2

theorem head?_ne_of_isCopied {body : List Char} (hbody : isCopied body = true) (hne : body ≠ []) :
    (body ++ [']']).head? ≠ some ']' := by
  obtain ⟨c, body, rfl⟩ := List.exists_cons_of_ne_nil hne
  intro hc
  obtain rfl := Option.some.inj hc
  simp [isCopied] at hbody

theorem reads_bracket {body : List Char} (hbody : isCopied body = true) (hempty : body ≠ [] ∧ body ≠ ['^'])
    (cs : List Char) : Reads ('[' :: (body ++ ']' :: cs)) ('[' :: (body ++ [']'])) cs := by
  refine .bracket ?_
  by_cases hcaret : (body ++ [']']).head? = some '^'
  · obtain ⟨c, body, rfl⟩ := List.exists_cons_of_ne_nil hempty.1
    obtain rfl := Option.some.inj hcaret
    have hrest : isCopied body = true := by simpa [isCopied] using hbody
    have hne : body ≠ [] := fun hnil => hempty.2 (by rw [hnil])
    exact bracketClass_negated hrest (head?_ne_of_isCopied hrest hne) cs
  · exact bracketClass_copied hbody hcaret (head?_ne_of_isCopied hbody hempty.1) cs

/-- An angle bracket opens a lookbehind if one of its signs follows, and a name otherwise. -/
theorem verbatim_of_angle {cs : List Char} (h : Verbatim cs) : Verbatim ('(' :: '?' :: '<' :: cs) := by
  by_cases hsign : cs.head? = some '=' ∨ cs.head? = some '!'
  · have hreads : ∃ c rest, (c = '=' ∨ c = '!') ∧ cs = c :: rest := by
      rcases hsign with hsign | hsign <;> obtain ⟨rest, rfl⟩ := List.head?_eq_some_iff.mp hsign
      · exact ⟨_, rest, Or.inl rfl, rfl⟩
      · exact ⟨_, rest, Or.inr rfl, rfl⟩
    obtain ⟨c, rest, hc, rfl⟩ := hreads
    have hplain : Reads (c :: rest) [c] rest := by
      rcases hc with rfl | rfl <;>
        exact .plain (by decide) (by decide) (fun hopen => absurd hopen (by decide)) fun hq => absurd hq (by decide)
    exact (h.tail hplain).cons (.lookbehind hc) rfl
  · exact h.cons (.named (not_or.mp hsign)) rfl

/-- An ordinary pattern is copied as it stands. -/
theorem Ordinary.verbatim {cs : List Char} (h : Ordinary cs) : Verbatim cs := by
  induction h with
  | nil => exact ⟨by rw [pieces]; rfl, by rw [pieces]; rfl⟩
  | char hc h ih =>
      simp only [specialCharacters, List.mem_cons, List.not_mem_nil, or_false, not_or] at hc
      refine ih.cons (.plain hc.1 hc.2.1 (fun hopen => absurd hopen hc.2.2.1) fun hq => ?_) rfl
      simp [isQuantifier, hc] at hq
  | escape hc h ih => exact ih.cons (.escape hc) rfl
  | bracket hbody hempty h ih => exact ih.cons (reads_bracket hbody hempty _) (by simp)
  | capture hcs h ih =>
      exact ih.cons (.plain (by decide) (by decide) (fun _ => hcs) fun hq => absurd hq (by decide)) rfl
  | @group opening cs hopening h ih =>
      simp only [groupOpenings, List.mem_cons, List.not_mem_nil, or_false] at hopening
      rcases hopening with rfl | rfl | rfl | rfl | rfl | rfl
      · exact ih.cons (.group (Or.inl rfl)) rfl
      · exact ih.cons (.group (Or.inr (Or.inl rfl))) rfl
      · exact ih.cons (.group (Or.inr (Or.inr rfl))) rfl
      · exact ih.cons (.lookbehind (Or.inl rfl)) rfl
      · exact ih.cons (.lookbehind (Or.inr rfl)) rfl
      · exact verbatim_of_angle ih
  | quantifier hc hcs h ih =>
      refine ih.cons (.plain ?_ ?_ ?_ fun _ => hcs) rfl
      all_goals
        rintro rfl
        exact absurd hc (by decide)

/-- What follows an opening `(?` in an ordinary pattern. -/
theorem Ordinary.mark {c : Char} {cs : List Char} (h : Ordinary ('(' :: '?' :: c :: cs)) :
    c ∈ [':', '=', '!', '<'] := by
  generalize hall : '(' :: '?' :: c :: cs = all at h
  cases h with
  | nil => cases hall
  | char hc =>
      cases hall
      exact absurd (by decide) hc
  | escape => cases hall
  | bracket => cases hall
  | capture hcs =>
      cases hall
      exact absurd rfl hcs
  | group hopening =>
      simp only [groupOpenings, List.mem_cons, List.not_mem_nil, or_false] at hopening
      rcases hopening with rfl | rfl | rfl | rfl | rfl | rfl <;> cases hall <;> decide
  | quantifier hc =>
      cases hall
      exact absurd hc (by decide)

/-- No ordinary pattern opens with an option. -/
theorem Ordinary.leadingIgnoreCase_eq {cs : List Char} (h : Ordinary cs) : leadingIgnoreCase cs = (false, cs) := by
  unfold leadingIgnoreCase
  split
  · exact absurd h.mark (by decide)
  · rfl

section Spelling

/-- Text without a character lies on one side of it. -/
theorem infix_of_infix_append_cons {ds as bs : List Char} {x : Char} (h : ds <:+: as ++ x :: bs) (hx : x ∉ ds) :
    ds <:+: as ∨ ds <:+: bs := by
  induction as with
  | nil =>
      rcases List.infix_cons_iff.mp h with hprefix | hinfix
      · rcases List.prefix_cons_iff.mp hprefix with rfl | ⟨rest, rfl, -⟩
        · exact Or.inl List.infix_rfl
        · exact absurd List.mem_cons_self hx
      · exact Or.inr hinfix
  | cons a as ih =>
      rcases List.infix_cons_iff.mp h with hprefix | hinfix
      · have hmark : a :: as ++ [x] <+: a :: (as ++ x :: bs) := ⟨bs, by simp⟩
        rcases List.prefix_or_prefix_of_prefix hprefix hmark with hshort | hlong
        · rcases List.prefix_concat_iff.mp hshort with rfl | hshort
          · simp at hx
          · exact Or.inl hshort.isInfix
        · exact absurd (hlong.subset (by simp)) hx
      · exact (ih hinfix).imp_left List.infix_cons

/-- The runs of digits in the one text stand in the other, and so do those at its start. -/
structure DigitsFrom (out cs : List Char) : Prop where
  start : ∀ ds, (∀ d ∈ ds, d.isDigit = true) → ds <+: out → ds <+: cs
  inside : ∀ ds, (∀ d ∈ ds, d.isDigit = true) → ds <:+: out → ds <:+: cs

theorem DigitsFrom.nil (cs : List Char) : DigitsFrom [] cs where
  start ds _ h := by
    rw [List.prefix_nil.mp h]
    exact List.nil_prefix
  inside ds _ h := by
    rw [List.infix_nil.mp h]
    exact List.nil_infix

theorem DigitsFrom.cons {out cs : List Char} (h : DigitsFrom out cs) (c : Char) : DigitsFrom (c :: out) (c :: cs) where
  start ds hds hprefix := by
    rcases List.prefix_cons_iff.mp hprefix with rfl | ⟨rest, rfl, hrest⟩
    · exact List.nil_prefix
    · exact List.cons_prefix_cons.mpr ⟨rfl, h.start rest (List.forall_mem_cons.mp hds).2 hrest⟩
  inside ds hds hinfix := by
    rcases List.infix_cons_iff.mp hinfix with hprefix | hinfix
    · rcases List.prefix_cons_iff.mp hprefix with rfl | ⟨rest, rfl, hrest⟩
      · exact List.nil_infix
      · have hstart := h.start rest (List.forall_mem_cons.mp hds).2 hrest
        exact (List.cons_prefix_cons.mpr ⟨rfl, hstart⟩).isInfix
    · exact List.infix_cons (h.inside ds hds hinfix)

/-- A sign in front makes no new run. -/
theorem DigitsFrom.sign {out cs : List Char} {c : Char} (hc : c.isDigit = false)
    (h : ∀ ds, (∀ d ∈ ds, d.isDigit = true) → ds <:+: out → ds <:+: cs) : DigitsFrom (c :: out) cs := by
  have hstart : ∀ ds, (∀ d ∈ ds, d.isDigit = true) → ds <+: c :: out → ds = [] := by
    intro ds hds hprefix
    rcases List.prefix_cons_iff.mp hprefix with rfl | ⟨rest, rfl, -⟩
    · rfl
    · exact absurd (hds c List.mem_cons_self) (by rw [hc]; decide)
  constructor
  · intro ds hds hprefix
    rw [hstart ds hds hprefix]
    exact List.nil_prefix
  · intro ds hds hinfix
    rcases List.infix_cons_iff.mp hinfix with hprefix | hinfix
    · rw [hstart ds hds hprefix]
      exact List.nil_infix
    · exact h ds hds hinfix

theorem digitsFrom_namedGroupsSpelled (cs : List Char) : DigitsFrom (namedGroupsSpelled cs) cs := by
  fun_induction namedGroupsSpelled cs with
  | case1 cs hsign ih => exact ((ih.cons '<').cons '?').cons '('
  | case2 cs hsign ih => exact ((DigitsFrom.sign (by decide) (ih.cons '<').inside).cons '?').cons '('
  | case3 c cs _ ih => exact ih.cons c
  | case4 => exact .nil _

theorem digitsFrom_referencesSpelled (cs : List Char) : DigitsFrom (referencesSpelled cs) cs := by
  fun_induction referencesSpelled cs with
  | case1 rest name after hname hlt ih =>
      rw [referenceName?_eq hname]
      have hspelled : "(?P=".toList ++ name ++ ')' :: referencesSpelled after =
          '(' :: '?' :: 'P' :: '=' :: (name ++ ')' :: referencesSpelled after) := by
        rw [String.toList_ofList, List.append_assoc]
        rfl
      -- no run of digits goes over the bracket behind the name, whichever bracket that is
      have hinside : ∀ ds, (∀ d ∈ ds, d.isDigit = true) → ds <:+: name ++ ')' :: referencesSpelled after →
          ds <:+: '\\' :: 'k' :: '<' :: (name ++ '>' :: after) := by
        intro ds hds hinfix
        rcases infix_of_infix_append_cons hinfix (fun hmem => absurd (hds _ hmem) (by decide)) with hname | hafter
        · exact hname.trans ⟨['\\', 'k', '<'], '>' :: after, by simp⟩
        · exact (ih.inside ds hds hafter).trans ⟨'\\' :: 'k' :: '<' :: (name ++ ['>']), [], by simp⟩
      rw [hspelled]
      have hequals := DigitsFrom.sign (c := '=') (by decide) hinside
      have hletter := DigitsFrom.sign (c := 'P') (by decide) hequals.inside
      have hmark := DigitsFrom.sign (c := '?') (by decide) hletter.inside
      exact .sign (by decide) hmark.inside
  | case2 => exact .nil _
  | case3 rest hname ih => exact ((ih.cons '<').cons 'k').cons '\\'
  | case4 c cs _ ih => exact ih.cons c
  | case5 => exact .nil _

theorem infix_of_infix_checkedCopy {ds cs : List Char} (hds : ∀ d ∈ ds, d.isDigit = true) (h : ds <:+: checkedCopy cs) :
    ds <:+: cs :=
  (digitsFrom_namedGroupsSpelled cs).inside ds hds ((digitsFrom_referencesSpelled _).inside ds hds h)

end Spelling

section Openings

/-- A backslash is copied, or with what follows becomes a reference. -/
theorem checkedCopy_escape (cs : List Char) : (∃ rest, checkedCopy ('\\' :: cs) = '\\' :: rest) ∨
    ∃ rest, checkedCopy ('\\' :: cs) = '(' :: '?' :: 'P' :: rest := by
  cases h : namedReference? ('\\' :: cs) with
  | none => exact Or.inl ⟨_, checkedCopy_backslash h⟩
  | some found => exact Or.inr ⟨_, checkedCopy_of_namedReference? h⟩

/-- A parenthesis is copied, or with what follows becomes the opening of a named group. -/
theorem checkedCopy_open (cs : List Char) : checkedCopy ('(' :: cs) = '(' :: checkedCopy cs ∨
    ∃ rest, checkedCopy ('(' :: cs) = '(' :: '?' :: 'P' :: rest := by
  cases h : opensNamedGroup ('(' :: cs) with
  | false => exact Or.inl (checkedCopy_parenthesis h)
  | true => exact Or.inr ⟨_, checkedCopy_of_opensNamedGroup h⟩

/-- A first character that is no parenthesis and no backslash is a copy. -/
theorem exists_cons_of_checkedCopy {c : Char} {cs rest : List Char} (h : checkedCopy cs = c :: rest) (hopen : c ≠ '(')
    (hescape : c ≠ '\\') : ∃ cs', cs = c :: cs' ∧ rest = checkedCopy cs' := by
  cases cs with
  | nil =>
      rw [checkedCopy_nil] at h
      cases h
  | cons d cs =>
      by_cases hd : d = '('
      · rw [hd] at h
        rcases checkedCopy_open cs with hspelled | ⟨_, hspelled⟩ <;> rw [hspelled] at h <;> cases h <;>
          exact absurd rfl hopen
      · by_cases hd' : d = '\\'
        · rw [hd'] at h
          rcases checkedCopy_escape cs with ⟨_, hspelled⟩ | ⟨_, hspelled⟩ <;> rw [hspelled] at h <;> cases h
          · exact absurd rfl hescape
          · exact absurd rfl hopen
        · rw [checkedCopy_cons hd hd'] at h
          obtain ⟨rfl, rfl⟩ := List.cons.inj h
          exact ⟨cs, rfl, rfl⟩

theorem not_leadsToFlags_of_mem {c : Char} {cs : List Char} (h : (cs.all fun c => !Reader.leadsToFlags c) = true)
    (hc : c ∈ cs) : Reader.leadsToFlags c = false := by
  simpa using List.all_eq_true.mp h c hc

/-- Only flags are spelled as flags. -/
theorem opensFlags_of_checkedCopy {cs : List Char} (h : Reader.OpensFlags (checkedCopy cs)) : Reader.OpensFlags cs := by
  obtain ⟨c, hc, rest, hspelled⟩ := h
  have hother : ∀ {d}, d ∈ ['(', '\\', 'P'] → c ≠ d := by
    rintro d hd rfl
    exact absurd hc (by rw [not_leadsToFlags_of_mem (by decide) hd]; decide)
  have hspelled := hspelled.symm
  simp only [List.cons_append, List.nil_append] at hspelled
  cases cs with
  | nil =>
      rw [checkedCopy_nil] at hspelled
      cases hspelled
  | cons d cs =>
      by_cases hd : d = '('
      · subst hd
        rcases checkedCopy_open cs with hcopy | ⟨_, hcopy⟩ <;> rw [hcopy] at hspelled
        · obtain ⟨cs', rfl, hrest⟩ := exists_cons_of_checkedCopy (List.cons.inj hspelled).2 (by decide) (by decide)
          obtain ⟨cs'', rfl, -⟩ := exists_cons_of_checkedCopy hrest.symm (hother (by decide)) (hother (by decide))
          exact ⟨c, hc, cs'', rfl⟩
        · cases hspelled
          exact absurd rfl (hother (d := 'P') (by decide))
      · by_cases hd' : d = '\\'
        · subst hd'
          rcases checkedCopy_escape cs with ⟨_, hescape⟩ | ⟨_, hescape⟩ <;> rw [hescape] at hspelled <;> cases hspelled
          exact absurd rfl (hother (d := 'P') (by decide))
        · rw [checkedCopy_cons hd hd'] at hspelled
          exact absurd (List.cons.inj hspelled).1 hd

/-- An ordinary pattern does not open with flags, however its groups are spelled. -/
theorem Ordinary.not_opensFlags {cs : List Char} (h : Ordinary cs) : ¬ Reader.OpensFlags (checkedCopy cs) := by
  intro hopens
  obtain ⟨c, hc, rest, rfl⟩ := opensFlags_of_checkedCopy hopens
  exact absurd hc (by rw [not_leadsToFlags_of_mem (by decide) h.mark]; decide)

end Openings

/-- The number in the text is too large for a repetition count: it has too many digits, or is beyond the counts. -/
def Oversized (digits : List Char) : Prop := maxDigits < digits.length ∨ maxRepeat ≤ ofDigits digits

theorem oversized_of_repeatCount {digits : List Char} (hne : digits ≠ []) (hdigits : ∀ c ∈ digits, c.isDigit = true)
    {fault : Fault} (h : Reader.repeatCount digits = .error (.fault fault)) : Oversized digits := by
  by_contra hsmall
  obtain ⟨hlength, hlt⟩ := not_or.mp hsmall
  rw [repeatCount_of_lt hne hdigits (Nat.not_lt.mp hlength) (Nat.not_le.mp hlt)] at h
  cases h

/-- The translation of an ordinary pattern is the pattern with the verdict of the grammar check. -/
theorem Ordinary.translate_eq {pattern : String} (h : Ordinary pattern.toList) (dialect : Dialect) (ignoreCase : Bool) :
    translate pattern dialect ignoreCase = (rejection? (checkedCopy pattern.toList)).map fun verdict =>
      { pattern
        source := pattern
        ignoreCase
        problems := (verdict.map fun reason => .doesNotCompile reason.message).toList
        notes := if dialect = .minimal then notesOf (pieces pattern.toList) else [] } := by
  obtain ⟨hproblems, hsource⟩ := h.verbatim
  have hfound : foundProblems (pieces pattern.toList) = (rejection? (checkedCopy pattern.toList)).map fun verdict =>
      (verdict.map fun reason => Problem.doesNotCompile reason.message).toList := by
    rw [foundProblems, hproblems, hsource]
    exact compileProblems_eq pattern.toList
  rw [Pattern.translate_eq, h.leadingIgnoreCase_eq, hfound, hsource, String.ofList_toList, Bool.or_false]
  cases rejection? (checkedCopy pattern.toList) <;> rfl

/-- An ordinary pattern is translated if the grammar check of it comes to a verdict. Its source is the pattern itself,
its flag is the one that is asked for, and its only problem can be that it does not compile. It is translated unless a
number in it is too large for a repetition count. -/
theorem ordinary_unchanged {pattern : String} (h : Ordinary pattern.toList) (dialect : Dialect) (ignoreCase : Bool) :
    ((∃ t, translate pattern dialect ignoreCase = .ok t) ↔
      ∃ verdict, rejection? (checkedCopy pattern.toList) = .ok verdict) ∧
    (∀ t, translate pattern dialect ignoreCase = .ok t →
      t.source = pattern ∧ t.flags = (if ignoreCase then "i" else "") ∧
        (t.problems = [] ∨ ∃ reason, t.problems = [.doesNotCompile reason])) ∧
    ∀ fault, translate pattern dialect ignoreCase = .error fault →
      ∃ digits, digits ≠ [] ∧ digits <:+: pattern.toList ∧ (∀ c ∈ digits, c.isDigit = true) ∧ Oversized digits := by
  rw [h.translate_eq]
  refine ⟨?_, fun t ht => ?_, fun fault hfault => ?_⟩
  · cases rejection? (checkedCopy pattern.toList) with
    | error fault => exact iff_of_false nofun nofun
    | ok verdict => exact iff_of_true ⟨_, rfl⟩ ⟨_, rfl⟩
  · obtain ⟨verdict, -, rfl⟩ := map_eq_ok_iff.mp ht
    refine ⟨rfl, rfl, ?_⟩
    cases verdict with
    | none => exact Or.inl rfl
    | some reason => exact Or.inr ⟨_, rfl⟩
  · cases hverdict : rejection? (checkedCopy pattern.toList) with
    | ok verdict =>
        rw [hverdict] at hfault
        cases hfault
    | error fault' =>
        obtain ⟨digits, hne, hinfix, hdigits, hcount⟩ := countFault_of_rejection? h.not_opensFlags hverdict
        exact ⟨digits, hne, infix_of_infix_checkedCopy hdigits hinfix, hdigits,
          oversized_of_repeatCount hne hdigits hcount⟩

/-- A pattern with a named group, a class, an escape and alternatives. -/
def stylesheetPattern : String := "^/(?<dir>[^/]+)/\\w+\\.(css|js)$"

theorem ordinary_stylesheetPattern : Ordinary stylesheetPattern.toList := by
  rw [stylesheetPattern, String.toList_ofList]
  refine .char (by decide) (.char (by decide) (@Ordinary.group ['(', '?', '<'] _ (by decide) ?_))
  refine .char (by decide) (.char (by decide) (.char (by decide) (.char (by decide) ?_)))
  refine @Ordinary.bracket ['^', '/'] _ (by decide) (by decide) (.quantifier (by decide) (by decide) ?_)
  refine .char (by decide) (.char (by decide) (.escape (by decide) (.quantifier (by decide) (by decide) ?_)))
  refine .escape (by decide) (.capture (by decide) ?_)
  refine .char (by decide) (.char (by decide) (.char (by decide) (.char (by decide) ?_)))
  exact .char (by decide) (.char (by decide) (.char (by decide) (.char (by decide) .nil)))

theorem ordinary_unchanged_stylesheet : ∃ t, translate stylesheetPattern .minimal true = .ok t ∧
    t.source = stylesheetPattern ∧ t.flags = "i" ∧
      (t.problems = [] ∨ ∃ reason, t.problems = [.doesNotCompile reason]) := by
  obtain ⟨t, ht⟩ : ∃ t, translate stylesheetPattern .minimal true = .ok t := exists_eq_ok (by decide +kernel)
  exact ⟨t, ht, (ordinary_unchanged ordinary_stylesheetPattern .minimal true).2.1 t ht⟩

/-- A count that no repetition can have. -/
def overflowingPattern : String := "a\x7b4294967295\x7d"

/-- An ordinary pattern with such a count is not translated at all. -/
theorem overflowing_not_translated : Ordinary overflowingPattern.toList ∧
    ∀ dialect ignoreCase, ¬ ∃ t, translate overflowingPattern dialect ignoreCase = .ok t := by
  have hordinary : Ordinary overflowingPattern.toList := by
    rw [overflowingPattern, String.toList_ofList]
    refine .char (by decide) (.char (by decide) (.char (by decide) (.char (by decide) ?_)))
    refine .char (by decide) (.char (by decide) (.char (by decide) (.char (by decide) ?_)))
    refine .char (by decide) (.char (by decide) (.char (by decide) (.char (by decide) ?_)))
    exact .quantifier (by decide) (by decide) .nil
  refine ⟨hordinary, fun dialect ignoreCase => ?_⟩
  rintro ⟨t, ht⟩
  rw [hordinary.translate_eq] at ht
  obtain ⟨verdict, hverdict, -⟩ := map_eq_ok_iff.mp ht
  have hnone : (rejection? (checkedCopy overflowingPattern.toList)).toOption = none := by decide +kernel
  rw [hverdict] at hnone
  cases hnone

end EdgeRoutes.Pattern
