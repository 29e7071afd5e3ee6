import EdgeRoutes.Proofs.PatternReading

/-! Translating a translation. Pieces are told apart by the characters that follow them in the pattern, but comments and
empty quotations are dropped, and the name of a reference is copied without being read. So in the translated source
other text may follow a piece than in the pattern, and the two may join to something that the translation itself
rejects. Where no pieces join, the source of a usable translation is translated to itself. -/

namespace EdgeRoutes.Pattern

/-- Text that is translated to itself. -/
def Settled (cs : List Char) : Prop :=
  problemsOf (pieces cs) = [] ∧ sourceOf (pieces cs) = cs

instance (cs : List Char) : Decidable (Settled cs) := inferInstanceAs (Decidable (_ ∧ _))

/-- The text of a piece and the text after it would be read as something else: a parenthesis and a question mark as a
group that has no counterpart, a quantifier and a plus as a possessive quantifier. -/
def Joins (text after : List Char) : Prop :=
  match text with
  | ['('] => after.head? = some '?' ∧ after.tail.head? ∉ [some ':', some '=', some '!', some '<']
  | [c] => isQuantifier c = true ∧ after.head? = some '+'
  | _ => False

/-- A piece can stand before `after`, where `rest` says that the pieces after it can stand where they are. The name of a
reference is copied unread; one with special characters is read as a pattern the next time, together with everything
after it. -/
def Fits (text after : List Char) (rest : Prop) : Prop :=
  match text with
  | '\\' :: 'k' :: '<' :: name => if name.any Js.isPatternSpecial then Settled (name ++ after) else rest
  | _ => ¬ Joins text after ∧ rest

/-- No piece joins with the text after it. -/
def Seamless : List Piece → Prop
  | [] => True
  | .text text :: ps => Fits text (sourceOf ps) (Seamless ps)
  | .problem _ :: ps => Seamless ps
  | .note _ :: ps => Seamless ps

theorem settled_nil : Settled [] := by
  rw [Settled, pieces]
  exact ⟨rfl, rfl⟩

/-- A piece that is read from its own text leaves the question to what follows. -/
theorem settled_cons_iff {c : Char} {after : List Char} (text : List Char)
    (h : Reads (c :: (text ++ after)) (c :: text) after) : Settled (c :: (text ++ after)) ↔ Settled after := by
  rw [Settled, h.problemsOf_eq, h.sourceOf_eq, ← List.cons_append, List.append_cancel_left_eq]
  rfl

theorem settled_plain {c : Char} {after : List Char} (hescape : c ≠ '\\') (hclass : c ≠ '[')
    (hgroup : c = '(' → after.head? ≠ some '?') (hquantifier : isQuantifier c = true → after.head? ≠ some '+') :
    Settled (c :: after) ↔ Settled after :=
  settled_cons_iff [] (.plain hescape hclass hgroup hquantifier)

theorem isQuantifier_of_unspecial {c : Char} (hc : Js.isPatternSpecial c = false) : isQuantifier c = false := by
  rw [Bool.eq_false_iff]
  intro hq
  simp only [isQuantifier, Bool.or_eq_true, beq_iff_eq] at hq
  rcases hq with ((rfl | rfl) | rfl) | rfl <;> cases hc

theorem settled_unspecial {c : Char} (hc : Js.isPatternSpecial c = false) (after : List Char) :
    Settled (c :: after) ↔ Settled after := by
  apply settled_plain
  · rintro rfl
    cases hc
  · rintro rfl
    cases hc
  · rintro rfl
    cases hc
  · intro hq
    rw [isQuantifier_of_unspecial hc] at hq
    cases hq

theorem settled_append_unspecial {text : List Char} (h : text.any Js.isPatternSpecial = false) (after : List Char) :
    Settled (text ++ after) ↔ Settled after := by
  induction text with
  | nil => rfl
  | cons c text ih =>
      rw [List.any_cons, Bool.or_eq_false_iff] at h
      rw [List.cons_append, settled_unspecial h.1, ih h.2]

theorem settled_escape {c : Char} (hc : c ∉ changedEscapes) (after : List Char) :
    Settled ('\\' :: c :: after) ↔ Settled after :=
  settled_cons_iff [c] (.escape hc)

theorem settled_escapePattern (literal after : List Char) :
    Settled (Js.escapePattern literal ++ after) ↔ Settled after := by
  induction literal with
  | nil => rfl
  | cons c literal ih =>
      rw [Js.escapePattern, List.flatMap_cons, ← Js.escapePattern, List.append_assoc, Js.escapeChar]
      split_ifs with hc
      · rw [← ih]
        apply settled_escape
        intro hmem
        simp only [changedEscapes, unsupportedEscapes, List.cons_append, List.nil_append, List.mem_cons,
          List.not_mem_nil, or_false] at hmem
        rcases hmem with rfl | rfl | rfl | rfl | rfl | rfl | rfl | rfl | rfl | rfl | rfl | rfl <;> cases hc
      · rw [← ih]
        exact settled_unspecial (Bool.eq_false_iff.mpr hc) _

/-- After an opening `(?<` it does not matter whether a lookbehind or a name follows. -/
theorem settled_open (after : List Char) : Settled ('(' :: '?' :: '<' :: after) ↔ Settled after := by
  by_cases hbehind : after.head? = some '=' ∨ after.head? = some '!'
  · obtain ⟨c, cs, rfl, hc⟩ : ∃ c cs, after = c :: cs ∧ (c = '=' ∨ c = '!') := by
      rcases hbehind with h | h
      · obtain ⟨cs, rfl⟩ := List.head?_eq_some_iff.mp h
        exact ⟨_, cs, rfl, Or.inl rfl⟩
      · obtain ⟨cs, rfl⟩ := List.head?_eq_some_iff.mp h
        exact ⟨_, cs, rfl, Or.inr rfl⟩
    have hcs : Settled (c :: cs) ↔ Settled cs := settled_unspecial (by rcases hc with rfl | rfl <;> rfl) cs
    rw [hcs]
    exact settled_cons_iff ['?', '<', c] (.lookbehind hc)
  · exact settled_cons_iff ['?', '<'] (.named (not_or.mp hbehind))

/-- A comment does not settle, because nothing puts its parenthesis back. -/
theorem not_settled_comment (cs : List Char) : ¬ Settled ('(' :: '?' :: '#' :: cs) := by
  rintro ⟨hproblems, hsource⟩
  obtain ⟨rest, hreads⟩ : ∃ rest, Reads ('(' :: '?' :: '#' :: cs) [] rest := by
    cases hcut : Text.cut? [')'] cs with
    | none => exact ⟨[], .commentToEnd hcut⟩
    | some parts => exact ⟨parts.2, .comment hcut⟩
  rw [hreads.problemsOf_eq] at hproblems
  rw [hreads.sourceOf_eq, List.nil_append] at hsource
  have hcount := count_sourceOf_le hproblems
  have hle := hreads.suffix.sublist.count_le '('
  rw [hsource, List.count_cons_self] at hcount
  omega

/-- Groups that have no counterpart do not settle either. -/
theorem not_settled_group {cs : List Char} (hcs : cs.head? ∉ [some ':', some '=', some '!', some '<']) :
    ¬ Settled ('(' :: '?' :: cs) := by
  intro h
  obtain ⟨text, rest, hreads⟩ := exists_reads (problemsOf_step h.1)
  have hsource := h.2
  rw [hreads.sourceOf_eq] at hsource
  cases hreads with
  | comment | commentToEnd => exact not_settled_comment _ h
  | group hc =>
      rcases hc with rfl | rfl | rfl <;> simp at hcs
  | lookbehind | named => simp at hcs
  | respelled | reference => cases hsource
  | plain hescape hclass hgroup => exact hgroup rfl rfl

theorem not_settled_possessive {c : Char} {cs : List Char} (hc : isQuantifier c = true) :
    ¬ Settled (c :: '+' :: cs) := by
  intro h
  obtain ⟨text, rest, hreads⟩ := exists_reads (problemsOf_step h.1)
  cases hreads with
  | plain _ _ _ hquantifier => exact hquantifier hc rfl
  | _ => cases hc

/-- The groups that are copied settle as their characters do. -/
theorem settled_group {cs : List Char} (hcs : cs.head? ∈ [some ':', some '=', some '!', some '<']) :
    Settled ('(' :: '?' :: cs) ↔ Settled ('?' :: cs) := by
  obtain ⟨c, cs, rfl⟩ : ∃ c ds, cs = c :: ds := by
    cases cs with
    | nil => simp at hcs
    | cons c ds => exact ⟨c, ds, rfl⟩
  simp only [List.head?_cons, List.mem_cons, Option.some.injEq, List.not_mem_nil, or_false] at hcs
  have hmark : Settled ('?' :: c :: cs) ↔ Settled cs := by
    rw [settled_plain (by decide) (by decide) (by simp), settled_unspecial]
    · rcases hcs with rfl | rfl | rfl | rfl <;> rfl
    · rcases hcs with rfl | rfl | rfl | rfl <;> simp
  rw [hmark]
  rcases hcs with rfl | rfl | rfl | rfl
  · exact settled_cons_iff ['?', ':'] (.group (by decide))
  · exact settled_cons_iff ['?', '='] (.group (by decide))
  · exact settled_cons_iff ['?', '!'] (.group (by decide))
  · exact settled_open cs

theorem joins_of_ne {c : Char} (hc : c ≠ '(') (after : List Char) :
    Joins [c] after ↔ isQuantifier c = true ∧ after.head? = some '+' := by
  unfold Joins
  split
  · next h => exact False.elim (hc (List.cons.inj h).1)
  · next h => rw [(List.cons.inj h).1]
  · next h => exact False.elim (h c rfl)

theorem settled_paren_iff (after : List Char) : Settled ('(' :: after) ↔ ¬ Joins ['('] after ∧ Settled after := by
  by_cases hmark : after.head? = some '?'
  · obtain ⟨cs, rfl⟩ := List.head?_eq_some_iff.mp hmark
    by_cases hcs : cs.head? ∈ [some ':', some '=', some '!', some '<']
    · rw [settled_group hcs]
      exact ⟨fun h => ⟨fun hjoins => hjoins.2 hcs, h⟩, And.right⟩
    · exact ⟨fun h => False.elim (not_settled_group hcs h), fun h => False.elim (h.1 ⟨rfl, hcs⟩)⟩
  · rw [settled_plain (by decide) (by decide) (fun _ => hmark) (by simp [isQuantifier])]
    exact ⟨fun h => ⟨fun hjoins => hmark hjoins.1, h⟩, And.right⟩

/-- What a character that stands for itself needs from the text after it. -/
theorem settled_plain_iff {c : Char} (hescape : c ≠ '\\') (hclass : c ≠ '[') (after : List Char) :
    Settled (c :: after) ↔ ¬ Joins [c] after ∧ Settled after := by
  by_cases hparen : c = '('
  · rw [hparen, settled_paren_iff]
  · rw [joins_of_ne hparen]
    by_cases hjoin : isQuantifier c = true ∧ after.head? = some '+'
    · obtain ⟨cs, rfl⟩ := List.head?_eq_some_iff.mp hjoin.2
      exact ⟨fun h => False.elim (not_settled_possessive hjoin.1 h), fun h => False.elim (h.1 hjoin)⟩
    · rw [settled_plain hescape hclass (fun h => False.elim (hparen h)) (fun hq hplus => hjoin ⟨hq, hplus⟩)]
      exact ⟨fun h => ⟨hjoin, h⟩, And.right⟩

theorem fits_of_not_joins {text after : List Char} {rest : Prop} (hname : ¬ ['\\', 'k', '<'] <+: text)
    (hjoins : ¬ Joins text after) : Fits text after rest ↔ rest := by
  unfold Fits
  split
  · next name => exact False.elim (hname ⟨name, rfl⟩)
  · exact ⟨And.right, fun h => ⟨hjoins, h⟩⟩

theorem fits_singleton (c : Char) (after : List Char) (rest : Prop) :
    Fits [c] after rest ↔ ¬ Joins [c] after ∧ rest := by
  unfold Fits
  split
  · next h => cases h
  · rfl

/-- Texts of more than one character join with nothing. -/
theorem fits_of_length {c d : Char} {text after : List Char} {rest : Prop}
    (hname : ¬ ['\\', 'k', '<'] <+: c :: d :: text) : Fits (c :: d :: text) after rest ↔ rest :=
  fits_of_not_joins hname (by simp [Joins])

/-- Texts that start with another character join with nothing. -/
theorem fits_of_head {c : Char} {text after : List Char} {rest : Prop} (hparen : c ≠ '(')
    (hquantifier : isQuantifier c = false) (hname : ¬ ['\\', 'k', '<'] <+: c :: text) :
    Fits (c :: text) after rest ↔ rest := by
  cases text with
  | nil => exact fits_of_not_joins hname (by simp [joins_of_ne hparen, hquantifier])
  | cons d text => exact fits_of_length hname

/-- Escaped text can stand before any text. -/
theorem fits_escapePattern (literal after : List Char) (rest : Prop) :
    Fits (Js.escapePattern literal) after rest ↔ rest := by
  cases literal with
  | nil => exact fits_of_not_joins (by decide) (by simp [Joins, Js.escapePattern])
  | cons c literal =>
      rw [Js.escapePattern, List.flatMap_cons, Js.escapeChar]
      split_ifs with hc
      · apply fits_of_length
        rintro ⟨name, hname⟩
        obtain rfl : 'k' = c := (List.cons.inj (List.cons.inj hname).2).1
        cases hc
      · apply fits_of_head
        · rintro rfl
          exact hc rfl
        · exact isQuantifier_of_unspecial (Bool.eq_false_iff.mpr hc)
        · rintro ⟨name, hname⟩
          obtain rfl : '\\' = c := (List.cons.inj hname).1
          exact hc rfl

/-- The text of a piece settles, before any other text, exactly if the piece fits there. -/
theorem Reads.settled_append_iff {c : Char} {cs text rest : List Char} (h : Reads (c :: cs) text rest)
    (after : List Char) : Settled (text ++ after) ↔ Fits text after (Settled after) := by
  cases h with
  | escape hc =>
      rw [fits_of_length (by simp)]
      exact settled_escape hc after
  | start | stop =>
      rw [fits_of_head (by decide) (by decide) (by decide)]
      exact settled_plain (by decide) (by decide) (by simp) (by simp [isQuantifier])
  | blank =>
      rw [fits_of_length (by simp)]
      have hclass : bracketClass (' ' :: '\\' :: 't' :: ']' :: after) = ⟨['[', ' ', '\\', 't', ']'], [], some after⟩ :=
        bracketClass_copied (show isCopied [' ', '\\', 't'] = true by decide) (by decide) (by decide) after
      exact settled_cons_iff [' ', '\\', 't', ']'] (.bracket hclass)
  | quoted | quotedToEnd =>
      rw [fits_escapePattern]
      exact settled_escapePattern _ after
  | bracket hclass =>
      obtain ⟨-, -, body, rfl, hagain⟩ := bracketClass_eq hclass
      rw [fits_of_head (by decide) (by decide) (by simp)]
      exact settled_cons_iff body (.bracket (hagain after))
  | comment | commentToEnd => exact (fits_of_not_joins (by decide) id).symm
  | group hc =>
      rw [fits_of_length (by simp)]
      exact settled_cons_iff ['?', _] (.group hc)
  | lookbehind hc =>
      rw [fits_of_length (by simp)]
      exact settled_cons_iff ['?', '<', _] (.lookbehind hc)
  | named | respelled =>
      rw [fits_of_length (by simp)]
      exact settled_open after
  | @reference _ name _ _ =>
      have hname : Settled ('\\' :: 'k' :: '<' :: ((name ++ ['>']) ++ after)) ↔ Settled ((name ++ ['>']) ++ after) := by
        rw [settled_escape (by decide), settled_unspecial (by decide)]
      refine hname.trans ?_
      rw [Fits]
      split_ifs with hspecial
      · rfl
      · exact settled_append_unspecial (Bool.eq_false_iff.mpr hspecial) after
  | plain hescape hclass =>
      rw [fits_singleton]
      exact settled_plain_iff hescape hclass after

theorem Contributes.seamless_append_iff {first ps : List Piece} {text : List Char} (h : Contributes first text) :
    Seamless (first ++ ps) ↔ Fits text (sourceOf ps) (Seamless ps) := by
  cases h with
  | nothing => exact (fits_of_not_joins (by decide) id).symm
  | text | noted => rfl

/-- The source of a pattern without problems is translated to itself exactly if its pieces do not join. -/
theorem settled_source_iff {cs : List Char} (h : problemsOf (pieces cs) = []) :
    Settled (sourceOf (pieces cs)) ↔ Seamless (pieces cs) := by
  refine reads_induction (motive := fun cs => Settled (sourceOf (pieces cs)) ↔ Seamless (pieces cs)) ?_ ?_ h
  · rw [pieces]
    exact ⟨fun _ => trivial, fun _ => settled_nil⟩
  · intro c cs text rest hreads _ ih
    obtain ⟨first, hfirst, hpieces⟩ := hreads.pieces_eq
    rw [hreads.sourceOf_eq, hreads.settled_append_iff, hpieces, hfirst.seamless_append_iff, ih]

theorem foundProblems_eq_nil_iff {ps : List Piece} :
    foundProblems ps = .ok [] ↔ problemsOf ps = [] ∧ compileProblems (sourceOf ps) = .ok [] := by
  unfold foundProblems
  cases hproblems : problemsOf ps with
  | nil => simp
  | cons p problems => simp

/-- When a pattern has a usable translation, and which. -/
theorem translate_supported_iff {pattern : String} {dialect : Dialect} {ignoreCase : Bool} {source flags : String} :
    (∃ t, translate pattern dialect ignoreCase = .ok t ∧ t.supported = true ∧ t.source = source ∧ t.flags = flags) ↔
      problemsOf (pieces (leadingIgnoreCase pattern.toList).2) = [] ∧
        compileProblems (sourceOf (pieces (leadingIgnoreCase pattern.toList).2)) = .ok [] ∧
        String.ofList (sourceOf (pieces (leadingIgnoreCase pattern.toList).2)) = source ∧
        (if ignoreCase || (leadingIgnoreCase pattern.toList).1 then "i" else "") = flags := by
  rw [translate_eq]
  constructor
  · rintro ⟨t, ht, hsupported, rfl, rfl⟩
    obtain ⟨problems, hfound, rfl⟩ := map_eq_ok_iff.mp ht
    obtain rfl : problems = [] := List.isEmpty_iff.mp hsupported
    obtain ⟨hproblems, hcompile⟩ := foundProblems_eq_nil_iff.mp hfound
    exact ⟨hproblems, hcompile, rfl, rfl⟩
  · rintro ⟨hproblems, hcompile, rfl, rfl⟩
    exact ⟨_, map_eq_ok_iff.mpr ⟨[], foundProblems_eq_nil_iff.mpr ⟨hproblems, hcompile⟩, rfl⟩, rfl, rfl, rfl⟩

theorem leadingIgnoreCase_cases (cs : List Char) :
    leadingIgnoreCase cs = (false, cs) ∨ ∃ rest, cs = '(' :: '?' :: 'i' :: ')' :: rest ∧
      leadingIgnoreCase cs = (true, rest) := by
  unfold leadingIgnoreCase
  split
  · next rest => exact Or.inr ⟨rest, rfl, rfl⟩
  · exact Or.inl rfl

/-- A source that the grammar check accepts is a usable translation of itself exactly if it settles. -/
theorem translate_self_iff {source : List Char} (hcompile : compileProblems source = .ok []) (dialect : Dialect)
    (ignoreCase : Bool) :
    (∃ r, translate (String.ofList source) dialect ignoreCase = .ok r ∧ r.supported = true ∧
        r.source = String.ofList source ∧ r.flags = if ignoreCase then "i" else "") ↔ Settled source := by
  rw [translate_supported_iff, String.toList_ofList]
  rcases leadingIgnoreCase_cases source with hlead | ⟨rest, rfl, hlead⟩
  · rw [hlead, String.ofList_inj, Bool.or_false]
    constructor
    · rintro ⟨hproblems, -, hsource, -⟩
      exact ⟨hproblems, hsource⟩
    · rintro ⟨hproblems, hsource⟩
      exact ⟨hproblems, by rw [hsource, hcompile], hsource, rfl⟩
  · rw [hlead, String.ofList_inj]
    dsimp only
    constructor
    · rintro ⟨hproblems, -, hsource, -⟩
      have hcount := count_sourceOf_le hproblems
      rw [hsource, List.count_cons_self, List.count_cons_of_ne (by decide), List.count_cons_of_ne (by decide),
        List.count_cons_of_ne (by decide)] at hcount
      omega
    · intro hsettled
      exact False.elim (not_settled_group (by simp) hsettled)

/-- The pattern has no comment, no empty quotation and no reference by name. -/
structure Undropped (cs : List Char) : Prop where
  comment : ¬ ['(', '?', '#'] <:+: cs
  quotation : ¬ ['\\', 'Q', '\\', 'E'] <:+: cs
  reference : ¬ ['(', '?', 'P', '='] <:+: cs

theorem Undropped.of_suffix {cs rest : List Char} (h : Undropped cs) (hrest : rest <:+ cs) : Undropped rest where
  comment hpart := h.comment (hpart.trans hrest.isInfix)
  quotation hpart := h.quotation (hpart.trans hrest.isInfix)
  reference hpart := h.reference (hpart.trans hrest.isInfix)

theorem escapePattern_cons_eq (c : Char) (literal : List Char) :
    ∃ d more, Js.escapePattern (c :: literal) = d :: more ∧ d ≠ '?' ∧ d ≠ '+' := by
  rw [Js.escapePattern, List.flatMap_cons, Js.escapeChar]
  split_ifs with hc
  · exact ⟨_, _, rfl, by decide, by decide⟩
  · refine ⟨_, _, rfl, ?_, ?_⟩
    · rintro rfl
      exact hc rfl
    · rintro rfl
      exact hc rfl

/-- Where nothing is dropped, the text of a piece starts with a question mark or a plus only if the piece does, and only
an empty quotation at the end of the pattern has no text. -/
theorem Reads.text_eq {c : Char} {cs text rest : List Char} (h : Reads (c :: cs) text rest)
    (hundropped : Undropped (c :: cs)) :
    text = [] ∧ rest = [] ∨ ∃ d more, text = d :: more ∧ (d = '?' ∨ d = '+' → d = c) := by
  cases h with
  | escape => exact Or.inr ⟨_, _, rfl, by simp⟩
  | start | stop | blank | group | lookbehind | named | respelled => exact Or.inr ⟨_, _, rfl, by decide⟩
  | @quoted cs literal rest hcut =>
      cases literal with
      | nil =>
          rw [Text.cut?_eq_some hcut] at hundropped
          exact False.elim (hundropped.quotation ⟨[], rest, rfl⟩)
      | cons d literal =>
          obtain ⟨d, more, htext, hmark, hplus⟩ := escapePattern_cons_eq d literal
          exact Or.inr ⟨d, more, htext, fun hd => False.elim (hd.elim hmark hplus)⟩
  | @quotedToEnd cs =>
      cases cs with
      | nil => exact Or.inl ⟨rfl, rfl⟩
      | cons d cs =>
          obtain ⟨d, more, htext, hmark, hplus⟩ := escapePattern_cons_eq d cs
          exact Or.inr ⟨d, more, htext, fun hd => False.elim (hd.elim hmark hplus)⟩
  | bracket hclass =>
      obtain ⟨-, -, body, rfl, -⟩ := bracketClass_eq hclass
      exact Or.inr ⟨_, _, rfl, by decide⟩
  | @comment cs | @commentToEnd cs => exact False.elim (hundropped.comment ⟨[], cs, rfl⟩)
  | @reference cs => exact False.elim (hundropped.reference ⟨[], cs, rfl⟩)
  | plain => exact Or.inr ⟨_, _, rfl, fun _ => rfl⟩

theorem head?_of_sourceOf {cs : List Char} (hproblems : problemsOf (pieces cs) = []) (hundropped : Undropped cs)
    {d : Char} (hd : d = '?' ∨ d = '+') (h : (sourceOf (pieces cs)).head? = some d) : cs.head? = some d := by
  cases cs with
  | nil =>
      rw [pieces] at h
      cases h
  | cons c cs =>
      obtain ⟨text, rest, hreads⟩ := exists_reads (problemsOf_step hproblems)
      rw [hreads.sourceOf_eq] at h
      rcases hreads.text_eq hundropped with ⟨rfl, rfl⟩ | ⟨d', more, rfl, hsame⟩
      · rw [pieces] at h
        cases h
      · obtain rfl : d' = d := Option.some.inj h
        rw [List.head?_cons, hsame hd]

theorem not_joins_of_undropped {c : Char} {cs : List Char} (hproblems : problemsOf (pieces cs) = [])
    (hundropped : Undropped cs) (hgroup : c = '(' → cs.head? ≠ some '?')
    (hquantifier : isQuantifier c = true → cs.head? ≠ some '+') : ¬ Joins [c] (sourceOf (pieces cs)) := by
  by_cases hparen : c = '('
  · subst hparen
    rintro ⟨hmark, -⟩
    exact hgroup rfl (head?_of_sourceOf hproblems hundropped (Or.inl rfl) hmark)
  · rw [joins_of_ne hparen]
    rintro ⟨hq, hplus⟩
    exact hquantifier hq (head?_of_sourceOf hproblems hundropped (Or.inr rfl) hplus)

/-- Pieces join only where something is dropped between them, or in a name. -/
theorem Reads.fits {c : Char} {cs text rest : List Char} (h : Reads (c :: cs) text rest)
    (hproblems : problemsOf (pieces rest) = []) (hundropped : Undropped (c :: cs)) {later : Prop} (hlater : later) :
    Fits text (sourceOf (pieces rest)) later := by
  have hrest := hundropped.of_suffix (h.suffix.trans (List.suffix_cons _ _))
  cases h with
  | escape | blank | group | lookbehind | named | respelled => exact (fits_of_length (by simp)).mpr hlater
  | start | stop => exact (fits_of_head (by decide) (by decide) (by decide)).mpr hlater
  | quoted | quotedToEnd => exact (fits_escapePattern _ _ _).mpr hlater
  | bracket hclass =>
      obtain ⟨-, -, body, rfl, -⟩ := bracketClass_eq hclass
      exact (fits_of_head (by decide) (by decide) (by simp)).mpr hlater
  | @comment cs | @commentToEnd cs => exact False.elim (hundropped.comment ⟨[], cs, rfl⟩)
  | @reference cs => exact False.elim (hundropped.reference ⟨[], cs, rfl⟩)
  | plain hescape hclass hgroup hquantifier =>
      rw [fits_singleton]
      exact ⟨not_joins_of_undropped hproblems hrest hgroup hquantifier, hlater⟩

theorem seamless_of_undropped {cs : List Char} (hproblems : problemsOf (pieces cs) = [])
    (hundropped : Undropped cs) : Seamless (pieces cs) := by
  refine reads_induction (motive := fun cs => Undropped cs → Seamless (pieces cs)) ?_ ?_ hproblems hundropped
  · intro _
    rw [pieces]
    trivial
  · intro c cs text rest hreads hrest ih hundropped
    obtain ⟨first, hfirst, hpieces⟩ := hreads.pieces_eq
    rw [hpieces, hfirst.seamless_append_iff]
    exact hreads.fits hrest hundropped (ih (hundropped.of_suffix (hreads.suffix.trans (List.suffix_cons _ _))))

/-- The source of a usable translation is translated to itself, with the same flags, exactly if the pieces of the pattern
do not join. They never do in a pattern without comments, empty quotations and references by name. -/
theorem translation_fixed_iff {pattern : String} {dialect : Dialect} {ignoreCase : Bool} {t : Translation}
    (h : translate pattern dialect ignoreCase = .ok t) (hsupported : t.supported = true) :
    ((∃ r, translate t.source dialect (t.flags == "i") = .ok r ∧ r.supported = true ∧
        r.source = t.source ∧ r.flags = t.flags) ↔ Seamless (pieces (leadingIgnoreCase pattern.toList).2)) ∧
      (Undropped (leadingIgnoreCase pattern.toList).2 → Seamless (pieces (leadingIgnoreCase pattern.toList).2)) := by
  obtain ⟨hproblems, hcompile, hsource, -⟩ := translate_supported_iff.mp ⟨t, h, hsupported, rfl, rfl⟩
  have hflags : t.flags = if t.flags == "i" then "i" else "" := by
    cases hcase : t.ignoreCase <;> simp [Translation.flags, hcase]
  refine ⟨?_, seamless_of_undropped hproblems⟩
  rw [← settled_source_iff hproblems, ← translate_self_iff hcompile dialect (t.flags == "i"), hsource, ← hflags]

/-- A pattern with ignored case, a named group and a named class. -/
theorem translation_fixed_grouped :
    ∃ t, translate "(?i)^/(?P<n>[[:alpha:]]+)$" .minimal false = .ok t ∧ t.supported = true ∧
      ∃ r, translate t.source .minimal (t.flags == "i") = .ok r ∧ r.supported = true ∧
        r.source = t.source ∧ r.flags = t.flags := by
  obtain ⟨t, h, hsupported, -⟩ := translate_supported_iff.mpr
    ⟨show problemsOf (pieces (leadingIgnoreCase "(?i)^/(?P<n>[[:alpha:]]+)$".toList).2) = [] by decide +kernel,
      toOption_eq_some_iff.mp (by decide +kernel), rfl, rfl⟩
  have hundropped : Undropped (leadingIgnoreCase "(?i)^/(?P<n>[[:alpha:]]+)$".toList).2 :=
    ⟨by decide +kernel, by decide +kernel, by decide +kernel⟩
  obtain ⟨hfixed, hseamless⟩ := translation_fixed_iff h hsupported
  exact ⟨t, h, hsupported, hfixed.mpr (hseamless hundropped)⟩

/-- A comment between two plus signs is dropped, and the usable source that is left has a possessive quantifier. -/
theorem translation_not_fixed :
    ∃ t, translate "a+(?#x)+" .ecmascript false = .ok t ∧ t.supported = true ∧ t.source = "a++" ∧
      ¬ ∃ r, translate t.source .ecmascript (t.flags == "i") = .ok r ∧ r.supported = true ∧
        r.source = t.source ∧ r.flags = t.flags := by
  obtain ⟨t, h, hsupported, hsource, -⟩ := translate_supported_iff.mpr
    ⟨show problemsOf (pieces (leadingIgnoreCase "a+(?#x)+".toList).2) = [] by decide +kernel,
      toOption_eq_some_iff.mp (by decide +kernel), rfl, rfl⟩
  have ht : t.source = "a++" := hsource.trans (by decide +kernel)
  refine ⟨t, h, hsupported, ht, ?_⟩
  rw [ht, translate_supported_iff]
  rintro ⟨hproblems, -⟩
  revert hproblems
  decide +kernel

end EdgeRoutes.Pattern
