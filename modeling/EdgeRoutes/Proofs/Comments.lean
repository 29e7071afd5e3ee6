import EdgeRoutes.Proofs.SourceLines

/-! Comments in the source. The comment at the head of a file lists all warnings and yet ends on its last line, and a
comment before a line of code ends with its own line, whatever texts of the configuration they quote. -/

namespace EdgeRoutes

open Js Js.Code Template

section Header

/-- The comment at the head of the file, without its last line. -/
def Generator.headerLines (g : Generator) (v : Validation) : List String :=
  ["/**", " * Generated by edgeconf " ++ version ++ " for target: " ++ g.target.name,
      " * Server blocks: " ++ toString g.config.servers.length] ++
    (if g.options.comments && !v.warnings.isEmpty then
      [" *", " * Conversion warnings:"] ++ v.warnings.map (" *   - " ++ commentText ·)
    else []) ++
    [" *", " * Regenerate from the nginx configuration instead of editing by hand."]

/-- The warnings of the head are lines of their own, made fit for a comment. -/
theorem fill_warnings {context : Context} {warnings : List String}
    (h : context.get? "warnings" = some (.texts warnings)) :
    (Piece.forEach "warning" "warnings" [.text " *   - ", .comment "warning", .newline]).fill context =
      .ok (wholeLines (warnings.map (" *   - " ++ commentText ·))) := by
  have hmembers : members context "warnings" = .ok (warnings.map Data.text) := by
    unfold members
    rw [h]
    rfl
  have hitems : (warnings.map Data.text).mapM (fun value => Piece.fillAll (Fields.put context "warning" value)
      [.text " *   - ", .comment "warning", .newline]) =
        .ok (warnings.map fun warning => " *   - " ++ commentText warning ++ "\n") := by
    rw [mapM_eq_ok_iff, List.forall₂_map_left_iff, List.forall₂_map_right_iff]
    refine List.forall₂_same.mpr fun warning _ => ?_
    have hvalue : valueText (Fields.put context "warning" (.text warning)) "warning" = warning := by
      rw [valueText, Fields.get?_put, if_pos rfl]
      rfl
    simp only [Piece.fillAll, Piece.fill, hvalue, bind, Except.bind, pure, Except.pure, String.append_empty,
      String.append_assoc]
  rw [Piece.fill, hmembers]
  simp only [bind, Except.bind, hitems, wholeLines, List.map_map]
  rfl

/-- The head of a file is its lines and the line that closes the comment. -/
theorem fillAll_header {g : Generator} {sections : Context} (h : g.sections.result = .ok sections) (v : Validation) :
    Piece.fillAll (Fields.update (g.preamble v) sections) header =
      .ok (wholeLines (g.headerLines v ++ [" */"])) := by
  obtain ⟨hhead, -⟩ := get?_of_sections h v
  generalize Fields.update (g.preamble v) sections = context at hhead
  have hversion : valueText context "version" = version := by
    rw [valueText, hhead "version" (by simp [Generator.preamble, Fields.keys])]
    rfl
  have htarget : valueText context "target" = g.target.name := by
    rw [valueText, hhead "target" (by simp [Generator.preamble, Fields.keys])]
    rfl
  have hcount : valueText context "server_count" = toString g.config.servers.length := by
    rw [valueText, hhead "server_count" (by simp [Generator.preamble, Fields.keys])]
    rfl
  have hwarnings : context.get? "warnings" = some (.texts (if g.options.comments then v.warnings else [])) :=
    hhead "warnings" (by simp [Generator.preamble, Fields.keys])
  have hset : isSet context "warnings" = (g.options.comments && !v.warnings.isEmpty) := by
    rw [isSet, hwarnings]
    cases g.options.comments with
    | false => rfl
    | true => simp [Data.texts, Data.truthy]
  have hlist : (Piece.whenSet "warnings" [.lines [" *", " * Conversion warnings:"],
      .forEach "warning" "warnings" [.text " *   - ", .comment "warning", .newline]] []).fill context =
        .ok (wholeLines (if g.options.comments && !v.warnings.isEmpty then
          [" *", " * Conversion warnings:"] ++ v.warnings.map (" *   - " ++ commentText ·) else [])) := by
    rw [Piece.fill, hset]
    by_cases hlisted : (g.options.comments && !v.warnings.isEmpty) = true
    · rw [if_pos (Bool.and_eq_true_iff.mp hlisted).1] at hwarnings
      rw [if_pos hlisted, if_pos hlisted, wholeLines_append]
      exact fillAll_cons (by rw [Piece.fill]) (fillAll_singleton (fill_warnings hwarnings))
    · rw [if_neg hlisted, if_neg hlisted]
      rfl
  have hfilled : Piece.fillAll context _ = .ok _ := fillAll_cons (p := .lines ["/**"]) (by rw [Piece.fill]) <|
    fillAll_cons (p := .text " * Generated by edgeconf ") (by rw [Piece.fill]) <|
    fillAll_cons (p := .value "version") (by rw [Piece.fill, hversion]) <|
    fillAll_cons (p := .text " for target: ") (by rw [Piece.fill]) <|
    fillAll_cons (p := .value "target") (by rw [Piece.fill, htarget]) <|
    fillAll_cons (p := .newline) (by rw [Piece.fill]) <|
    fillAll_cons (p := .text " * Server blocks: ") (by rw [Piece.fill]) <|
    fillAll_cons (p := .value "server_count") (by rw [Piece.fill, hcount]) <|
    fillAll_cons (p := .newline) (by rw [Piece.fill]) <|
    fillAll_cons hlist <| fillAll_singleton (p := .lines
      [" *", " * Regenerate from the nginx configuration instead of editing by hand.", " */"]) (by rw [Piece.fill])
  refine hfilled.trans (congrArg Except.ok ?_)
  unfold Generator.headerLines
  simp only [wholeLines_append, wholeLines_cons, wholeLines_nil, String.append_assoc, String.append_empty]

theorem closesComment_of_not_mem {cs : List Char} (h : '*' ∉ cs) : closesComment cs = false := by
  rw [Bool.eq_false_iff, Ne, closesComment_iff]
  exact fun hmark => h (hmark.subset (by decide))

/-- A line that can stand inside the head: it is one line, indenting leaves it as it is, and the comment goes on. -/
structure IsHeadLine (line : String) : Prop where
  oneLine : OneLine line
  shallow : indentation line.toList < 2
  continues : closesComment line.toList = false

theorem isHeadLine_literal {cs : List Char} (hline : cs.all (!endsLine ·) = true)
    (hshallow : decide (indentation cs < 2) = true) (hcontinues : closesComment cs = false) :
    IsHeadLine (String.ofList cs) where
  oneLine := oneLine_literal hline
  shallow := by simpa [String.toList_ofList] using hshallow
  continues := by rw [String.toList_ofList, hcontinues]

theorem isHeadLine_append {cs : List Char} {s : String} (hline : cs.all (!endsLine ·) = true)
    (hlast : ((' ' :: '*' :: cs).getLast? != some '*') = true)
    (hcontinues : closesComment (' ' :: '*' :: cs) = false) (hs : OneLine s) (hsafe : closesComment s.toList = false) :
    IsHeadLine (String.ofList (' ' :: '*' :: cs) ++ s) where
  oneLine := oneLine_append.mpr ⟨oneLine_literal hline, hs⟩
  shallow := by
    rw [String.toList_append, String.toList_ofList]
    simp [indentation]
  continues := by
    rw [String.toList_append, String.toList_ofList, closesComment_append (Or.inl (by simpa using hlast)), hcontinues,
      hsafe, Bool.or_self]

/-- No line of the head ends the comment early. -/
theorem isHeadLine_of_mem {g : Generator} {v : Validation} : ∀ line ∈ g.headerLines v, IsHeadLine line := by
  have htarget : ∀ t : Target, OneLine (version ++ (" for target: " ++ t.name)) ∧
      '*' ∉ (version ++ (" for target: " ++ t.name)).toList := by
    intro t
    cases t <;> decide
  have hcount : '*' ∉ (toString g.config.servers.length).toList := by
    intro hmem
    rw [Nat.toString_eq_repr, Nat.toList_repr] at hmem
    exact absurd (Nat.isDigit_of_mem_toDigits (by decide) (by decide) hmem) (by decide)
  have hwarning : ∀ warning, IsHeadLine (" *   - " ++ commentText warning) := fun warning =>
    isHeadLine_append rfl rfl rfl (oneLine_commentText warning) (closesComment_commentText warning)
  unfold Generator.headerLines
  simp only [List.forall_mem_append, List.forall_mem_cons, String.append_assoc]
  refine ⟨⟨⟨isHeadLine_literal rfl rfl rfl, ?_, ?_, nofun⟩, ?_⟩, isHeadLine_literal rfl rfl rfl,
    isHeadLine_literal rfl rfl rfl, nofun⟩
  · exact isHeadLine_append rfl rfl rfl (htarget g.target).1 (closesComment_of_not_mem (htarget g.target).2)
  · exact isHeadLine_append rfl rfl rfl (oneLine_toString _) (closesComment_of_not_mem hcount)
  · split_ifs
    · rw [List.forall_mem_append, List.forall_mem_cons, List.forall_mem_singleton, List.forall_mem_map]
      exact ⟨⟨isHeadLine_literal rfl rfl rfl, isHeadLine_literal rfl rfl rfl⟩, fun warning _ => hwarning warning⟩
    · nofun

theorem closesComment_wholeLines {ls : List String} (h : ∀ line ∈ ls, closesComment line.toList = false)
    (rest : List Char) : closesComment ((wholeLines ls).toList ++ rest) = closesComment rest := by
  rw [toList_wholeLines]
  induction ls with
  | nil => rfl
  | cons line ls ih =>
      obtain ⟨hline, hls⟩ := List.forall_mem_cons.mp h
      rw [List.map_cons, List.flatten_cons, List.append_assoc, List.append_assoc, List.singleton_append,
        closesComment_append_cons (by decide), hline, Bool.false_or, ← ih hls]
      simp [closesComment]

/-- An end mark that nothing before it completes is the first. -/
theorem prefix_of_mark {pre rest before after : List Char} (h : closesComment (pre ++ ['*']) = false)
    (heq : pre ++ ('*' :: '/' :: rest) = before ++ ("*/".toList ++ after)) : pre <+: before := by
  have hbefore : before <+: pre ++ ('*' :: '/' :: rest) := ⟨_, heq.symm⟩
  rcases List.prefix_or_prefix_of_prefix (List.prefix_append pre _) hbefore with hpre | ⟨mid, rfl⟩
  · exact hpre
  · rw [List.append_assoc, List.append_cancel_left_eq] at heq
    rcases mid with _ | ⟨c, _ | ⟨d, mid⟩⟩
    · rw [List.append_nil]
    · simp at heq
    · -- the mark would lie before the last star
      have hmark : "*/".toList <:+: before ++ c :: d :: mid ++ ['*'] := by
        simp only [List.cons_append, String.reduceToList, List.nil_append, List.cons.injEq] at heq
        obtain ⟨rfl, rfl, -⟩ := heq
        exact ⟨before, mid ++ ['*'], by simp⟩
      rw [closesComment_iff.mpr hmark] at h
      cases h

/-- Every generated source begins with the head, which closes its own comment. -/
theorem Generator.head_of_generate {g : Generator} {source : String} (h : g.generate.result = .ok source) :
    ∃ v rest, g.findings = .ok v ∧ source = wholeLines (g.headerLines v ++ [" */"]) ++ rest := by
  obtain ⟨v, sections, text, hv, hsections, htext, hsource⟩ := g.parts_of_generate h
  obtain ⟨pieces, hpieces⟩ := template_head g.target
  rw [hpieces] at htext
  obtain ⟨head, body, hhead, -, rfl⟩ := fillAll_append_eq_ok htext
  rw [fillAll_header hsections v] at hhead
  cases hhead
  have hlines : ∀ line ∈ g.headerLines v ++ [" */"], OneLine line ∧ indentation line.toList < 2 := by
    rw [List.forall_mem_append, List.forall_mem_singleton]
    exact ⟨fun line hline => ⟨(isHeadLine_of_mem line hline).oneLine, (isHeadLine_of_mem line hline).shallow⟩,
      oneLine_literal rfl, by decide⟩
  have hsame : (List.map String.toList (g.headerLines v ++ [" */"])).map (reindentLine g.options.indent 2) =
      List.map String.toList (g.headerLines v ++ [" */"]) := by
    rw [List.map_map]
    exact List.map_congr_left fun line hline => reindentLine_of_shallow (hlines line hline).2 _
  have hbreaks : ∀ line ∈ g.headerLines v ++ [" */"], '\n' ∉ line.toList := by
    intro line hline hmem
    cases (hlines line hline).1 '\n' hmem
  have hindented : Text.lines source.toList = _ := lines_of_reindent (by decide : 0 < 2) hsource
  refine ⟨v, String.ofList (['\n'].intercalate ((Text.lines body.toList).map (reindentLine g.options.indent 2))),
    hv, ?_⟩
  refine String.toList_injective ?_
  rw [String.toList_append, String.toList_ofList, ← intercalate_lines (by simp [Text.lines]), ← hsame,
    ← List.map_append, ← lines_wholeLines_append hbreaks, ← String.toList_append]
  exact (List.intercalate_splitOn '\n').symm.trans (congrArg _ hindented)

end Header

/-- A comment in the code is a line of the source. -/
theorem Generator.Writes.mem_lines {g : Generator} {key : String} {code : Code} (h : g.Writes key code)
    {source : String} (hsource : g.generate.result = .ok source) {line : CodeLine} (hline : line ∈ code)
    (hcomment : Text.startsWith line.text "// " = true) :
    (spaces ((1 + line.depth) * g.options.indentSize.toNat) ++ line.text).toList ∈ Text.lines source.toList := by
  obtain ⟨rest, hrest⟩ := Text.startsWith_iff.mp hcomment
  have hfilled : line.text ≠ "" := by
    intro hempty
    rw [hempty] at hrest
    cases hrest
  have hbreaks : '\n' ∉ line.text.toList := by
    intro hbreak
    cases h.commentIntact line hline hcomment '\n' hbreak
  have hhead : line.text.toList.head? ≠ some ' ' := by
    rw [← hrest]
    exact (by decide : some '/' ≠ some ' ')
  obtain ⟨before, after, hcode⟩ := List.append_of_mem hline
  have hpart : [line] <:+: code := ⟨before, after, by rw [hcode, List.append_assoc, List.singleton_append]⟩
  have hstands := h.infix_lines hsource hpart (List.mem_singleton_self line) hfilled
  rw [List.flatMap_singleton, CodeLine.printed_of_oneLine hbreaks hfilled hhead] at hstands
  exact hstands.subset (List.mem_singleton_self _)

/-- Comments end where they should. The head of the source is a comment whose lines are single lines, and the first end
mark of all is that on its last line; a comment in the code is a single line too, and so it stands in the source. -/
structure CommentsClosed (g : Generator) (source : String) : Prop where
  head : ∃ v rest, g.findings = .ok v ∧ source = wholeLines (g.headerLines v ++ [" */"]) ++ rest ∧
    (∀ line ∈ g.headerLines v, OneLine line) ∧
    ∀ before after, source.toList = before ++ ("*/".toList ++ after) →
      (wholeLines (g.headerLines v) ++ " ").toList <+: before
  lines : ∀ key code, g.Writes key code → ∀ line ∈ code, Text.startsWith line.text "// " = true →
    OneLine line.text ∧
      (spaces ((1 + line.depth) * g.options.indentSize.toNat) ++ line.text).toList ∈ Text.lines source.toList

/-- No text gets out of a comment. Text for comments has no end mark and no line break, and making it ready for comments
once more changes nothing; so in every source, comments end where they should. -/
theorem comments_closed :
    (∀ text, ¬ "*/".toList <:+: (commentText text).toList ∧ OneLine (commentText text) ∧
      commentText (commentText text) = commentText text) ∧
    ∀ (g : Generator) (source : String), g.generate.result = .ok source → CommentsClosed g source := by
  refine ⟨fun text => ⟨?_, oneLine_commentText text, commentText_commentText text⟩, fun g source h => ⟨?_, ?_⟩⟩
  · rw [← closesComment_iff, closesComment_commentText]
    exact Bool.false_ne_true
  · obtain ⟨v, rest, hv, hsource⟩ := g.head_of_generate h
    refine ⟨v, rest, hv, hsource, fun line hline => (isHeadLine_of_mem line hline).oneLine, fun before after heq => ?_⟩
    have hcontinues : closesComment ((wholeLines (g.headerLines v) ++ " ").toList ++ ['*']) = false := by
      rw [String.toList_append, List.append_assoc,
        closesComment_wholeLines fun line hline => (isHeadLine_of_mem line hline).continues]
      rfl
    have hmark : (wholeLines (g.headerLines v) ++ " ").toList ++ ('*' :: '/' :: '\n' :: rest.toList) =
        source.toList := by
      rw [hsource, wholeLines_append]
      simp only [wholeLines_cons, wholeLines_nil, String.toList_append, List.append_assoc]
      rfl
    exact prefix_of_mark hcontinues (hmark.trans heq)
  · exact fun key code hwrites line hline hcomment =>
      ⟨hwrites.commentIntact line hline hcomment, hwrites.mem_lines h hline hcomment⟩

/-- A location whose upstream has the end of a comment and a line break for an address. -/
def quoting : Config where
  servers := [{ locations := [{ path := "/", directives := { proxyPass := some "*/\n*/" } }] }]

theorem comments_closed_quoting :
    ∃ source, (Generator.generate ⟨.middleware, quoting, {}⟩).result = .ok source ∧
      CommentsClosed ⟨.middleware, quoting, {}⟩ source := by
  have hreadable : quoting.Readable .middleware := by
    refine ⟨?_, ?_⟩
    · simp [quoting, Server.NamesReadable]
    · simp only [quoting, List.forall_mem_singleton]
      refine ⟨?_, ?_, ?_, ?_⟩ <;> simp [Location.isRegex, Target.readsAddresses]
  have hadmitted : quoting.Admitted .middleware := by
    simp only [quoting, Config.Admitted, Target.Admits]
    decide +kernel
  have hemittable : quoting.Emittable .middleware := by
    intro s _ l _ _ url _ _ upstream _
    constructor <;> (intro h; cases h)
  obtain ⟨source, hsource⟩ := (needs_generate hreadable hadmitted).returns.mpr hemittable
  exact ⟨source, hsource, comments_closed.2 _ source hsource⟩

end EdgeRoutes
