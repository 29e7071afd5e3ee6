import EdgeRoutes.Proofs.CommentLines
import EdgeRoutes.Proofs.Generation

/-! The lines of a source file. Code is put into slots between whole lines of the file, and then every line is indented
anew by itself; so the lines of the code are lines of the source. -/

namespace EdgeRoutes

open Js Js.Code Template

section Lines

theorem toList_wholeLines (ls : List String) :
    (wholeLines ls).toList = (ls.map fun line => line.toList ++ ['\n']).flatten := by
  rw [wholeLines, String.toList_join, List.flatMap_map, List.flatMap_def]
  simp only [String.toList_append]
  rfl

theorem wholeLines_nil : wholeLines [] = "" := rfl

theorem wholeLines_cons (line : String) (ls : List String) :
    wholeLines (line :: ls) = line ++ ("\n" ++ wholeLines ls) := by
  rw [wholeLines, List.map_cons, String.join_cons, String.append_assoc]
  rfl

theorem wholeLines_append (ls ms : List String) : wholeLines (ls ++ ms) = wholeLines ls ++ wholeLines ms := by
  rw [wholeLines, List.map_append, String.join_append]
  rfl

/-- Whole lines are the first lines of what they begin. -/
theorem lines_wholeLines_append {ls : List String} (h : ∀ line ∈ ls, '\n' ∉ line.toList) (rest : List Char) :
    Text.lines ((wholeLines ls).toList ++ rest) = ls.map String.toList ++ Text.lines rest := by
  rw [toList_wholeLines]
  induction ls with
  | nil => rfl
  | cons line ls ih =>
      obtain ⟨hline, hls⟩ := List.forall_mem_cons.mp h
      rw [List.map_cons, List.flatten_cons, List.append_assoc, List.append_assoc, List.singleton_append, Text.lines,
        List.splitOn_append_cons_self_of_not_mem hline, ← Text.lines, ih hls]
      rfl

theorem intercalate_lines {ls : List String} {rest : List (List Char)} (hrest : rest ≠ []) :
    ['\n'].intercalate (ls.map String.toList ++ rest) = (wholeLines ls).toList ++ ['\n'].intercalate rest := by
  rw [toList_wholeLines]
  induction ls with
  | nil => rfl
  | cons line ls ih =>
      rw [List.map_cons, List.cons_append, List.intercalate_cons_of_ne_nil (by simp [hrest]), ih, List.map_cons,
        List.flatten_cons]
      simp only [List.append_assoc]

/-- The lines of joined pieces are the lines of the pieces, one piece after the other. -/
theorem lines_joined {pieces : List String} (h : pieces ≠ []) :
    Text.lines (Text.joined "\n" pieces).toList = pieces.flatMap fun piece => Text.lines piece.toList := by
  rw [Text.joined]
  induction pieces with
  | nil => exact absurd rfl h
  | cons first pieces ih =>
      cases pieces with
      | nil => rw [String.intercalate_singleton, List.flatMap_singleton]
      | cons next pieces =>
          have hlines : Text.lines (String.intercalate "\n" (first :: next :: pieces)).toList =
              Text.lines first.toList ++ Text.lines (String.intercalate "\n" (next :: pieces)).toList := by
            rw [String.intercalate_cons_cons, String.toList_append, String.toList_append, List.append_assoc]
            exact List.splitOn_append_cons_self _ _
          rw [hlines, ih (List.cons_ne_nil _ _)]
          rfl

def Text.lineTexts (s : String) : List String := (Text.lines s.toList).map String.ofList

/-- The lines of code that no line break is in are the lines of its text. A text without code has one line, which is
empty. -/
theorem lineTexts_render {code : Code} (h : Each OneLine code) (level : Nat) :
    Text.lineTexts (code.render level) = if code = [] then [""] else code.lines level := by
  split_ifs with hnil
  · rw [hnil]
    rfl
  · have hne : code.lines level ≠ [] := by rwa [Ne, Code.lines, List.map_eq_nil_iff]
    have hwhole : ∀ line ∈ code.lines level, Text.lines line.toList = [line.toList] := by
      intro line hline
      refine List.splitOn_eq_singleton fun hmem => ?_
      have hclear := forall_lines.mpr h line hline _ hmem
      exact absurd hclear (by decide)
    rw [Text.lineTexts, Code.render, lines_joined hne, List.flatMap_congr hwhole, List.map_flatMap]
    simp only [List.map_cons, List.map_nil, String.ofList_toList, List.flatMap_singleton']

end Lines

section Indentation

/-- The number of spaces that a line starts with. -/
def indentation (line : List Char) : Nat := line.length - (line.dropWhile (· == ' ')).length

theorem indentation_append (line : List Char) :
    List.replicate (indentation line) ' ' ++ line.dropWhile (· == ' ') = line := by
  have hlength := congrArg List.length (List.takeWhile_append_dropWhile (p := (· == ' ')) (l := line))
  rw [List.length_append] at hlength
  have hspaces : line.takeWhile (· == ' ') = List.replicate (indentation line) ' ' := by
    refine List.eq_replicate_iff.mpr ⟨by rw [indentation]; omega, fun c hc => ?_⟩
    simpa using List.mem_takeWhile_imp hc
  rw [← hspaces, List.takeWhile_append_dropWhile]

theorem toList_spaces (n : Nat) : (spaces n).toList = List.replicate n ' ' := by
  rw [spaces, String.toList_ofList]

/-- Indented by `width` for each full unit of spaces, a line keeps the spaces that are left over. -/
theorem reindentLine_eq (width unit : Nat) (line : List Char) : reindentLine (spaces width) unit line =
    List.replicate (indentation line / unit * width + indentation line % unit) ' ' ++ line.dropWhile (· == ' ') := by
  rw [reindentLine, toList_spaces, List.flatten_replicate_replicate, List.replicate_append_replicate]
  rfl

theorem reindentLine_self (unit : Nat) (line : List Char) : reindentLine (spaces unit) unit line = line := by
  rw [reindentLine_eq, Nat.div_add_mod', indentation_append]

theorem reindentLine_of_shallow {line : List Char} (h : indentation line < 2) (width : Nat) :
    reindentLine (spaces width) 2 line = line := by
  rw [reindentLine_eq, Nat.div_eq_of_lt h, Nat.mod_eq_of_lt h, Nat.zero_mul, Nat.zero_add, indentation_append]

theorem dropWhile_spaces_append {text : List Char} (h : text.head? ≠ some ' ') (n : Nat) :
    (List.replicate n ' ' ++ text).dropWhile (· == ' ') = text := by
  rw [List.dropWhile_append_of_pos (fun c hc => by simpa using List.eq_of_mem_replicate hc)]
  cases text with
  | nil => rfl
  | cons c cs => exact List.dropWhile_cons_of_neg (by simpa using h)

theorem indentation_spaces_append {text : List Char} (h : text.head? ≠ some ' ') (n : Nat) :
    indentation (List.replicate n ' ' ++ text) = n := by
  rw [indentation, dropWhile_spaces_append h, List.length_append, List.length_replicate]
  omega

theorem reindentLine_of_depth {text : List Char} (h : text.head? ≠ some ' ') (width depth : Nat) :
    reindentLine (spaces width) 2 (List.replicate (2 * depth) ' ' ++ text) =
      List.replicate (depth * width) ' ' ++ text := by
  rw [reindentLine_eq, dropWhile_spaces_append h, indentation_spaces_append h,
    Nat.mul_div_cancel_left depth (by decide), Nat.mul_mod_right, Nat.add_zero]

/-- Indented anew, a line has no new line breaks. -/
theorem notMem_reindentLine {line : List Char} (h : '\n' ∉ line) (width unit : Nat) :
    '\n' ∉ reindentLine (spaces width) unit line := by
  rw [reindentLine_eq, List.mem_append, not_or]
  refine ⟨fun hmem => ?_, fun hmem => h ((List.dropWhile_sublist _).subset hmem)⟩
  cases List.eq_of_mem_replicate hmem

/-- A text is indented anew line by line. Equal units are no exception, as each line then stays as it is. -/
theorem reindent_eq {unit : Nat} (hunit : 0 < unit) (text : String) (width : Nat) :
    reindent text (spaces width) (spaces unit) =
      .ok (String.ofList (['\n'].intercalate ((Text.lines text.toList).map (reindentLine (spaces width) unit)))) := by
  have hlength : (spaces unit).length = unit := by
    rw [← String.length_toList, toList_spaces, List.length_replicate]
  unfold reindent
  split_ifs with hsame hempty
  · have hwidth : width = unit := by
      rw [← hlength, ← hsame, ← String.length_toList, toList_spaces, List.length_replicate]
    rw [hwidth, List.map_congr_left fun line _ => reindentLine_self unit line, List.map_id', Text.lines,
      List.intercalate_splitOn, String.ofList_toList]
  · rw [String.isEmpty_iff.mp hempty, String.length_empty] at hlength
    omega
  · rw [hlength]

/-- The lines of text that is indented anew are its lines, each indented anew. -/
theorem lines_of_reindent {text source : String} {width unit : Nat} (hunit : 0 < unit)
    (h : reindent text (spaces width) (spaces unit) = .ok source) :
    Text.lines source.toList = (Text.lines text.toList).map (reindentLine (spaces width) unit) := by
  rw [reindent_eq hunit] at h
  cases h
  rw [String.toList_ofList]
  refine List.splitOn_intercalate '\n' ?_ (by simp [Text.lines])
  intro line hline
  obtain ⟨before, hbefore, rfl⟩ := List.mem_map.mp hline
  exact notMem_reindentLine (fun hmem => by simpa using Text.not_of_mem_splitOnP hbefore _ hmem) width unit

end Indentation

section Files

/-- The part of a file that code is put into. -/
def Template.slot (key : String) : Piece :=
  .whenSet key [.value key, .newline, .lines [""]] []

/-- The parts have a slot where a line begins. -/
def Template.HasSlot (ps : List Piece) (key : String) : Prop :=
  ∃ before lines after, lines ≠ [] ∧ ps = before ++ .lines lines :: slot key :: after

theorem Generator.Writes.hasSlot {g : Generator} {key : String} {code : Code} (h : g.Writes key code) :
    HasSlot g.target.template key := by
  cases h with
  | servers =>
      cases g.target with
      | worker => exact ⟨worker.take 11, _, _, List.cons_ne_nil _ _, rfl⟩
      | middleware => exact ⟨middleware.take 16, _, _, List.cons_ne_nil _ _, rfl⟩
      | edgeHook => exact ⟨Template.edgeHook.take 11, _, _, List.cons_ne_nil _ _, rfl⟩
      | minimal => exact ⟨minimal.take 11, _, _, List.cons_ne_nil _ _, rfl⟩
  | requests htarget =>
      rw [htarget]
      exact ⟨Template.edgeHook.take 13, _, _, List.cons_ne_nil _ _, rfl⟩
  | responses htarget =>
      rw [htarget]
      exact ⟨Template.edgeHook.take 15, _, _, List.cons_ne_nil _ _, rfl⟩

theorem template_head (t : Target) : ∃ rest, t.template = header ++ rest := by
  cases t with
  | worker => exact ⟨_, (List.append_assoc _ _ _).trans (List.append_assoc _ _ _)⟩
  | middleware => exact ⟨_, (List.append_assoc _ _ _).trans (List.append_assoc _ _ _)⟩
  | edgeHook => exact ⟨_, (List.append_assoc _ _ _).trans (List.append_assoc _ _ _)⟩
  | minimal => exact ⟨_, (List.append_assoc _ _ _).trans (List.append_assoc _ _ _)⟩

theorem fillAll_cons {context : Context} {p : Piece} {ps : List Piece} {a b : String} (hp : p.fill context = .ok a)
    (hps : Piece.fillAll context ps = .ok b) : Piece.fillAll context (p :: ps) = .ok (a ++ b) := by
  rw [Piece.fillAll, hp, hps]
  rfl

theorem fillAll_singleton {context : Context} {p : Piece} {a : String} (hp : p.fill context = .ok a) :
    Piece.fillAll context [p] = .ok a := by
  rw [fillAll_cons hp (by rw [Piece.fillAll]), String.append_empty]

theorem fillAll_append_eq_ok {context : Context} {ps qs : List Piece} {text : String}
    (h : Piece.fillAll context (ps ++ qs) = .ok text) :
    ∃ a b, Piece.fillAll context ps = .ok a ∧ Piece.fillAll context qs = .ok b ∧ text = a ++ b := by
  induction ps generalizing text with
  | nil => exact ⟨"", text, by rw [Piece.fillAll], h, (String.empty_append).symm⟩
  | cons p ps ih =>
      rw [List.cons_append, Piece.fillAll] at h
      obtain ⟨first, hfirst, h⟩ := bind_eq_ok_iff.mp h
      obtain ⟨rest, hrest, h⟩ := bind_eq_ok_iff.mp h
      obtain ⟨a, b, ha, hb, rfl⟩ := ih hrest
      cases h
      exact ⟨first ++ a, b, fillAll_cons hfirst ha, hb, String.append_assoc.symm⟩

/-- What the routing code is filled in with leaves the head of the file as it is. -/
theorem get?_of_sections {g : Generator} {sections : Context} (h : g.sections.result = .ok sections) (v : Validation) :
    (∀ name ∈ (g.preamble v).keys, (Fields.update (g.preamble v) sections).get? name = (g.preamble v).get? name) ∧
      ∀ name value, sections.get? name = some value →
        (Fields.update (g.preamble v) sections).get? name = some value := by
  have hsections : sections.keys.Nodup ∧ ∀ name ∈ (g.preamble v).keys, sections.get? name = none := by
    simp only [Fields.get?_eq_none_iff]
    obtain ⟨target, config, options⟩ := g
    cases target with
    | edgeHook =>
        obtain ⟨viewer, request, response, rfl, -⟩ := blocks_of_sections h
        simp [Fields.keys, Generator.preamble]
    | worker | middleware | minimal =>
        simp only [Generator.sections, Logged.result_bind] at h
        obtain ⟨text, -, h⟩ := bind_eq_ok_iff.mp h
        cases h
        simp [Fields.keys, Generator.preamble]
  obtain ⟨hnodup, hnone⟩ := hsections
  constructor
  · intro name hname
    rw [Fields.get?_update _ hnodup, hnone name hname, Option.none_or]
  · intro name value hvalue
    rw [Fields.get?_update _ hnodup, hvalue, Option.some_or]

/-- What a generator writes is found under its key. -/
theorem Generator.Writes.get?_sections {g : Generator} {key : String} {code : Code} (h : g.Writes key code)
    {sections : Context} (hsections : g.sections.result = .ok sections) :
    sections.get? key = some (.text (code.render 1)) := by
  cases h with
  | servers hblocks =>
      obtain ⟨blocks, hresult, hget⟩ := serverBlocks_of_sections hsections
      cases hblocks.symm.trans hresult
      exact hget
  | requests htarget hblocks =>
      obtain ⟨target, config, options⟩ := g
      cases htarget
      obtain ⟨viewer, request, response, rfl, -, hresult, -⟩ := blocks_of_sections hsections
      cases hblocks.symm.trans hresult
      rfl
  | responses htarget hblocks =>
      obtain ⟨target, config, options⟩ := g
      cases htarget
      obtain ⟨viewer, request, response, rfl, -, -, hresult⟩ := blocks_of_sections hsections
      cases hblocks.symm.trans hresult
      rfl

/-- What a source comes from. -/
theorem Generator.parts_of_generate {g : Generator} {source : String} (h : g.generate.result = .ok source) :
    ∃ v sections text, g.findings = .ok v ∧ g.sections.result = .ok sections ∧
      Piece.fillAll (Fields.update (g.preamble v) sections) g.target.template = .ok text ∧
        reindent text g.options.indent "  " = .ok source := by
  rw [g.result_generate] at h
  obtain ⟨v, hv, h⟩ := bind_eq_ok_iff.mp h
  split_ifs at h
  obtain ⟨sections, hsections, h⟩ := bind_eq_ok_iff.mp h
  obtain ⟨text, htext, h⟩ := bind_eq_ok_iff.mp h
  exact ⟨v, sections, text, hv, hsections, htext, h⟩

/-- The lines of what is put into a slot stand in the file, one after the other. -/
theorem Template.HasSlot.infix_lines {ps : List Piece} {key : String} (h : HasSlot ps key) {context : Context}
    {value text : String} (hvalue : context.get? key = some (.text value)) (hne : value ≠ "")
    (htext : Piece.fillAll context ps = .ok text) : Text.lines value.toList <:+: Text.lines text.toList := by
  have hset : isSet context key = true := by
    rw [isSet, hvalue]
    change (!value.isEmpty) = true
    rw [Bool.not_eq_true', Bool.eq_false_iff]
    exact fun hempty => hne (String.isEmpty_iff.mp hempty)
  have hslot : (slot key).fill context = .ok (value ++ ("\n" ++ wholeLines [""])) := by
    rw [slot, Piece.fill, if_pos hset]
    refine fillAll_cons ?_ (fillAll_cons (by rw [Piece.fill]) (fillAll_singleton (by rw [Piece.fill])))
    rw [Piece.fill, valueText, hvalue]
    rfl
  obtain ⟨before, ls, after, hls, rfl⟩ := h
  obtain ⟨a, b, -, hb, rfl⟩ := fillAll_append_eq_ok htext
  change Piece.fillAll context ([.lines ls] ++ slot key :: after) = .ok b at hb
  obtain ⟨_, c, hlines, hc, rfl⟩ := fillAll_append_eq_ok hb
  change Piece.fillAll context ([slot key] ++ after) = .ok c at hc
  obtain ⟨_, rest, hfilled, -, rfl⟩ := fillAll_append_eq_ok hc
  rw [fillAll_singleton hslot] at hfilled
  rw [fillAll_singleton (by rw [Piece.fill])] at hlines
  cases hlines
  cases hfilled
  -- the value stands between two line feeds
  have hbetween : (a ++ (wholeLines ls ++ (value ++ ("\n" ++ wholeLines [""]) ++ rest))).toList =
      (a ++ wholeLines ls.dropLast ++ ls.getLast hls).toList ++
        '\n' :: (value.toList ++ '\n' :: (wholeLines [""] ++ rest).toList) := by
    conv_lhs => rw [← List.dropLast_append_getLast hls]
    simp only [wholeLines_append, wholeLines_cons, wholeLines_nil, String.toList_append, List.append_assoc]
    rfl
  rw [hbetween]
  simp only [Text.lines, List.splitOn_append_cons_self]
  exact ⟨_, _, List.append_assoc _ _ _⟩

theorem joined_ne_empty {sep : String} {pieces : List String} {piece : String} (hsep : sep ≠ "") (hpiece : piece ∈ pieces)
    (h : piece ≠ "") : Text.joined sep pieces ≠ "" := by
  rw [Text.joined]
  rcases pieces with _ | ⟨first, _ | ⟨next, pieces⟩⟩
  · cases hpiece
  · obtain rfl := List.mem_singleton.mp hpiece
    rwa [String.intercalate_singleton]
  · rw [String.intercalate_cons_cons]
    simp [hsep]

/-- The lines in which a line of a target's code stands in the source, at a width of the indentation. The code is one level
deep in its file; a text with line breaks in it stands in several lines. -/
def Js.CodeLine.printed (width : Nat) (line : CodeLine) : List (List Char) :=
  (Text.lines (if line.text.isEmpty then "" else spaces (2 * (1 + line.depth)) ++ line.text).toList).map
    (reindentLine (spaces width) 2)

theorem Js.CodeLine.printed_of_oneLine {line : CodeLine} (hbreaks : '\n' ∉ line.text.toList) (hfilled : line.text ≠ "")
    (hhead : line.text.toList.head? ≠ some ' ') (width : Nat) :
    line.printed width = [(spaces ((1 + line.depth) * width) ++ line.text).toList] := by
  have hnone : '\n' ∉ (spaces (2 * (1 + line.depth)) ++ line.text).toList := by
    rw [String.toList_append, toList_spaces, List.mem_append, not_or]
    refine ⟨fun hmem => ?_, hbreaks⟩
    cases List.eq_of_mem_replicate hmem
  have hfilled : ¬ line.text.isEmpty = true := by simpa using hfilled
  rw [printed, if_neg hfilled, Text.lines, List.splitOn_eq_singleton hnone, List.map_singleton, String.toList_append,
    String.toList_append, toList_spaces, toList_spaces, reindentLine_of_depth hhead]

/-- What stands together in the code stands together in the source. -/
theorem Generator.Writes.infix_lines {g : Generator} {key : String} {code : Code} (h : g.Writes key code)
    {source : String} (hsource : g.generate.result = .ok source) {part : Code} (hpart : part <:+: code) {line : CodeLine}
    (hline : line ∈ part) (hfilled : line.text ≠ "") :
    part.flatMap (CodeLine.printed g.options.indentSize.toNat) <:+: Text.lines source.toList := by
  obtain ⟨v, sections, text, -, hsections, htext, hsource⟩ := g.parts_of_generate hsource
  have hvalue := (get?_of_sections hsections v).2 key _ (h.get?_sections hsections)
  have hmem : line ∈ code := hpart.subset hline
  have hne : code.render 1 ≠ "" := by
    refine joined_ne_empty (by decide) (List.mem_map_of_mem hmem) ?_
    rw [if_neg (by simpa using hfilled)]
    simp [hfilled]
  have hlines : Text.lines (code.render 1).toList = code.flatMap fun line =>
      Text.lines (if line.text.isEmpty then "" else spaces (2 * (1 + line.depth)) ++ line.text).toList := by
    rw [Code.render, lines_joined (by simpa [Code.lines] using List.ne_nil_of_mem hmem), Code.lines, List.flatMap_map]
  have hslot := h.hasSlot.infix_lines hvalue hne htext
  rw [hlines] at hslot
  have hindented : Text.lines source.toList = _ := lines_of_reindent (by decide : 0 < 2) hsource
  rw [hindented]
  refine List.IsInfix.trans ?_ (hslot.map _)
  rw [List.map_flatMap]
  obtain ⟨before, after, rfl⟩ := hpart
  rw [List.flatMap_append, List.flatMap_append]
  exact List.infix_append _ _ _

end Files

end EdgeRoutes
