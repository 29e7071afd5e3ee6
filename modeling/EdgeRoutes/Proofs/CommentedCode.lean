import EdgeRoutes.Proofs.SourceLines

/-! Code with comments and without. Comments are lines of their own and change no other line: code that is written with
comments becomes the code without them when the lines that hold a comment are left out. -/

namespace EdgeRoutes

open Js Js.Code

namespace Js

/-- The line without its indentation. -/
def unindented (line : String) : String :=
  String.ofList (line.toList.dropWhile (· == ' '))

/-- The line holds a comment and nothing else. -/
def isComment (line : String) : Bool :=
  Text.startsWith (unindented line) "//"

/-- The line has no indentation. -/
def Flush (line : String) : Prop := line.toList.head? ≠ some ' '

instance (line : String) : Decidable (Flush line) := inferInstanceAs (Decidable (_ ≠ _))

theorem Flush.unindented_eq {line : String} (h : Flush line) : unindented line = line := by
  have hdrop : line.toList.dropWhile (· == ' ') = line.toList := by
    cases hline : line.toList with
    | nil => rfl
    | cons c cs => exact List.dropWhile_cons_of_neg (by simpa [Flush, hline] using h)
  rw [unindented, hdrop, String.ofList_toList]

theorem unindented_spaces (n : Nat) (line : String) : unindented (spaces n ++ line) = unindented line := by
  have hspaces : ∀ c ∈ List.replicate n ' ', (c == ' ') = true := by
    intro c hc
    rw [List.eq_of_mem_replicate hc]
    rfl
  rw [unindented, String.toList_append, toList_spaces, List.dropWhile_append_of_pos hspaces, ← unindented]

theorem isComment_spaces (n : Nat) (line : String) : isComment (spaces n ++ line) = isComment line := by
  rw [isComment, unindented_spaces, ← isComment]

theorem head?_append_of_head? {line : String} {c : Char} (h : line.toList.head? = some c) (more : String) :
    (line ++ more).toList.head? = some c := by
  rw [String.toList_append, List.head?_append, h, Option.some_or]

theorem flush_comment (text : String) : Flush ("// " ++ text) := by
  rw [Flush, head?_append_of_head? (by decide : "// ".toList.head? = some '/')]
  decide

theorem isComment_comment (text : String) : isComment ("// " ++ text) = true := by
  rw [isComment, (flush_comment text).unindented_eq]
  exact Text.startsWith_append (by decide +kernel) text

/-- The line starts with a character of code: neither with a blank nor with the slash of a comment mark. -/
def StartsCode (line : String) : Prop := ∃ c, line.toList.head? = some c ∧ c ≠ ' ' ∧ c ≠ '/'

namespace StartsCode

theorem append {line : String} (h : StartsCode line) (more : String) : StartsCode (line ++ more) := by
  obtain ⟨c, hc, hcode⟩ := h
  exact ⟨c, head?_append_of_head? hc more, hcode⟩

/-- Literals of this library are looked at as lists of characters. -/
theorem of_literal {c : Char} {cs : List Char} (h : (c != ' ' && c != '/') = true) :
    StartsCode (String.ofList (c :: cs)) := by
  rw [Bool.and_eq_true, bne_iff_ne, bne_iff_ne] at h
  exact ⟨c, by rw [String.toList_ofList]; rfl, h⟩

/-- Text between a literal and whatever follows it. -/
theorem between {c : Char} {cs : List Char} (h : (c != ' ' && c != '/') = true) (a b : String) :
    StartsCode (String.ofList (c :: cs) ++ a ++ b) :=
  ((of_literal h).append a).append b

theorem flush {line : String} (h : StartsCode line) : Flush line := by
  obtain ⟨c, hc, hblank, -⟩ := h
  rw [Flush, hc]
  exact fun heq => hblank (Option.some.inj heq)

theorem isComment_eq_false {line : String} (h : StartsCode line) : isComment line = false := by
  rw [isComment, h.flush.unindented_eq, Bool.eq_false_iff]
  intro hcomment
  obtain ⟨c, hc, -, hslash⟩ := h
  obtain ⟨rest, hrest⟩ := Text.startsWith_iff.mp hcomment
  rw [← hrest] at hc
  exact hslash (Option.some.inj hc).symm

theorem of_return {line : String} (h : Text.startsWith line "return " = true) : StartsCode line := by
  obtain ⟨rest, hrest⟩ := Text.startsWith_iff.mp h
  exact ⟨'r', by rw [← hrest]; rfl, by decide, by decide⟩

end StartsCode

end Js

section Endings

theorem startsCode_of_isReturn {line : String} (h : IsReturn (flat [line])) : StartsCode line :=
  .of_return (h.startsWith rfl)

theorem startsCode_setHeader (headers name value : String) : StartsCode (setHeader headers name value) := by
  unfold setHeader
  iterate 6 refine StartsCode.append ?_ _
  exact .of_literal rfl

theorem startsCode_setHeaders (receiver : String) (headers : Fields String) :
    ∀ line ∈ headers.map (fun (name, value) => setHeader receiver name (expanded (string value))), StartsCode line := by
  intro line hline
  obtain ⟨entry, -, rfl⟩ := List.mem_map.mp hline
  exact startsCode_setHeader _ _ _

theorem startsCode_proxyCall (opening : String) {upstream : List String} (h : ∀ line ∈ upstream, StartsCode line)
    (p : Proxy) (headers : Fields String) : Each StartsCode (proxyCall opening upstream p headers) := by
  have hreturn := startsCode_of_isReturn (isReturn_returnWithHeaders "response" headers)
  unfold proxyCall
  rw [each_append, each_block, each_flat, each_flat, List.forall_mem_append, List.forall_mem_singleton]
  simp only [List.forall_mem_cons]
  exact ⟨⟨.between rfl _ _, ⟨h, .between rfl _ _, .between rfl _ _, .between rfl _ _, nofun⟩, .of_literal rfl⟩,
    hreturn⟩

theorem startsCode_proxyCode (t : Target) (p : Proxy) (route : Route) (headers : Fields String) :
    Each StartsCode (proxyCode t p route headers) := by
  cases t with
  | worker => exact startsCode_proxyCall _ (List.forall_mem_singleton.mpr (.between rfl _ _)) p headers
  | minimal =>
      refine startsCode_proxyCall _ ?_ p headers
      exact List.forall_mem_cons.mpr ⟨.between rfl _ _, List.forall_mem_singleton.mpr (.between rfl _ _)⟩
  | edgeHook =>
      exact each_flat.mpr (List.forall_mem_singleton.mpr (startsCode_of_isReturn (isReturn_forwardStatement route)))
  | middleware =>
      unfold proxyCode
      rw [each_append, each_block, each_flat, each_flat]
      simp only [List.forall_mem_cons]
      exact ⟨⟨.between rfl _ _, .between rfl _ _, .of_literal rfl, nofun⟩, .of_literal rfl, ⟨.between rfl _ _, nofun⟩,
        .between rfl _ _⟩

theorem startsCode_forwardCode (t : Target) (rewrites : Bool) (route : Route) (headers : Fields String) :
    Each StartsCode (forwardCode t rewrites route headers) := by
  cases t with
  | worker =>
      refine each_flat.mpr (List.forall_mem_cons.mpr ⟨.of_literal rfl, List.forall_mem_singleton.mpr ?_⟩)
      exact startsCode_of_isReturn (isReturn_returnWithHeaders _ headers)
  | edgeHook =>
      exact each_flat.mpr (List.forall_mem_singleton.mpr (startsCode_of_isReturn (isReturn_forwardStatement route)))
  | middleware | minimal =>
      exact each_flat.mpr
        (List.forall_mem_singleton.mpr (startsCode_of_isReturn (isReturn_returnWithHeaders _ headers)))

theorem startsCode_assignment (u : UriPart) (mount : String) : Each StartsCode (u.assignment mount) := by
  have hassign : ∀ uri, Each StartsCode (flat ["request.uri = " ++ replacedMount uri mount ++ ";"]) := fun uri =>
    each_flat.mpr (List.forall_mem_singleton.mpr (.between rfl _ _))
  cases u with
  | keep => exact each_nil
  | replace uri => exact hassign uri
  | replaceUnlessRewritten uri => exact each_block.mpr ⟨.of_literal rfl, hassign uri, .of_literal rfl⟩

theorem startsCode_customOrigin (o : CustomOrigin) : Each StartsCode o.code := by
  have hheaders := startsCode_setHeaders "request.headers" o.headers
  unfold CustomOrigin.code
  rw [each_append, each_append, each_append, each_block, each_block]
  refine ⟨⟨⟨⟨.of_literal rfl, ⟨.of_literal rfl, ?_, .of_literal rfl⟩, .of_literal rfl⟩, ?_⟩,
    startsCode_assignment _ _⟩, each_flat.mpr (List.forall_mem_singleton.mpr (.of_literal rfl))⟩
  · simp only [each_flat, List.forall_mem_cons]
    exact ⟨.between rfl _ _, .between rfl _ _, .between rfl _ _, .of_literal rfl, .of_literal rfl, .between rfl _ _,
      .of_literal rfl, .of_literal rfl, List.forall_mem_nil _⟩
  · exact each_flat.mpr (List.forall_mem_cons.mpr ⟨startsCode_setHeader _ _ _, hheaders⟩)

/-- An ending has no comment lines. -/
theorem startsCode_ending (t : Target) (ending : Ending) : Each StartsCode (ending.code t) := by
  cases ending with
  | redirect destination code headers =>
      refine each_flat.mpr (List.forall_mem_singleton.mpr ?_)
      exact startsCode_of_isReturn (isReturn_redirectStatement t _ code headers)
  | respond code body headers =>
      refine each_flat.mpr (List.forall_mem_singleton.mpr ?_)
      exact startsCode_of_isReturn (isReturn_respondStatement t code body headers)
  | proxy p route headers => exact startsCode_proxyCode t p route headers
  | forward rewrites route headers => exact startsCode_forwardCode t rewrites route headers
  | customOrigin origin => exact startsCode_customOrigin origin
  | passResponse headers =>
      refine each_flat.mpr (List.forall_mem_append.mpr ⟨startsCode_setHeaders _ _, ?_⟩)
      exact List.forall_mem_singleton.mpr (.of_literal rfl)

end Endings

namespace Js.Code

/-- `Commented plain code` says that `code` is `plain` with comment lines in it. The lines of `plain` are empty or start
with a character of code. -/
inductive Commented : Code → Code → Prop
  | nil : Commented [] []
  | line {l : CodeLine} {plain code : Code} (hline : l.text = "" ∨ StartsCode l.text) (h : Commented plain code) :
      Commented (l :: plain) (l :: code)
  | comment (depth : Nat) (text : String) {plain code : Code} (h : Commented plain code) :
      Commented plain (⟨depth, "// " ++ text⟩ :: code)

namespace Commented

theorem append {plain code plain' code' : Code} (h : Commented plain code) (h' : Commented plain' code') :
    Commented (plain ++ plain') (code ++ code') := by
  induction h with
  | nil => exact h'
  | line hline _ ih => exact .line hline ih
  | comment depth text _ ih => exact .comment depth text ih

theorem nested {plain code : Code} (h : Commented plain code) : Commented plain.nested code.nested := by
  induction h with
  | nil => exact .nil
  | line hline _ ih => exact .line hline ih
  | comment depth text _ ih => exact .comment (depth + 1) text ih

theorem of_each {code : Code} (h : Each StartsCode code) : Commented code code := by
  induction code with
  | nil => exact .nil
  | cons l code ih =>
      obtain ⟨hline, hcode⟩ := List.forall_mem_cons.mp h
      exact .line (Or.inr hline) (ih hcode)

theorem flat_singleton {line : String} (h : StartsCode line) : Commented (flat [line]) (flat [line]) :=
  .line (Or.inr h) .nil

theorem block {opening closing : String} {plain code : Code} (hopening : StartsCode opening)
    (h : Commented plain code) (hclosing : StartsCode closing) :
    Commented (block opening plain closing) (block opening code closing) :=
  ((flat_singleton hopening).append h.nested).append (flat_singleton hclosing)

theorem flatMap {α : Type} {f g : α → Code} {as : List α} (h : ∀ a ∈ as, Commented (f a) (g a)) :
    Commented (as.flatMap f) (as.flatMap g) := by
  induction as with
  | nil => exact .nil
  | cons a as ih =>
      obtain ⟨ha, has⟩ := List.forall_mem_cons.mp h
      exact ha.append (ih has)

theorem paragraphs {α : Type} {f g : α → Code} (as : List α) (h : ∀ a ∈ as, Commented (f a) (g a)) :
    Commented (paragraphs (as.map f)) (paragraphs (as.map g)) := by
  have hgap : Commented (flat [""]) (flat [""]) := .line (Or.inl rfl) .nil
  induction as with
  | nil => exact .nil
  | cons a as ih =>
      obtain ⟨ha, has⟩ := List.forall_mem_cons.mp h
      cases as with
      | nil =>
          change Commented (f a ++ []) (g a ++ [])
          exact ha.append .nil
      | cons b as => exact ha.append (hgap.append (ih has))

/-- No line is indented by itself. -/
theorem flush {plain code : Code} (h : Commented plain code) : Each Flush code := by
  induction h with
  | nil => exact each_nil
  | line hline _ ih =>
      refine List.forall_mem_cons.mpr ⟨?_, ih⟩
      rcases hline with hempty | hcode
      · rw [hempty]
        decide
      · exact hcode.flush
  | comment depth text _ ih => exact List.forall_mem_cons.mpr ⟨flush_comment text, ih⟩

/-- The code without its comment lines. -/
theorem filter_eq {plain code : Code} (h : Commented plain code) :
    code.filter (fun line => !isComment line.text) = plain := by
  induction h with
  | nil => rfl
  | @line l plain code hline _ ih =>
      have hcode : isComment l.text = false := by
        rcases hline with hempty | hcode
        · rw [hempty]
          rfl
        · exact hcode.isComment_eq_false
      rw [List.filter_cons_of_pos (by rw [hcode]; rfl), ih]
  | comment depth text _ ih =>
      rw [List.filter_cons_of_neg (by rw [isComment_comment]; decide), ih]

end Commented

theorem lines_filter (code : Code) (level : Nat) :
    Code.lines (code.filter fun line => !isComment line.text) level = (code.lines level).filter (!isComment ·) := by
  rw [Code.lines, Code.lines, List.filter_map]
  refine congrArg _ (List.filter_congr fun line _ => ?_)
  rw [Function.comp_apply]
  split_ifs with hempty
  · rw [String.isEmpty_iff.mp hempty]
  · rw [isComment_spaces]

end Js.Code

section Blocks

theorem commented_commentCode (comments : Bool) (text : String) :
    Commented (commentCode false text) (commentCode comments text) := by
  cases comments with
  | false => exact .nil
  | true => exact .comment 0 text .nil

theorem startsCode_opening (p : PathPattern) : StartsCode p.opening := by
  unfold PathPattern.opening
  exact .between rfl _ _

mutual

/-- The code of a statement differs from that without comments by its comment lines only. -/
theorem commented_code (t : Target) (comments : Bool) : (s : Statement) →
    Commented (s.code t false) (s.code t comments)
  | .comment text => by
      rw [Statement.code, Statement.code]
      exact commented_commentCode comments text
  | .rewrite s => by
      rw [Statement.code, Statement.code]
      unfold Substitution.code
      exact .line (Or.inr (.of_literal rfl)) (.line (Or.inr (.between rfl _ _)) (.flat_singleton (.of_literal rfl)))
  | .branch p body none => by
      rw [Statement.code, Statement.code]
      exact .block (startsCode_opening p) (commented_codeAll t comments body) (.of_literal rfl)
  | .branch p body (some otherwise) => by
      rw [Statement.code, Statement.code]
      have hfirst := (Commented.flat_singleton (startsCode_opening p)).append (commented_codeAll t comments body).nested
      exact hfirst.append (.block (.of_literal rfl) (commented_codeAll t comments otherwise) (.of_literal rfl))
  | .finish ending => by
      rw [Statement.code, Statement.code]
      exact .of_each (startsCode_ending t ending)

theorem commented_codeAll (t : Target) (comments : Bool) : (body : List Statement) →
    Commented (Statement.codeAll t false body) (Statement.codeAll t comments body)
  | [] => by
      rw [Statement.codeAll, Statement.codeAll]
      exact .nil
  | s :: ss => by
      rw [Statement.codeAll, Statement.codeAll]
      exact (commented_code t comments s).append (commented_codeAll t comments ss)

end

theorem commented_guarded (condition : String) {plain code : Code} (h : Commented plain code) :
    Commented (guarded condition plain) (guarded condition code) := by
  unfold guarded
  exact .block (.between rfl _ _) h (.of_literal rfl)

theorem commented_locationBlock (t : Target) (comments : Bool) (b : LocationBlock) :
    Commented (b.code t false) (b.code t comments) := by
  have hnever : Commented
      (if b.condition.isNever then commentCode false "regex could not be translated; this location never matches" else [])
      (if b.condition.isNever then commentCode comments "regex could not be translated; this location never matches"
        else []) := by
    split_ifs
    · exact commented_commentCode comments _
    · exact .nil
  unfold LocationBlock.code
  exact ((commented_commentCode comments _).append hnever).append
    (commented_guarded _ (commented_codeAll t comments b.body))

theorem commented_serverBlock (t : Target) (comments : Bool) (b : ServerBlock) :
    Commented (b.code t false) (b.code t comments) := by
  unfold ServerBlock.code
  exact (commented_commentCode comments _).append
    (commented_guarded _ (.flatMap fun block _ => commented_locationBlock t comments block))

theorem commented_routeBlock (t : Target) (comments : Bool) (b : RouteBlock) :
    Commented (b.code t false) (b.code t comments) := by
  unfold RouteBlock.code
  exact (commented_commentCode comments _).append (commented_guarded _ (commented_codeAll t comments b.body))

end Blocks

section Bodies

theorem Js.Code.EndsInReturn.ne_nil {code : Code} (h : EndsInReturn code) : code ≠ [] := by
  obtain ⟨before, last, rfl, -, hlast⟩ := h
  cases hlast <;> simp [flat, block]

/-- Statements are more than comments: where there are any, code is written for them with comments and without. -/
theorem codeAll_eq_nil_iff {t : Target} {action : Action} (haction : action ∈ [locationBody t, originRequestBody,
    originResponseBody]) {site : Site} {body : List Statement} (h : (action site).result = .ok body) (comments : Bool) :
    Statement.codeAll t comments body = [] ↔ body = [] := by
  have hcloses : body = [] ∨ Closes body := by
    simp only [List.mem_cons, List.not_mem_nil, or_false] at haction
    rcases haction with rfl | rfl | rfl
    · exact Or.inr (closes_of_locationBody h)
    · exact closes_of_originRequestBody h
    · exact closes_of_originResponseBody h
  constructor
  · intro hcode
    exact hcloses.resolve_right fun hbody => (hbody.endsInReturn t comments).ne_nil hcode
  · rintro rfl
    rw [Statement.codeAll]

end Bodies

namespace Generator

/-- The generator with comments switched on or off. -/
def withComments (g : Generator) (comments : Bool) : Generator :=
  { g with options := { g.options with comments } }

/-- The blocks of all phases of a request. Only a delivery network has blocks for the later ones. -/
def phaseBlocks (g : Generator) : Logged (List ServerBlock × List RouteBlock × List RouteBlock) := do
  let viewer ← g.serverBlocks (locationBody g.target)
  match g.target with
  | .edgeHook =>
    let request ← g.routeBlocks originRequestBody
    let response ← g.routeBlocks originResponseBody
    return (viewer, request, response)
  | _ => return (viewer, [], [])

/-- What the file says, with these blocks for its code. -/
def entries (g : Generator) (blocks : List ServerBlock × List RouteBlock × List RouteBlock) : Template.Context :=
  let viewer := (g.target.routingKey, Data.text (ServerBlock.text g.target g.options.comments blocks.1 1))
  let phase (bs : List RouteBlock) := Data.text (RouteBlock.text g.target g.options.comments bs 1)
  match g.target with
  | .edgeHook => [viewer, ("origin_request", phase blocks.2.1), ("origin_response", phase blocks.2.2)]
  | .middleware => [viewer, ("typescript", .bool true), ("matchers", .texts g.config.matchers)]
  | _ => [viewer]

theorem sections_eq_entries (g : Generator) : g.sections = g.entries <$> g.phaseBlocks := by
  obtain ⟨t, config, options⟩ := g
  cases t <;> simp only [sections, phaseBlocks, entries, routing, routes, map_eq_pure_bind, bind_assoc, pure_bind] <;> rfl

/-- An entry of what the file says with comments, and the same entry without them: of code, the lines that hold a comment
are left out, and all else is the same. -/
inductive Uncommented (g : Generator) : String × Data → String × Data → Prop where
  | code {key : String} {code : Code} (h : g.Writes key code) :
      Uncommented g (key, .text (Text.joined "\n" (code.lines 1)))
        (key, .text (Text.joined "\n" ((code.lines 1).filter (!isComment ·))))
  | other {key : String} (data : Data) (h : key ∉ ["routing", "viewer_request", "origin_request", "origin_response"]) :
      Uncommented g (key, data) (key, data)

theorem uncommented_of_commented {g : Generator} {key : String} {plain code : Code} (h : g.Writes key code)
    (hcommented : Commented plain code) :
    Uncommented g (key, .text (code.render 1)) (key, .text (plain.render 1)) := by
  rw [Code.render, Code.render, ← hcommented.filter_eq, lines_filter]
  exact .code h

/-- Entry by entry, the code with comments becomes the code without them. -/
theorem uncommented_entries {g : Generator} {blocks : List ServerBlock × List RouteBlock × List RouteBlock}
    (h : g.phaseBlocks.result = .ok blocks) : List.Forall₂ (Uncommented (g.withComments true))
      ((g.withComments true).entries blocks) ((g.withComments false).entries blocks) := by
  obtain ⟨t, config, options⟩ := g
  obtain ⟨viewer, request, response⟩ := blocks
  have hservers : ∀ {bs : List ServerBlock}, Commented (paragraphs (bs.map (ServerBlock.code t false)))
      (paragraphs (bs.map (ServerBlock.code t true))) := .paragraphs _ fun b _ => commented_serverBlock t true b
  have hroutes : ∀ {bs : List RouteBlock}, Commented (paragraphs (bs.map (RouteBlock.code t false)))
      (paragraphs (bs.map (RouteBlock.code t true))) := .paragraphs _ fun b _ => commented_routeBlock t true b
  simp only [phaseBlocks, Logged.result_bind] at h
  obtain ⟨_, hviewer, h⟩ := bind_eq_ok_iff.mp h
  cases t with
  | edgeHook =>
      simp only [Logged.result_bind] at h
      obtain ⟨_, hrequest, h⟩ := bind_eq_ok_iff.mp h
      obtain ⟨_, hresponse, h⟩ := bind_eq_ok_iff.mp h
      cases h
      exact .cons (uncommented_of_commented (.servers hviewer) hservers) <|
        .cons (uncommented_of_commented (.requests rfl hrequest) hroutes) <|
        .cons (uncommented_of_commented (.responses rfl hresponse) hroutes) .nil
  | middleware =>
      cases h
      exact .cons (uncommented_of_commented (.servers hviewer) hservers) <|
        .cons (.other _ (by decide)) <| .cons (.other _ (by decide)) .nil
  | worker | minimal =>
      cases h
      exact .cons (uncommented_of_commented (.servers hviewer) hservers) .nil

end Generator

/-- Comments change no code. With comments or without, a configuration is checked alike and generation reports the same
events; it stops with the same fault, or the file says the same but for comment lines in its code. Nor does a comment
stand in for code anywhere: whether statements give any code does not depend on comments. -/
theorem comments_change_no_code (g : Generator) :
    (g.withComments false).validate = (g.withComments true).validate ∧
    (g.withComments false).sections.events = (g.withComments true).sections.events ∧
    (∀ fault, (g.withComments false).sections.result = .error fault ↔
      (g.withComments true).sections.result = .error fault) ∧
    (∀ context, (g.withComments true).sections.result = .ok context →
      ∃ plain, (g.withComments false).sections.result = .ok plain ∧
        List.Forall₂ (Generator.Uncommented (g.withComments true)) context plain) ∧
    ∀ action ∈ [locationBody g.target, originRequestBody, originResponseBody], ∀ site body,
      (action site).result = .ok body → ∀ comments, Statement.codeAll g.target comments body = [] ↔ body = [] := by
  have hblocks : ∀ comments, (g.withComments comments).phaseBlocks = g.phaseBlocks := fun _ => rfl
  simp only [Generator.sections_eq_entries, hblocks, Logged.result_map, Logged.events_map]
  refine ⟨rfl, trivial, ?_, ?_, fun action haction site body h => codeAll_eq_nil_iff haction h⟩
  · intro fault
    cases g.phaseBlocks.result <;> simp [Except.map]
  · intro context h
    obtain ⟨blocks, hresult, rfl⟩ := map_eq_ok_iff.mp h
    exact ⟨_, map_eq_ok_iff.mpr ⟨blocks, hresult, rfl⟩, Generator.uncommented_entries hresult⟩

/-- A location that proxies and one with a rewrite rule and files, on the target that has most comments. -/
theorem comments_change_no_code_patterned :
    ∃ context plain,
      (Generator.sections ⟨.edgeHook, patterned, {}⟩).result = .ok context ∧
        (Generator.sections ⟨.edgeHook, patterned, { comments := false }⟩).result = .ok plain ∧
        List.Forall₂ (Generator.Uncommented ⟨.edgeHook, patterned, {}⟩) context plain ∧
        ∃ site body, (originResponseBody site).result = .ok body ∧
          ∀ comments, Statement.codeAll .edgeHook comments body = [] ↔ body = [] := by
  obtain ⟨context, h⟩ := Option.isSome_iff_exists.mp
    (show (Generator.sections ⟨.edgeHook, patterned, {}⟩).result.toOption.isSome = true by decide +kernel)
  rw [toOption_eq_some_iff] at h
  obtain ⟨-, -, -, hplain, hbodies⟩ := comments_change_no_code ⟨.edgeHook, patterned, {}⟩
  obtain ⟨plain, hplain, hentries⟩ := hplain context h
  have hbody : (originResponseBody ⟨⟨1, 1⟩, { path := "/" }⟩).result = .ok [] := rfl
  exact ⟨context, plain, h, hplain, hentries, _, _, hbody, hbodies originResponseBody (by simp) _ _ hbody⟩

end EdgeRoutes
