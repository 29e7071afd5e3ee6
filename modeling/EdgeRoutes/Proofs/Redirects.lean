import EdgeRoutes.Proofs.Coverage
import EdgeRoutes.Proofs.SourceLines

/-! Redirects. A location that answers with a redirect does nothing else, whatever other directives it has; so in the
source of every target its block is one statement, which leads to the address of the answer with its code. -/

namespace EdgeRoutes

open Js Js.Code

section Statements

/-- The statement has the literal of an address for an argument and after it, as an argument of its own, a code; neither
of them is part of another literal. -/
def RedirectsTo (url : String) (code : Nat) (statement : String) : Prop :=
  ∃ before between mark after, statement = before ++ string url ++ between ++ ", " ++ toString code ++ mark ++ after ∧
    '"' ∉ before.toList ∧ '"' ∉ between.toList ∧ mark ∈ [", ", ")"]

/-- Every target writes the literal of the address and the code into its redirect. -/
theorem redirectsTo_redirectStatement (t : Target) (url : String) (code : Nat) (headers : Fields String) :
    RedirectsTo url code (redirectStatement t (string url) code headers) := by
  cases t with
  | worker =>
      refine ⟨"return " ++ "redirectResponse" ++ "(" ++ "new URL(" ++ "expandVars(",
        ", vars)" ++ ", request.url).toString()", ", ", objectLiteral headers ++ ", vars);", ?_, by decide +kernel,
        by decide +kernel, by decide⟩
      simp only [redirectStatement, returnResponse, expanded, Text.joined, List.cons_append, List.nil_append,
        String.intercalate_cons_cons, String.intercalate_singleton, String.append_assoc]
  | middleware =>
      refine ⟨"return withHeaders(" ++ "NextResponse.redirect(new URL(" ++ "expandVars(", ", vars)" ++ ", request.url)",
        ")", ", " ++ objectLiteral headers ++ ", vars);", ?_, by decide +kernel,
        by decide +kernel, by decide⟩
      have hgap : ", request.url), " = ", request.url)" ++ ", " := by decide +kernel
      unfold redirectStatement returnWithHeaders expanded
      rw [hgap]
      simp only [String.append_assoc]
  | edgeHook | minimal =>
      refine ⟨"return " ++ "redirectResponse" ++ "(" ++ "expandVars(", ", vars)", ", ",
        string (Http.phrase code) ++ ", " ++ objectLiteral headers ++ ", vars);", ?_, by decide +kernel,
        by decide +kernel, by decide⟩
      simp only [redirectStatement, returnResponse, expanded, Text.joined, List.cons_append, List.nil_append,
        String.intercalate_cons_cons, String.intercalate_singleton, String.append_assoc]

theorem Return.ending_of_redirect {answer : Return} (hcode : 300 ≤ answer.code ∧ answer.code ≤ 399) {url : String}
    (hurl : answer.url = some url) (headers : Fields String) :
    answer.ending headers = .redirect (.url url) answer.code headers := by
  have hredirect : answer.isRedirect = true := by
    rw [Return.isRedirect, isRedirectCode, Bool.and_eq_true, decide_eq_true_iff, decide_eq_true_iff]
    omega
  rw [Return.ending, hredirect, hurl]

end Statements

section Blocks

theorem infix_paragraphs {code : Code} {codes : List Code} (h : code ∈ codes) : code <:+: paragraphs codes := by
  refine List.infix_of_mem_flatten ?_
  induction codes with
  | nil => cases h
  | cons first codes ih =>
      cases codes with
      | nil => exact h
      | cons next codes =>
          rw [List.intersperse_cons_cons]
          rcases List.mem_cons.mp h with rfl | hmem
          · exact List.mem_cons_self
          · exact List.mem_cons_of_mem _ (List.mem_cons_of_mem _ (ih hmem))

/-- The code of a location stands in that of its server, one level deeper. -/
theorem infix_serverBlock {b : ServerBlock} {block : LocationBlock} (h : block ∈ b.locations) (t : Target)
    (comments : Bool) : nested (block.code t comments) <:+: b.code t comments := by
  unfold ServerBlock.code guarded Code.block
  obtain ⟨before, after, hlocations⟩ := List.append_of_mem h
  have hnested : nested (block.code t comments) <:+: nested (b.locations.flatMap (LocationBlock.code t comments)) := by
    rw [hlocations, List.flatMap_append, List.flatMap_cons]
    exact List.IsInfix.map _ ⟨_, _, List.append_assoc _ _ _⟩
  exact hnested.trans ((List.infix_append _ _ _).trans (List.suffix_append _ _).isInfix)

/-- The code of a block with one line in it, without comments before it. -/
def LocationBlock.around (b : LocationBlock) (statement : String) : Code :=
  [⟨1, "if (" ++ b.condition.render "path" ++ ") \x7b"⟩, ⟨2, statement⟩, ⟨1, "\x7d"⟩]

theorem LocationBlock.around_infix {b : LocationBlock} {t : Target} {comments : Bool} {statement : String}
    (h : Statement.codeAll t comments b.body = flat [statement]) :
    b.around statement <:+: nested (b.code t comments) := by
  have hguarded : b.around statement = nested (guarded (b.condition.render "path") (flat [statement])) := rfl
  unfold LocationBlock.code
  rw [hguarded, h]
  exact List.IsInfix.map _ (List.suffix_append _ _).isInfix

end Blocks

/-- What stands in a source for a location that redirects. Its one block holds one statement: in the source, the line of
that statement follows the opening of the block and precedes its closing brace. In the later phases of a request nothing
sends it to an upstream. -/
structure Generator.Redirects (g : Generator) (source : String) (r : Route) (l : Location) (url : String) (code : Nat) :
    Prop where
  block : ∃ blocks b headers, (g.serverBlocks (locationBody g.target)).result = .ok blocks ∧ blockCount blocks r = 1 ∧
    b ∈ blocks.flatMap ServerBlock.locations ∧ b.route = r ∧ l.condition g.target.dialect = .ok b.condition ∧
    b.body = [.finish (.redirect (.url url) code headers)] ∧
    ∃ statement, RedirectsTo url code statement ∧
      CodeLine.printed g.options.indentSize.toNat ⟨1, "if (" ++ b.condition.render "path" ++ ") \x7b"⟩ ++
        [(spaces (3 * g.options.indentSize.toNat) ++ statement).toList,
          (spaces (2 * g.options.indentSize.toNat) ++ "\x7d").toList] <:+: Text.lines source.toList
  later : g.target = .edgeHook → ∀ blocks, (g.routeBlocks originRequestBody).result = .ok blocks →
    ∀ b ∈ blocks, b.route ≠ r

section Sources

variable {g : Generator} {r : Route} {l : Location}

/-- The routing code has the block of every location that a path can reach. -/
theorem exists_block_of_hasAt {blocks : List ServerBlock}
    (h : (g.serverBlocks (locationBody g.target)).result = .ok blocks) (hat : g.config.HasAt r l)
    (hnamed : l.isNamed = false) :
    ∃ sb ∈ blocks, ∃ b ∈ sb.locations, BlockOf g.target r.server ⟨r.position, l⟩ b := by
  obtain ⟨s, hs, p, hp, rfl, rfl⟩ := hat.exists_tried hnamed
  obtain ⟨sb, hsb, hserver⟩ := exists_right_of_forall₂ (serverBlockOf_of_serverBlocks h)
    (Config.mem_reachable_of_mem_tried hs hp)
  obtain ⟨b, hb, hof⟩ := exists_right_of_forall₂ hserver.locations hp
  exact ⟨sb, hsb, b, hb, hof⟩

/-- A location with an answer of its own has no part in the requests to upstreams. -/
theorem not_mem_requests {blocks : List RouteBlock} (h : (g.routeBlocks originRequestBody).result = .ok blocks)
    (hat : g.config.HasAt r l) {answer : Return} (hanswer : l.directives.answer = some answer) :
    ∀ b ∈ blocks, b.route ≠ r := by
  rintro b hb rfl
  obtain ⟨site, hsite, hblock⟩ := exists_left_of_forall₂ (routeBlockOf_of_routeBlocks h) hb
  have hne : b.body ≠ [] := by simpa [Action.acts, hblock.body] using (List.mem_filter.mp hsite).2
  obtain ⟨l', hat', -, -, -, hbody⟩ := (phaseBlocks_of_routeBlocks h).carries b hb
  obtain rfl := hat.unique hat'
  rcases originRequestBody_parts hbody with ⟨-, hempty⟩ | ⟨url, -, hnone, -⟩
  · exact hne hempty
  · rw [hanswer] at hnone
    cases hnone

/-- The lines of a redirect and of the block around it stand in the source, one after the other. -/
theorem infix_lines_of_redirect {source : String} (hsource : g.generate.result = .ok source) {blocks : List ServerBlock}
    (h : (g.serverBlocks (locationBody g.target)).result = .ok blocks) {sb : ServerBlock} (hsb : sb ∈ blocks)
    {b : LocationBlock} (hb : b ∈ sb.locations) {url : String} {code : Nat} {headers : Fields String}
    (hbody : b.body = [.finish (.redirect (.url url) code headers)]) :
    CodeLine.printed g.options.indentSize.toNat ⟨1, "if (" ++ b.condition.render "path" ++ ") \x7b"⟩ ++
      [(spaces (3 * g.options.indentSize.toNat) ++ redirectStatement g.target (string url) code headers).toList,
        (spaces (2 * g.options.indentSize.toNat) ++ "\x7d").toList] <:+: Text.lines source.toList := by
  have hcode : Statement.codeAll g.target g.options.comments b.body =
      flat [redirectStatement g.target (string url) code headers] := by
    rw [hbody, Statement.codeAll, Statement.codeAll, Statement.code, List.append_nil]
    rfl
  have hline : OneLine (redirectStatement g.target (string url) code headers) :=
    (oneLine_redirectStatement g.target code headers).mpr (oneLine_string url)
  obtain ⟨rest, hrest⟩ := Text.startsWith_iff.mp
    ((isReturn_redirectStatement g.target (string url) code headers).startsWith rfl)
  generalize redirectStatement g.target (string url) code headers = statement at hcode hline hrest
  have hbreaks : '\n' ∉ statement.toList := fun hbreak => by cases hline '\n' hbreak
  have hfilled : statement ≠ "" := by
    rintro rfl
    cases hrest
  have hhead : statement.toList.head? ≠ some ' ' := by
    rw [← hrest]
    exact (by decide : some 'r' ≠ some ' ')
  have hpart := (b.around_infix hcode).trans ((infix_serverBlock hb g.target g.options.comments).trans
    (infix_paragraphs (List.mem_map_of_mem hsb)))
  have hstands := (Generator.Writes.servers h).infix_lines hsource hpart
    (show ⟨2, statement⟩ ∈ b.around statement by simp [LocationBlock.around]) hfilled
  have hstatement := @CodeLine.printed_of_oneLine ⟨2, statement⟩ hbreaks hfilled hhead g.options.indentSize.toNat
  have hbrace := @CodeLine.printed_of_oneLine ⟨1, "\x7d"⟩ (by decide) (by decide) (by decide)
  simp only [LocationBlock.around, List.flatMap_cons, List.flatMap_nil, hstatement, hbrace] at hstands
  exact hstands

/-- Redirects reach every source. Where a source is generated, a location that answers with a redirect has a block in it,
and nothing stands in the block but the statement that leads to the address with the code; it does not matter what other
directives the location has, nor how wide the indentation is. -/
theorem redirects_reach_source {source : String} (hsource : g.generate.result = .ok source) (hat : g.config.HasAt r l)
    (hnamed : l.isNamed = false) {answer : Return} (hanswer : l.directives.answer = some answer)
    (hcode : 300 ≤ answer.code ∧ answer.code ≤ 399) {url : String} (hurl : answer.url = some url) :
    g.Redirects source r l url answer.code := by
  obtain ⟨-, sections, -, -, hsections, -, -⟩ := g.parts_of_generate hsource
  obtain ⟨blocks, hblocks, -⟩ := serverBlocks_of_sections hsections
  obtain ⟨sb, hsb, b, hb, hof⟩ := exists_block_of_hasAt hblocks hat hnamed
  obtain ⟨headers, ⟨answer', hanswer', hbody⟩ | ⟨hnone, -⟩⟩ := locationBody_parts hof.body
  · obtain rfl : answer = answer' := Option.some.inj (hanswer.symm.trans hanswer')
    rw [answer.ending_of_redirect hcode hurl] at hbody
    have hcount : blockCount blocks r = 1 := by
      rw [blockCount_eq (serverBlockOf_of_serverBlocks hblocks) hat]
      exact if_neg (Bool.eq_false_iff.mp hnamed)
    refine ⟨⟨blocks, b, headers, hblocks, hcount, List.mem_flatMap.mpr ⟨sb, hsb, hb⟩, hof.route, hof.condition, hbody,
      _, redirectsTo_redirectStatement g.target url answer.code headers, ?_⟩, ?_⟩
    · exact infix_lines_of_redirect hsource hblocks hsb hb hbody
    · exact fun _ requests hrequests => not_mem_requests hrequests hat hanswer
  · cases hanswer.symm.trans hnone

end Sources

/-- A location that has moved and still has its rules, its upstream and its files. -/
def moved : Config where
  servers := [{
    locations := [{
      path := "/old/", modifier := some .priority
      directives := {
        answer := some { code := 308, url := some "https://\"new\"/$uri" }
        proxyPass := some "http://app", root := some "/srv", aliasPath := some "/data"
        rewrites := [{ regex := "^/old", replacement := "/new", flags := [.permanent] }] } }] }]

theorem redirects_reach_source_moved :
    ∃ source, (Generator.generate ⟨.edgeHook, moved, { indentSize := 0 }⟩).result = .ok source ∧
      Generator.Redirects ⟨.edgeHook, moved, { indentSize := 0 }⟩ source ⟨1, 1⟩ moved.servers[0].locations[0]
        "https://\"new\"/$uri" 308 := by
  obtain ⟨source, hsource⟩ := Option.isSome_iff_exists.mp
    (show (Generator.generate ⟨.edgeHook, moved, { indentSize := 0 }⟩).result.toOption.isSome = true by
      decide +kernel)
  rw [toOption_eq_some_iff] at hsource
  exact ⟨source, hsource, redirects_reach_source hsource ⟨0, 0, _, rfl, rfl, rfl⟩ (by decide +kernel) rfl (by decide)
    rfl⟩

end EdgeRoutes
