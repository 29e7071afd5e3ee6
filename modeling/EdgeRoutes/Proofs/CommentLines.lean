import EdgeRoutes.Proofs.BlockEndings
import EdgeRoutes.Proofs.CommentText

/-! Comments before lines of code. They are made from text for comments, so a comment ends with its own line; and no
other line of code starts like one. -/

namespace EdgeRoutes

open Js Js.Code

section Bodies

theorem commentsAll_append (xs ys : List Statement) :
    Statement.commentsAll (xs ++ ys) = Statement.commentsAll xs ++ Statement.commentsAll ys := by
  induction xs with
  | nil => rfl
  | cons x xs ih => rw [List.cons_append, Statement.commentsAll, Statement.commentsAll, ih, List.append_assoc]

theorem oneLine_comments_ruleStatements (headers : Fields String) (rules : List TranslatedRule) :
    ∀ text ∈ Statement.commentsAll (ruleStatements headers rules), OneLine text := by
  induction rules with
  | nil => nofun
  | cons r rules ih =>
      have hskipped : OneLine ("rewrite " ++ commentText r.1.regex ++ " skipped: regex not translatable") :=
        (oneLine_between rfl rfl).mpr (oneLine_commentText r.1.regex)
      rw [ruleStatements]
      split_ifs
      · exact List.forall_mem_cons.mpr ⟨hskipped, ih⟩
      · exact ih
      · simpa [Statement.commentsAll, Statement.comments] using ih
      · exact ih

theorem oneLine_comments_degraded (url reason : String) :
    ∀ text ∈ Statement.commentsAll (degraded url reason), OneLine text := by
  refine List.forall_mem_singleton.mpr (oneLine_append.mpr ⟨?_, oneLine_commentText reason⟩)
  exact (oneLine_between rfl rfl).mpr (oneLine_commentText url)

theorem oneLine_comments_staticStatements (t : Target) (site : Site) (headers : Fields String) :
    ∀ text ∈ Statement.commentsAll (staticStatements t site headers), OneLine text := by
  cases t with
  | worker => exact List.forall_mem_singleton.mpr ((oneLine_between rfl rfl).mpr (oneLine_commentText _))
  | middleware | edgeHook => exact List.forall_mem_singleton.mpr (oneLine_literal rfl)
  | minimal => nofun

/-- The comments on an upstream stay on one line, whatever its address holds. -/
theorem oneLine_comments_proxyStatements {t : Target} {site : Site} {url : String} {headers : Fields String}
    {body : List Statement} (h : (proxyStatements t site url headers).result = .ok body) :
    ∀ text ∈ Statement.commentsAll body, OneLine text := by
  cases t with
  | worker | middleware | edgeHook =>
      cases h
      exact List.forall_mem_nil _
  | minimal =>
      simp only [proxyStatements, Logged.result_bind] at h
      obtain ⟨resolved, -, h⟩ := bind_eq_ok_iff.mp h
      cases resolved with
      | error reason =>
          cases h
          exact oneLine_comments_degraded url reason
      | ok upstream =>
          simp only [Logged.result_bind] at h
          obtain ⟨proxy, -, h⟩ := bind_eq_ok_iff.mp h
          cases h
          exact List.forall_mem_nil _

theorem oneLine_comments_locationBody {t : Target} {site : Site} {body : List Statement}
    (h : (locationBody t site).result = .ok body) : ∀ text ∈ Statement.commentsAll body, OneLine text := by
  obtain ⟨headers, ⟨answer, -, rfl⟩ | ⟨-, rules, rest, hrules, rfl, hrest⟩⟩ := locationBody_parts h
  · nofun
  · rw [rewriteStatements_eq] at hrules
    obtain ⟨translated, -, rfl⟩ := map_eq_ok_iff.mp hrules
    rw [commentsAll_append, List.forall_mem_append]
    refine ⟨oneLine_comments_ruleStatements headers translated, ?_⟩
    rcases hrest with ⟨url, -, hrest⟩ | ⟨-, rfl⟩
    · exact oneLine_comments_proxyStatements hrest
    · split_ifs
      · exact oneLine_comments_staticStatements t site headers
      · nofun

theorem oneLine_comments_originRequestBody {site : Site} {body : List Statement}
    (h : (originRequestBody site).result = .ok body) : ∀ text ∈ Statement.commentsAll body, OneLine text := by
  rcases originRequestBody_parts h with ⟨-, rfl⟩ | ⟨url, -, -, ⟨reason, -, rfl⟩ | ⟨upstream, timeout, -, rfl⟩⟩
  · nofun
  · exact oneLine_comments_degraded url reason
  · exact List.forall_mem_singleton.mpr (oneLine_append.mpr ⟨oneLine_literal rfl, oneLine_commentText url⟩)

theorem oneLine_comments_originResponseBody {site : Site} {body : List Statement}
    (h : (originResponseBody site).result = .ok body) : ∀ text ∈ Statement.commentsAll body, OneLine text := by
  rw [originResponseBody, Logged.result_bind] at h
  obtain ⟨headers, -, h⟩ := bind_eq_ok_iff.mp h
  cases hempty : headers.isEmpty <;> rw [hempty] at h <;> cases h <;> exact List.forall_mem_nil _

end Bodies

section CommentLines

/-- If the line is a comment, it stays on one line. -/
def CommentIntact (line : String) : Prop := Text.startsWith line "// " = true → OneLine line

theorem CommentIntact.of_oneLine {line : String} (h : OneLine line) : CommentIntact line := fun _ => h

theorem CommentIntact.of_head {line : String} (h : line.toList.head? ≠ some '/') : CommentIntact line := by
  intro hcomment
  obtain ⟨rest, hrest⟩ := Text.startsWith_iff.mp hcomment
  rw [← hrest] at h
  exact absurd rfl h

/-- A line of code starts with a text of its own. -/
theorem CommentIntact.of_literal {cs : List Char} (h : cs.head?.any (· != '/') = true) (a b : String) :
    CommentIntact (String.ofList cs ++ a ++ b) := by
  refine of_head fun hhead => ?_
  rw [String.toList_append, String.toList_append, String.toList_ofList] at hhead
  cases cs with
  | nil => cases h
  | cons c cs =>
      cases hhead
      cases h

theorem Js.Code.IsReturn.startsWith {code : Code} (h : IsReturn code) {first : CodeLine}
    (hfirst : code.head? = some first) :
    Text.startsWith first.text "return " = true := by
  cases h with
  | line hstart hend =>
      cases hfirst
      exact hstart
  | lines hstart hopens hbody hcloses hend =>
      cases hfirst
      exact hstart

theorem CommentIntact.of_return {line : String} (h : IsReturn (flat [line])) : CommentIntact line := by
  refine of_head fun hhead => ?_
  obtain ⟨rest, hrest⟩ := Text.startsWith_iff.mp (h.startsWith rfl)
  rw [← hrest] at hhead
  cases hhead

theorem Js.Code.Each.imp {p q : String → Prop} {code : Code} (h : Each p code) (himp : ∀ {line}, p line → q line) :
    Each q code := fun line hline => himp (h line hline)

theorem commentIntact_commentCode (comments : Bool) {text : String} (h : OneLine text) :
    Each CommentIntact (commentCode comments text) := by
  cases comments with
  | false => exact each_nil
  | true =>
      refine each_flat.mpr (List.forall_mem_singleton.mpr (.of_oneLine ?_))
      exact oneLine_append.mpr ⟨oneLine_literal rfl, h⟩

theorem commentIntact_endingCode (t : Target) (ending : Ending) : Each CommentIntact (ending.code t) := by
  by_cases hpatterns : ending.patterns = []
  · have hlines : Each OneLine (ending.code t) := (each_endingCode t ending).mpr (by simp [hpatterns])
    exact hlines.imp CommentIntact.of_oneLine
  · cases ending with
    | redirect destination code headers =>
        exact each_flat.mpr (List.forall_mem_singleton.mpr (.of_return (isReturn_redirectStatement t _ code headers)))
    | respond | proxy | forward | customOrigin | passResponse => exact absurd rfl hpatterns

mutual

/-- Only its comments are comment lines in the code of a statement. -/
theorem commentIntact_code (t : Target) (comments : Bool) : (s : Statement) →
    (∀ text ∈ s.comments, OneLine text) → Each CommentIntact (s.code t comments)
  | .comment text, h => by
      rw [Statement.code]
      exact commentIntact_commentCode comments (List.forall_mem_singleton.mp h)
  | .rewrite s, _ => by
      rw [Statement.code]
      unfold Substitution.code
      refine each_flat.mpr (List.forall_mem_cons.mpr ⟨.of_oneLine (oneLine_literal rfl), List.forall_mem_cons.mpr ⟨?_,
        List.forall_mem_singleton.mpr (.of_oneLine (oneLine_literal rfl))⟩⟩)
      exact .of_literal rfl _ _
  | .branch p body none, h => by
      rw [Statement.code, each_block]
      unfold PathPattern.opening
      exact ⟨.of_literal rfl _ _, commentIntact_codeAll t comments body h, .of_oneLine (oneLine_literal rfl)⟩
  | .branch p body (some otherwise), h => by
      rw [Statement.comments, List.forall_mem_append] at h
      rw [Statement.code, each_append, each_append, each_block, each_flat, each_nested, List.forall_mem_singleton]
      unfold PathPattern.opening
      exact ⟨⟨.of_literal rfl _ _, commentIntact_codeAll t comments body h.1⟩, .of_oneLine (oneLine_literal rfl),
        commentIntact_codeAll t comments otherwise h.2, .of_oneLine (oneLine_literal rfl)⟩
  | .finish ending, _ => by
      rw [Statement.code]
      exact commentIntact_endingCode t ending

theorem commentIntact_codeAll (t : Target) (comments : Bool) : (body : List Statement) →
    (∀ text ∈ Statement.commentsAll body, OneLine text) → Each CommentIntact (Statement.codeAll t comments body)
  | [], _ => by
      rw [Statement.codeAll]
      exact each_nil
  | s :: ss, h => by
      rw [Statement.commentsAll, List.forall_mem_append] at h
      rw [Statement.codeAll, each_append]
      exact ⟨commentIntact_code t comments s h.1, commentIntact_codeAll t comments ss h.2⟩

end

theorem commentIntact_guarded {condition : String} {body : Code} (h : Each CommentIntact body) :
    Each CommentIntact (guarded condition body) := by
  unfold guarded
  exact each_block.mpr ⟨.of_literal rfl _ _, h, .of_oneLine (oneLine_literal rfl)⟩

theorem commentIntact_locationBlock {t : Target} {index : Nat} {p : Location.Placed} {b : LocationBlock}
    (h : BlockOf t index p b) (comments : Bool) : Each CommentIntact (b.code t comments) := by
  have hbody := commentIntact_codeAll t comments b.body (oneLine_comments_locationBody h.body)
  unfold LocationBlock.code
  rw [each_append, each_append]
  refine ⟨⟨?_, ?_⟩, commentIntact_guarded hbody⟩
  · exact commentIntact_commentCode comments (oneLine_append.mpr ⟨oneLine_literal rfl, oneLine_commentText b.label⟩)
  · split_ifs
    · exact commentIntact_commentCode comments (oneLine_literal rfl)
    · exact each_nil

theorem commentIntact_serverBlock {t : Target} {s : Nat × Server} {b : ServerBlock} (h : ServerBlockOf t s b)
    (comments : Bool) : Each CommentIntact (b.code t comments) := by
  unfold ServerBlock.code
  rw [each_append]
  refine ⟨commentIntact_commentCode comments ?_, commentIntact_guarded (each_flatMap.mpr fun block hblock => ?_)⟩
  · simp only [oneLine_append, oneLine_toString, oneLine_commentText, and_true]
    exact ⟨oneLine_literal rfl, oneLine_literal rfl⟩
  · obtain ⟨p, -, hof⟩ := exists_left_of_forall₂ h.locations hblock
    exact commentIntact_locationBlock hof comments

theorem commentIntact_routeBlock (t : Target) (comments : Bool) {b : RouteBlock}
    (h : ∀ text ∈ Statement.commentsAll b.body, OneLine text) : Each CommentIntact (b.code t comments) := by
  unfold RouteBlock.code
  rw [each_append]
  refine ⟨commentIntact_commentCode comments ?_, commentIntact_guarded (commentIntact_codeAll t comments b.body h)⟩
  simp only [oneLine_append, oneLine_toString, oneLine_commentText, and_true]
  exact ⟨oneLine_literal rfl, oneLine_literal rfl⟩

end CommentLines

/-- The code that the generator writes, and the name under which it goes into the file: the blocks of the servers, and
for the later phases of a request those of the routes. -/
inductive Generator.Writes (g : Generator) : String → Code → Prop where
  | servers {blocks : List ServerBlock} (h : (g.serverBlocks (locationBody g.target)).result = .ok blocks) :
      Writes g g.target.routingKey (paragraphs (blocks.map (ServerBlock.code g.target g.options.comments)))
  | requests {blocks : List RouteBlock} (htarget : g.target = .edgeHook)
      (h : (g.routeBlocks originRequestBody).result = .ok blocks) :
      Writes g "origin_request" (paragraphs (blocks.map (RouteBlock.code g.target g.options.comments)))
  | responses {blocks : List RouteBlock} (htarget : g.target = .edgeHook)
      (h : (g.routeBlocks originResponseBody).result = .ok blocks) :
      Writes g "origin_response" (paragraphs (blocks.map (RouteBlock.code g.target g.options.comments)))

theorem Generator.Writes.commentIntact {g : Generator} {key : String} {code : Code} (h : g.Writes key code) :
    Each CommentIntact code := by
  have hempty : CommentIntact "" := .of_oneLine (oneLine_literal rfl)
  have hroutes : ∀ {action : Action} {blocks : List RouteBlock}, (g.routeBlocks action).result = .ok blocks →
      (∀ {site body}, (action site).result = .ok body → ∀ text ∈ Statement.commentsAll body, OneLine text) →
        Each CommentIntact (paragraphs (blocks.map (RouteBlock.code g.target g.options.comments))) := by
    intro action blocks hblocks hcomments
    refine (each_paragraphs hempty).mpr (List.forall_mem_map.mpr fun b hb => ?_)
    obtain ⟨site, -, hof⟩ := exists_left_of_forall₂ (routeBlockOf_of_routeBlocks hblocks) hb
    exact commentIntact_routeBlock _ _ (hcomments hof.body)
  cases h with
  | servers hblocks =>
      refine (each_paragraphs hempty).mpr (List.forall_mem_map.mpr fun b hb => ?_)
      obtain ⟨s, -, hof⟩ := exists_left_of_forall₂ (serverBlockOf_of_serverBlocks hblocks) hb
      exact commentIntact_serverBlock hof _
  | requests htarget hblocks => exact hroutes hblocks oneLine_comments_originRequestBody
  | responses htarget hblocks => exact hroutes hblocks oneLine_comments_originResponseBody

end EdgeRoutes
