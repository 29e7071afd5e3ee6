import EdgeRoutes.Proofs.CommentedCode

/-! The nesting of emitted lines, read off their text: a line that starts with a closing brace ends a block, one that ends
in an opening brace begins a block, and comments do neither. What the blocks of servers and routes are written as is well
nested, and the indentation of each line says how deep it stands, whatever texts of the configuration it holds. -/

namespace EdgeRoutes

open Js Js.Code

namespace Js

/-- How many blocks are open after a line, `depth` being open before it. There is no answer if the line ends a block that
nothing has begun, or if it is not blank and not indented by two spaces for each block around it and each of `level`
levels. A line that ends a block stands outside it. -/
def depthAfter (level depth : Nat) (line : String) : Option Nat :=
  let text := unindented line
  let around := depth - (closesBlock text).toNat
  if closesBlock text ∧ depth = 0 then none
  else if text = "" ∨ indentation line.toList = 2 * (level + around) then some (around + (opensBlock text).toNat)
  else none

/-- Every line stands where its indentation says, and all blocks that are begun are ended. -/
def WellNested (level : Nat) (lines : List String) : Prop :=
  lines.foldlM (depthAfter level) 0 = some 0

instance (level : Nat) (lines : List String) : Decidable (WellNested level lines) :=
  inferInstanceAs (Decidable (_ = _))

theorem Flush.indentation_spaces {text : String} (h : Flush text) (n : Nat) :
    indentation (spaces n ++ text).toList = n := by
  have hdrop : (spaces n ++ text).toList.dropWhile (· == ' ') = text.toList := by
    have hunindented := congrArg String.toList (unindented_spaces n text)
    rwa [h.unindented_eq, unindented, String.toList_ofList] at hunindented
  rw [indentation, hdrop, String.toList_append, toList_spaces, List.length_append, List.length_replicate]
  omega

/-- A line of code is read as it is nested. -/
theorem depthAfter_line {line : CodeLine} (h : Flush line.text) (level : Nat) :
    depthAfter level (line.depth + (closesBlock line.text).toNat)
      (if line.text.isEmpty then "" else spaces (2 * (level + line.depth)) ++ line.text) =
        some (line.depth + (opensBlock line.text).toNat) := by
  by_cases hempty : line.text = ""
  · rw [hempty]
    have hplain : closesBlock "" = false ∧ opensBlock "" = false := by decide
    have hblank : unindented "" = "" := rfl
    simp [depthAfter, hplain, hblank]
  · have hfilled : ¬ line.text.isEmpty = true := by simpa using hempty
    rw [if_neg hfilled, depthAfter, unindented_spaces, h.unindented_eq, h.indentation_spaces]
    cases closesBlock line.text <;> simp

namespace Code

/-- Reading the lines of code counts the same blocks as its braces. -/
theorem foldlM_lines {code : Code} (hflush : Each Flush code) (level : Nat) {before after : Nat}
    (h : levelAfter before code = some after) : (code.lines level).foldlM (depthAfter level) before = some after := by
  induction code generalizing before with
  | nil => exact h
  | cons line code ih =>
      obtain ⟨hline, hcode⟩ := List.forall_mem_cons.mp hflush
      rw [levelAfter] at h
      split_ifs at h with hbefore
      rw [Code.lines, List.map_cons, List.foldlM_cons, hbefore, depthAfter_line hline]
      exact ih hcode h

theorem Nests.wellNested {code : Code} (h : Nests code) (hflush : Each Flush code) (level : Nat) :
    WellNested level (code.lines level) := foldlM_lines hflush level h

theorem nests_flatMap {α : Type} {f : α → Code} (h : ∀ a, Nests (f a)) (as : List α) : Nests (as.flatMap f) := by
  induction as with
  | nil => exact nests_nil
  | cons a as ih => exact (h a).append ih

theorem nests_paragraphs {α : Type} {f : α → Code} (h : ∀ a, Nests (f a)) (as : List α) :
    Nests (paragraphs (as.map f)) := by
  have hgap : Nests (flat [""]) := nests_flat (List.forall_mem_singleton.mpr (by decide))
  induction as with
  | nil => exact nests_nil
  | cons a as ih =>
      cases as with
      | nil =>
          change Nests (f a ++ [])
          exact (h a).append nests_nil
      | cons b as => exact (h a).append (hgap.append ih)

end Code

end Js

theorem nests_guarded (condition : String) {body : Code} (h : Nests body) : Nests (guarded condition body) := by
  unfold guarded
  exact nests_block (closesBlock_if _ _) (opensBlock_if _ (by decide) (by decide)) h (by decide) (by decide)

theorem nests_locationBlock (t : Target) (comments : Bool) (b : LocationBlock) : Nests (b.code t comments) := by
  unfold LocationBlock.code
  refine ((nests_commentCode comments _).append ?_).append (nests_guarded _ (nests_codeAll t comments b.body))
  split_ifs
  · exact nests_commentCode comments _
  · exact nests_nil

theorem nests_serverBlock (t : Target) (comments : Bool) (b : ServerBlock) : Nests (b.code t comments) := by
  unfold ServerBlock.code
  exact (nests_commentCode comments _).append
    (nests_guarded _ (nests_flatMap (nests_locationBlock t comments) b.locations))

theorem nests_routeBlock (t : Target) (comments : Bool) (b : RouteBlock) : Nests (b.code t comments) := by
  unfold RouteBlock.code
  exact (nests_commentCode comments _).append (nests_guarded _ (nests_codeAll t comments b.body))

/-- The lines of emitted code are well nested on every level, for whatever is done about the locations: the text of the
server blocks is that of well nested lines, and so is the text of the blocks that are chosen by their route. -/
theorem emitted_lines_nested (g : Generator) (action : Action) (level : Nat) :
    (∀ text, (g.routing action level).result = .ok text →
      ∃ blocks, (g.serverBlocks action).result = .ok blocks ∧
        let lines := (paragraphs (blocks.map (ServerBlock.code g.target g.options.comments))).lines level
        text = Text.joined "\n" lines ∧ WellNested level lines) ∧
    (∀ text, (g.routes action level).result = .ok text →
      ∃ blocks, (g.routeBlocks action).result = .ok blocks ∧
        let lines := (paragraphs (blocks.map (RouteBlock.code g.target g.options.comments))).lines level
        text = Text.joined "\n" lines ∧ WellNested level lines) := by
  constructor
  · intro text h
    rw [Generator.routing, Logged.result_bind] at h
    obtain ⟨blocks, hblocks, h⟩ := bind_eq_ok_iff.mp h
    cases h
    have hnests := nests_paragraphs (nests_serverBlock g.target g.options.comments) blocks
    have hcommented := Commented.paragraphs blocks fun b _ => commented_serverBlock g.target g.options.comments b
    exact ⟨blocks, hblocks, rfl, hnests.wellNested hcommented.flush level⟩
  · intro text h
    rw [Generator.routes, Logged.result_bind] at h
    obtain ⟨blocks, hblocks, h⟩ := bind_eq_ok_iff.mp h
    cases h
    have hnests := nests_paragraphs (nests_routeBlock g.target g.options.comments) blocks
    have hcommented := Commented.paragraphs blocks fun b _ => commented_routeBlock g.target g.options.comments b
    exact ⟨blocks, hblocks, rfl, hnests.wellNested hcommented.flush level⟩

/-- A location whose pattern and comments are full of braces, which proxies below the path of its upstream. -/
def braced : Config where
  servers := [{
    names := ["*.\x7b"]
    locations := [
      { path := "\x7d\x7b", modifier := some .priority
        directives := { proxyPass := some "http://app/\x7b", rewrites := [
          { regex := "^/\x7b", replacement := "\x7d", flags := [.last] }, { regex := "\x7d", replacement := "/" }] } }] }]

theorem emitted_lines_nested_braced :
    ∃ viewer request,
      (Generator.routing ⟨.worker, braced, {}⟩ (locationBody .worker) 3).result = .ok viewer ∧
      (Generator.routes ⟨.edgeHook, braced, {}⟩ originRequestBody 0).result = .ok request ∧
      (∃ lines, viewer = Text.joined "\n" lines ∧ WellNested 3 lines) ∧
      ∃ lines, request = Text.joined "\n" lines ∧ WellNested 0 lines := by
  obtain ⟨viewer, hviewer⟩ := Option.isSome_iff_exists.mp
    (show (Generator.routing ⟨.worker, braced, {}⟩ (locationBody .worker) 3).result.toOption.isSome = true by
      decide +kernel)
  obtain ⟨request, hrequest⟩ := Option.isSome_iff_exists.mp
    (show (Generator.routes ⟨.edgeHook, braced, {}⟩ originRequestBody 0).result.toOption.isSome = true by
      decide +kernel)
  rw [toOption_eq_some_iff] at hviewer hrequest
  obtain ⟨_, _, hjoined, hnested⟩ := (emitted_lines_nested ⟨.worker, braced, {}⟩ _ 3).1 viewer hviewer
  obtain ⟨_, _, hjoined', hnested'⟩ := (emitted_lines_nested ⟨.edgeHook, braced, {}⟩ _ 0).2 request hrequest
  exact ⟨viewer, request, hviewer, hrequest, ⟨_, hjoined, hnested⟩, _, hjoined', hnested'⟩

end EdgeRoutes
