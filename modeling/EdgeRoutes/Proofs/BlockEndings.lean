import EdgeRoutes.Proofs.ClassReading
import EdgeRoutes.Proofs.RequestRouting

/-! How blocks end. The code of a location, and that of a block of a later phase, closes with a return that stands outside
all braces. So a request that enters a block is ended there, and no block after it sees the request. -/

namespace EdgeRoutes

open Js

namespace Text

theorem endsWith_append {b : String} (hb : b ≠ "") (a : String) (mark : Char) :
    endsWith (a ++ b) mark = endsWith b mark := by
  have hne : b.toList ≠ [] := fun h => hb (String.toList_eq_nil_iff.mp h)
  rw [endsWith, endsWith, String.toList_append, List.getLast?_append_of_ne_nil _ hne]

theorem startsWith_append {a mark : String} (h : startsWith a mark = true) (b : String) :
    startsWith (a ++ b) mark = true := by
  rw [startsWith_iff] at h ⊢
  rw [String.toList_append]
  exact h.trans (List.prefix_append _ _)

end Text

namespace Js

/-- The line starts with the brace that ends a block. -/
def closesBlock (line : String) : Bool := line.toList.head? == some '\x7d'

/-- The line ends in the brace that begins a block. In a comment a brace begins nothing. -/
def opensBlock (line : String) : Bool := Text.endsWith line '\x7b' && !Text.startsWith line "//"

/-- The line neither begins nor ends a block. -/
def Plain (line : String) : Prop := closesBlock line = false ∧ opensBlock line = false

instance (line : String) : Decidable (Plain line) := inferInstanceAs (Decidable (_ ∧ _))

/-- What a line starts with and what it ends in decide whether it is plain. -/
theorem plain_append {first last : String} (hfirst : first ≠ "" ∧ closesBlock first = false)
    (hlast : last ≠ "" ∧ Text.endsWith last '\x7b' = false) (middle : String) : Plain (first ++ middle ++ last) := by
  have hne : first.toList ≠ [] := fun h => hfirst.1 (String.toList_eq_nil_iff.mp h)
  constructor
  · rw [closesBlock, String.append_assoc, String.toList_append, List.head?_append_of_ne_nil _ hne]
    exact hfirst.2
  · rw [opensBlock, Text.endsWith_append hlast.1, hlast.2, Bool.false_and]

theorem plain_comment (text : String) : Plain ("// " ++ text) := by
  constructor
  · simp [closesBlock]
  · rw [opensBlock, Text.startsWith_append (by decide +kernel), Bool.not_true, Bool.and_false]

namespace Code

/-- The number of braces that are open after the code, `level` of them being open before it. There is none if a line is
deeper, or less deep, than braces are open around it. -/
def levelAfter (level : Nat) : Code → Option Nat
  | [] => some level
  | line :: rest =>
    if level = line.depth + (closesBlock line.text).toNat then
      levelAfter (line.depth + (opensBlock line.text).toNat) rest
    else none

/-- Each line is as deep as braces are open around it, and in the end none is open. -/
def Nests (code : Code) : Prop := levelAfter 0 code = some 0

theorem levelAfter_append (level : Nat) (a b : Code) :
    levelAfter level (a ++ b) = (levelAfter level a).bind fun next => levelAfter next b := by
  induction a generalizing level with
  | nil => rfl
  | cons line a ih =>
      rw [List.cons_append, levelAfter, levelAfter]
      split_ifs
      · exact ih _
      · rfl

theorem levelAfter_nested (level : Nat) (code : Code) :
    levelAfter (level + 1) (nested code) = (levelAfter level code).map (· + 1) := by
  induction code generalizing level with
  | nil => rfl
  | cons line code ih =>
      have hcons : nested (line :: code) = ⟨line.depth + 1, line.text⟩ :: nested code := rfl
      rw [hcons, levelAfter, levelAfter]
      simp only [Nat.add_right_comm _ 1, Nat.add_right_cancel_iff, ih]
      split_ifs <;> rfl

theorem Nests.append {a b : Code} (ha : Nests a) (hb : Nests b) : Nests (a ++ b) := by
  rw [Nests, levelAfter_append, ha]
  exact hb

theorem Nests.levelAfter_nested {code : Code} (h : Nests code) : levelAfter 1 (nested code) = some 1 := by
  rw [Code.levelAfter_nested 0, h]
  rfl

theorem nests_nil : Nests [] := rfl

theorem nests_flat {lines : List String} (h : ∀ line ∈ lines, Plain line) : Nests (flat lines) := by
  induction lines with
  | nil => rfl
  | cons line lines ih =>
      obtain ⟨⟨hcloses, hopens⟩, hrest⟩ := List.forall_mem_cons.mp h
      have hcons : flat (line :: lines) = ⟨0, line⟩ :: flat lines := rfl
      rw [Nests, hcons, levelAfter, hcloses, hopens]
      exact ih hrest

/-- Up to its last line, a block has one brace open. Its first line may close one that was open before it. -/
theorem levelAfter_inside {opening : String} {body : Code} (hopens : opensBlock opening = true) (hbody : Nests body) :
    levelAfter (closesBlock opening).toNat (flat [opening] ++ nested body) = some 1 := by
  have hfirst : levelAfter (closesBlock opening).toNat (flat [opening]) = some 1 := by
    simp [flat, levelAfter, hopens]
  rw [levelAfter_append, hfirst, Option.bind_some, hbody.levelAfter_nested]

theorem levelAfter_block {opening closing : String} {body : Code} (hopens : opensBlock opening = true) (hbody : Nests body)
    (hcloses : closesBlock closing = true) (hlast : opensBlock closing = false) :
    levelAfter (closesBlock opening).toNat (block opening body closing) = some 0 := by
  have hend : levelAfter 1 (flat [closing]) = some 0 := by
    simp [flat, levelAfter, hcloses, hlast]
  rw [block, levelAfter_append, levelAfter_inside hopens hbody, Option.bind_some, hend]

theorem nests_block {opening closing : String} {body : Code} (hfirst : closesBlock opening = false)
    (hopens : opensBlock opening = true) (hbody : Nests body) (hcloses : closesBlock closing = true)
    (hlast : opensBlock closing = false) : Nests (block opening body closing) := by
  have hblock := levelAfter_block hopens hbody hcloses hlast
  rwa [hfirst] at hblock

/-- A return statement, on one line or with lines in braces. -/
inductive IsReturn : Code → Prop where
  | line {text : String} (hstart : Text.startsWith text "return " = true) (hend : Text.endsWith text ';' = true) :
      IsReturn (flat [text])
  | lines {opening closing : String} {body : Code} (hstart : Text.startsWith opening "return " = true)
      (hopens : opensBlock opening = true) (hbody : Nests body) (hcloses : closesBlock closing = true)
      (hend : Text.endsWith closing ';' = true) : IsReturn (block opening body closing)

theorem closesBlock_of_return {line : String} (h : Text.startsWith line "return " = true) : closesBlock line = false := by
  have hmark : "return ".toList = 'r' :: "eturn ".toList := rfl
  rw [Text.startsWith, hmark] at h
  rw [closesBlock]
  cases hline : line.toList with
  | nil => rfl
  | cons c cs =>
      rw [hline, Text.starts, Text.after?] at h
      split_ifs at h with hc
      · rw [← hc]
        rfl
      · cases h

theorem opensBlock_of_semicolon {line : String} (h : Text.endsWith line ';' = true) : opensBlock line = false := by
  have hlast : Text.endsWith line '\x7b' = false := by
    rw [Text.endsWith, beq_iff_eq] at h
    rw [Text.endsWith, h]
    rfl
  rw [opensBlock, hlast, Bool.false_and]

theorem IsReturn.nests {code : Code} (h : IsReturn code) : Nests code := by
  cases h with
  | line hstart hend =>
      refine nests_flat (List.forall_mem_singleton.mpr ?_)
      exact ⟨closesBlock_of_return hstart, opensBlock_of_semicolon hend⟩
  | lines hstart hopens hbody hcloses hend =>
      exact nests_block (closesBlock_of_return hstart) hopens hbody hcloses (opensBlock_of_semicolon hend)

/-- The last statement of the code is a return, and all braces before it are closed. -/
def EndsInReturn (code : Code) : Prop :=
  ∃ before last, code = before ++ last ∧ Nests before ∧ IsReturn last

theorem EndsInReturn.append_left {before code : Code} (hbefore : Nests before) (h : EndsInReturn code) :
    EndsInReturn (before ++ code) := by
  obtain ⟨more, last, rfl, hmore, hlast⟩ := h
  exact ⟨before ++ more, last, (List.append_assoc _ _ _).symm, hbefore.append hmore, hlast⟩

theorem EndsInReturn.nests {code : Code} (h : EndsInReturn code) : Nests code := by
  obtain ⟨before, last, rfl, hbefore, hlast⟩ := h
  exact hbefore.append hlast.nests

theorem IsReturn.endsInReturn {code : Code} (h : IsReturn code) : EndsInReturn code :=
  ⟨[], code, rfl, nests_nil, h⟩

end Code

end Js

open Js.Code

theorem plain_setHeader (headers name value : String) : Plain (setHeader headers name value) := by
  unfold setHeader
  constructor
  · simp [closesBlock]
  · rw [opensBlock, Text.endsWith_append (by decide)]
    rfl

/-- What a line starts with and what it ends in decide whether it is a return. -/
theorem isReturn_append {first last : String} (hstart : Text.startsWith first "return " = true) (hne : last ≠ "")
    (hend : Text.endsWith last ';' = true) : IsReturn (flat [first ++ last]) := by
  refine .line (Text.startsWith_append hstart last) ?_
  rw [Text.endsWith_append hne]
  exact hend

theorem isReturn_returnWithHeaders (response : String) (headers : Fields String) :
    IsReturn (flat [returnWithHeaders response headers]) := by
  unfold returnWithHeaders
  refine isReturn_append ?_ (by decide +kernel) (by decide +kernel)
  iterate 3 refine Text.startsWith_append ?_ _
  decide +kernel

theorem isReturn_returnResponse (helper : String) (args : List String) (headers : Fields String) :
    IsReturn (flat [returnResponse helper args headers]) := by
  unfold returnResponse
  refine isReturn_append ?_ (by decide +kernel) (by decide +kernel)
  iterate 3 refine Text.startsWith_append ?_ _
  decide +kernel

theorem isReturn_forwardStatement (route : Route) : IsReturn (flat [forwardStatement route]) := by
  unfold forwardStatement
  refine isReturn_append (Text.startsWith_append ?_ _) (by decide +kernel) (by decide +kernel)
  decide +kernel

theorem isReturn_redirectStatement (target : Target) (url : String) (code : Nat) (headers : Fields String) :
    IsReturn (flat [redirectStatement target url code headers]) := by
  cases target with
  | middleware => exact isReturn_returnWithHeaders _ headers
  | worker | edgeHook | minimal => exact isReturn_returnResponse _ _ headers

theorem isReturn_respondStatement (target : Target) (code : Nat) (body : Body) (headers : Fields String) :
    IsReturn (flat [respondStatement target code body headers]) := by
  cases target with
  | worker | middleware => exact isReturn_returnWithHeaders _ headers
  | edgeHook | minimal => exact isReturn_returnResponse _ _ headers

theorem endsInReturn_proxyCall {opening : String} {upstream : List String} (hupstream : ∀ line ∈ upstream, Plain line)
    (p : Proxy) (headers : Fields String) : EndsInReturn (proxyCall opening upstream p headers) := by
  have hlines : ∀ line ∈ upstream ++ ["uri: " ++ p.uri.literal ++ ",", "prefix: " ++ string p.mount ++ ",",
      "headers: " ++ objectLiteral p.headers ++ ","], Plain line := by
    simp only [List.forall_mem_append, List.forall_mem_cons]
    exact ⟨hupstream, plain_append (by decide) (by decide) _, plain_append (by decide) (by decide) _,
      plain_append (by decide) (by decide) _, by simp⟩
  refine EndsInReturn.append_left (nests_block ?_ ?_ (nests_flat hlines) (by decide) (by decide))
    (isReturn_returnWithHeaders _ headers).endsInReturn
  · simp [closesBlock]
  · rw [opensBlock, Text.endsWith_append (by decide)]
    simp [Text.startsWith, Text.starts, Text.after?]
    decide

/-- Code that sends a request to an upstream returns its response. -/
theorem endsInReturn_proxyCode (target : Target) (p : Proxy) (route : Route) (headers : Fields String) :
    EndsInReturn (proxyCode target p route headers) := by
  cases target with
  | worker =>
      refine endsInReturn_proxyCall ?_ p headers
      rw [List.forall_mem_singleton]
      exact plain_append (by decide) (by decide) _
  | minimal =>
      refine endsInReturn_proxyCall ?_ p headers
      rw [List.forall_mem_cons, List.forall_mem_singleton]
      exact ⟨plain_append (by decide) (by decide) _, plain_append (by decide) (by decide) _⟩
  | edgeHook => exact (isReturn_forwardStatement route).endsInReturn
  | middleware =>
      refine EndsInReturn.append_left (nests_flat ?_) (IsReturn.endsInReturn (.lines ?_ ?_ (nests_flat ?_) ?_ ?_))
      · rw [List.forall_mem_cons, List.forall_mem_cons, List.forall_mem_singleton]
        exact ⟨plain_append (by decide +kernel) (by decide) _, plain_append (by decide +kernel) (by decide) _,
          by decide +kernel⟩
      · decide +kernel
      · decide +kernel
      · rw [List.forall_mem_singleton]
        exact plain_append (by decide +kernel) (by decide +kernel) _
      · simp [closesBlock]
      · rw [Text.endsWith_append (by decide)]
        decide

theorem endsInReturn_forwardCode (target : Target) (rewrites : Bool) (route : Route) (headers : Fields String) :
    EndsInReturn (forwardCode target rewrites route headers) := by
  cases target with
  | worker =>
      have hfetch : Nests (flat
          ["const response = await fetch(new Request(new URL(path + url.search, url), request));"]) :=
        nests_flat (List.forall_mem_singleton.mpr (by decide +kernel))
      exact (isReturn_returnWithHeaders _ headers).endsInReturn.append_left hfetch
  | edgeHook => exact (isReturn_forwardStatement route).endsInReturn
  | middleware | minimal => exact (isReturn_returnWithHeaders _ headers).endsInReturn

theorem nests_assignment (u : UriPart) (mount : String) : Nests (u.assignment mount) := by
  have hassign : ∀ uri, Nests (flat ["request.uri = " ++ replacedMount uri mount ++ ";"]) := by
    intro uri
    refine nests_flat ?_
    rw [List.forall_mem_singleton]
    exact plain_append (by decide) (by decide) _
  cases u with
  | keep => exact nests_nil
  | replace uri => exact hassign uri
  | replaceUnlessRewritten uri =>
      exact nests_block (by decide +kernel) (by decide +kernel) (hassign uri) (by decide) (by decide)

theorem nests_setHeaders (receiver : String) (headers : Fields String) :
    Nests (flat (headers.map fun (name, value) => setHeader receiver name (expanded (string value)))) := by
  refine nests_flat fun line hline => ?_
  obtain ⟨entry, -, rfl⟩ := List.mem_map.mp hline
  exact plain_setHeader _ _ _

theorem endsInReturn_customOrigin (o : CustomOrigin) : EndsInReturn o.code := by
  have hcustom : ∀ line ∈ ["domainName: " ++ string o.target.host ++ ",", "port: " ++ toString o.target.port ++ ",",
      "protocol: " ++ string o.target.scheme ++ ",", "path: \"\",", "sslProtocols: [\"TLSv1.2\"],",
      "readTimeout: " ++ toString o.readTimeout ++ ",", "keepaliveTimeout: 5,", "customHeaders: \x7b\x7d,"],
      Plain line := by
    simp only [List.forall_mem_cons]
    exact ⟨plain_append (by decide) (by decide) _, plain_append (by decide) (by decide) _,
      plain_append (by decide) (by decide) _, by decide +kernel, by decide +kernel,
      plain_append (by decide) (by decide) _, by decide +kernel, by decide +kernel, by simp⟩
  have horigin : Nests (block "request.origin = \x7b" (block "custom: \x7b" _ "\x7d,") "\x7d;") :=
    nests_block (by decide +kernel) (by decide +kernel)
      (nests_block (by decide) (by decide) (nests_flat hcustom) (by decide) (by decide)) (by decide) (by decide)
  have hheaders := nests_setHeaders "request.headers" o.headers
  have hhost : Nests (flat [setHeader "request.headers" "Host" (string o.target.host)]) :=
    nests_flat (List.forall_mem_singleton.mpr (plain_setHeader _ _ _))
  exact EndsInReturn.append_left ((horigin.append (hhost.append hheaders)).append (nests_assignment o.uri o.mount))
    (IsReturn.endsInReturn (.line (by decide) (by decide)))

/-- Whatever an ending is, on every target its code closes with a return. -/
theorem endsInReturn_ending (target : Target) (ending : Ending) : EndsInReturn (ending.code target) := by
  cases ending with
  | redirect destination code headers => exact (isReturn_redirectStatement target _ code headers).endsInReturn
  | respond code body headers => exact (isReturn_respondStatement target code body headers).endsInReturn
  | proxy p route headers => exact endsInReturn_proxyCode target p route headers
  | forward rewrites route headers => exact endsInReturn_forwardCode target rewrites route headers
  | customOrigin origin => exact endsInReturn_customOrigin origin
  | passResponse headers =>
      rw [Ending.code, flat, List.map_append]
      exact EndsInReturn.append_left (nests_setHeaders "response.headers" headers)
        (IsReturn.endsInReturn (.line (by decide) (by decide)))

theorem closesBlock_if (condition last : String) : closesBlock ("if (" ++ condition ++ last) = false := by
  simp [closesBlock]

theorem opensBlock_if (condition : String) {last : String} (hne : last ≠ "") (hlast : Text.endsWith last '\x7b' = true) :
    opensBlock ("if (" ++ condition ++ last) = true := by
  rw [opensBlock, Text.endsWith_append hne, hlast]
  simp [Text.startsWith, Text.starts, Text.after?]

theorem closesBlock_opening (p : PathPattern) : closesBlock p.opening = false := closesBlock_if _ _

theorem opensBlock_opening (p : PathPattern) : opensBlock p.opening = true := opensBlock_if _ (by decide) (by decide)

theorem nests_commentCode (comments : Bool) (text : String) : Nests (commentCode comments text) := by
  unfold commentCode
  split_ifs
  · exact nests_flat (List.forall_mem_singleton.mpr (plain_comment text))
  · exact nests_nil

mutual

/-- The code of a statement closes the braces that it opens. -/
theorem nests_code (target : Target) (comments : Bool) : (s : Statement) → Nests (s.code target comments)
  | .comment text => by
      rw [Statement.code]
      exact nests_commentCode comments text
  | .rewrite s => by
      rw [Statement.code, Substitution.code]
      refine nests_flat ?_
      rw [List.forall_mem_cons, List.forall_mem_cons, List.forall_mem_singleton]
      exact ⟨by decide, plain_append (by decide) (by decide) _, by decide⟩
  | .branch p body none => by
      rw [Statement.code]
      exact nests_block (closesBlock_opening p) (opensBlock_opening p) (nests_codeAll target comments body) (by decide)
        (by decide)
  | .branch p body (some otherwise) => by
      have hbody := levelAfter_inside (opensBlock_opening p) (nests_codeAll target comments body)
      -- the line between the two branches closes the brace of the first and opens that of the second
      have hotherwise : levelAfter (closesBlock "\x7d else \x7b").toNat
          (block "\x7d else \x7b" (Statement.codeAll target comments otherwise) "\x7d") = some 0 :=
        levelAfter_block (by decide) (nests_codeAll target comments otherwise) (by decide) (by decide)
      rw [closesBlock_opening] at hbody
      rw [Statement.code, Nests, levelAfter_append]
      exact (congrArg (Option.bind · _) hbody).trans hotherwise
  | .finish ending => by
      rw [Statement.code]
      exact (endsInReturn_ending target ending).nests

theorem nests_codeAll (target : Target) (comments : Bool) : (body : List Statement) →
    Nests (Statement.codeAll target comments body)
  | [] => by
      rw [Statement.codeAll]
      exact nests_nil
  | s :: ss => by
      rw [Statement.codeAll]
      exact (nests_code target comments s).append (nests_codeAll target comments ss)

end

theorem Closes.endsInReturn {body : List Statement} (h : Closes body) (target : Target) (comments : Bool) :
    EndsInReturn (Statement.codeAll target comments body) := by
  obtain ⟨before, ending, rfl⟩ := h
  rw [codeAll_append, Statement.codeAll, Statement.codeAll, List.append_nil, Statement.code]
  exact (endsInReturn_ending target ending).append_left (nests_codeAll target comments before)

theorem closes_of_originRequestBody {site : Site} {body : List Statement}
    (h : (originRequestBody site).result = .ok body) : body = [] ∨ Closes body := by
  rcases originRequestBody_cases h with ⟨-, hnil⟩ | ⟨url, -, -, ⟨reason, -, rfl⟩ | ⟨text, origin, rfl⟩⟩
  · exact Or.inl hnil
  · exact Or.inr (closes_degraded url reason)
  · exact Or.inr ⟨[_], _, rfl⟩

theorem closes_of_originResponseBody {site : Site} {body : List Statement}
    (h : (originResponseBody site).result = .ok body) : body = [] ∨ Closes body := by
  rw [originResponseBody, Logged.result_bind] at h
  obtain ⟨headers, -, h⟩ := bind_eq_ok_iff.mp h
  cases hempty : headers.isEmpty <;> rw [hempty] at h <;> cases h
  · exact Or.inr (closes_finish _)
  · exact Or.inl rfl

/-- The blocks of a later phase close with an ending if the statements of the phase do, where it has any. -/
theorem closes_of_routeBlocks {g : Generator} {action : Action} {blocks : List RouteBlock}
    (haction : ∀ site body, (action site).result = .ok body → body = [] ∨ Closes body)
    (h : (g.routeBlocks action).result = .ok blocks) : ∀ b ∈ blocks, Closes b.body := by
  intro b hb
  obtain ⟨site, hsite, hblock⟩ := exists_left_of_forall₂ (routeBlockOf_of_routeBlocks h) hb
  rcases haction site b.body hblock.body with hnil | hcloses
  · have hacts := (List.mem_filter.mp hsite).2
    rw [Action.acts, hblock.body, hnil] at hacts
    cases hacts
  · exact hcloses

/-- What the block for a route does with a request that carries a route. -/
def RouteBlock.run (e : Engine) (route : String) (b : RouteBlock) (r : RequestState) : Passage :=
  if route == b.route.id then ⟨[b.route], Statement.runAll e b.body r⟩ else .idle r

/-- What the blocks of a later phase do one after the other. -/
def RouteBlock.runAll (e : Engine) (route : String) : List RouteBlock → RequestState → Passage
  | [], r => .idle r
  | b :: bs, r => (b.run e route r).followedBy (RouteBlock.runAll e route bs)

/-- Blocks leave a request alone, or one of them takes it: its statements run, they end the request, and no other block
is entered. -/
def ActsOnce (e : Engine) (enters : Route → List Statement → Prop) (r : RequestState) (passage : Passage) : Prop :=
  passage = .idle r ∨ ∃ route body, enters route body ∧ passage = ⟨[route], Statement.runAll e body r⟩ ∧
    passage.verdict.Ends

namespace ActsOnce

variable {e : Engine} {enters enters' : Route → List Statement → Prop} {r : RequestState} {p : Passage}

theorem imp (h : ActsOnce e enters r p) (himp : ∀ route body, enters route body → enters' route body) :
    ActsOnce e enters' r p := by
  rcases h with hidle | ⟨route, body, henters, hpassage⟩
  · exact Or.inl hidle
  · exact Or.inr ⟨route, body, himp route body henters, hpassage⟩

/-- Blocks that come after a block that has taken the request do nothing. -/
theorem followedBy (h : ActsOnce e enters r p) {next : RequestState → Passage} (hnext : ActsOnce e enters r (next r)) :
    ActsOnce e enters r (p.followedBy next) := by
  rcases h with rfl | ⟨route, body, henters, hpassage, hends⟩
  · rw [Passage.idle_followedBy]
    exact hnext
  · rw [Passage.followedBy_of_ends hends]
    exact Or.inr ⟨route, body, henters, hpassage, hends⟩

end ActsOnce

section Runs

variable (e : Engine) (r : RequestState)

theorem LocationBlock.actsOnce {blocks : List LocationBlock} (h : ∀ b ∈ blocks, Closes b.body) :
    ActsOnce e (fun route body => ∃ b ∈ blocks, b.condition.holds e r.path = true ∧ b.route = route ∧ b.body = body) r
      (LocationBlock.runAll e blocks r) := by
  rw [runAll_locationBlocks e h]
  cases hfound : blocks.find? (·.condition.holds e r.path) with
  | none => exact Or.inl rfl
  | some b =>
      have hmem := List.mem_of_find?_eq_some hfound
      have hholds : b.condition.holds e r.path = true := by simpa using List.find?_some hfound
      exact Or.inr ⟨b.route, b.body, ⟨b, hmem, hholds, rfl, rfl⟩, rfl, (h b hmem).ends e r⟩

/-- The block of a location is entered on a request: its own condition and that of its server hold. -/
def ServerBlock.Enters (host : String) (blocks : List ServerBlock) (route : Route) (body : List Statement) : Prop :=
  ∃ b ∈ blocks, b.condition.holds e host = true ∧
    ∃ block ∈ b.locations, block.condition.holds e r.path = true ∧ block.route = route ∧ block.body = body

theorem ServerBlock.actsOnce (host : String) {blocks : List ServerBlock}
    (h : ∀ b ∈ blocks, ∀ block ∈ b.locations, Closes block.body) :
    ActsOnce e (ServerBlock.Enters e r host blocks) r (ServerBlock.runAll e host blocks r) := by
  induction blocks with
  | nil => exact Or.inl rfl
  | cons b bs ih =>
      obtain ⟨hb, hbs⟩ := List.forall_mem_cons.mp h
      rw [ServerBlock.runAll]
      have hrest : ActsOnce e (ServerBlock.Enters e r host (b :: bs)) r (ServerBlock.runAll e host bs r) := by
        refine (ih hbs).imp fun route body henters => ?_
        obtain ⟨b', hb', henters⟩ := henters
        exact ⟨b', List.mem_cons_of_mem b hb', henters⟩
      refine ActsOnce.followedBy ?_ hrest
      rw [ServerBlock.run]
      split_ifs with hhost
      · exact (LocationBlock.actsOnce e r hb).imp fun route body henters => ⟨b, List.mem_cons_self, hhost, henters⟩
      · exact Or.inl rfl

/-- The block for a route is entered on a request: the request carries the route. -/
def RouteBlock.Enters (route : String) (blocks : List RouteBlock) (r' : Route) (body : List Statement) : Prop :=
  ∃ b ∈ blocks, b.route.id = route ∧ b.route = r' ∧ b.body = body

theorem RouteBlock.actsOnce (route : String) {blocks : List RouteBlock} (h : ∀ b ∈ blocks, Closes b.body) :
    ActsOnce e (RouteBlock.Enters route blocks) r (RouteBlock.runAll e route blocks r) := by
  induction blocks with
  | nil => exact Or.inl rfl
  | cons b bs ih =>
      obtain ⟨hb, hbs⟩ := List.forall_mem_cons.mp h
      rw [RouteBlock.runAll]
      have hrest : ActsOnce e (RouteBlock.Enters route (b :: bs)) r (RouteBlock.runAll e route bs r) := by
        refine (ih hbs).imp fun r' body henters => ?_
        obtain ⟨b', hb', henters⟩ := henters
        exact ⟨b', List.mem_cons_of_mem b hb', henters⟩
      refine ActsOnce.followedBy ?_ hrest
      rw [RouteBlock.run]
      split_ifs with hroute
      · exact Or.inr ⟨b.route, b.body, ⟨b, List.mem_cons_self, (beq_iff_eq.mp hroute).symm, rfl, rfl⟩, rfl, hb.ends e r⟩
      · exact Or.inl rfl

end Runs

/-- What a later phase writes into the file: blocks that end in a return, of which a request enters one at most. -/
def PhaseReturns (config : Config) (options : Options) (action : Action) (text : Data) : Prop :=
  ∃ blocks, (Generator.routeBlocks ⟨.edgeHook, config, options⟩ action).result = .ok blocks ∧
    text = .text (RouteBlock.text .edgeHook options.comments blocks 1) ∧
    (∀ b ∈ blocks, EndsInReturn (Statement.codeAll .edgeHook options.comments b.body)) ∧
    ∀ e route r, ActsOnce e (RouteBlock.Enters route blocks) r (RouteBlock.runAll e route blocks r)

theorem phaseReturns_of_routeBlocks {config : Config} {options : Options} {action : Action} {blocks : List RouteBlock}
    (haction : ∀ site body, (action site).result = .ok body → body = [] ∨ Closes body)
    (h : (Generator.routeBlocks ⟨.edgeHook, config, options⟩ action).result = .ok blocks) :
    PhaseReturns config options action (.text (RouteBlock.text .edgeHook options.comments blocks 1)) := by
  have hcloses := closes_of_routeBlocks haction h
  exact ⟨blocks, h, rfl, fun b hb => (hcloses b hb).endsInReturn _ _, fun e route r => RouteBlock.actsOnce e r route hcloses⟩

/-- Every block in the routing code of a target, and in the later phases of a delivery network, closes with a return
outside all braces. So of all blocks at most one is entered on a request, and that one ends the request. -/
theorem at_most_one_block_acts (config : Config) (options : Options) (t : Target) {context : Template.Context}
    (h : (Generator.sections ⟨t, config, options⟩).result = .ok context) :
    (∃ blocks, (Generator.serverBlocks ⟨t, config, options⟩ (locationBody t)).result = .ok blocks ∧
      context.get? t.routingKey = some (.text (ServerBlock.text t options.comments blocks 1)) ∧
      (∀ b ∈ blocks, ∀ block ∈ b.locations, EndsInReturn (Statement.codeAll t options.comments block.body)) ∧
      ∀ e host r, ActsOnce e (ServerBlock.Enters e r host blocks) r (ServerBlock.runAll e host blocks r)) ∧
    (t = .edgeHook →
      (∃ text, context.get? "origin_request" = some text ∧ PhaseReturns config options originRequestBody text) ∧
      ∃ text, context.get? "origin_response" = some text ∧ PhaseReturns config options originResponseBody text) := by
  constructor
  · obtain ⟨blocks, hblocks, htext⟩ := serverBlocks_of_sections h
    have hcloses : ∀ b ∈ blocks, ∀ block ∈ b.locations, Closes block.body := by
      intro b hb
      obtain ⟨s, -, hserver⟩ := exists_left_of_forall₂ (serverBlockOf_of_serverBlocks hblocks) hb
      exact hserver.closes
    exact ⟨blocks, hblocks, htext, fun b hb block hblock => (hcloses b hb block hblock).endsInReturn t options.comments,
      fun e host r => ServerBlock.actsOnce e r host hcloses⟩
  · rintro rfl
    obtain ⟨viewer, request, response, rfl, -, hrequest, hresponse⟩ := blocks_of_sections h
    exact ⟨⟨_, rfl, phaseReturns_of_routeBlocks (fun _ _ => closes_of_originRequestBody) hrequest⟩,
      ⟨_, rfl, phaseReturns_of_routeBlocks (fun _ _ => closes_of_originResponseBody) hresponse⟩⟩

/-- Two servers, with a location for a pattern that proxies and one that rewrites before it hands requests on. -/
theorem at_most_one_block_acts_patterned :
    ∃ context blocks text,
      (Generator.sections ⟨.edgeHook, patterned, {}⟩).result = .ok context ∧ blocks.length = 2 ∧
        context.get? "viewer_request" = some (.text (ServerBlock.text .edgeHook true blocks 1)) ∧
        (∀ b ∈ blocks, ∀ block ∈ b.locations, EndsInReturn (Statement.codeAll .edgeHook true block.body)) ∧
        context.get? "origin_request" = some text ∧ PhaseReturns patterned {} originRequestBody text := by
  obtain ⟨context, h⟩ := Option.isSome_iff_exists.mp
    (show (Generator.sections ⟨.edgeHook, patterned, {}⟩).result.toOption.isSome = true by decide +kernel)
  rw [toOption_eq_some_iff] at h
  obtain ⟨⟨blocks, hblocks, htext, hreturns, -⟩, hphases⟩ := at_most_one_block_acts patterned {} .edgeHook h
  obtain ⟨⟨text, hrequest, hphase⟩, -⟩ := hphases rfl
  have hlength : patterned.reachable.length = 2 := by decide +kernel
  exact ⟨context, blocks, text, h, (serverBlockOf_of_serverBlocks hblocks).length_eq.symm.trans hlength, htext, hreturns,
    hrequest, hphase⟩

end EdgeRoutes
