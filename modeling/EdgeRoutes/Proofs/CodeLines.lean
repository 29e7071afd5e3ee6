import EdgeRoutes.Proofs.RewriteRules
import EdgeRoutes.Proofs.RoutePhases
import EdgeRoutes.Proofs.StringLiterals

/-! The lines of emitted code, one by one. What holds for each line of some code is read off the parts that the code is
put together from. Of these only comments and pattern literals carry text of the configuration as it stands; all other
text is in string literals, which never end a line. -/

namespace EdgeRoutes

open Js

theorem forall_mem_intersperse {α : Type} {P : α → Prop} {sep : α} (hsep : P sep) {xs : List α} :
    (∀ x ∈ xs.intersperse sep, P x) ↔ ∀ x ∈ xs, P x := by
  induction xs with
  | nil => rfl
  | cons x xs ih =>
      cases xs with
      | nil => rfl
      | cons y xs =>
          rw [List.intersperse_cons_cons, List.forall_mem_cons, List.forall_mem_cons, ih, and_iff_right hsep]
          exact List.forall_mem_cons.symm

namespace Js

def endsLine (c : Char) : Bool :=
  c == '\n' || c == '\r' || c == '\u2028' || c == '\u2029'

/-- The text stays on one line. -/
def OneLine (s : String) : Prop := ∀ c ∈ s.toList, endsLine c = false

instance (s : String) : Decidable (OneLine s) := List.decidableBAll _ _

theorem forall_clear {cs : List Char} (h : cs.all (!endsLine ·) = true) : ∀ c ∈ cs, endsLine c = false := by
  intro c hc
  simpa using List.all_eq_true.mp h c hc

theorem oneLine_ofList {cs : List Char} : OneLine (String.ofList cs) ↔ ∀ c ∈ cs, endsLine c = false := by
  rw [OneLine, String.toList_ofList]

@[simp] theorem oneLine_append {a b : String} : OneLine (a ++ b) ↔ OneLine a ∧ OneLine b := by
  rw [OneLine, String.toList_append, List.forall_mem_append]
  rfl

theorem oneLine_of_plain {s : String} (h : PrintsPlainly s.toList) : OneLine s := by
  intro c hc
  have hbounds := h c hc
  simp only [endsLine, Bool.or_eq_false_iff, beq_eq_false_iff_ne]
  refine ⟨⟨⟨?_, ?_⟩, ?_⟩, ?_⟩ <;> rintro rfl <;> exact absurd hbounds (by decide)

/-- Literals of this library are checked character by character, without going through their bytes. -/
theorem oneLine_literal {cs : List Char} (h : cs.all (!endsLine ·) = true) : OneLine (String.ofList cs) :=
  oneLine_ofList.mpr (forall_clear h)

/-- Text between two literals of this library. -/
theorem oneLine_between {cs ds : List Char} (hc : cs.all (!endsLine ·) = true) (hd : ds.all (!endsLine ·) = true)
    {s : String} : OneLine (String.ofList cs ++ s ++ String.ofList ds) ↔ OneLine s := by
  rw [oneLine_append, oneLine_append, and_iff_left (oneLine_literal hd), and_iff_right (oneLine_literal hc)]

@[simp] theorem oneLine_string (s : String) : OneLine (string s) := oneLine_of_plain (printsPlainly_string s)

@[simp] theorem oneLine_toString (n : Nat) : OneLine (toString n) := by
  refine oneLine_of_plain fun c hc => ?_
  rw [Nat.toString_eq_repr, Nat.toList_repr] at hc
  have hdigit := isDigit_bounds (Nat.isDigit_of_mem_toDigits (by decide) (by decide) hc)
  omega

theorem oneLine_joined {sep : String} (hsep : OneLine sep) {pieces : List String} :
    OneLine (Text.joined sep pieces) ↔ ∀ piece ∈ pieces, OneLine piece := by
  rw [Text.joined]
  induction pieces with
  | nil =>
      rw [String.intercalate_nil]
      exact iff_of_true (oneLine_literal rfl) nofun
  | cons piece pieces ih =>
      cases pieces with
      | nil => rw [String.intercalate_singleton, List.forall_mem_singleton]
      | cons next pieces =>
          rw [String.intercalate_cons_cons, oneLine_append, oneLine_append, ih, and_iff_left hsep]
          exact List.forall_mem_cons.symm

@[simp] theorem oneLine_objectLiteral (entries : Fields String) : OneLine (objectLiteral entries) := by
  unfold objectLiteral
  split_ifs
  · exact oneLine_literal rfl
  · refine (oneLine_between rfl rfl).mpr ((oneLine_joined (oneLine_literal rfl)).mpr fun piece hpiece => ?_)
    obtain ⟨entry, -, rfl⟩ := List.mem_map.mp hpiece
    simp only [oneLine_append, oneLine_string, and_true, true_and]
    exact oneLine_literal rfl

namespace Code

/-- Each line of the code has a property. -/
def Each (p : String → Prop) (code : Code) : Prop := ∀ line ∈ code, p line.text

variable {p : String → Prop}

@[simp] theorem each_nil : Each p [] := nofun

@[simp] theorem each_append {a b : Code} : Each p (a ++ b) ↔ Each p a ∧ Each p b := List.forall_mem_append

@[simp] theorem each_flat {lines : List String} : Each p (flat lines) ↔ ∀ line ∈ lines, p line := List.forall_mem_map

@[simp] theorem each_nested {code : Code} : Each p (nested code) ↔ Each p code := List.forall_mem_map

theorem each_block {opening closing : String} {body : Code} :
    Each p (block opening body closing) ↔ p opening ∧ Each p body ∧ p closing := by
  simp only [block, each_append, each_flat, each_nested, List.forall_mem_singleton, and_assoc]

theorem each_flatMap {α : Type} {f : α → Code} {as : List α} : Each p (as.flatMap f) ↔ ∀ a ∈ as, Each p (f a) := by
  simp only [Each, List.mem_flatMap]
  exact ⟨fun h a ha line hline => h line ⟨a, ha, hline⟩, fun h line ⟨a, ha, hline⟩ => h a ha line hline⟩

theorem each_paragraphs (hempty : p "") {codes : List Code} :
    Each p (paragraphs codes) ↔ ∀ code ∈ codes, Each p code := by
  rw [paragraphs, Each, List.forall_mem_flatten]
  exact forall_mem_intersperse (each_flat.mpr (List.forall_mem_singleton.mpr hempty))

theorem forall_lines {code : Code} {level : Nat} :
    (∀ line ∈ code.lines level, OneLine line) ↔ Each OneLine code := by
  unfold Code.lines
  rw [List.forall_mem_map]
  refine forall₂_congr fun line _ => ?_
  split_ifs with hempty
  · rw [String.isEmpty_iff.mp hempty]
  · rw [oneLine_append, spaces, oneLine_ofList, and_iff_right]
    intro c hc
    rw [List.eq_of_mem_replicate hc]
    decide

end Code

end Js

open Js.Code

def Ending.patterns : Ending → List PathPattern
  | .redirect (.replaced s) _ _ => [s.pattern]
  | _ => []

mutual

def Statement.patterns : Statement → List PathPattern
  | .comment _ => []
  | .rewrite s => [s.pattern]
  | .branch p body none => p :: Statement.patternsAll body
  | .branch p body (some otherwise) => p :: Statement.patternsAll body ++ Statement.patternsAll otherwise
  | .finish ending => ending.patterns

def Statement.patternsAll : List Statement → List PathPattern
  | [] => []
  | s :: ss => s.patterns ++ Statement.patternsAll ss

end

mutual

def Statement.comments : Statement → List String
  | .comment text => [text]
  | .rewrite _ | .finish _ => []
  | .branch _ body none => Statement.commentsAll body
  | .branch _ body (some otherwise) => Statement.commentsAll body ++ Statement.commentsAll otherwise

def Statement.commentsAll : List Statement → List String
  | [] => []
  | s :: ss => s.comments ++ Statement.commentsAll ss

end

section Endings

theorem oneLine_expanded {expression : String} : OneLine (expanded expression) ↔ OneLine expression := by
  unfold expanded
  exact oneLine_between rfl rfl

theorem oneLine_expression {s : Substitution} : OneLine s.expression ↔ OneLine s.pattern.literal := by
  unfold Substitution.expression
  rw [oneLine_append, oneLine_append, and_iff_left (oneLine_literal rfl), and_iff_left (oneLine_string _)]
  exact oneLine_between rfl rfl

theorem oneLine_returnWithHeaders {response : String} (headers : Fields String) :
    OneLine (returnWithHeaders response headers) ↔ OneLine response := by
  unfold returnWithHeaders
  rw [oneLine_append, oneLine_append, and_iff_left (oneLine_literal rfl), and_iff_left (oneLine_objectLiteral headers)]
  exact oneLine_between rfl rfl

theorem oneLine_returnResponse {helper : String} (hhelper : OneLine helper) {args : List String}
    (headers : Fields String) : OneLine (returnResponse helper args headers) ↔ ∀ arg ∈ args, OneLine arg := by
  have hargs : OneLine (Text.joined ", " (args ++ [objectLiteral headers])) ↔ ∀ arg ∈ args, OneLine arg := by
    rw [oneLine_joined (oneLine_literal rfl), List.forall_mem_append, List.forall_mem_singleton,
      and_iff_left (oneLine_objectLiteral headers)]
  unfold returnResponse
  simp only [oneLine_append, hargs]
  exact ⟨fun h => h.1.2, fun h => ⟨⟨⟨⟨oneLine_literal rfl, hhelper⟩, oneLine_literal rfl⟩, h⟩, oneLine_literal rfl⟩⟩

theorem oneLine_redirectStatement (target : Target) {url : String} (code : Nat) (headers : Fields String) :
    OneLine (redirectStatement target url code headers) ↔ OneLine url := by
  have hhelper : OneLine "redirectResponse" := oneLine_literal rfl
  cases target with
  | worker =>
      simp only [redirectStatement, oneLine_returnResponse hhelper, List.forall_mem_cons, oneLine_append,
        oneLine_expanded, oneLine_toString]
      exact ⟨fun h => h.1.1.2, fun h => ⟨⟨⟨oneLine_literal rfl, h⟩, oneLine_literal rfl⟩, trivial, nofun⟩⟩
  | middleware =>
      simp only [redirectStatement, oneLine_returnWithHeaders, oneLine_append, oneLine_expanded, oneLine_toString]
      exact ⟨fun h => h.1.1.1.2,
        fun h => ⟨⟨⟨⟨oneLine_literal rfl, h⟩, oneLine_literal rfl⟩, trivial⟩, oneLine_literal rfl⟩⟩
  | edgeHook | minimal =>
      simp only [redirectStatement, oneLine_returnResponse hhelper, List.forall_mem_cons, oneLine_expanded,
        oneLine_toString, oneLine_string]
      exact ⟨fun h => h.1, fun h => ⟨h, trivial, trivial, nofun⟩⟩

theorem oneLine_bodyExpression (body : Body) : OneLine body.expression := by
  cases body with
  | none => exact oneLine_literal rfl
  | template text => exact oneLine_expanded.mpr (oneLine_string text)
  | fixed text => exact oneLine_string text

theorem oneLine_bodyLiteral (body : Body) : OneLine body.literal := by
  cases body with
  | none => exact oneLine_literal rfl
  | template text | fixed text => exact oneLine_string text

theorem oneLine_respondStatement (target : Target) (code : Nat) (body : Body) (headers : Fields String) :
    OneLine (respondStatement target code body headers) := by
  cases target with
  | worker | middleware =>
      simp only [respondStatement, oneLine_returnWithHeaders, oneLine_append, oneLine_bodyExpression, oneLine_toString,
        and_true]
      and_intros <;> exact oneLine_literal rfl
  | edgeHook | minimal =>
      refine (oneLine_returnResponse (oneLine_literal rfl) headers).mpr ?_
      simp only [List.forall_mem_cons, oneLine_toString, oneLine_string, oneLine_bodyLiteral, List.not_mem_nil,
        true_and]
      nofun

theorem oneLine_setHeader {headers : String} (hheaders : OneLine headers) (name value : String) :
    OneLine (setHeader headers name (expanded (string value))) := by
  have hvalue : OneLine (expanded (string value)) := oneLine_expanded.mpr (oneLine_string value)
  unfold setHeader
  simp only [oneLine_append, oneLine_string, hheaders, hvalue, and_true]
  and_intros <;> exact oneLine_literal rfl

theorem oneLine_forwardStatement (route : Route) : OneLine (forwardStatement route) := by
  unfold forwardStatement
  simp only [oneLine_append, oneLine_string, and_true]
  and_intros <;> exact oneLine_literal rfl

theorem oneLine_replacedMount (uri mount : String) : OneLine (replacedMount uri mount) := by
  unfold replacedMount
  simp only [oneLine_append, oneLine_expanded, oneLine_string, oneLine_toString, and_true, true_and]
  and_intros <;> exact oneLine_literal rfl

theorem oneLine_pathExpression (u : UriPart) (mount : String) : OneLine (u.pathExpression mount) := by
  cases u with
  | keep => exact oneLine_literal rfl
  | replace uri => exact oneLine_replacedMount uri mount
  | replaceUnlessRewritten uri => exact oneLine_append.mpr ⟨oneLine_literal rfl, oneLine_replacedMount uri mount⟩

theorem oneLine_uriLiteral (u : UriPart) : OneLine u.literal := by
  cases u with
  | keep => exact oneLine_literal rfl
  | replace uri => exact oneLine_string uri
  | replaceUnlessRewritten uri => exact oneLine_append.mpr ⟨oneLine_literal rfl, oneLine_string uri⟩

theorem each_proxyCall {opening : String} (hopening : OneLine opening) {upstream : List String}
    (hupstream : ∀ line ∈ upstream, OneLine line) (p : Proxy) (headers : Fields String) :
    Each OneLine (proxyCall opening upstream p headers) := by
  have hresponse : OneLine (returnWithHeaders "response" headers) :=
    (oneLine_returnWithHeaders headers).mpr (oneLine_literal rfl)
  unfold proxyCall
  rw [each_append, each_block, each_flat, each_flat, List.forall_mem_append, List.forall_mem_singleton]
  simp only [List.forall_mem_cons]
  exact ⟨⟨(oneLine_between rfl rfl).mpr hopening, ⟨hupstream, (oneLine_between rfl rfl).mpr (oneLine_uriLiteral _),
    (oneLine_between rfl rfl).mpr (oneLine_string _), (oneLine_between rfl rfl).mpr (oneLine_objectLiteral _), nofun⟩,
    oneLine_literal rfl⟩, hresponse⟩

theorem each_proxyCode (target : Target) (p : Proxy) (route : Route) (headers : Fields String) :
    Each OneLine (proxyCode target p route headers) := by
  cases target with
  | worker =>
      refine each_proxyCall (oneLine_literal rfl) (List.forall_mem_singleton.mpr ?_) p headers
      exact (oneLine_between rfl rfl).mpr (oneLine_string _)
  | minimal =>
      refine each_proxyCall (oneLine_literal rfl) (List.forall_mem_cons.mpr ⟨?_, List.forall_mem_singleton.mpr ?_⟩) p
        headers
      · exact (oneLine_between rfl rfl).mpr (oneLine_string _)
      · exact (oneLine_between rfl rfl).mpr (oneLine_string _)
  | edgeHook => exact each_flat.mpr (List.forall_mem_singleton.mpr (oneLine_forwardStatement route))
  | middleware =>
      unfold proxyCode
      rw [each_append, each_block, each_flat, each_flat]
      simp only [List.forall_mem_cons]
      exact ⟨⟨(oneLine_between rfl rfl).mpr (oneLine_expanded.mpr (oneLine_string _)),
        (oneLine_between rfl rfl).mpr (oneLine_pathExpression _ _), oneLine_literal rfl, nofun⟩, oneLine_literal rfl,
        ⟨(oneLine_between rfl rfl).mpr (oneLine_objectLiteral _), nofun⟩,
        (oneLine_between rfl rfl).mpr (oneLine_objectLiteral _)⟩

theorem each_forwardCode (target : Target) (rewrites : Bool) (route : Route) (headers : Fields String) :
    Each OneLine (forwardCode target rewrites route headers) := by
  cases target with
  | worker =>
      refine each_flat.mpr (List.forall_mem_cons.mpr ⟨oneLine_literal rfl, List.forall_mem_singleton.mpr ?_⟩)
      exact (oneLine_returnWithHeaders headers).mpr (oneLine_literal rfl)
  | middleware =>
      refine each_flat.mpr (List.forall_mem_singleton.mpr ((oneLine_returnWithHeaders headers).mpr ?_))
      split_ifs <;> exact oneLine_literal rfl
  | edgeHook => exact each_flat.mpr (List.forall_mem_singleton.mpr (oneLine_forwardStatement route))
  | minimal =>
      exact each_flat.mpr
        (List.forall_mem_singleton.mpr ((oneLine_returnWithHeaders headers).mpr (oneLine_literal rfl)))

theorem each_assignment (u : UriPart) (mount : String) : Each OneLine (u.assignment mount) := by
  have hassign : ∀ uri, Each OneLine (flat ["request.uri = " ++ replacedMount uri mount ++ ";"]) := by
    intro uri
    refine each_flat.mpr (List.forall_mem_singleton.mpr ?_)
    exact (oneLine_between rfl rfl).mpr (oneLine_replacedMount uri mount)
  cases u with
  | keep => exact each_nil
  | replace uri => exact hassign uri
  | replaceUnlessRewritten uri => exact each_block.mpr ⟨oneLine_literal rfl, hassign uri, oneLine_literal rfl⟩

theorem each_setHeaders {receiver : String} (hreceiver : OneLine receiver) (headers : Fields String) :
    ∀ line ∈ headers.map (fun (name, value) => setHeader receiver name (expanded (string value))), OneLine line := by
  intro line hline
  obtain ⟨entry, -, rfl⟩ := List.mem_map.mp hline
  exact oneLine_setHeader hreceiver _ _

theorem oneLine_toString_int (n : Int) : OneLine (toString n) := by
  cases n with
  | ofNat n => exact oneLine_toString n
  | negSucc n => exact oneLine_append.mpr ⟨oneLine_literal rfl, oneLine_toString (n + 1)⟩

/-- The lines that describe an origin. -/
def CustomOrigin.fields (o : CustomOrigin) : List String :=
  ["domainName: " ++ string o.target.host ++ ",", "port: " ++ toString o.target.port ++ ",",
    "protocol: " ++ string o.target.scheme ++ ",", "path: \"\",", "sslProtocols: [\"TLSv1.2\"],",
    "readTimeout: " ++ toString o.readTimeout ++ ",", "keepaliveTimeout: 5,", "customHeaders: \x7b\x7d,"]

/-- The headers that are set for an origin, with the expressions for their values. -/
def CustomOrigin.entries (o : CustomOrigin) : List (String × String) :=
  ("Host", string o.target.host) :: o.headers.map fun e => (e.1, expanded (string e.2))

theorem CustomOrigin.code_eq (o : CustomOrigin) :
    o.code = block "request.origin = \x7b" (block "custom: \x7b" (flat o.fields) "\x7d,") "\x7d;" ++
      flat (o.entries.map fun e => setHeader "request.headers" e.1 e.2) ++ o.uri.assignment o.mount ++
        flat ["return request;"] := by
  rw [entries, List.map_cons, List.map_map]
  rfl

theorem each_customOrigin (o : CustomOrigin) : Each OneLine o.code := by
  have hhost : OneLine (setHeader "request.headers" "Host" (string o.target.host)) := by
    unfold setHeader
    simp only [oneLine_append, oneLine_string, and_true]
    and_intros <;> exact oneLine_literal rfl
  have hheaders := each_setHeaders (oneLine_literal rfl : OneLine "request.headers") o.headers
  unfold CustomOrigin.code
  rw [each_append, each_append, each_append, each_block, each_block]
  refine ⟨⟨⟨⟨oneLine_literal rfl, ⟨oneLine_literal rfl, ?_, oneLine_literal rfl⟩, oneLine_literal rfl⟩, ?_⟩,
    each_assignment _ _⟩, each_flat.mpr (List.forall_mem_singleton.mpr (oneLine_literal rfl))⟩
  · simp only [each_flat, List.forall_mem_cons]
    exact ⟨(oneLine_between rfl rfl).mpr (oneLine_string _), (oneLine_between rfl rfl).mpr (oneLine_toString _),
      (oneLine_between rfl rfl).mpr (oneLine_string _), oneLine_literal rfl, oneLine_literal rfl,
      (oneLine_between rfl rfl).mpr (oneLine_toString_int _), oneLine_literal rfl, oneLine_literal rfl, nofun⟩
  · exact each_flat.mpr (List.forall_mem_cons.mpr ⟨hhost, hheaders⟩)

/-- Only a redirect that is computed with a pattern may break a line. -/
theorem each_endingCode (target : Target) (ending : Ending) :
    Each OneLine (ending.code target) ↔ ∀ p ∈ ending.patterns, OneLine p.literal := by
  cases ending with
  | redirect destination code headers =>
      rw [Ending.code, each_flat, List.forall_mem_singleton, oneLine_redirectStatement]
      cases destination with
      | url text => exact iff_of_true (oneLine_string text) nofun
      | replaced s =>
          rw [Ending.patterns, List.forall_mem_singleton]
          exact oneLine_expression
  | respond code body headers =>
      exact iff_of_true (each_flat.mpr (List.forall_mem_singleton.mpr (oneLine_respondStatement _ _ _ _))) nofun
  | proxy p route headers => exact iff_of_true (each_proxyCode target p route headers) nofun
  | forward rewrites route headers => exact iff_of_true (each_forwardCode target rewrites route headers) nofun
  | customOrigin origin => exact iff_of_true (each_customOrigin origin) nofun
  | passResponse headers =>
      refine iff_of_true (each_flat.mpr (List.forall_mem_append.mpr ⟨?_, ?_⟩)) nofun
      · exact each_setHeaders (oneLine_literal rfl) headers
      · exact List.forall_mem_singleton.mpr (oneLine_literal rfl)

end Endings

section Statements

theorem each_commentCode {comments : Bool} {text : String} :
    Each OneLine (commentCode comments text) ↔ (comments = true → OneLine text) := by
  unfold commentCode
  split_ifs with hcomments
  · rw [each_flat, List.forall_mem_singleton, oneLine_append]
    exact ⟨fun h _ => h.2, fun h => ⟨oneLine_literal rfl, h hcomments⟩⟩
  · exact iff_of_true each_nil fun h => absurd h hcomments

theorem oneLine_opening {p : PathPattern} : OneLine p.opening ↔ OneLine p.literal := by
  unfold PathPattern.opening
  exact oneLine_between rfl rfl

theorem each_substitutionCode {s : Substitution} : Each OneLine s.code ↔ OneLine s.pattern.literal := by
  unfold Substitution.code
  simp only [each_flat, List.forall_mem_cons, oneLine_append, oneLine_expanded, oneLine_expression]
  exact ⟨fun h => h.2.1.1.2, fun h => ⟨oneLine_literal rfl, ⟨⟨oneLine_literal rfl, h⟩, oneLine_literal rfl⟩,
    oneLine_literal rfl, nofun⟩⟩

mutual

/-- The lines of a statement are unbroken if its comments, where they are written, and its patterns are. -/
theorem each_statementCode (target : Target) (comments : Bool) : (s : Statement) →
    (Each OneLine (s.code target comments) ↔
      (comments = true → ∀ text ∈ s.comments, OneLine text) ∧ ∀ p ∈ s.patterns, OneLine p.literal)
  | .comment text => by
      rw [Statement.code, each_commentCode, Statement.comments, Statement.patterns, List.forall_mem_singleton]
      exact (and_iff_left nofun).symm
  | .rewrite s => by
      rw [Statement.code, each_substitutionCode, Statement.comments, Statement.patterns, List.forall_mem_singleton]
      exact (and_iff_right fun _ => nofun).symm
  | .branch p body none => by
      rw [Statement.code, each_block, each_statementsCode target comments body, oneLine_opening, Statement.comments,
        Statement.patterns, List.forall_mem_cons]
      exact ⟨fun ⟨hp, ⟨hcomments, hpatterns⟩, _⟩ => ⟨hcomments, hp, hpatterns⟩,
        fun ⟨hcomments, hp, hpatterns⟩ => ⟨hp, ⟨hcomments, hpatterns⟩, oneLine_literal rfl⟩⟩
  | .branch p body (some otherwise) => by
      rw [Statement.code, each_append, each_append, each_block, each_flat, each_nested, List.forall_mem_singleton,
        each_statementsCode target comments body, each_statementsCode target comments otherwise, oneLine_opening,
        Statement.comments, Statement.patterns, List.cons_append, List.forall_mem_cons, List.forall_mem_append,
        List.forall_mem_append]
      have helse : OneLine "\x7d else \x7b" := oneLine_literal rfl
      have hclose : OneLine "\x7d" := oneLine_literal rfl
      constructor
      · rintro ⟨⟨hp, hbody, hpatterns⟩, -, ⟨hotherwise, hmore⟩, -⟩
        exact ⟨fun hcomments => ⟨hbody hcomments, hotherwise hcomments⟩, hp, hpatterns, hmore⟩
      · rintro ⟨hcomments, hp, hpatterns, hmore⟩
        exact ⟨⟨hp, fun h => (hcomments h).1, hpatterns⟩, helse, ⟨fun h => (hcomments h).2, hmore⟩, hclose⟩
  | .finish ending => by
      rw [Statement.code, each_endingCode, Statement.comments, Statement.patterns]
      exact (and_iff_right fun _ => nofun).symm

theorem each_statementsCode (target : Target) (comments : Bool) : (body : List Statement) →
    (Each OneLine (Statement.codeAll target comments body) ↔
      (comments = true → ∀ text ∈ Statement.commentsAll body, OneLine text) ∧
        ∀ p ∈ Statement.patternsAll body, OneLine p.literal)
  | [] => by
      rw [Statement.codeAll, Statement.commentsAll, Statement.patternsAll]
      exact iff_of_true each_nil ⟨fun _ => nofun, nofun⟩
  | s :: ss => by
      rw [Statement.codeAll, each_append, each_statementCode target comments s, each_statementsCode target comments ss,
        Statement.commentsAll, Statement.patternsAll, List.forall_mem_append, List.forall_mem_append]
      constructor
      · rintro ⟨⟨hs, hpatterns⟩, hss, hmore⟩
        exact ⟨fun hcomments => ⟨hs hcomments, hss hcomments⟩, hpatterns, hmore⟩
      · rintro ⟨hcomments, hpatterns, hmore⟩
        exact ⟨⟨fun h => (hcomments h).1, hpatterns⟩, fun h => (hcomments h).2, hmore⟩

end

end Statements

end EdgeRoutes
