import EdgeRoutes.Proofs.BlockReading
import EdgeRoutes.Proofs.ExpressionReading
import EdgeRoutes.Proofs.ForwardingCode

/-! Reading the lines of emitted code. A line that tests a request, changes it or sends it away is read for what it does;
any other line of the statements of a location begins an ending. The lines are told apart by what they begin with, and no
text of the configuration stands there. -/

namespace EdgeRoutes

open Js Js.Code

namespace Js.Code

/-- The lines of the code without their indentation. -/
def texts (code : Code) : List String := code.map (·.text)

theorem texts_append (a b : Code) : (a ++ b).texts = a.texts ++ b.texts := List.map_append

theorem texts_nested (code : Code) : (nested code).texts = code.texts := by
  rw [texts, nested, List.map_map]
  rfl

theorem texts_flat (lines : List String) : (flat lines).texts = lines := by
  rw [texts, flat, List.map_map]
  exact List.map_id lines

theorem texts_block (opening : String) (body : Code) (closing : String) :
    (block opening body closing).texts = opening :: (body.texts ++ [closing]) := by
  rw [block, texts_append, texts_append, texts_nested, texts_flat, texts_flat]
  rfl

end Js.Code

/-- How a redirect is written: what stands before the address, between it and the code, and after the code; and whether a
phrase for the code comes next. -/
structure RedirectForm where
  before : String
  between : String
  closing : String
  phrase : Bool

def Target.redirectForm : Target → RedirectForm
  | .worker => ⟨"return redirectResponse(new URL(", ", request.url).toString(), ", "", false⟩
  | .middleware => ⟨"return withHeaders(NextResponse.redirect(new URL(", ", request.url), ", ")", false⟩
  | .edgeHook | .minimal => ⟨"return redirectResponse(", ", ", "", true⟩

namespace Js

inductive Step where
  /-- Nothing: the line is empty, a comment, or the end of a block that was entered. -/
  | nothing
  | test (checks : List Check)
  /-- The branch before it was taken, and the one after it is not. -/
  | otherwise
  | mark
  | assign (path : Address)
  | follow
  | redirect (url : Address) (code : Nat) (headers : String)
  /-- An ending of another kind begins here. -/
  | leave

/-- Reads the headers of a response, the last argument but one of the call that makes it. -/
def readHeaders? (cs : List Char) : Option String := do
  let rest ← Text.after? ", ".toList cs
  let headers ← Text.after? ", vars);".toList.reverse rest.reverse
  return String.ofList headers.reverse

def readRedirect? (form : RedirectForm) (cs : List Char) : Option Step := do
  let (url, rest) ← readAddress? cs
  let rest ← Text.after? form.between.toList rest
  let (code, rest) := readNumber rest
  let rest ← Text.after? form.closing.toList rest
  if form.phrase then
    let rest ← Text.after? ", ".toList rest
    let (_, rest) ← readString? rest
    (readHeaders? rest).map (.redirect url code)
  else (readHeaders? rest).map (.redirect url code)

/-- Reads a line that is made for a request. -/
def readStatement? (t : Target) (text : String) : Option Step :=
  match Text.after? "if (".toList text.toList with
  | some rest => do
    let (checks, rest) ← readCondition? rest
    if rest = ") \x7b".toList then some (.test checks) else none
  | none =>
    match Text.after? "path = ".toList text.toList with
    | some rest => do
      let (path, rest) ← readAddress? rest
      if rest = ";".toList then some (.assign path) else none
    | none =>
      match Text.after? t.redirectForm.before.toList text.toList with
      | some rest => readRedirect? t.redirectForm rest
      | none => some .leave

/-- Reads a line without its indentation. -/
def readStep? (t : Target) (text : String) : Option Step :=
  if text = "" ∨ Text.startsWith text "//" = true ∨ text = "\x7d" then some .nothing
  else if text = "\x7d else \x7b" then some .otherwise
  else if text = "rewritten = true;" then some .mark
  else if text = "vars.uri = path;" then some .follow
  else readStatement? t text

end Js

section Lines

variable {t : Target}

theorem readStep?_closing : readStep? t "\x7d" = some .nothing := rfl

theorem readStep?_otherwise : readStep? t "\x7d else \x7b" = some .otherwise := rfl

/-- What the lines that are the same for every request begin with. -/
def fixedMarks : List String := ["//", "\x7d", "rewritten = true;", "vars.uri = path;"]

/-- A line that is none of the fixed ones is made for a request. -/
theorem readStep?_eq {text : String} (hne : text ≠ "") (h : ∀ mark ∈ fixedMarks, Lacks mark text) :
    readStep? t text = readStatement? t text := by
  have hother : ∀ mark ∈ fixedMarks, ∀ line, Text.startsWith line mark = true → text ≠ line := by
    rintro mark hmark line hline rfl
    have hlacks := h mark hmark
    rw [Lacks] at hlacks
    rw [Text.startsWith, Text.starts, hlacks] at hline
    cases hline
  have hcomment : Text.startsWith text "//" = false := by
    have hlacks := h "//" (by decide)
    rw [Lacks] at hlacks
    rw [Text.startsWith, Text.starts, hlacks]
    rfl
  have hnothing : ¬ (text = "" ∨ Text.startsWith text "//" = true ∨ text = "\x7d") := by
    rintro (hempty | hstart | hclose)
    · exact hne hempty
    · rw [hcomment] at hstart
      cases hstart
    · exact hother "\x7d" (by decide) "\x7d" (by decide) hclose
  rw [readStep?, if_neg hnothing, if_neg (hother "\x7d" (by decide) _ (by decide)),
    if_neg (hother "rewritten = true;" (by decide) _ (by decide)),
    if_neg (hother "vars.uri = path;" (by decide) _ (by decide))]

/-- The condition of a block is read from the line that opens the block. -/
theorem readStep?_guard {c : Condition} (hne : c.tests ≠ []) (h : ∀ test ∈ c.tests, test.Writable) (s : Subject) :
    readStep? t ("if (" ++ c.render s.name ++ ") \x7b") = some (.test (c.tests.map (Test.check s))) := by
  have hclose : Text.after? " || ".toList ") \x7b".toList = none := rfl
  have hlacks : ∀ mark ∈ fixedMarks, Lacks mark ("if (" ++ c.render s.name ++ ") \x7b") := by
    have hclash : ∀ mark ∈ fixedMarks, clashes mark.toList "if (".toList = true := by decide
    exact fun mark hmark => lacks_between (hclash mark hmark) _ _
  rw [readStep?_eq (append_ne_empty (append_ne_empty (by decide) _) _) hlacks, readStatement?, String.toList_append,
    String.toList_append, List.append_assoc, Text.after?_append]
  simp only [readCondition?_render hne h s hclose, Option.bind_eq_bind, Option.bind_some, if_true]

theorem readStep?_opening {p : PathPattern} (h : Js.Writable p.source) :
    readStep? t p.opening = some (.test [.matches (bodyOf p.source) p.ignoreCase .path]) := by
  have htext : p.opening =
      "if (" ++ (Condition.mk [.matchesPattern p.source p.ignoreCase] false).render Subject.path.name ++ ") \x7b" := by
    have hmark : ".test(path)) \x7b" = ".test(" ++ ("path" ++ (")" ++ ") \x7b")) := rfl
    rw [PathPattern.opening, hmark, Condition.render, if_neg Bool.false_ne_true, List.map_singleton, Text.joined,
      String.intercalate_singleton, Test.render]
    simp only [String.append_assoc]
    rfl
  have hwritable : ∀ test ∈ [Test.matchesPattern p.source p.ignoreCase], test.Writable := List.forall_mem_singleton.mpr h
  rw [htext, readStep?_guard (List.cons_ne_nil _ _) hwritable]
  rfl

theorem readStep?_assignment {s : Substitution} (h : Js.Writable s.pattern.source) :
    readStep? t ("path = " ++ expanded s.expression ++ ";") =
      some (.assign (.replaced (bodyOf s.pattern.source) s.pattern.ignoreCase s.replacement)) := by
  have hlacks : ∀ mark ∈ "if (" :: fixedMarks, Lacks mark ("path = " ++ expanded s.expression ++ ";") := by
    have hclash : ∀ mark ∈ "if (" :: fixedMarks, clashes mark.toList "path = ".toList = true := by decide
    exact fun mark hmark => lacks_between (hclash mark hmark) _ _
  obtain ⟨hif, hlacks⟩ := List.forall_mem_cons.mp hlacks
  rw [Lacks] at hif
  rw [readStep?_eq (append_ne_empty (append_ne_empty (by decide) _) _) hlacks, readStatement?, hif]
  simp only
  rw [String.toList_append, String.toList_append, List.append_assoc, Text.after?_append]
  simp only [readAddress?_replaced h, Option.bind_eq_bind, Option.bind_some, if_true]

end Lines

section Redirects

/-- A redirect in the form of its target. -/
theorem redirectStatement_eq (t : Target) (url : String) (code : Nat) (headers : Fields String) :
    redirectStatement t url code headers =
      t.redirectForm.before ++ (expanded url ++ (t.redirectForm.between ++ (toString code ++ (t.redirectForm.closing ++
        ((if t.redirectForm.phrase then ", " ++ string (Http.phrase code) else "") ++
          (", " ++ (objectLiteral headers ++ ", vars);"))))))) := by
  cases t with
  | worker =>
      have hbefore : "return redirectResponse(new URL(" = "return " ++ ("redirectResponse" ++ ("(" ++ "new URL(")) := by
        decide +kernel
      have hbetween : ", request.url).toString(), " = ", request.url).toString()" ++ ", " := by decide +kernel
      simp only [redirectStatement, returnResponse, Target.redirectForm, hbefore, hbetween, Text.joined, List.cons_append,
        List.nil_append, String.intercalate_cons_cons, String.intercalate_singleton, String.append_assoc,
        Bool.false_eq_true, if_false, String.empty_append]
  | middleware =>
      have hbefore : ∀ rest, "return withHeaders(" ++ ("NextResponse.redirect(new URL(" ++ rest) =
          "return withHeaders(NextResponse.redirect(new URL(" ++ rest := fun rest =>
        String.append_assoc.symm.trans (congrArg (· ++ rest) (by decide +kernel))
      unfold redirectStatement returnWithHeaders
      simp only [String.append_assoc]
      refine (hbefore _).trans ?_
      simp only [Target.redirectForm, Bool.false_eq_true, if_false, String.empty_append]
  | edgeHook | minimal =>
      have hbefore : "return redirectResponse(" = "return " ++ ("redirectResponse" ++ "(") := rfl
      simp only [redirectStatement, returnResponse, Target.redirectForm, hbefore, Text.joined, List.cons_append,
        List.nil_append, String.intercalate_cons_cons, String.intercalate_singleton, String.append_assoc, if_true,
        String.empty_append]

theorem readHeaders?_append (headers : Fields String) :
    readHeaders? (", ".toList ++ ((objectLiteral headers).toList ++ ", vars);".toList)) =
      some (objectLiteral headers) := by
  rw [readHeaders?, Text.after?_append]
  simp only [Option.bind_eq_bind, Option.bind_some, List.reverse_append, Text.after?_append, List.reverse_reverse,
    String.ofList_toList, Option.pure_def]

/-- No mark of another line begins like a redirect. -/
theorem redirectForm_before (t : Target) : t.redirectForm.before ≠ "" ∧
    ∀ mark ∈ "if (" :: "path = " :: fixedMarks, clashes mark.toList t.redirectForm.before.toList = true := by
  obtain ⟨rest, hrest⟩ : ∃ rest, t.redirectForm.before = "return " ++ rest := by
    cases t with
    | worker => exact ⟨"redirectResponse(new URL(", by decide +kernel⟩
    | middleware => exact ⟨"withHeaders(NextResponse.redirect(new URL(", by decide +kernel⟩
    | edgeHook | minimal => exact ⟨"redirectResponse(", by decide +kernel⟩
  have hreturn : ∀ mark ∈ "if (" :: "path = " :: fixedMarks, clashes mark.toList "return ".toList = true := by decide
  rw [hrest]
  refine ⟨append_ne_empty (by decide) rest, fun mark hmark => ?_⟩
  rw [String.toList_append]
  exact clashes_append_right (hreturn mark hmark) _

/-- The address, the code and the headers of a redirect are found again. -/
theorem readRedirect?_append (form : RedirectForm) {d : Destination}
    (h : ∀ s, d = .replaced s → Js.Writable s.pattern.source) (code : Nat) (headers : Fields String)
    (hclosing : form.closing = "" ∨ form.closing = ")") :
    readRedirect? form ((expanded d.expression).toList ++ (form.between.toList ++ ((toString code).toList ++
      (form.closing.toList ++ ((if form.phrase then ", " ++ string (Http.phrase code) else "").toList ++
        (", ".toList ++ ((objectLiteral headers).toList ++ ", vars);".toList))))))) =
      some (.redirect d.address code (objectLiteral headers)) := by
  generalize hmore : form.closing.toList ++ _ = more
  have hstop : ∃ c cs, more = c :: cs ∧ c.isDigit = false := by
    subst hmore
    have hcomma : ", ".toList = [',', ' '] := rfl
    have hparenthesis : ")".toList = [')'] := rfl
    rcases hclosing with hclosing | hclosing <;> rw [hclosing]
    · cases form.phrase <;>
        simp only [Bool.false_eq_true, if_false, if_true, String.toList_empty, List.nil_append, String.toList_append,
          hcomma, List.cons_append] <;>
        exact ⟨',', _, rfl, by decide⟩
    · rw [hparenthesis, List.singleton_append]
      exact ⟨')', _, rfl, by decide⟩
  obtain ⟨c, cs, rfl, hc⟩ := hstop
  rw [readRedirect?, readAddress?_expression h]
  simp only [Option.bind_eq_bind, Option.bind_some, Text.after?_append, readNumber_toString code hc]
  rw [← hmore, Text.after?_append]
  cases form.phrase with
  | false =>
      simp only [Bool.false_eq_true, if_false, String.toList_empty, List.nil_append, Option.bind_some,
        readHeaders?_append, Option.map_some]
  | true =>
      simp only [if_true, String.toList_append, List.append_assoc, Text.after?_append, Option.bind_some,
        readString?_string, readHeaders?_append, Option.map_some]

/-- A redirect is read from its line: the address, the code and the headers. -/
theorem readStep?_redirect (t : Target) {d : Destination} (h : ∀ s, d = .replaced s → Js.Writable s.pattern.source)
    (code : Nat) (headers : Fields String) :
    readStep? t (redirectStatement t d.expression code headers) =
      some (.redirect d.address code (objectLiteral headers)) := by
  obtain ⟨hne, hclash⟩ := redirectForm_before t
  have hread := readRedirect?_append t.redirectForm h code headers (by cases t <;> decide)
  rw [redirectStatement_eq]
  generalize hrest : expanded d.expression ++ _ = rest
  have hlacks : ∀ mark ∈ "if (" :: "path = " :: fixedMarks, Lacks mark (t.redirectForm.before ++ rest) :=
    fun mark hmark => lacks_of_clashes (hclash mark hmark) rest
  rw [List.forall_mem_cons, List.forall_mem_cons] at hlacks
  obtain ⟨hif, hpath, hlacks⟩ := hlacks
  rw [Lacks] at hif hpath
  rw [readStep?_eq (append_ne_empty hne rest) hlacks, readStatement?, hif]
  simp only [hpath]
  rw [String.toList_append, Text.after?_append]
  simp only [← hrest, String.toList_append]
  exact hread

end Redirects

section Endings

/-- The line is none of those that are run one by one: an ending begins with it. -/
def Leaves (t : Target) (line : String) : Prop :=
  line ≠ "" ∧ ∀ mark ∈ "if (" :: "path = " :: t.redirectForm.before :: fixedMarks, Lacks mark line

variable {t : Target}

theorem Leaves.readStep?_eq {line : String} (h : Leaves t line) : readStep? t line = some .leave := by
  obtain ⟨hne, hlacks⟩ := h
  rw [List.forall_mem_cons, List.forall_mem_cons, List.forall_mem_cons] at hlacks
  obtain ⟨hif, hpath, hredirect, hlacks⟩ := hlacks
  rw [Lacks] at hif hpath hredirect
  rw [EdgeRoutes.readStep?_eq hne hlacks, readStatement?, hif]
  simp only [hpath, hredirect]

/-- Enough of the lines that are run one by one to tell other lines from them, but for the redirects of a middleware. -/
def runStarts : List String := ["return red", "if (", "path = ", "//", "\x7d", "rewritten", "vars"]

theorem start_of_mark {mark : String} (h : mark ∈ "if (" :: "path = " :: t.redirectForm.before :: fixedMarks) :
    mark = Target.middleware.redirectForm.before ∨ ∃ start ∈ runStarts, Text.startsWith mark start = true := by
  have hothers : ∀ mark ∈ "if (" :: "path = " :: fixedMarks,
      (runStarts.any fun start => Text.startsWith mark start) = true := by decide +kernel
  by_cases hmark : mark ∈ "if (" :: "path = " :: fixedMarks
  · exact Or.inr (List.any_eq_true.mp (hothers mark hmark))
  · obtain rfl : mark = t.redirectForm.before := by
      simp only [List.mem_cons, not_or] at h hmark
      tauto
    cases t with
    | middleware => exact Or.inl rfl
    | worker | edgeHook | minimal => exact Or.inr ⟨"return red", by decide, by decide +kernel⟩

/-- A line that begins unlike all of these leaves on every target. -/
theorem leaves_of_foreign {cs : List Char}
    (h : (("return w" :: runStarts).all fun start => clashes start.toList cs) = true) (rest : String) :
    Leaves t (String.ofList cs ++ rest) := by
  obtain ⟨hredirect, hstarts⟩ := List.forall_mem_cons.mp (List.all_eq_true.mp h)
  have hne : String.ofList cs ≠ "" := by
    intro hempty
    rw [String.ofList_eq_empty_iff] at hempty
    rw [hempty] at hredirect
    cases hredirect
  refine ⟨append_ne_empty hne rest, fun mark hmark => lacks_of_clashes ?_ rest⟩
  have hmiddleware : Text.startsWith Target.middleware.redirectForm.before "return w" = true := by decide +kernel
  rw [String.toList_ofList]
  rcases start_of_mark hmark with rfl | ⟨start, hstart, hbegins⟩
  · exact clashes_of_startsWith hmiddleware hredirect
  · exact clashes_of_startsWith hbegins (hstarts start hstart)

theorem leaves_of_foreign_line {cs : List Char}
    (h : (("return w" :: runStarts).all fun start => clashes start.toList cs) = true) : Leaves t (String.ofList cs) := by
  have hleaves : Leaves t (String.ofList cs ++ "") := leaves_of_foreign h ""
  rwa [String.append_empty] at hleaves

/-- A response with headers is no redirect unless it is made as one. -/
theorem leaves_returnWithHeaders {response : String}
    (h : clashes "NextResponse.redirect(new URL(".toList response.toList = true) (headers : Fields String) :
    Leaves t (returnWithHeaders response headers) := by
  have hothers : ∀ start ∈ runStarts, clashes start.toList "return withHeaders(".toList = true := by decide
  have hredirect : Target.middleware.redirectForm.before.toList =
      "return withHeaders(".toList ++ "NextResponse.redirect(new URL(".toList := by decide +kernel
  unfold returnWithHeaders
  rw [String.append_assoc, String.append_assoc]
  refine ⟨append_ne_empty (append_ne_empty (by decide) _) _, fun mark hmark => lacks_of_clashes ?_ _⟩
  rw [String.toList_append]
  rcases start_of_mark hmark with rfl | ⟨start, hstart, hbegins⟩
  · rw [hredirect, clashes_append_left]
    exact h
  · exact clashes_of_startsWith hbegins (clashes_append_right (hothers start hstart) _)

theorem exists_returnResponse (helper : String) (args : List String) (headers : Fields String) :
    ∃ rest, returnResponse helper args headers = "return " ++ helper ++ rest := by
  rw [returnResponse, String.append_assoc, String.append_assoc]
  exact ⟨_, rfl⟩

theorem leaves_returnResponse {cs : List Char}
    (h : (("return w" :: runStarts).all fun start => clashes start.toList ("return ".toList ++ cs)) = true)
    (args : List String) (headers : Fields String) : Leaves t (returnResponse (String.ofList cs) args headers) := by
  obtain ⟨rest, hrest⟩ := exists_returnResponse (String.ofList cs) args headers
  have hhead : "return " ++ String.ofList cs = String.ofList ("return ".toList ++ cs) := by
    rw [String.ofList_append, String.ofList_toList]
  rw [hrest, hhead]
  exact leaves_of_foreign h rest

theorem leaves_forwardStatement (route : Route) : Leaves t (forwardStatement route) := by
  unfold forwardStatement
  rw [String.append_assoc]
  exact leaves_of_foreign rfl _

/-- An ending that is no redirect begins with a line that is none of those before it. -/
theorem exists_leaves (t : Target) {ending : Ending} (h : ∀ d code headers, ending ≠ .redirect d code headers) :
    ∃ line rest, (ending.code t).texts = line :: rest ∧ Leaves t line := by
  cases ending with
  | redirect d code headers => exact absurd rfl (h d code headers)
  | respond code body headers =>
      refine ⟨_, _, texts_flat _, ?_⟩
      cases t with
      | worker | middleware =>
          refine leaves_returnWithHeaders ?_ headers
          simp only [String.toList_append, List.append_assoc]
          rfl
      | edgeHook | minimal => exact leaves_returnResponse rfl _ _
  | proxy p route headers =>
      cases t with
      | worker | minimal =>
          rw [Ending.code, proxyCode, proxyCall, texts_append, texts_block, List.cons_append]
          refine ⟨_, _, rfl, ?_⟩
          rw [String.append_assoc]
          exact leaves_of_foreign rfl _
      | middleware =>
          rw [Ending.code, proxyCode, texts_append, texts_flat, List.cons_append]
          refine ⟨_, _, rfl, ?_⟩
          rw [String.append_assoc]
          exact leaves_of_foreign rfl _
      | edgeHook => exact ⟨_, _, texts_flat _, leaves_forwardStatement route⟩
  | forward rewrites route headers =>
      cases t with
      | worker => exact ⟨_, _, texts_flat _, leaves_of_foreign_line rfl⟩
      | middleware =>
          refine ⟨_, _, texts_flat _, leaves_returnWithHeaders ?_ headers⟩
          split_ifs <;> decide +kernel
      | edgeHook => exact ⟨_, _, texts_flat _, leaves_forwardStatement route⟩
      | minimal => exact ⟨_, _, texts_flat _, leaves_returnWithHeaders (by decide) headers⟩
  | customOrigin origin =>
      rw [Ending.code, CustomOrigin.code, texts_append, texts_append, texts_append, texts_block]
      exact ⟨_, _, rfl, leaves_of_foreign_line rfl⟩
  | passResponse headers =>
      rw [Ending.code, texts_flat]
      cases headers with
      | nil => exact ⟨_, _, rfl, leaves_of_foreign_line rfl⟩
      | cons header headers =>
          refine ⟨_, _, rfl, ?_⟩
          unfold setHeader
          simp only [String.append_assoc]
          exact leaves_of_foreign rfl _

end Endings

end EdgeRoutes
