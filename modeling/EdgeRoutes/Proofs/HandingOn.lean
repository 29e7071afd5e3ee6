import EdgeRoutes.Generate.Source
import EdgeRoutes.Proofs.ForwardingCode

/-! Requests that are handed on behind rewrite rules. A location without an answer, an upstream or files lets the
runtime go on with the request. Under which path it goes on is read from the code, and from the helpers of the file
around it. -/

namespace EdgeRoutes

open Js Js.Code Pattern

/-- The path under which a request is handed on. -/
inductive HandOver where
  /-- The one that the rules have left. -/
  | changed
  /-- The one that the request came with. -/
  | asItCame
  deriving DecidableEq

/-- The path under which a request is handed on, from the one it came with and the one that the rules have left. -/
def HandOver.path (own current : String) : HandOver → String
  | .changed => current
  | .asItCame => own

/-- The lines that a part of a template has whatever it is filled with. -/
def Template.Piece.fixedLines : Piece → List String
  | .lines ls => ls
  | _ => []

/-- The lines inside a helper of the file around the routing code. -/
def Target.helper (target : Target) (opening : String) : List String :=
  (((target.template.flatMap Template.Piece.fixedLines).dropWhile (· != opening)).tail).takeWhile (· != "\x7d")

/-- Reads under which path a helper hands on the request that it is given together with a path. -/
def readHelper? (lines : List String) : Option HandOver :=
  if lines.contains "  request.uri = path;" && lines.contains "  return request;" then some .changed
  else if lines.contains "    return platform.next(request);" then some .asItCame
  else none

/-- Reads under which path code for a target hands a request on: from the address that a request is made for, from the
last line, or from the helper that the last line calls. -/
def readHandOver? (target : Target) (code : Code) : Option HandOver :=
  let last := (code.getLast?.map (·.text)).getD ""
  match target with
  | .worker =>
    (code.field? "const response = await fetch(new Request(new URL(").bind fun address =>
      if address = "path + url.search, url), request));".toList then some .changed
      else if address = "request.url), request));".toList then some .asItCame
      else none
  | .middleware =>
    if Text.startsWith last "return withHeaders(NextResponse.rewrite(new URL(path + url.search, request.url)), " then
      some .changed
    else if Text.startsWith last "return withHeaders(NextResponse.next(), " then some .asItCame
    else none
  | .edgeHook =>
    if Text.startsWith last "return forwardRequest(request, path, rewritten, " then
      readHelper? (target.helper "function forwardRequest(request, path, rewritten, route) \x7b")
    else none
  | .minimal =>
    if Text.startsWith last "return withHeaders(await passThrough(request, platform, vars), " then
      readHelper? (target.helper "async function passThrough(request, platform, vars) \x7b")
    else none

theorem startsWith_of_append {line mark rest : String} (h : line = mark ++ rest) :
    Text.startsWith line mark = true := by
  rw [h, Text.startsWith_iff, String.toList_append]
  exact List.prefix_append mark.toList rest.toList

/-- What the code of each target hands on behind rules. -/
def Target.handOver : Target → HandOver
  | .worker | .middleware | .edgeHook => .changed
  | .minimal => .asItCame

theorem readHelper?_edgeHook :
    readHelper? (Target.edgeHook.helper "function forwardRequest(request, path, rewritten, route) \x7b") =
      some .changed := by
  decide +kernel

theorem readHelper?_minimal :
    readHelper? (Target.minimal.helper "async function passThrough(request, platform, vars) \x7b") =
      some .asItCame := by
  decide +kernel

theorem startsWith_returnWithHeaders (response : String) (headers : Fields String) :
    Text.startsWith (returnWithHeaders response headers) ("return withHeaders(" ++ response ++ ", ") = true := by
  unfold returnWithHeaders
  exact startsWith_of_append String.append_assoc

theorem startsWith_forwardStatement (route : Route) :
    Text.startsWith (forwardStatement route) "return forwardRequest(request, path, rewritten, " = true := by
  unfold forwardStatement
  exact startsWith_of_append String.append_assoc

/-- The last line of the code of statements is the one that they close with. -/
theorem getLast?_codeAll (target : Target) (comments : Bool) (statements : List Statement) (rewrites : Bool)
    (route : Route) (headers : Fields String) :
    (Statement.codeAll target comments (statements ++ [.finish (.forward rewrites route headers)])).getLast? =
      (forwardCode target rewrites route headers).getLast? := by
  have hne : forwardCode target rewrites route headers ≠ [] := by
    cases target <;> exact List.cons_ne_nil _ _
  rw [codeAll_append, codeAll_singleton, Statement.code, Ending.code, List.getLast?_append_of_ne_nil _ hne]

/-- The rules before the last statement do not hide how it hands a request on. -/
theorem readHandOver?_forward {target : Target} {headers : Fields String} {rules : List RewriteRule}
    {statements : List Statement} (hrules : rewriteStatements target.dialect headers rules = .ok statements)
    (comments : Bool) (route : Route) :
    readHandOver? target (Statement.codeAll target comments
      (statements ++ [.finish (.forward true route headers)])) = some target.handOver := by
  have hlast := getLast?_codeAll target comments statements true route headers
  unfold readHandOver?
  simp only [hlast]
  cases target with
  | worker =>
      have hfield : (Statement.codeAll .worker comments (statements ++ [.finish (.forward true route headers)])).field?
          "const response = await fetch(new Request(new URL(" = some "path + url.search, url), request));".toList := by
        rw [field?_of_rules (by decide) hrules]
        rfl
      simp only [hfield]
      rfl
  | middleware =>
      have hmark : "return withHeaders(" ++ "NextResponse.rewrite(new URL(path + url.search, request.url))" ++ ", " =
          "return withHeaders(NextResponse.rewrite(new URL(path + url.search, request.url)), " := by
        decide +kernel
      have hline := startsWith_returnWithHeaders "NextResponse.rewrite(new URL(path + url.search, request.url))" headers
      rw [hmark] at hline
      exact if_pos hline
  | edgeHook => exact (if_pos (startsWith_forwardStatement route)).trans readHelper?_edgeHook
  | minimal =>
      have hmark : "return withHeaders(" ++ "await passThrough(request, platform, vars)" ++ ", " =
          "return withHeaders(await passThrough(request, platform, vars), " := by
        decide +kernel
      have hline := startsWith_returnWithHeaders "await passThrough(request, platform, vars)" headers
      rw [hmark] at hline
      exact (if_pos hline).trans readHelper?_minimal

/-- The path under which statements, and their code for a target, hand a request on, if they do. -/
def handedOn? (target : Target) (comments : Bool) (body : List Statement) (e : Engine) (path : String) :
    Option String :=
  match Statement.runAll e body (.ofPath path false) with
  | .ended (.forward _ _ _) r =>
    (readHandOver? target (Statement.codeAll target comments body)).map (HandOver.path path r.path)
  | _ => none

/-- The path of a request that has come to the end of statements. -/
def Verdict.path? : Verdict → Option String
  | .passed r => some r.path
  | _ => none

/-- The path that rules leave, unless they redirect. -/
def pathLeft? (e : Engine) (rules : List TranslatedRule) (path : String) : Option String :=
  (followRules e [] rules path false).path?

/-- A request that statements let pass comes to the statements after them. -/
theorem runAll_append (e : Engine) (before after : List Statement) (r : RequestState) :
    Statement.runAll e (before ++ after) r =
      match Statement.runAll e before r with
      | .passed next => Statement.runAll e after next
      | verdict => verdict := by
  induction before generalizing r with
  | nil => rfl
  | cons s before ih =>
      rw [List.cons_append, Statement.runAll, Statement.runAll]
      cases s.run e r with
      | passed next => exact ih next
      | redirected url code headers => rfl
      | ended ending request => rfl

/-- The headers of redirects have no say in the path that rules leave. -/
theorem path?_followRules (e : Engine) (headers : Fields String) (rules : List TranslatedRule) (path : String)
    (rewritten : Bool) :
    (followRules e headers rules path rewritten).path? = (followRules e [] rules path rewritten).path? := by
  induction rules generalizing path rewritten with
  | nil => rfl
  | cons rule rules ih =>
      rw [followRules, followRules]
      simp only
      split_ifs
      · rfl
      · rfl
      · exact ih _ _
      · exact ih _ _

/-- Rules redirect a request or leave it with a path. -/
theorem followRules_cases (e : Engine) (headers : Fields String) (rules : List TranslatedRule) (path : String)
    (rewritten : Bool) :
    (∃ url code, followRules e headers rules path rewritten = .redirected url code headers) ∨
      ∃ r, followRules e headers rules path rewritten = .passed r := by
  induction rules generalizing path rewritten with
  | nil => exact Or.inr ⟨_, rfl⟩
  | cons rule rules ih =>
      rw [followRules]
      simp only
      split_ifs
      · exact Or.inl ⟨_, _, rfl⟩
      · exact Or.inr ⟨_, rfl⟩
      · exact ih _ _
      · exact ih _ _

/-- A location that does nothing but hand requests on behind rules, one of which can be used to change the path. -/
structure Site.HandsOn (target : Target) (site : Site) (rules : List TranslatedRule) : Prop where
  answer : site.location.directives.answer = none
  proxyPass : site.location.directives.proxyPass = none
  files : site.location.directives.servesStatic = false
  translated : translateRules target.dialect site.location.directives.rewrites = .ok rules
  changing : ∃ r ∈ rules, r.2.supported = true ∧ r.1.isRedirect = false

namespace Site.HandsOn

variable {target : Target} {site : Site} {rules : List TranslatedRule} {body : List Statement}

theorem rewritesUri (h : site.HandsOn target rules) : site.location.directives.rewritesUri = true := by
  obtain ⟨r, hr, -, hchanging⟩ := h.changing
  obtain ⟨rule, hrule, htranslated⟩ := exists_left_of_forall₂ (mapM_eq_ok_iff.mp h.translated) hr
  obtain ⟨translation, -, rfl⟩ := map_eq_ok_iff.mp htranslated
  exact List.any_eq_true.mpr ⟨rule, hrule, by rw [hchanging, Bool.not_false]⟩

theorem result_rewriteStatements (h : site.HandsOn target rules) (headers : Fields String) :
    rewriteStatements target.dialect headers site.location.directives.rewrites =
      .ok (ruleStatements headers rules) := by
  rw [rewriteStatements_eq, h.translated]
  rfl

/-- The statements are those of the rules, and then the request is handed on. Only headers can keep them from being
made. -/
theorem result_locationBody (h : site.HandsOn target rules) :
    (locationBody target site).result = (Http.responseHeaders site.location.directives).map fun headers =>
      ruleStatements headers rules ++ [.finish (.forward true site.route headers)] := by
  simp only [locationBody, h.answer, h.proxyPass, h.files, h.result_rewriteStatements, forwardStatements, h.rewritesUri,
    Logged.result_bind, Logged.result_liftM, Bool.false_eq_true, if_false]
  cases Http.responseHeaders site.location.directives <;> rfl

theorem exists_body (h : site.HandsOn target rules) (hbody : (locationBody target site).result = .ok body) :
    ∃ headers, body = ruleStatements headers rules ++ [.finish (.forward true site.route headers)] := by
  rw [h.result_locationBody] at hbody
  obtain ⟨headers, -, rfl⟩ := map_eq_ok_iff.mp hbody
  exact ⟨headers, rfl⟩

theorem readHandOver?_eq (h : site.HandsOn target rules) (hbody : (locationBody target site).result = .ok body)
    (comments : Bool) : readHandOver? target (Statement.codeAll target comments body) = some target.handOver := by
  obtain ⟨headers, rfl⟩ := h.exists_body hbody
  exact readHandOver?_forward (h.result_rewriteStatements headers) comments site.route

/-- A request is handed on unless a rule redirects it. -/
theorem handedOn?_eq (h : site.HandsOn target rules) (hbody : (locationBody target site).result = .ok body)
    (comments : Bool) (e : Engine) (path : String) :
    handedOn? target comments body e path = (pathLeft? e rules path).map (HandOver.path path · target.handOver) := by
  have hread := h.readHandOver?_eq hbody comments
  obtain ⟨headers, rfl⟩ := h.exists_body hbody
  rw [pathLeft?, ← path?_followRules e headers, handedOn?, runAll_append, runAll_ruleStatements, hread]
  rcases followRules_cases e headers rules path false with ⟨url, code, hredirected⟩ | ⟨r, hpassed⟩
  · rw [hredirected]
    rfl
  · rw [hpassed]
    rfl

end Site.HandsOn

theorem Target.handOver_eq_changed_iff (target : Target) : target.handOver = .changed ↔ target ≠ .minimal := by
  cases target <;> decide

theorem Target.handOver_path (target : Target) (own current : String) :
    HandOver.path own current target.handOver = if target = .minimal then own else current := by
  cases target <;> rfl

/-- Code behind rules hands requests on under the path that the rules have left, except for small embedded engines:
there the path that a request came with is all that is handed on, so that it is only right for rules that leave it as
it was, and requests for one path are handed on alike whatever the rules have made of each. -/
theorem path_left_handed_on_iff {target : Target} {site : Site} {rules : List TranslatedRule} {body : List Statement}
    (h : site.HandsOn target rules) (hbody : (locationBody target site).result = .ok body) (comments : Bool) :
    (readHandOver? target (Statement.codeAll target comments body) = some .changed ↔ target ≠ .minimal) ∧
      (∀ e path, (handedOn? target comments body e path).isSome = (pathLeft? e rules path).isSome) ∧
      (∀ e path left, pathLeft? e rules path = some left →
        (handedOn? target comments body e path = some left ↔ target ≠ .minimal ∨ left = path)) ∧
      ∀ e e' path path' left left', pathLeft? e rules path = some left → pathLeft? e' rules path' = some left' →
        left ≠ left' →
          (handedOn? target comments body e path ≠ handedOn? target comments body e' path' ↔
            target ≠ .minimal ∨ path ≠ path') := by
  have hhanded := h.handedOn?_eq hbody comments
  refine ⟨?_, ?_, ?_, ?_⟩
  · rw [h.readHandOver?_eq hbody comments, Option.some_inj, target.handOver_eq_changed_iff]
  · intro e path
    rw [hhanded, Option.isSome_map]
  · intro e path left hleft
    rw [hhanded, hleft, Option.map_some, Option.some_inj, target.handOver_path]
    by_cases htarget : target = .minimal
    · simp only [htarget, if_pos, ne_eq, not_true_eq_false, false_or, eq_comm]
    · simp only [htarget, if_false, ne_eq, not_false_eq_true, true_or]
  · intro e e' path path' left left' hleft hleft' hne
    rw [hhanded, hhanded, hleft, hleft', Option.map_some, Option.map_some, target.handOver_path, target.handOver_path,
      ne_eq, Option.some_inj]
    by_cases htarget : target = .minimal
    · simp only [htarget, if_pos, ne_eq, not_true_eq_false, false_or]
    · simp only [htarget, if_false, ne_eq, not_false_eq_true, true_or, hne]

/-- A rule that puts the host before the path. -/
def hostRule : RewriteRule := ⟨"^/(.*)$", "/$host/$1", [.last]⟩

/-- A location that does nothing but hand requests on behind that rule. -/
def hostFirst : Site := ⟨⟨1, 1⟩, { path := "/", directives := { rewrites := [hostRule] } }⟩

/-- What the rule needs for requests to a host. -/
def forHost (host : String) : Engine where
  matchesPattern _ _ path := Text.startsWith path "/"
  substitute _ path := "/$host" ++ path
  expand _ text :=
    match Text.after? "/$host".toList text.toList with
    | some rest => "/" ++ host ++ String.ofList rest
    | none => text

/-- The pattern of the rule is used as it is written. -/
def hostPattern : Translation := ⟨hostRule.regex, hostRule.regex, false, [], []⟩

theorem translate_hostRule (dialect : Dialect) : translate hostRule.regex dialect false = .ok hostPattern :=
  translate_of_parts (by cases dialect <;> decide +kernel)

theorem handsOn_hostFirst (target : Target) : hostFirst.HandsOn target [(hostRule, hostPattern)] where
  answer := rfl
  proxyPass := rfl
  files := rfl
  translated := mapM_eq_ok_iff.mpr (.cons (by rw [translate_hostRule]; rfl) .nil)
  changing := ⟨_, List.mem_singleton_self _, rfl, by decide +kernel⟩

theorem exists_locationBody_hostFirst (target : Target) :
    ∃ body, (locationBody target hostFirst).result = .ok body := by
  rw [(handsOn_hostFirst target).result_locationBody]
  exact ⟨_, rfl⟩

theorem path_left_handed_on_iff_host :
    hostFirst.HandsOn .middleware [(hostRule, hostPattern)] ∧
      ∃ body, (locationBody .middleware hostFirst).result = .ok body ∧
        handedOn? .middleware true body (forHost "a") "/x" = some "/a/x" ∧
        handedOn? .middleware true body (forHost "a") "/x" ≠ handedOn? .middleware true body (forHost "b") "/x" := by
  have hhands := handsOn_hostFirst .middleware
  obtain ⟨body, hbody⟩ := exists_locationBody_hostFirst .middleware
  obtain ⟨-, -, hleft, hapart⟩ := path_left_handed_on_iff hhands hbody true
  refine ⟨hhands, body, hbody, ?_, ?_⟩
  · exact (hleft (forHost "a") "/x" "/a/x" (by decide +kernel)).mpr (Or.inl (by decide))
  · exact (hapart (forHost "a") (forHost "b") "/x" "/x" "/a/x" "/b/x" (by decide +kernel) (by decide +kernel)
      (by decide)).mpr (Or.inl (by decide))

/-- Two hosts ask a small embedded engine for one path: the rule makes different paths of it, and the code hands both
requests on under the path that they came with. -/
theorem path_left_lost : ∃ body, (locationBody .minimal hostFirst).result = .ok body ∧
    pathLeft? (forHost "a") [(hostRule, hostPattern)] "/x" = some "/a/x" ∧
    pathLeft? (forHost "b") [(hostRule, hostPattern)] "/x" = some "/b/x" ∧
    ∀ comments, handedOn? .minimal comments body (forHost "a") "/x" = some "/x" ∧
      handedOn? .minimal comments body (forHost "b") "/x" = some "/x" := by
  obtain ⟨body, hbody⟩ := exists_locationBody_hostFirst .minimal
  have hleft : ∀ host ∈ ["a", "b"],
      pathLeft? (forHost host) [(hostRule, hostPattern)] "/x" = some ("/" ++ host ++ "/x") := by
    decide +kernel
  refine ⟨body, hbody, hleft "a" (by decide), hleft "b" (by decide), fun comments => ?_⟩
  have hhanded := (handsOn_hostFirst .minimal).handedOn?_eq hbody comments
  rw [hhanded, hhanded, hleft "a" (by decide), hleft "b" (by decide)]
  exact ⟨rfl, rfl⟩

end EdgeRoutes
