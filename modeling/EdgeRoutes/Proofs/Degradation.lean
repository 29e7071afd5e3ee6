import EdgeRoutes.Proofs.Findings
import EdgeRoutes.Proofs.RewriteRules
import EdgeRoutes.Proofs.RoutePhases
import EdgeRoutes.Proofs.TargetAgreement

/-! Degradation. Where the code does less than the configuration asks for, because a pattern has problems or an address
names no origin, the findings about the configuration say so: for the server or the location, and with the cause. The
check and the writing of the code go separate ways, so this is read off what the code looks like. -/

namespace EdgeRoutes

open Pattern Http

section Warnings

variable {g : Generator} {v : Validation}

/-- What each element comes to is part of what all of them come to. -/
theorem subset_of_mapM {α β : Type} {f : α → Except Fault (List β)} {as : List α} {found : List (List β)}
    (h : as.mapM f = .ok found) {a : α} (ha : a ∈ as) : ∃ bs, f a = .ok bs ∧ bs ⊆ found.flatten := by
  obtain ⟨bs, hbs, hf⟩ := exists_right_of_forall₂ (mapM_eq_ok_iff.mp h) ha
  exact ⟨bs, hf, fun b hb => List.mem_flatten.mpr ⟨bs, hbs, hb⟩⟩

/-- The findings contain the warnings about the structure of the configuration and those of the target. -/
theorem warnings_of_findings (h : g.findings = .ok v) :
    (∃ structural, g.config.structureWarnings g.target.dialect = .ok structural ∧ structural ⊆ v.warnings) ∧
      ∃ specific, g.target.findings g.config = .ok specific ∧ specific.warnings ⊆ v.warnings := by
  obtain ⟨structural, hstructural, h⟩ := bind_eq_ok_iff.mp h
  obtain ⟨specific, hspecific, h⟩ := bind_eq_ok_iff.mp h
  cases h
  exact ⟨⟨structural, hstructural, List.subset_append_left _ _⟩, specific, hspecific, List.subset_append_right _ _⟩

theorem serverWarnings_of_findings (h : g.findings = .ok v) {s : Nat × Server} (hs : s ∈ g.config.numbered) :
    ∃ warnings, s.2.warnings s.1 g.target.dialect = .ok warnings ∧ warnings ⊆ v.warnings := by
  obtain ⟨⟨structural, hstructural, hsubset⟩, -⟩ := warnings_of_findings h
  obtain ⟨servers, hservers, hstructural⟩ := bind_eq_ok_iff.mp hstructural
  obtain ⟨locations, -, hstructural⟩ := bind_eq_ok_iff.mp hstructural
  cases hstructural
  obtain ⟨warnings, hwarnings, hserver⟩ := subset_of_mapM hservers hs
  refine ⟨warnings, hwarnings, fun w hw => hsubset ?_⟩
  exact List.mem_append_left _ (List.mem_append_right _ (hserver hw))

theorem locationWarnings_of_findings (h : g.findings = .ok v) {x : String × Location} (hx : x ∈ g.config.labelled) :
    ∃ warnings, x.2.warnings x.1 g.config g.target.dialect = .ok warnings ∧ warnings ⊆ v.warnings := by
  obtain ⟨⟨structural, hstructural, hsubset⟩, -⟩ := warnings_of_findings h
  obtain ⟨servers, -, hstructural⟩ := bind_eq_ok_iff.mp hstructural
  obtain ⟨locations, hlocations, hstructural⟩ := bind_eq_ok_iff.mp hstructural
  cases hstructural
  obtain ⟨warnings, hwarnings, hlocation⟩ := subset_of_mapM hlocations hx
  exact ⟨warnings, hwarnings, fun w hw => hsubset (List.mem_append_right _ (hlocation hw))⟩

theorem locationFindings_of_findings (h : g.findings = .ok v) {x : String × Location} (hx : x ∈ g.config.labelled) :
    ∃ found, g.target.locationFindings x.1 x.2 = .ok found ∧ found.warnings ⊆ v.warnings := by
  obtain ⟨-, specific, hspecific, hsubset⟩ := warnings_of_findings h
  obtain ⟨locations, hlocations, hspecific⟩ := bind_eq_ok_iff.mp hspecific
  cases hspecific
  obtain ⟨found, hfound, hlocation⟩ := exists_right_of_forall₂ (mapM_eq_ok_iff.mp hlocations) hx
  refine ⟨found, hlocation, fun w hw => hsubset (List.mem_append_right _ ?_)⟩
  exact List.mem_flatMap.mpr ⟨found, hfound, hw⟩

/-- The location at a route, as findings name it. -/
def Route.place (r : Route) (label : String) : String :=
  "Server " ++ toString r.server ++ ", location " ++ label

theorem mem_labelled {c : Config} {r : Route} {l : Location} (h : c.HasAt r l) : (r.place l.label, l) ∈ c.labelled := by
  obtain ⟨i, j, server, hserver, hl, rfl⟩ := h
  refine List.mem_flatMap.mpr ⟨(i + 1, server), Config.mem_numbered.mpr ⟨i, hserver, rfl⟩, ?_⟩
  exact List.mem_map.mpr ⟨l, List.mem_of_getElem? hl, rfl⟩

/-- Among the warnings about a location are those about its pattern and those about each of its rules. -/
theorem parts_of_locationWarnings {l : Location} {label : String} {c : Config} {dialect : Dialect}
    {warnings : List String} (h : l.warnings label c dialect = .ok warnings) :
    (∃ pattern, l.patternWarnings label dialect = .ok pattern ∧ pattern ⊆ warnings) ∧
      ∀ rule ∈ l.directives.rewrites, ∃ found, Location.ruleWarnings label dialect rule = .ok found ∧
        found ⊆ warnings := by
  obtain ⟨pattern, hpattern, h⟩ := bind_eq_ok_iff.mp h
  obtain ⟨rules, hrules, h⟩ := bind_eq_ok_iff.mp h
  obtain ⟨expires, -, h⟩ := bind_eq_ok_iff.mp h
  cases h
  refine ⟨⟨pattern, hpattern, fun w hw => ?_⟩, fun rule hrule => ?_⟩
  · simp only [List.mem_append, hw, or_true, true_or]
  · obtain ⟨found, hfound, hsubset⟩ := subset_of_mapM hrules hrule
    refine ⟨found, hfound, fun w hw => ?_⟩
    have hflat := hsubset hw
    simp only [List.mem_append, hflat, or_true, true_or]

/-- The pattern has problems, and for each of them there is a warning. -/
def Warned (v : Validation) (pattern : String) (dialect : Dialect) (ignoreCase : Bool) (text : String → String) : Prop :=
  ∃ t, translate pattern dialect ignoreCase = .ok t ∧ t.problems ≠ [] ∧ ∀ p ∈ t.problems, text p.message ∈ v.warnings

theorem Warned.mem {v : Validation} {pattern : String} {dialect : Dialect} {ignoreCase : Bool} {text : String → String}
    (h : Warned v pattern dialect ignoreCase text) (p : Problem)
    (hp : (translate pattern dialect ignoreCase).toOption.map Translation.problems = some [p]) :
    text p.message ∈ v.warnings := by
  obtain ⟨t, ht, -, hwarned⟩ := h
  rw [ht] at hp
  refine hwarned p ?_
  rw [show t.problems = [p] from Option.some.inj hp]
  exact List.mem_singleton_self p

theorem problems_ne_nil {t : Translation} (h : t.supported = false) : t.problems ≠ [] := by
  intro hempty
  rw [Translation.supported, hempty] at h
  cases h

/-- The warning about a rule that is skipped. -/
def RewriteRule.skippedText (rule : RewriteRule) (place problem : String) : String :=
  place ++ ": rewrite " ++ rule.regex ++ " not translatable (" ++ problem ++ "); rule skipped"

variable (h : g.findings = .ok v)

include h

theorem pathWarnings_of_findings {r : Route} {l : Location} (hat : g.config.HasAt r l) {t : Translation}
    (ht : l.translation? g.target.dialect = .ok (some t)) :
    (t.problems.map fun p =>
      r.place l.label ++ ": regex not translatable (" ++ p.message ++ "); location never matches") ++
        (t.notes.map fun note => r.place l.label ++ ": " ++ note.message) ⊆ v.warnings := by
  obtain ⟨warnings, hwarnings, hsubset⟩ := locationWarnings_of_findings h (mem_labelled hat)
  obtain ⟨⟨pattern, hpattern, hpart⟩, -⟩ := parts_of_locationWarnings hwarnings
  rw [Location.patternWarnings, ht] at hpattern
  cases hpattern
  exact List.Subset.trans hpart hsubset

theorem ruleWarnings_of_findings {r : Route} {l : Location} (hat : g.config.HasAt r l) {rule : RewriteRule}
    (hrule : rule ∈ l.directives.rewrites) {t : Translation}
    (ht : translate rule.regex g.target.dialect false = .ok t) :
    (t.problems.map fun p => rule.skippedText (r.place l.label) p.message) ++
      (t.notes.map fun note => r.place l.label ++ ": rewrite " ++ rule.regex ++ ": " ++ note.message) ⊆ v.warnings := by
  obtain ⟨warnings, hwarnings, hsubset⟩ := locationWarnings_of_findings h (mem_labelled hat)
  obtain ⟨found, hfound, hpart⟩ := (parts_of_locationWarnings hwarnings).2 rule hrule
  rw [Location.ruleWarnings, ht] at hfound
  cases hfound
  exact List.Subset.trans hpart hsubset

theorem warned_path {r : Route} {l : Location} (hat : g.config.HasAt r l) {t : Translation}
    (ht : l.translation? g.target.dialect = .ok (some t)) (hproblems : t.supported = false) :
    Warned v l.path g.target.dialect (l.modifier == some .regexIgnoreCase) fun problem =>
      r.place l.label ++ ": regex not translatable (" ++ problem ++ "); location never matches" := by
  have hwarnings := pathWarnings_of_findings h hat ht
  rw [Location.translation?] at ht
  split_ifs at ht
  · obtain ⟨t', ht', hsome⟩ := map_eq_ok_iff.mp ht
    cases hsome
    refine ⟨t, ht', problems_ne_nil hproblems, fun p hp => hwarnings ?_⟩
    exact List.mem_append_left _ (List.mem_map.mpr ⟨p, hp, rfl⟩)
  · cases ht

theorem warned_rule {r : Route} {l : Location} (hat : g.config.HasAt r l) {rule : RewriteRule}
    (hrule : rule ∈ l.directives.rewrites) {t : Translation} (ht : translate rule.regex g.target.dialect false = .ok t)
    (hproblems : t.supported = false) :
    Warned v rule.regex g.target.dialect false (rule.skippedText (r.place l.label)) := by
  refine ⟨t, ht, problems_ne_nil hproblems, fun p hp => ruleWarnings_of_findings h hat hrule ht ?_⟩
  exact List.mem_append_left _ (List.mem_map.mpr ⟨p, hp, rfl⟩)

theorem warned_name {s : Nat × Server} (hs : s ∈ g.config.numbered) {name pattern : String} (hname : name ∈ s.2.names)
    (hpattern : Host.pattern? name = some pattern) {t : Translation}
    (ht : translate pattern g.target.dialect false = .ok t) (hproblems : t.supported = false) :
    Warned v pattern g.target.dialect false fun problem =>
      "Server " ++ toString s.1 ++ ", " ++ ("server_name " ++ name ++ ": " ++ problem) ++ "; that name never matches" := by
  obtain ⟨warnings, hwarnings, hsubset⟩ := serverWarnings_of_findings h hs
  obtain ⟨problems, hall, hwarnings⟩ := bind_eq_ok_iff.mp hwarnings
  cases hwarnings
  obtain ⟨names, hnames, hall⟩ := bind_eq_ok_iff.mp hall
  cases hall
  obtain ⟨found, hfound, hpart⟩ := subset_of_mapM hnames hname
  simp only [Host.nameProblems, hpattern, ht] at hfound
  cases hfound
  refine ⟨t, ht, problems_ne_nil hproblems, fun p hp => hsubset (List.mem_append_right _ ?_)⟩
  exact List.mem_map.mpr ⟨_, hpart (List.mem_map.mpr ⟨p, hp, rfl⟩), rfl⟩

/-- An upstream that cannot be used is warned about where a target reads addresses strictly. -/
theorem warned_address (ht : g.target.readsAddresses = true) {r : Route} {l : Location} (hat : g.config.HasAt r l)
    {url reason : String} (hproxy : l.directives.proxyPass = some url) (hreason : resolve url = .ok (.error reason)) :
    r.place l.label ++ ": " ++ reason ++ " in proxy_pass; location will respond 502" ∈ v.warnings := by
  obtain ⟨found, hfound, hsubset⟩ := locationFindings_of_findings h (mem_labelled hat)
  simp only [Target.locationFindings, hproxy] at hfound
  obtain ⟨proxy, hwarnings, hfound⟩ := bind_eq_ok_iff.mp hfound
  cases hfound
  have hstrict : ∃ limit, Target.strictProxyWarnings (r.place l.label) limit url = .ok proxy := by
    cases htarget : g.target with
    | worker | middleware =>
        rw [htarget] at ht
        cases ht
    | edgeHook | minimal =>
        rw [htarget] at hwarnings
        exact ⟨_, hwarnings⟩
  obtain ⟨limit, hstrict⟩ := hstrict
  rw [Target.strictProxyWarnings, hreason] at hstrict
  cases hstrict
  refine hsubset (List.mem_append_right _ ?_)
  exact List.mem_cons_of_mem _ (List.mem_singleton_self _)

end Warnings

section Conditions

theorem append_ne_of_head {first text : String} (hne : first ≠ "") (hhead : first.toList.head? ≠ text.toList.head?)
    (rest : String) : first ++ rest ≠ text := by
  have hcons : first.toList ≠ [] := fun h => hne (String.toList_eq_nil_iff.mp h)
  intro h
  apply hhead
  rw [← h, String.toList_append, List.head?_append_of_ne_nil _ hcons]

/-- Only a pattern with problems is written as a test that never succeeds. -/
theorem unsupported_of_render {t : Translation} {subject : String} (h : t.test.render subject = "false") :
    t.supported = false := by
  cases hsupported : t.supported with
  | false => rfl
  | true =>
      rw [Translation.test, if_pos hsupported, Test.render, Js.patternLiteral] at h
      have hhead := congrArg (fun text => text.toList.head?) h
      simp at hhead

/-- A location that has no pattern is never written as one that never matches. -/
theorem render_plainCondition_ne (l : Location) : l.plainCondition.render "path" ≠ "false" := by
  have hequals : ∀ value : String, Test.render "path" (.equals value) ≠ "false" := by
    intro value
    rw [Test.render, String.append_assoc]
    exact append_ne_of_head (by decide) (by decide) _
  have hstarts : ∀ value : String, Test.render "path" (.startsWith value) ≠ "false" := by
    intro value
    rw [Test.render, String.append_assoc, String.append_assoc]
    exact append_ne_of_head (by decide) (by decide) _
  unfold Location.plainCondition
  split
  · exact hequals l.path
  · exact hstarts l.path
  · split_ifs
    · exact hstarts l.path
    · -- the two tests stand in parentheses
      simp only [Condition.render, if_true]
      rw [String.append_assoc]
      exact append_ne_of_head (by decide) (by decide) _

theorem unsupported_of_condition {l : Location} {dialect : Dialect} {condition : Condition}
    (h : l.condition dialect = .ok condition) (hfalse : condition.render "path" = "false") :
    ∃ t, l.translation? dialect = .ok (some t) ∧ t.supported = false := by
  obtain ⟨translation, htranslation, h⟩ := bind_eq_ok_iff.mp h
  cases translation with
  | none =>
      cases h
      exact absurd hfalse (render_plainCondition_ne l)
  | some t =>
      cases h
      exact ⟨t, htranslation, unsupported_of_render hfalse⟩

/-- A name is tested with a constant only if its pattern is not supported. -/
theorem unsupported_of_hostCondition {names : List String} {dialect : Dialect} {condition : Condition}
    (h : Host.condition names dialect = .ok condition) {k : Nat} {name pattern : String} (hname : names[k]? = some name)
    (hpattern : Host.pattern? name = some pattern) {test : Test} (htest : condition.tests[k]? = some test)
    (hfalse : test.render "hostname" = "false") :
    ∃ t, translate pattern dialect false = .ok t ∧ t.supported = false := by
  unfold Host.condition at h
  split_ifs at h
  · -- any host will do, and the only test says so
    cases h
    obtain rfl := List.mem_singleton.mp (List.mem_of_getElem? htest)
    exact absurd hfalse (by decide)
  · obtain ⟨tests, htests, h⟩ := bind_eq_ok_iff.mp h
    cases h
    have hone : Host.test dialect name = .ok test := by
      obtain ⟨hk, rfl⟩ := List.getElem?_eq_some_iff.mp hname
      obtain ⟨hk', rfl⟩ := List.getElem?_eq_some_iff.mp htest
      exact (mapM_eq_ok_iff.mp htests).get hk hk'
    simp only [Host.test, hpattern] at hone
    obtain ⟨t, ht, rfl⟩ := map_eq_ok_iff.mp hone
    exact ⟨t, ht, unsupported_of_render hfalse⟩

end Conditions

section Rules

/-- The statement replaces the path, or redirects, as the rule says: the text it puts in is that of the rule. -/
def Statement.follows (rule : RewriteRule) : Statement → Bool
  | .branch pattern [.rewrite s] _ => s == ⟨pattern, rule.replacement⟩ && !rule.isRedirect
  | .branch pattern [.finish (.redirect (.replaced s) code _)] _ =>
    s == ⟨pattern, rule.replacement⟩ && rule.isRedirect && code == rule.statusCode
  | _ => false

/-- The rules that are not followed, each being looked for in its place: behind the statement of the rule before it, or
in the second branch of that statement. -/
def skippedRules : List RewriteRule → List Statement → List RewriteRule
  | [], _ => []
  | rule :: rules, [] => rule :: skippedRules rules []
  | rule :: rules, s :: ss =>
    let rest := match s with
      | .branch _ _ (some otherwise) => otherwise
      | _ => ss
    if s.follows rule then skippedRules rules rest else rule :: skippedRules rules rest

/-- The statements of rules follow all of them but those whose patterns have problems. -/
theorem skippedRules_ruleStatements (headers : Fields String) (rules : List TranslatedRule) (rest : List Statement) :
    skippedRules (rules.map Prod.fst) (ruleStatements headers rules ++ rest) =
      (rules.filter (!·.2.supported)).map Prod.fst := by
  induction rules generalizing rest with
  | nil => rfl
  | cons rule rules ih =>
      have hrules := ih []
      rw [List.append_nil] at hrules
      rw [ruleStatements, List.map_cons, List.filter_cons]
      cases hsupported : rule.2.supported with
      | false => simp [skippedRules, Statement.follows, ih rest]
      | true =>
          by_cases hredirect : rule.1.isRedirect = true
          · simp [skippedRules, Statement.follows, hredirect, TranslatedRule.substitution, ih rest]
          · by_cases hfinal : (rule.1.isFinal && !rules.isEmpty) = true
            · -- the rules after a final one stand in its second branch, and nothing follows them there
              simp [skippedRules, Statement.follows, hredirect, hfinal, TranslatedRule.substitution, hrules]
            · simp [skippedRules, Statement.follows, hredirect, hfinal, TranslatedRule.substitution, ih rest]

/-- A rule that is not followed has a pattern with problems. -/
theorem unsupported_of_skipped {dialect : Dialect} {headers : Fields String} {rules : List RewriteRule}
    {statements : List Statement} (h : rewriteStatements dialect headers rules = .ok statements) (rest : List Statement)
    {rule : RewriteRule} (hrule : rule ∈ skippedRules rules (statements ++ rest)) :
    rule ∈ rules ∧ ∃ t, translate rule.regex dialect false = .ok t ∧ t.supported = false := by
  rw [rewriteStatements_eq] at h
  obtain ⟨translated, htranslated, rfl⟩ := map_eq_ok_iff.mp h
  have hforall := mapM_eq_ok_iff.mp htranslated
  have hsame : translated.map Prod.fst = rules := by
    have hmap := map_eq_of_forall₂ (S := Eq) (f := Prod.fst) (g := id) (fun rule x rule' hx hrule => ?_) hforall
      (List.forall₂_same.mpr fun _ _ => rfl)
    · exact hmap.trans (List.map_id _)
    · obtain ⟨t, -, rfl⟩ := map_eq_ok_iff.mp hx
      exact hrule
  rw [← hsame, skippedRules_ruleStatements] at hrule
  obtain ⟨x, hx, rfl⟩ := List.mem_map.mp hrule
  obtain ⟨hx, hproblems⟩ := List.mem_filter.mp hx
  obtain ⟨rule, hmem, hrule⟩ := exists_left_of_forall₂ hforall hx
  obtain ⟨t, ht, rfl⟩ := map_eq_ok_iff.mp hrule
  exact ⟨hmem, t, ht, by simpa using hproblems⟩

end Rules

section Addresses

/-- The statements end in an answer with this code. -/
def answersWith (code : Nat) (body : List Statement) : Bool :=
  match body.getLast? with
  | some (.finish (.respond found _ _)) => found == code
  | _ => false

variable {t : Target} {site : Site} {url : String}

theorem refused_of_proxyStatements {headers : Fields String} {rest : List Statement}
    (h : (proxyStatements t site url headers).result = .ok rest) (hanswers : answersWith 502 rest = true) :
    t = .minimal ∧ ∃ reason, resolve url = .ok (.error reason) := by
  cases t with
  | worker | middleware | edgeHook =>
      cases h
      cases hanswers
  | minimal =>
      simp only [proxyStatements, Logged.result_bind, Logged.result_liftM] at h
      obtain ⟨resolved, hresolve, h⟩ := bind_eq_ok_iff.mp h
      cases resolved with
      | error reason => exact ⟨rfl, reason, hresolve⟩
      | ok upstream =>
          simp only [Logged.result_bind] at h
          obtain ⟨proxy, -, h⟩ := bind_eq_ok_iff.mp h
          cases h
          cases hanswers

theorem refused_of_locationBody {body : List Statement} (h : (locationBody t site).result = .ok body)
    (hproxy : site.location.directives.proxyPass = some url) (hanswer : site.location.directives.answer = none)
    (hanswers : answersWith 502 body = true) : t = .minimal ∧ ∃ reason, resolve url = .ok (.error reason) := by
  obtain ⟨headers, ⟨answer, hsome, -⟩ | ⟨-, rules, rest, -, rfl, hrest⟩⟩ := locationBody_cases h
  · rw [hanswer] at hsome
    cases hsome
  · have hne := (closes_of_proxyStatements (hrest url hproxy)).ne_nil
    rw [answersWith, List.getLast?_append_of_ne_nil _ hne] at hanswers
    exact refused_of_proxyStatements (hrest url hproxy) hanswers

theorem refused_of_originRequestBody {body : List Statement} (h : (originRequestBody site).result = .ok body)
    (hanswers : answersWith 502 body = true) :
    ∃ url reason, site.location.directives.proxyPass = some url ∧ resolve url = .ok (.error reason) := by
  obtain ⟨-, rfl⟩ | ⟨url, hproxy, -, ⟨reason, hreason, -⟩ | ⟨comment, origin, rfl⟩⟩ := originRequestBody_cases h
  · cases hanswers
  · exact ⟨url, reason, hproxy, hreason⟩
  · cases hanswers

end Addresses

/-- The address of a location's upstream names no origin, and there is a warning with the reason. -/
def AddressWarned (v : Validation) (place url : String) : Prop :=
  ∃ reason, resolve url = .ok (.error reason) ∧
    place ++ ": " ++ reason ++ " in proxy_pass; location will respond 502" ∈ v.warnings

/-- The findings say where the code of a location falls short of the location: it is never chosen, some of its rules are
not followed, or it answers with an error in place of its upstream. A location with a fixed answer follows no rules
anyway; the problems of their patterns are told all the same. -/
structure Disclosed (g : Generator) (v : Validation) (block : LocationBlock) (l : Location) : Prop where
  unmatched : block.condition.render "path" = "false" →
    Warned v l.path g.target.dialect (l.modifier == some .regexIgnoreCase) fun problem =>
      block.route.place block.label ++ ": regex not translatable (" ++ problem ++ "); location never matches"
  skipped : l.directives.answer = none → ∀ rule ∈ skippedRules l.directives.rewrites block.body,
    Warned v rule.regex g.target.dialect false (rule.skippedText (block.route.place block.label))
  unusable : ∀ rule ∈ l.directives.rewrites, ∀ t, translate rule.regex g.target.dialect false = .ok t →
    t.supported = false → Warned v rule.regex g.target.dialect false (rule.skippedText (block.route.place block.label))
  unproxied : l.directives.answer = none → ∀ url, l.directives.proxyPass = some url → answersWith 502 block.body = true →
    AddressWarned v (block.route.place block.label) url

/-- The findings say which names of a server the condition of its block has no use for. -/
def NamesDisclosed (g : Generator) (v : Validation) (b : ServerBlock) (s : Server) : Prop :=
  ∀ (k : Nat) (name pattern : String) (test : Test), s.names[k]? = some name → Host.pattern? name = some pattern →
    b.condition.tests[k]? = some test → test.render "hostname" = "false" →
    Warned v pattern g.target.dialect false fun problem =>
      "Server " ++ toString b.index ++ ", " ++ ("server_name " ++ name ++ ": " ++ problem) ++ "; that name never matches"

/-- Whatever of a location is left out of its block, the findings tell. -/
theorem disclosed_of_blockOf {g : Generator} {v : Validation} (h : g.findings = .ok v) {index : Nat}
    {p : Location.Placed} {block : LocationBlock} (hof : BlockOf g.target index p block)
    (hat : g.config.HasAt block.route p.location) : Disclosed g v block p.location where
  unmatched hfalse := by
    obtain ⟨t, ht, hproblems⟩ := unsupported_of_condition hof.condition hfalse
    rw [hof.label]
    exact warned_path h hat ht hproblems
  skipped hanswer rule hrule := by
    obtain ⟨headers, ⟨answer, hsome, -⟩ | ⟨-, statements, rest, hstatements, hbody, -⟩⟩ := locationBody_cases hof.body
    · rw [show p.location.directives.answer = some answer from hsome] at hanswer
      cases hanswer
    · rw [hbody] at hrule
      obtain ⟨hmem, t, ht, hproblems⟩ := unsupported_of_skipped hstatements rest hrule
      rw [hof.label]
      exact warned_rule h hat hmem ht hproblems
  unusable rule hrule t ht hproblems := by
    rw [hof.label]
    exact warned_rule h hat hrule ht hproblems
  unproxied hanswer url hproxy hanswers := by
    obtain ⟨hminimal, reason, hreason⟩ := refused_of_locationBody hof.body hproxy hanswer hanswers
    have hreads : g.target.readsAddresses = true := by rw [hminimal]; rfl
    rw [hof.label]
    exact ⟨reason, hreason, warned_address h hreads hat hproxy hreason⟩

theorem namesDisclosed_of_serverBlockOf {g : Generator} {v : Validation} (h : g.findings = .ok v) {s : Nat × Server}
    (hs : s ∈ g.config.numbered) {b : ServerBlock} (hof : ServerBlockOf g.target s b) : NamesDisclosed g v b s.2 := by
  intro k name pattern test hname hpattern htest hfalse
  obtain ⟨t, ht, hproblems⟩ := unsupported_of_hostCondition hof.condition hname hpattern htest hfalse
  rw [hof.index]
  exact warned_name h hs (List.mem_of_getElem? hname) hpattern ht hproblems

/-- The code is nowhere silent about what it leaves out. If a location has a condition that no path meets, if a rule has
no statement in its place, if a name that is a pattern has a test that no host passes, or if a location answers with an
error in place of its upstream, then the findings have warnings for that server or location, with each problem of the
pattern or the reason that rules the address out. -/
theorem degradation_disclosed (g : Generator) {v : Validation} {context : Template.Context}
    (hvalidate : g.validate.result = .ok v) (hsections : g.sections.result = .ok context) :
    (∃ blocks, (g.serverBlocks (locationBody g.target)).result = .ok blocks ∧
      context.get? g.target.routingKey = some (.text (ServerBlock.text g.target g.options.comments blocks 1)) ∧
      ∀ b ∈ blocks, ∃ s, (b.index, s) ∈ g.config.numbered ∧ NamesDisclosed g v b s ∧
        ∀ block ∈ b.locations, block.route.server = b.index ∧
          ∃ l, g.config.HasAt block.route l ∧ block.label = l.label ∧ Disclosed g v block l) ∧
    (g.target = .edgeHook → ∃ requests, (g.routeBlocks originRequestBody).result = .ok requests ∧
      context.get? "origin_request" = some (.text (RouteBlock.text g.target g.options.comments requests 1)) ∧
      ∀ b ∈ requests, ∃ l, g.config.HasAt b.route l ∧ b.label = l.label ∧
        (answersWith 502 b.body = true → ∃ url, l.directives.proxyPass = some url ∧
          AddressWarned v (b.route.place b.label) url)) := by
  have hv := findings_of_validate hvalidate
  constructor
  · obtain ⟨blocks, hblocks, htext⟩ := serverBlocks_of_sections hsections
    refine ⟨blocks, hblocks, htext, fun b hb => ?_⟩
    obtain ⟨s, hs, hserver⟩ := exists_left_of_forall₂ (serverBlockOf_of_serverBlocks hblocks) hb
    have hnumbered : s ∈ g.config.numbered := (List.mem_filter.mp hs).1
    refine ⟨s.2, ?_, namesDisclosed_of_serverBlockOf hv hnumbered hserver, fun block hblock => ?_⟩
    · rw [hserver.index]
      exact hnumbered
    · obtain ⟨p, hp, hof⟩ := exists_left_of_forall₂ hserver.locations hblock
      obtain ⟨hat, -⟩ := Config.hasAt_of_mem_tried hnumbered hp
      rw [← hof.route] at hat
      refine ⟨?_, p.location, hat, hof.label, disclosed_of_blockOf hv hof hat⟩
      rw [hof.route, hserver.index]
  · obtain ⟨target, config, options⟩ := g
    rintro rfl
    obtain ⟨viewer, requests, response, rfl, -, hrequests, -⟩ := blocks_of_sections hsections
    refine ⟨requests, hrequests, rfl, fun b hb => ?_⟩
    obtain ⟨l, hat, -, -, hlabel, hbody⟩ := (phaseBlocks_of_routeBlocks hrequests).carries b hb
    refine ⟨l, hat, hlabel, fun hanswers => ?_⟩
    obtain ⟨url, reason, hproxy, hreason⟩ := refused_of_originRequestBody hbody hanswers
    refine ⟨url, hproxy, reason, hreason, ?_⟩
    rw [hlabel]
    exact warned_address hv rfl hat hproxy hreason

/-- A location of which little is left: the patterns of its path and of the second of its rules have possessive
quantifiers, and the host of its upstream is a variable. -/
def degradingLocation : Location where
  path := "b++"
  modifier := some .regex
  directives := {
    proxyPass := some "http://$backend"
    rewrites := [{ regex := "^/x", replacement := "/y", flags := [.last] }, { regex := "c++", replacement := "/z" }] }

def degrading : Config where
  servers := [{ names := ["~a++"], locations := [degradingLocation] }]

/-- The code for that has one block for the server and one for the location, and both fall short. -/
theorem degrading_falls_short {blocks : List ServerBlock}
    (h : (Generator.serverBlocks ⟨.minimal, degrading, {}⟩ (locationBody .minimal)).result = .ok blocks) :
    ∃ b block, blocks = [b] ∧ b.locations = [block] ∧ b.index = 1 ∧ b.condition.tests = [.constant false] ∧
      block.route = ⟨1, 1⟩ ∧ block.label = "~ b++" ∧ block.condition.render "path" = "false" ∧
      skippedRules degradingLocation.directives.rewrites block.body = [{ regex := "c++", replacement := "/z" }] ∧
      answersWith 502 block.body = true := by
  have hserver := eq_of_map_toOption h (b := [(1, [.constant false])])
    (f := List.map fun b => (b.index, b.condition.tests)) (by decide +kernel)
  have hlocation := eq_of_map_toOption h (b := [((⟨1, 1⟩ : Route), "~ b++", "false")])
    (f := List.flatMap fun b => b.locations.map fun block =>
      (block.route, block.label, block.condition.render "path")) (by decide +kernel)
  have hbody := eq_of_map_toOption h (b := [([({ regex := "c++", replacement := "/z" } : RewriteRule)], true)])
    (f := List.flatMap fun b => b.locations.map fun block =>
      (skippedRules degradingLocation.directives.rewrites block.body, answersWith 502 block.body)) (by decide +kernel)
  obtain ⟨b, rfl, hb⟩ := List.map_eq_singleton_iff.mp hserver
  rw [List.flatMap_singleton] at hlocation hbody
  obtain ⟨block, hblock, hlocation⟩ := List.map_eq_singleton_iff.mp hlocation
  rw [hblock, List.map_singleton, List.singleton_inj] at hbody
  simp only [Prod.mk.injEq] at hb hlocation hbody
  exact ⟨b, block, rfl, hblock, hb.1, hb.2, hlocation.1, hlocation.2.1, hlocation.2.2, hbody.1, hbody.2⟩

theorem degradation_disclosed_degrading :
    ∃ v context, (Generator.validate ⟨.minimal, degrading, {}⟩).result = .ok v ∧
      (Generator.sections ⟨.minimal, degrading, {}⟩).result = .ok context ∧
      "Server 1, server_name ~a++: possessive quantifiers are not supported; that name never matches" ∈ v.warnings ∧
      "Server 1, location ~ b++: regex not translatable (possessive quantifiers are not supported); location never matches"
        ∈ v.warnings ∧
      "Server 1, location ~ b++: rewrite c++ not translatable (possessive quantifiers are not supported); rule skipped"
        ∈ v.warnings ∧
      "Server 1, location ~ b++: host is only known at request time in proxy_pass; location will respond 502"
        ∈ v.warnings := by
  obtain ⟨v, hv⟩ := Option.isSome_iff_exists.mp
    (show (Generator.validate ⟨.minimal, degrading, {}⟩).result.toOption.isSome = true by decide +kernel)
  obtain ⟨context, hcontext⟩ := Option.isSome_iff_exists.mp
    (show (Generator.sections ⟨.minimal, degrading, {}⟩).result.toOption.isSome = true by decide +kernel)
  rw [toOption_eq_some_iff] at hv hcontext
  obtain ⟨⟨blocks, hblocks, -, hdisclosed⟩, -⟩ := degradation_disclosed _ hv hcontext
  obtain ⟨b, block, rfl, hblock, hindex, htests, hroute, hlabel, hpath, hskipped, hanswers⟩ :=
    degrading_falls_short hblocks
  obtain ⟨s, hs, hnames, hlocations⟩ := hdisclosed b (List.mem_singleton_self b)
  obtain ⟨-, l, hat, -, hdisclosed⟩ := hlocations block (by rw [hblock]; exact List.mem_singleton_self block)
  obtain rfl : l = degradingLocation := by
    rw [hroute] at hat
    exact hat.unique ⟨0, 0, _, rfl, rfl, rfl⟩
  obtain rfl : s = { names := ["~a++"], locations := [degradingLocation] } :=
    (Prod.mk.inj (List.mem_singleton.mp hs)).2
  have hname := (hnames 0 "~a++" "a++" (.constant false) rfl rfl (by rw [htests]; rfl) rfl).mem .possessive (by decide +kernel)
  have hunmatched := (hdisclosed.unmatched hpath).mem .possessive (by decide +kernel)
  have hrule := (hdisclosed.skipped rfl ⟨"c++", "/z", []⟩ (by rw [hskipped]; exact List.mem_singleton_self _)).mem
    .possessive (by decide +kernel)
  obtain ⟨reason, hreason, haddress⟩ := hdisclosed.unproxied rfl _ rfl hanswers
  have hresolve : resolve "http://$backend" = .ok (.error "host is only known at request time") := rfl
  obtain rfl : reason = "host is only known at request time" := by
    rw [hresolve] at hreason
    cases hreason
    rfl
  rw [hroute, hlabel] at hunmatched hrule haddress
  rw [hindex] at hname
  exact ⟨v, context, hv, hcontext, hname, hunmatched, hrule, haddress⟩

end EdgeRoutes
