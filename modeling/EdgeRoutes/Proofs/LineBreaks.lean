import EdgeRoutes.Proofs.CommentLines
import EdgeRoutes.Proofs.Emission
import EdgeRoutes.Proofs.PatternLines

/-! Line breaks in emitted code. Text of the configuration is written into string literals, comments and patterns. The
first two never break a line; of the patterns, those of host names with wildcards are copied as they stand. -/

namespace EdgeRoutes

open Js Js.Code Pattern

/-- The pattern, if it can be used, is written on one line. -/
def Pattern.WrittenUnbroken (dialect : Dialect) (pattern : String) (ignoreCase : Bool) : Prop :=
  ∀ t, translate pattern dialect ignoreCase = .ok t → t.supported = true → unbroken t.source.toList = true

/-- The test of the host name is written on one line. -/
def Host.Unbroken (dialect : Dialect) (name : String) : Prop :=
  match Host.pattern? name with
  | some pattern => WrittenUnbroken dialect pattern false
  | none => name.toList.contains '*' = true ∨ name.toList.head? = some '.' → OneLine name

structure Location.Unbroken (dialect : Dialect) (l : Location) : Prop where
  path : l.isRegex = true → WrittenUnbroken dialect l.path (l.modifier == some .regexIgnoreCase)
  rules : l.directives.answer = none → ∀ rule ∈ l.directives.rewrites, WrittenUnbroken dialect rule.regex false

/-- The patterns of the servers and locations that a request can reach are written on one line. -/
def Config.Unbroken (dialect : Dialect) (c : Config) : Prop :=
  ∀ s ∈ c.reachable,
    (s.2.names = [] ∨ "*" ∈ s.2.names ∨ ∀ name ∈ s.2.names, Host.Unbroken dialect name) ∧
      ∀ p ∈ s.2.tried, p.location.Unbroken dialect

section Conditions

theorem oneLine_join {pieces : List String} : OneLine (String.join pieces) ↔ ∀ piece ∈ pieces, OneLine piece := by
  rw [OneLine, String.toList_join, List.forall_mem_flatMap]
  rfl

theorem oneLine_condition {subject : String} {c : Condition} :
    OneLine (c.render subject) ↔ ∀ test ∈ c.tests, OneLine (test.render subject) := by
  have htests : OneLine (Text.joined " || " (c.tests.map (Test.render subject))) ↔
      ∀ test ∈ c.tests, OneLine (test.render subject) := by
    rw [oneLine_joined (oneLine_literal rfl), List.forall_mem_map]
  unfold Condition.render
  split_ifs
  · exact (oneLine_between rfl rfl).trans htests
  · exact htests

section Tests

variable {subject : String} (hsubject : OneLine subject)

include hsubject

theorem oneLine_equals (value : String) : OneLine ((Test.equals value).render subject) := by
  unfold Test.render
  exact oneLine_append.mpr ⟨oneLine_append.mpr ⟨hsubject, oneLine_literal rfl⟩, oneLine_string value⟩

theorem oneLine_startsWith (value : String) : OneLine ((Test.startsWith value).render subject) := by
  unfold Test.render
  refine oneLine_append.mpr ⟨oneLine_append.mpr ⟨oneLine_append.mpr ⟨hsubject, oneLine_literal rfl⟩, ?_⟩, ?_⟩
  · exact oneLine_string value
  · exact oneLine_literal rfl

theorem oneLine_matchesSegments {segments : List Segment} :
    OneLine ((Test.matchesSegments segments).render subject) ↔ ∀ s ∈ segments, OneLine s.render := by
  unfold Test.render
  rw [oneLine_append, oneLine_append, oneLine_append, oneLine_append, oneLine_join, List.forall_mem_map]
  exact ⟨fun h => h.1.1.1.2,
    fun h => ⟨⟨⟨⟨oneLine_literal rfl, h⟩, oneLine_literal rfl⟩, hsubject⟩, oneLine_literal rfl⟩⟩

theorem oneLine_translationTest {t : Translation} :
    OneLine (t.test.render subject) ↔ (t.supported = true → unbroken t.source.toList = true) := by
  unfold Translation.test
  by_cases hsupported : t.supported = true
  · have hflags : OneLine (if t.ignoreCase then "i" else "") := by split_ifs <;> exact oneLine_literal rfl
    rw [if_pos hsupported]
    unfold Test.render
    rw [oneLine_append, oneLine_append, oneLine_append, oneLine_patternLiteral hflags]
    exact ⟨fun h _ => h.1.1.1, fun h => ⟨⟨⟨h hsupported, oneLine_literal rfl⟩, hsubject⟩, oneLine_literal rfl⟩⟩
  · rw [if_neg hsupported]
    exact iff_of_true (oneLine_literal rfl) fun h => absurd h hsupported

theorem oneLine_translated {pattern : String} {dialect : Dialect} {ignoreCase : Bool} {t : Translation}
    (h : translate pattern dialect ignoreCase = .ok t) :
    OneLine (t.test.render subject) ↔ WrittenUnbroken dialect pattern ignoreCase := by
  rw [oneLine_translationTest hsubject]
  exact ⟨fun ht t' ht' => Except.ok.inj (h.symm.trans ht') ▸ ht, fun hunbroken => hunbroken t h⟩

end Tests

theorem oneLine_hostname : OneLine "hostname" := oneLine_literal rfl

theorem oneLine_globSegments (name : List Char) :
    (∀ s ∈ Host.globSegments name, OneLine s.render) ↔ ∀ c ∈ name, endsLine c = false := by
  have hpieces : (∀ c ∈ name, endsLine c = false) ↔ ∀ piece ∈ name.splitOn '*', ∀ c ∈ piece, endsLine c = false := by
    have hjoined : ['*'].intercalate (name.splitOn '*') = name := List.intercalate_splitOn '*'
    conv_lhs => rw [← hjoined]
    rw [List.intercalate, List.forall_mem_flatten]
    exact forall_mem_intersperse (List.forall_mem_singleton.mpr (by decide))
  rw [Host.globSegments, forall_mem_intersperse (by exact oneLine_literal rfl), List.forall_mem_map, hpieces]
  refine forall₂_congr fun piece _ => ?_
  rw [Segment.render, oneLine_ofList, String.toList_ofList, forall_escapePattern]

/-- The test of a name stays on one line just if its pattern does. -/
theorem oneLine_hostTest {dialect : Dialect} {name : String} {test : Test} (h : Host.test dialect name = .ok test) :
    OneLine (test.render "hostname") ↔ Host.Unbroken dialect name := by
  unfold Host.test at h
  unfold Host.Unbroken
  cases hpattern : Host.pattern? name with
  | some pattern =>
      rw [hpattern] at h
      obtain ⟨t, ht, rfl⟩ := map_eq_ok_iff.mp h
      exact oneLine_translated oneLine_hostname ht
  | none =>
      rw [hpattern] at h
      obtain rfl := Except.ok.inj h
      by_cases hstar : name.toList.contains '*' = true
      · have hname : OneLine (Text.lower name) ↔ OneLine name := oneLine_lower
        rw [if_pos hstar, oneLine_matchesSegments oneLine_hostname, oneLine_globSegments]
        exact hname.trans ⟨fun h _ => h, fun h => h (Or.inl hstar)⟩
      · rw [if_neg hstar]
        split
        · next domain hdomain =>
            have hname : OneLine (Text.lower (String.ofList domain)) ↔ OneLine name := by
              rw [oneLine_lower, oneLine_ofList, OneLine, hdomain, List.forall_mem_cons]
              exact (and_iff_right (by decide)).symm
            rw [oneLine_matchesSegments oneLine_hostname, List.forall_mem_cons, List.forall_mem_singleton]
            rw [and_iff_right (by exact oneLine_literal rfl), Segment.render, oneLine_ofList, forall_escapePattern]
            exact hname.trans ⟨fun h _ => h, fun h => h (Or.inr (by rw [hdomain]; rfl))⟩
        · next hdot =>
            refine iff_of_true (oneLine_equals oneLine_hostname _) ?_
            rintro (hmem | hhead)
            · exact absurd hmem hstar
            · obtain ⟨domain, hdomain⟩ := List.head?_eq_some_iff.mp hhead
              exact (hdot domain hdomain).elim

/-- A condition on the host breaks only where it tests names. -/
theorem oneLine_hostCondition {dialect : Dialect} {names : List String} {condition : Condition}
    (h : Host.condition names dialect = .ok condition) : OneLine (condition.render "hostname") ↔
      names = [] ∨ "*" ∈ names ∨ ∀ name ∈ names, Host.Unbroken dialect name := by
  unfold Host.condition at h
  by_cases hevery : (names.isEmpty || names.contains "*") = true
  · rw [if_pos hevery] at h
    cases h
    refine iff_of_true (oneLine_condition.mpr (List.forall_mem_singleton.mpr (oneLine_literal rfl))) ?_
    simp only [Bool.or_eq_true, List.isEmpty_iff, List.contains_iff_mem] at hevery
    exact hevery.imp_right Or.inl
  · rw [if_neg hevery] at h
    obtain ⟨tests, htests, rfl⟩ := map_eq_ok_iff.mp h
    have hforall := mapM_eq_ok_iff.mp htests
    simp only [Bool.or_eq_true, List.isEmpty_iff, List.contains_iff_mem, not_or] at hevery
    rw [or_iff_right hevery.1, or_iff_right hevery.2, oneLine_condition]
    constructor
    · intro hlines name hname
      obtain ⟨test, htest, hof⟩ := exists_right_of_forall₂ hforall hname
      exact (oneLine_hostTest hof).mp (hlines test htest)
    · intro hnames test htest
      obtain ⟨name, hname, hof⟩ := exists_left_of_forall₂ hforall htest
      exact (oneLine_hostTest hof).mpr (hnames name hname)

/-- A condition on the path breaks only for a pattern. -/
theorem oneLine_locationCondition {dialect : Dialect} {l : Location} {condition : Condition}
    (h : l.condition dialect = .ok condition) : OneLine (condition.render "path") ↔
      (l.isRegex = true → WrittenUnbroken dialect l.path (l.modifier == some .regexIgnoreCase)) := by
  have hpath : OneLine "path" := oneLine_literal rfl
  unfold Location.condition Location.translation? at h
  by_cases hregex : l.isRegex = true
  · rw [if_pos hregex] at h
    obtain ⟨found, hfound, h⟩ := bind_eq_ok_iff.mp h
    obtain ⟨t, ht, rfl⟩ := map_eq_ok_iff.mp hfound
    cases h
    rw [oneLine_condition, List.forall_mem_singleton, oneLine_translated hpath ht]
    exact ⟨fun h _ => h, fun h => h hregex⟩
  · rw [if_neg hregex] at h
    cases h
    refine iff_of_true (oneLine_condition.mpr ?_) fun h => absurd h hregex
    have hequals := oneLine_equals hpath l.path
    have hstarts := oneLine_startsWith hpath
    unfold Location.plainCondition
    split
    · exact List.forall_mem_singleton.mpr hequals
    · exact List.forall_mem_singleton.mpr (hstarts _)
    · split_ifs
      · exact List.forall_mem_singleton.mpr (hstarts _)
      · exact List.forall_mem_cons.mpr ⟨hequals, List.forall_mem_singleton.mpr (hstarts _)⟩

end Conditions

section Patterns

variable {t : Target} {site : Site} {body : List Statement}

theorem patternsAll_append (xs ys : List Statement) :
    Statement.patternsAll (xs ++ ys) = Statement.patternsAll xs ++ Statement.patternsAll ys := by
  induction xs with
  | nil => rfl
  | cons x xs ih => rw [List.cons_append, Statement.patternsAll, Statement.patternsAll, ih, List.append_assoc]

theorem oneLine_pathPattern {p : PathPattern} : OneLine p.literal ↔ unbroken p.source.toList = true := by
  refine oneLine_patternLiteral ?_
  split_ifs <;> exact oneLine_literal rfl

/-- The patterns in the statements of rules are those of the rules that can be used. -/
theorem patterns_ruleStatements {P : PathPattern → Prop} (headers : Fields String) (rules : List TranslatedRule) :
    (∀ p ∈ Statement.patternsAll (ruleStatements headers rules), P p) ↔
      ∀ r ∈ rules, r.2.supported = true → P r.substitution.pattern := by
  induction rules with
  | nil => exact iff_of_true nofun nofun
  | cons r rules ih =>
      rw [List.forall_mem_cons, ← ih, ruleStatements]
      by_cases hsupported : r.2.supported = true
      · rw [if_neg (by simp [hsupported])]
        split_ifs
        · simp [Statement.patternsAll, Statement.patterns, Ending.patterns, hsupported]
        · simp [Statement.patternsAll, Statement.patterns, hsupported]
        · simp [Statement.patternsAll, Statement.patterns, hsupported]
      · rw [if_pos (by simp [hsupported])]
        simp [Statement.patternsAll, Statement.patterns, hsupported]

/-- Sending a request to an upstream takes no pattern. -/
theorem patterns_of_proxyStatements {url : String} {headers : Fields String}
    (h : (proxyStatements t site url headers).result = .ok body) : Statement.patternsAll body = [] := by
  cases t with
  | worker | middleware | edgeHook =>
      cases h
      rfl
  | minimal =>
      simp only [proxyStatements, Logged.result_bind] at h
      obtain ⟨resolved, -, h⟩ := bind_eq_ok_iff.mp h
      cases resolved with
      | error reason =>
          cases h
          rfl
      | ok upstream =>
          simp only [Logged.result_bind] at h
          obtain ⟨proxy, -, h⟩ := bind_eq_ok_iff.mp h
          cases h
          rfl

/-- The patterns in the statements of a location are the translations of its rewrite rules that can be used. A location
that answers by itself has none. -/
theorem patterns_of_locationBody {P : PathPattern → Prop} (h : (locationBody t site).result = .ok body) :
    (∀ p ∈ Statement.patternsAll body, P p) ↔
      (site.location.directives.answer = none → ∀ rule ∈ site.location.directives.rewrites, ∀ u,
        translate rule.regex t.dialect false = .ok u → u.supported = true → P ⟨u.source, u.ignoreCase⟩) := by
  obtain ⟨headers, ⟨answer, hanswer, rfl⟩ | ⟨hanswer, rules, rest, hrules, rfl, hrest⟩⟩ := locationBody_parts h
  · have hnone : (answer.ending headers).patterns = [] := by
      unfold Return.ending
      split <;> rfl
    refine iff_of_true ?_ (by simp [hanswer])
    simp [Statement.patternsAll, Statement.patterns, hnone]
  · have hempty : Statement.patternsAll rest = [] := by
      rcases hrest with ⟨url, -, hrest⟩ | ⟨-, rfl⟩
      · exact patterns_of_proxyStatements hrest
      · split_ifs
        · cases t <;> rfl
        · rfl
    rw [rewriteStatements_eq] at hrules
    obtain ⟨translated, htranslated, rfl⟩ := map_eq_ok_iff.mp hrules
    have hforall := mapM_eq_ok_iff.mp htranslated
    rw [patternsAll_append, hempty, List.append_nil, patterns_ruleStatements]
    constructor
    · intro hrules _ rule hrule u hu
      obtain ⟨r, hr, hof⟩ := exists_right_of_forall₂ hforall hrule
      obtain ⟨u', hu', rfl⟩ := map_eq_ok_iff.mp hof
      obtain rfl := Except.ok.inj (hu'.symm.trans hu)
      exact hrules _ hr
    · intro hpatterns r hr
      obtain ⟨rule, hrule, hof⟩ := exists_left_of_forall₂ hforall hr
      obtain ⟨u, hu, rfl⟩ := map_eq_ok_iff.mp hof
      exact hpatterns hanswer rule hrule u hu

end Patterns

section Blocks

variable {t : Target}

theorem each_guarded {condition : String} {body : Code} :
    Each OneLine (guarded condition body) ↔ OneLine condition ∧ Each OneLine body := by
  unfold guarded
  rw [each_block, oneLine_between rfl rfl]
  exact ⟨fun h => ⟨h.1, h.2.1⟩, fun h => ⟨h.1, h.2, oneLine_literal rfl⟩⟩

theorem each_locationBlock {index : Nat} {p : Location.Placed} {b : LocationBlock} (h : BlockOf t index p b)
    (comments : Bool) : Each OneLine (b.code t comments) ↔ p.location.Unbroken t.dialect := by
  have hlabel : Each OneLine (commentCode comments ("location " ++ commentText b.label)) :=
    each_commentCode.mpr fun _ => oneLine_append.mpr ⟨oneLine_literal rfl, oneLine_commentText b.label⟩
  have hnever : Each OneLine (if b.condition.isNever then
      commentCode comments "regex could not be translated; this location never matches" else []) := by
    split_ifs
    · exact each_commentCode.mpr fun _ => oneLine_literal rfl
    · exact each_nil
  unfold LocationBlock.code
  rw [each_append, each_append, and_iff_right ⟨hlabel, hnever⟩, each_guarded, oneLine_locationCondition h.condition,
    each_statementsCode, and_iff_right fun _ => oneLine_comments_locationBody h.body, patterns_of_locationBody h.body]
  simp only [oneLine_pathPattern]
  exact ⟨fun ⟨hpath, hrules⟩ => ⟨hpath, hrules⟩, fun hunbroken => ⟨hunbroken.path, hunbroken.rules⟩⟩

/-- The lines of a server are whole just if those of its names and of the locations it tries are. -/
theorem each_serverBlock {s : Nat × Server} {b : ServerBlock} (h : ServerBlockOf t s b) (comments : Bool) :
    Each OneLine (b.code t comments) ↔
      (s.2.names = [] ∨ "*" ∈ s.2.names ∨ ∀ name ∈ s.2.names, Host.Unbroken t.dialect name) ∧
        ∀ p ∈ s.2.tried, p.location.Unbroken t.dialect := by
  have htitle : Each OneLine (commentCode comments
      ("Server block " ++ toString b.index ++ ": " ++ commentText b.description)) := by
    refine each_commentCode.mpr fun _ => oneLine_append.mpr ⟨?_, oneLine_commentText b.description⟩
    exact (oneLine_between rfl rfl).mpr (oneLine_toString b.index)
  unfold ServerBlock.code
  rw [each_append, and_iff_right htitle, each_guarded, oneLine_hostCondition h.condition, each_flatMap]
  refine and_congr_right fun _ => ?_
  constructor
  · intro hblocks p hp
    obtain ⟨block, hblock, hof⟩ := exists_right_of_forall₂ h.locations hp
    exact (each_locationBlock hof comments).mp (hblocks block hblock)
  · intro hunbroken block hblock
    obtain ⟨p, hp, hof⟩ := exists_left_of_forall₂ h.locations hblock
    exact (each_locationBlock hof comments).mpr (hunbroken p hp)

/-- Without patterns, the code of a route breaks no line. -/
theorem each_routeBlock {b : RouteBlock} (comments : Bool)
    (hcomments : ∀ text ∈ Statement.commentsAll b.body, OneLine text)
    (hpatterns : Statement.patternsAll b.body = []) : Each OneLine (b.code t comments) := by
  have htitle : Each OneLine (commentCode comments
      ("Server block " ++ toString b.route.server ++ ", location " ++ commentText b.label)) := by
    refine each_commentCode.mpr fun _ => oneLine_append.mpr ⟨?_, oneLine_commentText b.label⟩
    exact (oneLine_between rfl rfl).mpr (oneLine_toString b.route.server)
  unfold RouteBlock.code
  rw [each_append, and_iff_right htitle, each_guarded, oneLine_append, each_statementsCode, hpatterns]
  exact ⟨⟨oneLine_literal rfl, oneLine_string _⟩, fun _ => hcomments, List.forall_mem_nil _⟩

end Blocks

variable {g : Generator}

theorem each_servers {blocks : List ServerBlock} (h : (g.serverBlocks (locationBody g.target)).result = .ok blocks) :
    Each OneLine (paragraphs (blocks.map (ServerBlock.code g.target g.options.comments))) ↔
      g.config.Unbroken g.target.dialect := by
  have hforall := serverBlockOf_of_serverBlocks h
  rw [each_paragraphs (oneLine_literal rfl), List.forall_mem_map]
  constructor
  · intro hblocks s hs
    obtain ⟨b, hb, hof⟩ := exists_right_of_forall₂ hforall hs
    exact (each_serverBlock hof _).mp (hblocks b hb)
  · intro hunbroken b hb
    obtain ⟨s, hs, hof⟩ := exists_left_of_forall₂ hforall hb
    exact (each_serverBlock hof _).mpr (hunbroken s hs)

theorem each_routes {action : Action} {blocks : List RouteBlock} (h : (g.routeBlocks action).result = .ok blocks)
    (hbody : ∀ {site body}, (action site).result = .ok body →
      (∀ text ∈ Statement.commentsAll body, OneLine text) ∧ Statement.patternsAll body = []) :
    Each OneLine (paragraphs (blocks.map (RouteBlock.code g.target g.options.comments))) := by
  refine (each_paragraphs (oneLine_literal rfl)).mpr (List.forall_mem_map.mpr fun b hb => ?_)
  obtain ⟨site, -, hof⟩ := exists_left_of_forall₂ (routeBlockOf_of_routeBlocks h) hb
  exact each_routeBlock _ (hbody hof.body).1 (hbody hof.body).2

theorem patterns_of_originRequestBody {site : Site} {body : List Statement}
    (h : (originRequestBody site).result = .ok body) : Statement.patternsAll body = [] := by
  rcases originRequestBody_parts h with ⟨-, rfl⟩ | ⟨url, -, -, ⟨reason, -, rfl⟩ | ⟨upstream, timeout, -, rfl⟩⟩ <;> rfl

theorem patterns_of_originResponseBody {site : Site} {body : List Statement}
    (h : (originResponseBody site).result = .ok body) : Statement.patternsAll body = [] := by
  rw [originResponseBody, Logged.result_bind] at h
  obtain ⟨headers, -, h⟩ := bind_eq_ok_iff.mp h
  cases hempty : headers.isEmpty <;> rw [hempty] at h <;> cases h <;> rfl

theorem Host.pattern?_eq_some_iff {name pattern : String} :
    Host.pattern? name = some pattern ↔ ∃ cs, name.toList = '~' :: cs ∧ String.ofList cs = pattern := by
  unfold Host.pattern?
  split
  · next cs hcs => simp [hcs]
  · next hnot => exact iff_of_false nofun fun ⟨cs, hcs, _⟩ => hnot cs hcs

/-- No text that is written as a pattern ends a line: patterns of host names, paths and rewrite rules, and host names
with wildcards. -/
structure Config.PatternsOneLine (c : Config) : Prop where
  names : ∀ s ∈ c.servers, ∀ name ∈ s.names,
    name.toList.contains '*' = true ∨ name.toList.head? = some '.' ∨ name.toList.head? = some '~' → OneLine name
  paths : ∀ s ∈ c.servers, ∀ l ∈ s.locations, l.isRegex = true → OneLine l.path
  rules : ∀ s ∈ c.servers, ∀ l ∈ s.locations, ∀ rule ∈ l.directives.rewrites, OneLine rule.regex

theorem writtenUnbroken_of_oneLine {pattern : String} (h : OneLine pattern) (dialect : Dialect) (ignoreCase : Bool) :
    WrittenUnbroken dialect pattern ignoreCase := fun _ ht hsupported => unbroken_of_translate ht hsupported h

/-- Patterns on one line are written on one line in every dialect. -/
theorem Config.PatternsOneLine.unbroken {c : Config} (h : c.PatternsOneLine) (dialect : Dialect) :
    c.Unbroken dialect := by
  intro s hs
  have hservers : ∀ s ∈ c.numbered, s.2 ∈ c.servers := Config.forall_numbered.mpr fun _ hmem => hmem
  have hserver := hservers s (List.mem_filter.mp hs).1
  refine ⟨Or.inr (Or.inr fun name hname => ?_), fun p hp => ?_⟩
  · have hline := h.names _ hserver name hname
    unfold Host.Unbroken
    split
    · next pattern hpattern =>
        obtain ⟨cs, hcs, rfl⟩ := Host.pattern?_eq_some_iff.mp hpattern
        have hname : OneLine name := hline (Or.inr (Or.inr (by rw [hcs]; rfl)))
        rw [OneLine, hcs] at hname
        exact writtenUnbroken_of_oneLine (oneLine_ofList.mpr (List.forall_mem_cons.mp hname).2) _ _
    · rintro (hstar | hdot)
      · exact hline (Or.inl hstar)
      · exact hline (Or.inr (Or.inl hdot))
  · obtain ⟨⟨j, hat, -⟩, -⟩ := Server.mem_tried.mp hp
    have hlocation := List.mem_of_getElem? hat
    exact ⟨fun hregex => writtenUnbroken_of_oneLine (h.paths _ hserver _ hlocation hregex) _ _,
      fun _ rule hrule => writtenUnbroken_of_oneLine (h.rules _ hserver _ hlocation rule hrule) _ _⟩

/-- When the lines of emitted code stay whole: just if the patterns that are written do, those of paths and rewrite
rules after translating and escaping, and those of host names as they stand. That is so if no text that is written as a
pattern ends a line, whatever stands in all other texts. -/
theorem code_lines_whole_iff (g : Generator) {context : Template.Context} (h : g.sections.result = .ok context) :
    ((∀ key code, g.Writes key code → ∀ line ∈ code.lines 1, OneLine line) ↔ g.config.Unbroken g.target.dialect) ∧
      (g.config.PatternsOneLine → g.config.Unbroken g.target.dialect) := by
  refine ⟨?_, fun hpatterns => hpatterns.unbroken _⟩
  simp only [forall_lines]
  constructor
  · intro hwritten
    obtain ⟨blocks, hblocks, -⟩ := serverBlocks_of_sections h
    exact (each_servers hblocks).mp (hwritten _ _ (.servers hblocks))
  · intro hunbroken key code hwrites
    cases hwrites with
    | servers hblocks => exact (each_servers hblocks).mpr hunbroken
    | requests htarget hblocks =>
        exact each_routes hblocks fun hbody =>
          ⟨oneLine_comments_originRequestBody hbody, patterns_of_originRequestBody hbody⟩
    | responses htarget hblocks =>
        exact each_routes hblocks fun hbody =>
          ⟨oneLine_comments_originResponseBody hbody, patterns_of_originResponseBody hbody⟩

/-- A server with a wildcard name that has a line feed in it. -/
def brokenName : Config where
  servers := [{ names := ["*.a\nb"], locations := [{ path := "/", directives := { root := some "/srv" } }] }]

theorem sections_brokenName : ∃ context, (Generator.sections ⟨.worker, brokenName, {}⟩).result = .ok context := by
  have hreadable : brokenName.Readable .worker := by
    refine ⟨?_, ?_⟩
    · simp [brokenName, Server.NamesReadable, Host.pattern?]
    · simp only [brokenName, List.forall_mem_singleton]
      refine ⟨?_, ?_, ?_, ?_⟩ <;> simp [Location.isRegex]
  refine (needs_sections (g := ⟨.worker, brokenName, {}⟩) hreadable).returns.mpr fun s _ l _ _ url _ _ upstream _ => ?_
  constructor <;> (intro h; cases h)

theorem code_lines_whole_iff_brokenName :
    ∃ context, (Generator.sections ⟨.worker, brokenName, {}⟩).result = .ok context ∧
      ((∀ key code, Generator.Writes ⟨.worker, brokenName, {}⟩ key code → ∀ line ∈ code.lines 1, OneLine line) ↔
        brokenName.Unbroken .ecmascript) := by
  obtain ⟨context, hcontext⟩ := sections_brokenName
  exact ⟨context, hcontext, (code_lines_whole_iff ⟨.worker, brokenName, {}⟩ hcontext).1⟩

/-- A line feed in a wildcard name ends the line of the condition, inside its pattern. -/
theorem wildcard_name_breaks_line : ∃ code, Generator.Writes ⟨.worker, brokenName, {}⟩ "routing" code ∧
    ∃ line ∈ code.lines 1, ¬ OneLine line := by
  have hbroken : ¬ brokenName.Unbroken .ecmascript := by
    intro h
    have htried : (⟨1, { path := "/", directives := { root := some "/srv" } }⟩ : Location.Placed) ∈
        Server.tried { names := ["*.a\nb"], locations := [{ path := "/", directives := { root := some "/srv" } }] } :=
      Server.mem_tried.mpr ⟨⟨0, rfl, rfl⟩, rfl⟩
    obtain ⟨hnames, -⟩ := h _ (Config.mem_reachable_of_mem_tried (List.mem_singleton_self (1, _)) htried)
    rcases hnames with hnil | hevery | hname
    · cases hnil
    · exact absurd hevery (by decide)
    · exact absurd (hname _ (List.mem_singleton_self _) (Or.inl (by decide))) (by decide)
  obtain ⟨context, hcontext⟩ := sections_brokenName
  obtain ⟨blocks, hblocks, -⟩ := serverBlocks_of_sections hcontext
  refine ⟨_, .servers hblocks, ?_⟩
  by_contra hwhole
  push Not at hwhole
  exact hbroken ((each_servers hblocks).mp (forall_lines.mp hwhole))

end EdgeRoutes
