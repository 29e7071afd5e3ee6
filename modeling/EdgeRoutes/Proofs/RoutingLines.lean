import EdgeRoutes.Proofs.CodeRuns

/-! The routing code of a file, run line by line. Where the lines are whole, each condition and each pattern of the
configuration is read back as it was written; so what becomes of a request by the configuration is what the lines of the
file do with it. -/

namespace EdgeRoutes

open Js Js.Code Pattern

section Emitted

variable {t : Target} {dialect : Dialect}

theorem Js.Subject.oneLine_name (s : Subject) : OneLine s.name := by
  cases s <;> exact oneLine_literal rfl

/-- A test on one line can be read if a pattern in it leaves no backslash open. -/
theorem Test.writable_of_oneLine {test : Test} {s : Subject} (hline : OneLine (test.render s.name))
    (hpaired : ∀ source ignoreCase, test = .matchesPattern source ignoreCase → Paired source.toList) : test.Writable := by
  cases test with
  | matchesPattern source ignoreCase =>
      have hflags : OneLine (if ignoreCase then "i" else "") := by split_ifs <;> exact oneLine_literal rfl
      unfold Test.render at hline
      rw [oneLine_append, oneLine_append, oneLine_append, oneLine_patternLiteral hflags] at hline
      exact ⟨hpaired _ _ rfl, hline.1.1.1⟩
  | matchesSegments segments => exact (oneLine_matchesSegments s.oneLine_name).mp hline
  | constant | equals | startsWith => trivial

theorem paired_of_translationTest {pattern : String} {ignoreCase : Bool} {u : Translation}
    (h : translate pattern dialect ignoreCase = .ok u) {source : String} {flag : Bool}
    (htest : u.test = .matchesPattern source flag) : Paired source.toList := by
  unfold Translation.test at htest
  split_ifs at htest with hsupported
  cases htest
  exact paired_of_translate h hsupported

theorem paired_of_hostTest {name : String} {test : Test} (h : Host.test dialect name = .ok test) {source : String}
    {flag : Bool} (htest : test = .matchesPattern source flag) : Paired source.toList := by
  unfold Host.test at h
  split at h
  · obtain ⟨u, hu, rfl⟩ := map_eq_ok_iff.mp h
    exact paired_of_translationTest hu htest
  · subst htest
    have h := Except.ok.inj h
    split_ifs at h
    split at h <;> cases h

theorem writable_hostCondition {names : List String} {c : Condition} (h : Host.condition names dialect = .ok c)
    (hline : OneLine (c.render Subject.hostname.name)) : c.tests ≠ [] ∧ ∀ test ∈ c.tests, test.Writable := by
  rw [oneLine_condition] at hline
  unfold Host.condition at h
  split_ifs at h with hevery
  · cases h
    exact ⟨List.cons_ne_nil _ _, List.forall_mem_singleton.mpr trivial⟩
  · obtain ⟨tests, htests, rfl⟩ := map_eq_ok_iff.mp h
    have hforall := mapM_eq_ok_iff.mp htests
    constructor
    · rintro rfl
      rw [List.forall₂_nil_right_iff.mp hforall] at hevery
      exact hevery rfl
    · intro test htest
      obtain ⟨name, -, hof⟩ := exists_left_of_forall₂ hforall htest
      exact Test.writable_of_oneLine (hline test htest) fun _ _ => paired_of_hostTest hof

/-- A condition on the path that stays on one line can be read from it. -/
theorem writable_locationCondition {l : Location} {c : Condition} (h : l.condition dialect = .ok c)
    (hline : OneLine (c.render Subject.path.name)) : c.tests ≠ [] ∧ ∀ test ∈ c.tests, test.Writable := by
  rw [oneLine_condition] at hline
  unfold Location.condition Location.translation? at h
  split_ifs at h with hregex
  · obtain ⟨found, hfound, h⟩ := bind_eq_ok_iff.mp h
    obtain ⟨u, hu, rfl⟩ := map_eq_ok_iff.mp hfound
    cases h
    refine ⟨List.cons_ne_nil _ _, fun test htest => ?_⟩
    refine Test.writable_of_oneLine (hline test htest) fun _ _ heq => ?_
    rw [List.mem_singleton.mp htest] at heq
    exact paired_of_translationTest hu heq
  · cases h
    unfold Location.plainCondition
    split
    · exact ⟨List.cons_ne_nil _ _, List.forall_mem_singleton.mpr trivial⟩
    · exact ⟨List.cons_ne_nil _ _, List.forall_mem_singleton.mpr trivial⟩
    · split_ifs
      · exact ⟨List.cons_ne_nil _ _, List.forall_mem_singleton.mpr trivial⟩
      · exact ⟨List.cons_ne_nil _ _, List.forall_mem_cons.mpr ⟨trivial, List.forall_mem_singleton.mpr trivial⟩⟩

/-- The patterns in statements can be read if the lines of the statements are whole and no pattern leaves a backslash
open. -/
theorem writable_patternsAll {comments : Bool} {body : List Statement}
    (hlines : Each OneLine (Statement.codeAll t comments body))
    (hpaired : ∀ p ∈ Statement.patternsAll body, Paired p.source.toList) :
    ∀ p ∈ Statement.patternsAll body, Js.Writable p.source := by
  intro p hp
  obtain ⟨-, hpatterns⟩ := (each_statementsCode t comments body).mp hlines
  exact ⟨hpaired p hp, oneLine_pathPattern.mp (hpatterns p hp)⟩

theorem BlockOf.writable {index : Nat} {p : Location.Placed} {b : LocationBlock} (h : BlockOf t index p b)
    {comments : Bool} (hlines : Each OneLine (b.code t comments)) : b.Writable := by
  unfold LocationBlock.code at hlines
  rw [each_append, each_append, each_guarded] at hlines
  obtain ⟨-, hcondition, hbody⟩ := hlines
  obtain ⟨htests, hwritable⟩ := writable_locationCondition h.condition hcondition
  have hpaired := (patterns_of_locationBody (P := fun p => Paired p.source.toList) h.body).mpr
    fun _ _ _ _ hu hsupported => paired_of_translate hu hsupported
  exact ⟨htests, hwritable, writable_patternsAll hbody hpaired⟩

theorem ServerBlockOf.writable {s : Nat × Server} {b : ServerBlock} (h : ServerBlockOf t s b) {comments : Bool}
    (hlines : Each OneLine (b.code t comments)) : b.Writable := by
  unfold ServerBlock.code at hlines
  rw [each_append, each_guarded, each_flatMap] at hlines
  obtain ⟨-, hcondition, hlocations⟩ := hlines
  obtain ⟨htests, hwritable⟩ := writable_hostCondition h.condition hcondition
  refine ⟨htests, hwritable, fun block hblock => ?_⟩
  obtain ⟨p, -, hof⟩ := exists_left_of_forall₂ h.locations hblock
  exact hof.writable (hlocations block hblock)

variable {R : Runtime} {host : String} {code : Code} {f : RequestState → Verdict}

/-- Where nothing of effect follows, the lines come to a conclusion. -/
theorem Js.Code.Does.exists_conclusion (h : Does R t host code f) {rest : List String}
    (hrest : ∀ r, run R t host .running rest r = some (.passed r)) (r : RequestState) :
    ∃ c, run R t host .running (code.texts ++ rest) r = some c ∧ Concludes t (f r) c := by
  rcases (f r).passed_or_ends with ⟨next, hnext⟩ | hends
  · rw [h.passes _ _ _ hnext, hrest, hnext]
    exact ⟨_, rfl, .passed next⟩
  · exact h.ends _ _ hends

/-- Running the lines of a text that the code was written as. -/
theorem Js.Code.Does.run_render (h : Does R t host code f) (hlines : Each OneLine code) (hflush : Each Flush code)
    (level : Nat) (r : RequestState) :
    ∃ c, run R t host .running ((Text.lineTexts (code.render level)).map unindented) r = some c ∧
      Concludes t (f r) c := by
  rw [lineTexts_render hlines]
  split_ifs with hnil
  · have hblank : ∀ r, run R t host .running [""] r = some (.passed r) := fun _ => rfl
    have hconclusion := h.exists_conclusion hblank r
    rw [hnil] at hconclusion
    exact hconclusion
  · have hend : ∀ r, run R t host .running [] r = some (.passed r) := fun _ => rfl
    have hconclusion := h.exists_conclusion hend r
    rw [List.append_nil] at hconclusion
    rw [unindented_lines hflush]
    exact hconclusion

/-- The lines of rewrite rules, run on a request, do what the rules do one by one. -/
theorem rule_lines_run {headers : Fields String} {rules : List RewriteRule} {statements : List Statement}
    (h : rewriteStatements t.dialect headers rules = .ok statements) {comments : Bool}
    (hlines : Each OneLine (Statement.codeAll t comments statements)) (R : Runtime) (host path : String)
    (rewritten : Bool) :
    ∃ translated c, translateRules t.dialect rules = .ok translated ∧
      run R t host .running (Statement.codeAll t comments statements).texts (.ofPath path rewritten) = some c ∧
        Concludes t (followRules R.engine headers translated path rewritten) c := by
  rw [rewriteStatements_eq] at h
  obtain ⟨translated, htranslated, rfl⟩ := map_eq_ok_iff.mp h
  have hpaired : ∀ p ∈ Statement.patternsAll (ruleStatements headers translated), Paired p.source.toList := by
    rw [patterns_ruleStatements (P := fun p => Paired p.source.toList)]
    intro r hr hsupported
    obtain ⟨rule, -, hof⟩ := exists_left_of_forall₂ (mapM_eq_ok_iff.mp htranslated) hr
    obtain ⟨u, hu, rfl⟩ := map_eq_ok_iff.mp hof
    exact paired_of_translate hu hsupported
  have hdoes : Does R t host _ _ := does_codeAll comments _ (writable_patternsAll hlines hpaired)
  have hend : ∀ r, run R t host .running [] r = some (.passed r) := fun _ => rfl
  obtain ⟨c, hrun, hconcludes⟩ := hdoes.exists_conclusion hend (.ofPath path rewritten)
  rw [List.append_nil] at hrun
  rw [runAll_ruleStatements] at hconcludes
  exact ⟨translated, c, htranslated, hrun, hconcludes⟩

/-- The routing code of a file, run line by line, routes requests. Where its lines are whole, each of them can be read, and
what they do with a request is what becomes of it by the configuration: the first server that answers for the host and has
a location for the path takes it. -/
theorem routing_lines_run (config : Config) (options : Options) (t : Target) {context : Template.Context}
    (h : (Generator.sections ⟨t, config, options⟩).result = .ok context) (hwhole : config.Unbroken t.dialect) :
    ∃ text, context.get? t.routingKey = some (.text text) ∧ ∀ R host path, ∃ passage c,
      run R t host .running ((Text.lineTexts text).map unindented) (.ofPath path false) = some c ∧
        Concludes t passage.verdict c ∧ Routed config t R.engine host path passage := by
  obtain ⟨blocks, hblocks, htext⟩ := serverBlocks_of_sections h
  have hforall := serverBlockOf_of_serverBlocks (g := ⟨t, config, options⟩) hblocks
  have hlines := (each_servers hblocks).mpr hwhole
  have hflush := (Commented.paragraphs blocks fun b _ => commented_serverBlock t options.comments b).flush
  have hwritable : ∀ b ∈ blocks, b.Writable := by
    rw [each_paragraphs (oneLine_literal rfl), List.forall_mem_map] at hlines
    intro b hb
    obtain ⟨s, -, hof⟩ := exists_left_of_forall₂ hforall hb
    exact hof.writable (hlines b hb)
  refine ⟨_, htext, fun R host path => ?_⟩
  have hdoes : Does R t host _ _ := does_serverBlocks options.comments hwritable
  obtain ⟨c, hrun, hconcludes⟩ := hdoes.run_render hlines hflush 1 (.ofPath path false)
  exact ⟨_, c, hrun, hconcludes, routed_of_serverBlocks hforall R.engine host path⟩

end Emitted

end EdgeRoutes
