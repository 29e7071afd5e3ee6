import EdgeRoutes.Proofs.Generation

/-! Outcomes for several targets. Targets are gone through one after another, and an outcome takes the place of an earlier
one for the same target; yet what comes of a target is what its generator comes to by itself, whatever other targets are
asked for and whether or not they are refused. -/

namespace EdgeRoutes

section Single

/-- What a generator comes to by itself: a source, with the warnings of its check; or a refusal, with its findings. -/
inductive Generator.ComesTo (g : Generator) : Outcome → Prop
  | source {source : String} {v : Validation} (hsource : g.generate.result = .ok source)
      (hv : g.validate.result = .ok v) :
      ComesTo g { target := g.target, source := some source, findings := ⟨[], v.warnings⟩ }
  | refusal {name : String} {errors warnings : List String}
      (hrefused : g.generate.result = .error (.refused name errors warnings)) :
      ComesTo g { target := g.target, findings := ⟨errors, warnings⟩ }

variable {g : Generator} {o o' : Outcome}

theorem Generator.ComesTo.target_eq (h : g.ComesTo o) : o.target = g.target := by
  cases h with
  | source hsource hv => rfl
  | refusal hrefused => rfl

theorem Generator.ComesTo.unique (h : g.ComesTo o) (h' : g.ComesTo o') : o = o' := by
  cases h with
  | source hsource hv =>
      cases h' with
      | source hsource' hv' =>
          cases hsource.symm.trans hsource'
          cases hv.symm.trans hv'
          rfl
      | refusal hrefused' => cases hsource.symm.trans hrefused'
  | refusal hrefused =>
      cases h' with
      | source hsource' hv' => cases hrefused.symm.trans hsource'
      | refusal hrefused' =>
          cases hrefused.symm.trans hrefused'
          rfl

theorem Generator.result_validate {v : Validation} (h : g.findings = .ok v) : g.validate.result = .ok v := by
  simp only [Generator.validate, Logged.result_bind, Logged.result_liftM, h]
  rfl

/-- The outcome for a target is what its generator comes to. -/
theorem result_generateOutcome_iff : (generateOutcome g).result = .ok o ↔ g.ComesTo o := by
  obtain ⟨events, result, hgenerate⟩ : ∃ events result, g.generate = ⟨events, result⟩ := ⟨_, _, rfl⟩
  have hresult : g.generate.result = result := by rw [hgenerate]
  constructor
  · intro h
    unfold generateOutcome at h
    rw [hgenerate] at h
    rcases result with fault | source
    · cases fault with
      | refused name errors warnings =>
          cases h
          exact .refusal hresult
      | _ => cases h
    · simp only [Logged.result_bind] at h
      obtain ⟨-, -, h⟩ := bind_eq_ok_iff.mp h
      obtain ⟨v, hv, h⟩ := bind_eq_ok_iff.mp h
      cases h
      exact .source hresult hv
  · intro h
    cases h with
    | source hsource hv =>
        rw [hresult] at hsource
        subst hsource
        unfold generateOutcome
        rw [hgenerate]
        simp only [Logged.result_bind, hv]
        rfl
    | refusal hrefused =>
        rw [hresult] at hrefused
        subst hrefused
        unfold generateOutcome
        rw [hgenerate]
        rfl

/-- A generator comes to something just if its check can read the configuration and, unless that is refused, the code can
be written. -/
theorem Generator.exists_comesTo_iff : (∃ o, g.ComesTo o) ↔
    g.config.Readable g.target ∧ (g.config.Admitted g.target → g.config.Emittable g.target) := by
  have hneeds := needs_findings g
  cases hfindings : g.findings with
  | error fault =>
      have hresult : g.generate.result = .error fault := by
        rw [g.result_generate, hfindings]
        rfl
      apply iff_of_false
      · rintro ⟨o, ho⟩
        cases ho with
        | source hsource hv => cases hresult.symm.trans hsource
        | refusal hrefused =>
            -- a refusal is no failed conversion
            cases hresult.symm.trans hrefused
            cases hneeds.faults _ hfindings
      · rintro ⟨hreadable, -⟩
        obtain ⟨v, hv⟩ := hneeds.returns.mpr hreadable
        cases hfindings.symm.trans hv
  | ok v =>
      have hreadable : g.config.Readable g.target := hneeds.returns.mp ⟨v, hfindings⟩
      have hadmitted : v.valid = true ↔ g.config.Admitted g.target := by
        rw [Validation.valid, List.isEmpty_iff, errors_of_findings hfindings, errors_eq_nil_iff]
      by_cases hvalid : v.valid = true
      · have hends := Generator.needs_generate hfindings hvalid
        constructor
        · rintro ⟨o, ho⟩
          refine ⟨hreadable, fun _ => ?_⟩
          cases ho with
          | source hsource hv => exact hends.returns.mp ⟨_, hsource⟩
          | refusal hrefused => cases hends.faults _ hrefused
        · rintro ⟨-, hemittable⟩
          obtain ⟨source, hsource⟩ := hends.returns.mpr (hemittable (hadmitted.mp hvalid))
          exact ⟨_, .source hsource (g.result_validate hfindings)⟩
      · apply iff_of_true
        · exact ⟨_, .refusal (Generator.generate_of_errors hfindings (Bool.eq_false_iff.mpr hvalid))⟩
        · exact ⟨hreadable, fun h => absurd (hadmitted.mpr h) hvalid⟩

end Single

section Several

theorem Outcome.mem_of_mem_put {outcomes : List Outcome} {o o' : Outcome} (h : o' ∈ put outcomes o) :
    o' = o ∨ o' ∈ outcomes := by
  induction outcomes with
  | nil => exact Or.inl (List.mem_singleton.mp h)
  | cons p rest ih =>
      rw [put] at h
      split_ifs at h with hsame
      · rcases List.mem_cons.mp h with heq | hmem
        · exact Or.inl heq
        · exact Or.inr (List.mem_cons_of_mem p hmem)
      · rcases List.mem_cons.mp h with heq | hmem
        · exact Or.inr (heq ▸ List.mem_cons_self)
        · exact (ih hmem).imp_right (List.mem_cons_of_mem p)

/-- Only the outcome for a new target adds to the targets. -/
theorem Outcome.targets_put (outcomes : List Outcome) (o : Outcome) : (put outcomes o).map target =
    if o.target ∈ outcomes.map target then outcomes.map target else outcomes.map target ++ [o.target] := by
  induction outcomes with
  | nil => rfl
  | cons p rest ih =>
      rw [put]
      by_cases hsame : p.target = o.target
      · rw [if_pos hsame, if_pos (by simp [hsame]), List.map_cons, List.map_cons, hsame]
      · have hmem : o.target ∈ (p :: rest).map target ↔ o.target ∈ rest.map target := by
          rw [List.map_cons, List.mem_cons, or_iff_right (Ne.symm hsame)]
        rw [if_neg hsame, List.map_cons, ih]
        by_cases hrest : o.target ∈ rest.map target
        · rw [if_pos hrest, if_pos (hmem.mpr hrest), List.map_cons]
        · rw [if_neg hrest, if_neg (mt hmem.mp hrest), List.map_cons, List.cons_append]

theorem Outcome.mem_of_mem_putAll {found : List Outcome} {o : Outcome} (h : o ∈ found.foldl put []) : o ∈ found := by
  induction found using List.reverseRecOn with
  | nil => exact h
  | append_singleton found last ih =>
      rw [List.foldl_append] at h
      rw [List.mem_append, List.mem_singleton]
      exact (mem_of_mem_put h).symm.imp_left ih

/-- The targets stand in the order in which they came first. -/
theorem Outcome.targets_putAll (found : List Outcome) :
    (found.foldl put []).map target = (found.map target).eraseDups := by
  induction found using List.reverseRecOn with
  | nil => rfl
  | append_singleton found last ih =>
      have hput : (found ++ [last]).foldl put [] = put (found.foldl put []) last := by
        rw [List.foldl_append]
        rfl
      have hmem : last.target ∈ (found.foldl put []).map target ↔ last.target ∈ found.map target := by
        rw [ih, List.mem_eraseDups]
      rw [hput, targets_put, List.map_append, List.eraseDups_append, ← ih]
      by_cases hseen : last.target ∈ found.map target
      · have hnone : [last.target].removeAll (found.map target) = [] :=
          List.filter_eq_nil_iff.mpr (List.forall_mem_singleton.mpr (by simpa using hseen))
        rw [if_pos (hmem.mpr hseen), List.map_singleton, hnone, List.eraseDups_nil, List.append_nil]
      · have hone : [last.target].removeAll (found.map target) = [last.target] :=
          List.filter_eq_self.mpr (List.forall_mem_singleton.mpr (by simpa using hseen))
        rw [if_neg (mt hmem.mp hseen), List.map_singleton, hone]
        rfl

theorem Outcome.nodup_putAll (found : List Outcome) : ((found.foldl put []).map target).Nodup := by
  induction found using List.reverseRecOn with
  | nil => exact List.nodup_nil
  | append_singleton found last ih =>
      rw [List.foldl_append, List.foldl_cons, List.foldl_nil, targets_put]
      split_ifs with hseen
      · exact ih
      · rw [← List.concat_eq_append]
        exact ih.concat hseen

variable {config : Config} {options : Options}

/-- What comes of several names: each is that of a target, whose generator comes to something, and later outcomes take
the place of earlier ones. -/
theorem result_generateEach_iff {names : List String} {before after : List Outcome} :
    (generateEach config options before names).result = .ok after ↔
      ∃ found, List.Forall₂ (fun name o => Target.named name = .ok o.target ∧
        Generator.ComesTo ⟨o.target, config, options⟩ o) names found ∧ after = found.foldl Outcome.put before := by
  induction names generalizing before with
  | nil =>
      constructor
      · intro h
        exact ⟨[], .nil, (Except.ok.inj h).symm⟩
      · rintro ⟨found, hfound, rfl⟩
        cases hfound
        rfl
  | cons name names ih =>
      simp only [generateEach, Logged.result_bind, bind_eq_ok_iff, Logged.result_liftM, ih,
        List.forall₂_cons_left_iff, result_generateOutcome_iff]
      constructor
      · rintro ⟨target, htarget, o, ho, found, hfound, rfl⟩
        obtain rfl : o.target = target := ho.target_eq
        exact ⟨o :: found, ⟨o, found, ⟨htarget, ho⟩, hfound, rfl⟩, rfl⟩
      · rintro ⟨_, ⟨o, found, ⟨htarget, ho⟩, hfound, rfl⟩, rfl⟩
        exact ⟨o.target, htarget, o, ho, found, hfound, rfl⟩

/-- The names that targets are asked for by; without any, all targets are meant. -/
def Target.asked (names : List String) : List String :=
  if names.isEmpty then Target.all.map Target.name else names

theorem result_generateAll_iff {names : List String} {outcomes : List Outcome} :
    (generateAll config options names).result = .ok outcomes ↔
      ∃ found, List.Forall₂ (fun name o => Target.named name = .ok o.target ∧
        Generator.ComesTo ⟨o.target, config, options⟩ o) (Target.asked names) found ∧
          outcomes = found.foldl Outcome.put [] := by
  rw [← result_generateEach_iff, generateAll, Logged.result_bind]
  change ((generateEach config options [] (Target.asked names)).result.bind fun os => .ok os) = _ ↔ _
  cases (generateEach config options [] (Target.asked names)).result with
  | error fault => rfl
  | ok os => rfl

theorem Target.named_name (t : Target) : Target.named t.name = .ok t := by
  cases t <;> exact toOption_eq_some_iff.mp (by decide +kernel)

theorem Generator.result_create {name : String} {t : Target} (h : Target.named name = .ok t) :
    (Generator.create name config options).result = .ok ⟨t, config, options⟩ := by
  simp only [Generator.create, Logged.result_bind, Logged.result_liftM, h]
  rfl

/-- The outcomes for the targets that names denote stand apart from each other. -/
structure StandApart (config : Config) (options : Options) (names : List String) (outcomes : List Outcome) : Prop where
  /-- The names denote targets, and each target has one outcome, in the order in which the targets came first. -/
  order : ∃ targets, List.Forall₂ (fun name t => Target.named name = .ok t) (Target.asked names) targets ∧
    outcomes.map Outcome.target = targets.eraseDups
  all : names = [] → outcomes.map Outcome.target = Target.all
  /-- By whatever name its target is called, an outcome is what a new generator for it comes to. -/
  alone : ∀ o ∈ outcomes, ∀ name, Target.named name = .ok o.target →
    ∃ g, (Generator.create name config options).result = .ok g ∧ g.ComesTo o
  single : ∀ o ∈ outcomes, (generateAll config options [o.target.name]).result = .ok [o]
  /-- Whatever other targets are asked for, the outcome for a target is the same. -/
  independent : ∀ names' outcomes', (generateAll config options names').result = .ok outcomes' →
    ∀ o ∈ outcomes, ∀ o' ∈ outcomes', o.target = o'.target → o = o'

theorem comesTo_of_generateAll {names : List String} {outcomes : List Outcome}
    (h : (generateAll config options names).result = .ok outcomes) :
    ∀ o ∈ outcomes, Generator.ComesTo ⟨o.target, config, options⟩ o := by
  obtain ⟨found, hfound, rfl⟩ := result_generateAll_iff.mp h
  intro o ho
  obtain ⟨name, -, -, hcomes⟩ := exists_left_of_forall₂ hfound (Outcome.mem_of_mem_putAll ho)
  exact hcomes

theorem targets_of_generateAll {names : List String} {outcomes : List Outcome}
    (h : (generateAll config options names).result = .ok outcomes) :
    ∃ targets, List.Forall₂ (fun name t => Target.named name = .ok t) (Target.asked names) targets ∧
      outcomes.map Outcome.target = targets.eraseDups := by
  obtain ⟨found, hfound, rfl⟩ := result_generateAll_iff.mp h
  refine ⟨found.map Outcome.target, ?_, Outcome.targets_putAll found⟩
  rw [List.forall₂_map_right_iff]
  exact hfound.imp fun name o ho => ho.1

theorem nodup_of_generateAll {names : List String} {outcomes : List Outcome}
    (h : (generateAll config options names).result = .ok outcomes) : (outcomes.map Outcome.target).Nodup := by
  obtain ⟨found, -, rfl⟩ := result_generateAll_iff.mp h
  exact Outcome.nodup_putAll found

theorem generateAll_singleton {name : String} {o : Outcome} (hname : Target.named name = .ok o.target)
    (ho : Generator.ComesTo ⟨o.target, config, options⟩ o) :
    (generateAll config options [name]).result = .ok [o] :=
  result_generateAll_iff.mpr ⟨[o], .cons ⟨hname, ho⟩ .nil, rfl⟩

/-- Generating for several targets is generating for each of them: where it returns, there is one outcome for each target,
in the order in which the targets came first, and it is what a generator for that target comes to by itself. -/
theorem outcomes_stand_apart {names : List String} {outcomes : List Outcome}
    (h : (generateAll config options names).result = .ok outcomes) : StandApart config options names outcomes where
  order := targets_of_generateAll h
  all hnames := by
    obtain ⟨targets, htargets, horder⟩ := targets_of_generateAll h
    subst hnames
    have hnamed : List.Forall₂ (fun name t => Target.named name = .ok t) (Target.all.map Target.name) Target.all := by
      rw [List.forall₂_map_left_iff]
      exact List.forall₂_same.mpr fun t _ => Target.named_name t
    have hagree : ∀ (name : String) (t t' : Target), Target.named name = .ok t → Target.named name = .ok t' → t = t' :=
      fun name t t' ht ht' => Except.ok.inj (ht.symm.trans ht')
    have htargets := map_eq_of_forall₂ (f := id) (g := id) hagree htargets hnamed
    rw [List.map_id, List.map_id] at htargets
    rw [horder, htargets]
    rfl
  alone o ho name hname := ⟨_, Generator.result_create hname, comesTo_of_generateAll h o ho⟩
  single o ho := generateAll_singleton (Target.named_name o.target) (comesTo_of_generateAll h o ho)
  independent names' outcomes' h' o ho o' ho' hsame := by
    have hcomes := comesTo_of_generateAll h o ho
    rw [hsame] at hcomes
    exact hcomes.unique (comesTo_of_generateAll h' o' ho')

/-- A location that hands requests to a local process. -/
def processing : Config where
  servers := [{ locations := [{ path := "/", directives := { extra := [("fastcgi_pass", .text "app:9000")] } }] }]

theorem processing_readable (t : Target) : processing.Readable t := by
  refine ⟨?_, ?_⟩
  · simp [processing, Server.NamesReadable]
  · simp only [processing, List.forall_mem_singleton]
    constructor <;> simp [Location.isRegex]

theorem processing_emittable (t : Target) : processing.Emittable t := by
  simp [processing, Config.Emittable, Location.Emittable]

/-- A refused target and one that is asked for twice. -/
theorem outcomes_stand_apart_processing :
    ∃ outcomes, (generateAll processing {} ["lambda", " Worker ", "cf"]).result = .ok outcomes ∧
      StandApart processing {} ["lambda", " Worker ", "cf"] outcomes ∧
      outcomes.map Outcome.target = [.edgeHook, .worker] ∧ outcomes.map Outcome.ok = [false, true] := by
  have hnot : ¬ processing.Admitted .edgeHook := by
    simp only [processing, Config.Admitted, Target.Admits, Directives.NoProcess]
    decide +kernel
  obtain ⟨warnings, hedge⟩ := generate_of_not_admitted (processing_readable .edgeHook) hnot
  obtain ⟨v, hv⟩ := (needs_findings ⟨.worker, processing, {}⟩).returns.mpr (processing_readable .worker)
  obtain ⟨source, hworker⟩ := (needs_generate (processing_readable .worker) fun _ _ _ _ => trivial).returns.mpr
    (processing_emittable .worker)
  let refused : Outcome := { target := .edgeHook, findings := ⟨processing.errors .edgeHook, warnings⟩ }
  let written : Outcome := { target := .worker, source := some source, findings := ⟨[], v.warnings⟩ }
  have hrefused : Generator.ComesTo ⟨.edgeHook, processing, {}⟩ refused := .refusal hedge
  have hwritten : Generator.ComesTo ⟨.worker, processing, {}⟩ written :=
    .source hworker (Generator.result_validate hv)
  have hresult : (generateAll processing {} ["lambda", " Worker ", "cf"]).result = .ok [refused, written] := by
    refine result_generateAll_iff.mpr ⟨[refused, written, written], ?_, rfl⟩
    have hlambda : Target.named "lambda" = .ok .edgeHook := toOption_eq_some_iff.mp (by decide +kernel)
    have hspaced : Target.named " Worker " = .ok .worker := toOption_eq_some_iff.mp (by decide +kernel)
    have hcf : Target.named "cf" = .ok .worker := toOption_eq_some_iff.mp (by decide +kernel)
    exact .cons ⟨hlambda, hrefused⟩ (.cons ⟨hspaced, hwritten⟩ (.cons ⟨hcf, hwritten⟩ .nil))
  exact ⟨_, hresult, outcomes_stand_apart hresult, rfl, rfl⟩

end Several

end EdgeRoutes
