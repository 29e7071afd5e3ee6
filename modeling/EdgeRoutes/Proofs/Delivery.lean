import EdgeRoutes.Proofs.CommandRuns
import EdgeRoutes.Proofs.Outcomes

/-! Delivery of generated sources. Everything is read and generated before the first file is written, so a command whose
generation fails leaves all files as they were; otherwise each source that is to be delivered is in its file, whole. -/

namespace EdgeRoutes

open Files CommandLine

variable {w : World} {setup : LogSetup} {settings : Settings} {options : Options} {config : Config}

section Findings

/-- The check finds no errors. -/
def Generator.Passes (g : Generator) : Prop := ∃ v, g.validate.result = .ok v ∧ v.valid = true

variable {g : Generator}

theorem Generator.passes_iff_valid {v : Validation} (h : g.findings = .ok v) : g.Passes ↔ v.valid = true := by
  constructor
  · rintro ⟨v', hv', hvalid⟩
    rw [g.result_validate h] at hv'
    cases hv'
    exact hvalid
  · exact fun hvalid => ⟨v, g.result_validate h, hvalid⟩

theorem passes_iff_admitted {t : Target} (h : config.Readable t) :
    Generator.Passes ⟨t, config, {}⟩ ↔ config.Admitted t := by
  obtain ⟨v, hv⟩ := (needs_findings ⟨t, config, {}⟩).returns.mpr h
  rw [Generator.passes_iff_valid hv, valid_iff_admitted hv]

/-- A source comes of a check without errors. -/
theorem Generator.exists_findings_of_generate {source : String} (h : g.generate.result = .ok source) :
    ∃ v, g.findings = .ok v ∧ v.valid = true := by
  rw [g.result_generate] at h
  obtain ⟨v, hv, h⟩ := bind_eq_ok_iff.mp h
  refine ⟨v, hv, ?_⟩
  by_contra hvalid
  rw [if_neg hvalid] at h
  cases h

/-- A generator that comes to something has a source just if its check finds no errors. -/
theorem Generator.ComesTo.ok_iff_passes {o : Outcome} (h : g.ComesTo o) : o.ok = true ↔ g.Passes := by
  cases h with
  | source hsource hv =>
      obtain ⟨v, hfindings, hvalid⟩ := Generator.exists_findings_of_generate hsource
      exact iff_of_true rfl ((Generator.passes_iff_valid hfindings).mpr hvalid)
  | refusal hrefused =>
      refine iff_of_false Bool.false_ne_true fun hpasses => ?_
      cases hfindings : g.findings with
      | error fault =>
          rw [g.result_generate, hfindings] at hrefused
          cases hrefused
          cases (needs_findings g).faults _ hfindings
      | ok v =>
          have hvalid := (Generator.passes_iff_valid hfindings).mp hpasses
          cases (Generator.needs_generate hfindings hvalid).faults _ hrefused

theorem Generator.ComesTo.exists_source {o : Outcome} (h : g.ComesTo o) (hok : o.ok = true) :
    ∃ source, o.source = some source ∧ g.generate.result = .ok source := by
  cases h with
  | source hsource hv => exact ⟨_, rfl, hsource⟩
  | refusal hrefused => cases hok

end Findings

section Single

variable {target output directory : String} {tree : Option String}

def Config.source (config : Config) (options : Options) (target : String) : Except Fault (Target × String) :=
  (Target.named target).bind fun t =>
    (Generator.generate ⟨t, config, options⟩).result.map fun source => (t, source)

theorem Config.source_eq_ok_iff {t : Target} {source : String} : config.source options target = .ok (t, source) ↔
    Target.named target = .ok t ∧ (Generator.generate ⟨t, config, options⟩).result = .ok source := by
  simp only [Config.source, bind_eq_ok_iff, map_eq_ok_iff, Prod.mk.injEq]
  constructor
  · rintro ⟨t', ht, source', hsource, rfl, rfl⟩
    exact ⟨ht, hsource⟩
  · rintro ⟨ht, hsource⟩
    exact ⟨t, ht, source, hsource, rfl, rfl⟩

/-- The source for one target, if reading, building, the look-up of the target and generation succeed. -/
def World.source (w : World) (options : Options) (target : String) (tree : Option String) :
    Except Fault (Target × String) :=
  (w.config tree).bind fun config => config.source options target

/-- The file chosen for the source of one target. -/
def chosenPath (target : Target) (output directory : String) : Option Path :=
  if output.isEmpty && directory.isEmpty then none
  else some (if output.isEmpty then (Path.ofString directory).child target.filename else Path.ofString output)

/-- What is generated for one target: a source, with the warnings of the check. -/
def Config.generated (config : Config) (options : Options) (target : String) :
    Logged (Target × String × List String) := do
  let g ← Generator.create target config options
  let source ← g.generate
  let v ← g.validate
  return (g.target, source, v.warnings)

theorem Config.result_generated (config : Config) (options : Options) (target : String) :
    (config.generated options target).result = (config.source options target).bind fun (t, source) =>
      (Generator.validate ⟨t, config, options⟩).result.bind fun v => .ok (t, source, v.warnings) := by
  simp only [Config.generated, Config.source, Generator.create, Logged.result_bind, Logged.result_liftM]
  cases Target.named target with
  | error fault => rfl
  | ok t =>
      change (Generator.generate ⟨t, config, options⟩).result.bind _ =
        ((Generator.generate ⟨t, config, options⟩).result.map _).bind _
      cases (Generator.generate ⟨t, config, options⟩).result <;> rfl

theorem Config.exists_result_generated {t : Target} {source : String}
    (h : config.source options target = .ok (t, source)) :
    ∃ warnings, (config.generated options target).result = .ok (t, source, warnings) := by
  obtain ⟨-, hgenerate⟩ := Config.source_eq_ok_iff.mp h
  obtain ⟨v, hv, -⟩ := Generator.exists_findings_of_generate hgenerate
  refine ⟨v.warnings, ?_⟩
  rw [Config.result_generated, h]
  change (Generator.validate ⟨t, config, options⟩).result.bind _ = _
  rw [Generator.result_validate hv]
  rfl

/-- What comes of the command for one target. -/
structure DeliversOne (setup : LogSetup) (options : Options) (target : String) (tree : Option String)
    (output directory : String) (w : World) (status : Except Fault Status) (w' : World) : Prop where
  /-- Without a source nothing but the log changes, and faults that a user can do something about give status one. -/
  failed : ∀ fault, w.source options target tree = .error fault →
    status = fault.ending ∧ w.ChangesTo setup.files ∅ "" w'
  /-- Without a file the source goes to the output, and nothing but the log changes. -/
  shown : ∀ t source, w.source options target tree = .ok (t, source) → chosenPath t output directory = none →
    status = .ok 0 ∧ w.ChangesTo setup.files ∅ source w'
  /-- The chosen file holds the source, and no other file but the log changes. -/
  written : ∀ t source p, w.source options target tree = .ok (t, source) → chosenPath t output directory = some p →
    w.Accepts setup.files p → status = .ok 0 ∧ w'.files.file? (w.files.placeOf p) = some (encode source) ∧
      w.ChangesTo (setup.files ∪ {p}) {q | q.Begins p.parent} (wroteLine t p) w'

theorem returns_generateOne_of_error {fault : Fault} (h : config.source options target = .error fault) :
    Run.Returns (generateOne setup options config target output directory) w setup.files ∅ (.error fault) := by
  have hgenerated := returns_carryOut setup (config.generated options target) w
  rw [Config.result_generated, h] at hgenerated
  exact Run.Returns.bind_of_error hgenerated _

/-- The source that is generated goes to the chosen file, or to the output. -/
def sendSource (t : Target) (source output directory : String) : Run Status :=
  match chosenPath t output directory with
  | none => do
    Run.lift (Script.print source)
    return 0
  | some p => do
    makeDirectories p.parent
    writeSource t p source
    return 0

theorem exec_generateOne {t : Target} {source : String} (h : config.source options target = .ok (t, source))
    (w : World) : ∃ w', w.ChangesTo setup.files ∅ "" w' ∧
      Run.exec (generateOne setup options config target output directory) w =
        Run.exec (sendSource t source output directory) w' := by
  obtain ⟨warnings, hresult⟩ := Config.exists_result_generated h
  obtain ⟨w₁, hgenerated, hbefore⟩ := returns_carryOut setup (config.generated options target) w
  rw [hresult] at hgenerated
  obtain ⟨w₂, hwarn, hafter⟩ := @returns_complainAll setup.files ∅ "warning: " warnings w₁
  refine ⟨w₂, hbefore.trans hafter, ?_⟩
  refine (Run.exec_bind_of_ok hgenerated _).trans ((Run.exec_bind_of_ok hwarn _).trans ?_)
  rw [sendSource, chosenPath]
  split_ifs <;> rfl

theorem exec_sendSource_shown {t : Target} (h : chosenPath t output directory = none) (source : String) (w : World) :
    ∃ w', Run.exec (sendSource t source output directory) w = (.ok 0, w') ∧ w.ChangesTo ∅ ∅ source w' := by
  rw [sendSource, h]
  exact ⟨_, Run.exec_bind_of_ok (Run.exec_lift _ w) _, w.changesTo_serve (.print source)⟩

theorem exec_sendSource_written {t : Target} {p : Path} {logged : Set Path} {w' : World}
    (h : chosenPath t output directory = some p) (haccepts : w.Accepts logged p)
    (hchanges : w.ChangesTo logged ∅ "" w') (source : String) :
    ∃ w'', Run.exec (sendSource t source output directory) w' = (.ok 0, w'') ∧
      w''.files.file? (w.files.placeOf p) = some (encode source) ∧
      w.ChangesTo (logged ∪ {p}) {q | q.Begins p.parent} (wroteLine t p) w'' := by
  obtain ⟨w₁, hmake, hmade, hleads⟩ := haccepts.opens.exec_makeDirectories hchanges
  obtain ⟨w₂, hwrite, hwrote, hfile⟩ := exec_writeSource hleads (haccepts.free_after hmade) t source
  refine ⟨w₂, ?_, ?_, ?_⟩
  · rw [sendSource, h]
    exact (Run.exec_bind_of_ok hmake _).trans ((Run.exec_bind_of_ok hwrite _).trans (Run.exec_pure 0 w₂))
  · rw [← hmade.placeOf]
    exact hfile
  · exact (hmade.mono Set.subset_union_left subset_rfl).trans
      (hwrote.mono Set.subset_union_right (Set.empty_subset _))

theorem perform_one (h : target ≠ "all") :
    Command.perform setup settings (.generate target tree output directory) =
      loadConfig setup tree >>= fun config =>
        generateOne setup settings.options config target output directory := by
  simp only [CommandLine.Command.perform, beq_false_of_ne h, Bool.false_eq_true, if_false]

theorem returns_perform_of_error {fault : Fault} (h : target ≠ "all")
    (hfault : w.source settings.options target tree = .error fault) :
    Run.Returns (Command.perform setup settings (.generate target tree output directory)) w setup.files ∅
      (.error fault) := by
  rw [perform_one h]
  have hload := returns_loadConfig setup tree w
  cases hconfig : w.config tree with
  | error fault' =>
      rw [World.source, hconfig] at hfault
      cases hfault
      rw [hconfig] at hload
      exact hload.bind_of_error _
  | ok config =>
      simp only [World.source, hconfig, Except.bind] at hfault
      rw [hconfig] at hload
      exact hload.bind_of_ok fun w₁ _ => returns_generateOne_of_error hfault

/-- Where there is a source, it is sent before any file but the log has changed. -/
theorem exec_perform_of_source {t : Target} {source : String} (h : target ≠ "all")
    (hsource : w.source settings.options target tree = .ok (t, source)) :
    ∃ w', w.ChangesTo setup.files ∅ "" w' ∧
      Run.exec (Command.perform setup settings (.generate target tree output directory)) w =
        Run.exec (sendSource t source output directory) w' := by
  rw [World.source, bind_eq_ok_iff] at hsource
  obtain ⟨config, hconfig, hsource⟩ := hsource
  obtain ⟨w₁, hloaded, hbefore⟩ := returns_loadConfig setup tree w
  rw [hconfig] at hloaded
  obtain ⟨w₂, hafter, hexec⟩ := @exec_generateOne setup _ _ _ output directory _ _ hsource w₁
  refine ⟨w₂, hbefore.trans hafter, ?_⟩
  rw [perform_one h, Run.exec_bind_of_ok hloaded, hexec]

/-- A run for one target writes its source, or tells why there is none. -/
theorem deliversOne (h : target ≠ "all") (w : World) :
    DeliversOne setup settings.options target tree output directory w
      (Run.exec (Command.finish setup settings (.generate target tree output directory)) w).1
      (Run.exec (Command.finish setup settings (.generate target tree output directory)) w).2 := by
  constructor
  case failed =>
    intro fault hfault
    obtain ⟨w', hexec, hchanges⟩ := returns_finish_of_error (returns_perform_of_error h hfault)
    rw [hexec]
    exact ⟨rfl, hchanges⟩
  case shown =>
    intro t source hsource hpath
    obtain ⟨w₁, hbefore, hexec⟩ := exec_perform_of_source h hsource
    obtain ⟨w₂, hshow, hshown⟩ := exec_sendSource_shown hpath source w₁
    rw [exec_finish_of_ok (hexec.trans hshow)]
    exact ⟨rfl, hbefore.trans (hshown.mono (Set.empty_subset _) subset_rfl)⟩
  case written =>
    intro t source p hsource hpath haccepts
    obtain ⟨w₁, hbefore, hexec⟩ := exec_perform_of_source h hsource
    obtain ⟨w₂, hsend, hfile, hwritten⟩ := exec_sendSource_written hpath haccepts hbefore source
    rw [exec_finish_of_ok (hexec.trans hsend)]
    exact ⟨rfl, hfile, hwritten⟩

end Single

section Several

variable {tree : Option String} {output directory : String} {d : Path}

/-- The directory for the sources of several targets: the one that is given, else that of the settings. -/
def Settings.sourceDirectory (settings : Settings) (directory : String) : Except Fault Path :=
  if directory.isEmpty then settings.directoryPath else .ok (Path.ofString directory)

/-- The settings ask for the target, by some name. -/
def Settings.AskFor (settings : Settings) (t : Target) : Prop :=
  ∃ name ∈ Target.asked settings.targets, Target.named name = .ok t

/-- Every name denotes a target, and what the generator of that target comes to is a source or a refusal. -/
def Settings.AllCome (settings : Settings) (config : Config) : Prop :=
  ∀ name ∈ Target.asked settings.targets, ∃ t, Target.named name = .ok t ∧
    ∃ o, Generator.ComesTo ⟨t, config, settings.options⟩ o

theorem Settings.allCome_iff : settings.AllCome config ↔
    ∃ outcomes, (generateAll config settings.options settings.targets).result = .ok outcomes := by
  constructor
  · intro h
    have hcomes : ∀ name ∈ Target.asked settings.targets, ∃ o : Outcome, Target.named name = .ok o.target ∧
        Generator.ComesTo ⟨o.target, config, settings.options⟩ o := by
      intro name hname
      obtain ⟨t, ht, o, ho⟩ := h name hname
      obtain rfl : o.target = t := ho.target_eq
      exact ⟨o, ht, ho⟩
    obtain ⟨found, hfound⟩ := exists_forall₂ hcomes
    exact ⟨_, result_generateAll_iff.mpr ⟨found, hfound, rfl⟩⟩
  · rintro ⟨outcomes, houtcomes⟩ name hname
    obtain ⟨found, hfound, -⟩ := result_generateAll_iff.mp houtcomes
    obtain ⟨o, -, hnamed, hcomes⟩ := exists_right_of_forall₂ hfound hname
    exact ⟨o.target, hnamed, o, hcomes⟩

theorem Settings.askFor_iff_mem {outcomes : List Outcome} {t : Target}
    (h : (generateAll config settings.options settings.targets).result = .ok outcomes) :
    settings.AskFor t ↔ t ∈ outcomes.map Outcome.target := by
  obtain ⟨targets, htargets, horder⟩ := targets_of_generateAll h
  rw [horder, List.mem_eraseDups]
  constructor
  · rintro ⟨name, hname, ht⟩
    obtain ⟨t', ht', hnamed⟩ := exists_right_of_forall₂ htargets hname
    cases ht.symm.trans hnamed
    exact ht'
  · intro ht
    obtain ⟨name, hname, hnamed⟩ := exists_left_of_forall₂ htargets ht
    exact ⟨name, hname, hnamed⟩

theorem Path.child_filename (d : Path) (t : Target) : d.child t.filename = ⟨d.root, d.names ++ [t.filename]⟩ := by
  have hname : Path.ofString t.filename = ⟨"", [t.filename]⟩ := by cases t <;> decide +kernel
  rw [Path.child, hname]
  rfl

theorem Path.parent_child (d : Path) (t : Target) : (d.child t.filename).parent = d := by
  rw [Path.child_filename, Path.parent_snoc]

/-- The files of different targets are at different places. -/
theorem FileSystem.placeOf_child_inj {fs : FileSystem} {d : Path} {t t' : Target}
    (h : fs.placeOf (d.child t.filename) = fs.placeOf (d.child t'.filename)) : t = t' := by
  have hstep : ∀ t : Target, fs.placeOf (d.child t.filename) = fs.placeOf d ++ [t.filename] := fun t => by
    rw [Path.child_filename, FileSystem.placeOf_snoc]
    cases t <;> rfl
  rw [hstep, hstep, List.append_cancel_left_eq] at h
  cases t <;> cases t' <;> first | rfl | simp [Target.filename] at h

/-- The files that outcomes are written to. -/
def Outcome.paths (d : Path) (outcomes : List Outcome) : Set Path :=
  {p | ∃ o ∈ outcomes, o.ok = true ∧ p = d.child o.target.filename}

/-- One outcome is reported, and its source is written if it has one. -/
theorem exec_deliver {o : Outcome} (hleads : w.files.Leads d)
    (hfree : o.ok = true → ¬ w.files.IsDirectory (w.files.placeOf (d.child o.target.filename))) :
    ∃ text w', Run.exec (deliver d o) w = (.ok (), w') ∧ w.ChangesTo (Outcome.paths d [o]) ∅ text w' ∧
      ∀ source, o.source = some source →
        w'.files.file? (w.files.placeOf (d.child o.target.filename)) = some (encode source) := by
  obtain ⟨w₁, hwarn, hwarned⟩ := @returns_complainAll (Outcome.paths d [o]) ∅ "warning: "
    (o.findings.warnings.map ("[" ++ o.target.name ++ "] " ++ ·)) w
  cases hsource : o.source with
  | none =>
      obtain ⟨w₂, hcomplain, hcomplained⟩ := @returns_complainAll (Outcome.paths d [o]) ∅ "error: "
        (o.findings.errors.map ("[" ++ o.target.name ++ "] " ++ ·)) w₁
      refine ⟨_, w₂, ?_, hwarned.trans hcomplained, nofun⟩
      refine (Run.exec_bind_of_ok hwarn _).trans ?_
      simp only [hsource]
      exact hcomplain
  | some source =>
      have hok : o.ok = true := by rw [Outcome.ok, hsource]; rfl
      have hleads₁ : w₁.files.Leads (d.child o.target.filename).parent := by
        rw [Path.parent_child]
        exact hwarned.leads hleads
      have hfree₁ : ¬ w₁.files.IsDirectory (w₁.files.placeOf (d.child o.target.filename)) := by
        rw [hwarned.placeOf, hwarned.isDirectory_iff]
        exact hfree hok
      obtain ⟨w₂, hwrite, hwrote, hfile⟩ := exec_writeSource hleads₁ hfree₁ o.target source
      refine ⟨_, w₂, ?_, hwarned.trans (hwrote.mono ?_ subset_rfl), ?_⟩
      · refine (Run.exec_bind_of_ok hwarn _).trans ?_
        simp only [hsource]
        exact hwrite
      · exact Set.singleton_subset_iff.mpr ⟨o, List.mem_singleton_self o, hok, rfl⟩
      · rintro _ ⟨⟩
        rw [← hwarned.placeOf]
        exact hfile

/-- All outcomes are delivered, each to a file of its own. -/
theorem exec_deliverAll {outcomes : List Outcome} (hleads : w.files.Leads d)
    (hfree : ∀ o ∈ outcomes, o.ok = true → ¬ w.files.IsDirectory (w.files.placeOf (d.child o.target.filename)))
    (hnodup : (outcomes.map Outcome.target).Nodup) :
    ∃ text w', Run.exec (outcomes.forM (deliver d)) w = (.ok (), w') ∧
      w.ChangesTo (Outcome.paths d outcomes) ∅ text w' ∧ ∀ o ∈ outcomes, ∀ source, o.source = some source →
        w'.files.file? (w.files.placeOf (d.child o.target.filename)) = some (encode source) := by
  induction outcomes generalizing w with
  | nil => exact ⟨"", w, rfl, .refl w _ ∅, nofun⟩
  | cons o outcomes ih =>
      rw [List.map_cons, List.nodup_cons] at hnodup
      obtain ⟨hnew, hnodup⟩ := hnodup
      obtain ⟨text, w₁, hfirst, hchanges, hfile⟩ := exec_deliver hleads (hfree o List.mem_cons_self)
      have hfree₁ : ∀ o' ∈ outcomes, o'.ok = true →
          ¬ w₁.files.IsDirectory (w₁.files.placeOf (d.child o'.target.filename)) := by
        intro o' ho' hok
        rw [hchanges.placeOf, hchanges.isDirectory_iff]
        exact hfree o' (List.mem_cons_of_mem o ho') hok
      obtain ⟨text', w₂, hrest, hafter, hfiles⟩ := ih (hchanges.leads hleads) hfree₁ hnodup
      have hsub : Outcome.paths d [o] ⊆ Outcome.paths d (o :: outcomes) := by
        rintro p ⟨o', ho', hp⟩
        exact ⟨o', List.mem_cons.mpr (Or.inl (List.mem_singleton.mp ho')), hp⟩
      have hsub' : Outcome.paths d outcomes ⊆ Outcome.paths d (o :: outcomes) := by
        rintro p ⟨o', ho', hp⟩
        exact ⟨o', List.mem_cons_of_mem o ho', hp⟩
      refine ⟨text ++ text', w₂, (Run.exec_bind_of_ok hfirst _).trans hrest,
        (hchanges.mono hsub subset_rfl).trans (hafter.mono hsub' subset_rfl), ?_⟩
      intro o' ho' source hsource
      rcases List.mem_cons.mp ho' with rfl | ho'
      · -- no later outcome is for this target
        rw [hafter.files, hfile source hsource]
        rintro p ⟨o'', ho'', -, rfl⟩ hsame
        rw [hchanges.placeOf] at hsame
        exact hnew (FileSystem.placeOf_child_inj hsame ▸ List.mem_map_of_mem ho'')
      · rw [← hchanges.placeOf]
        exact hfiles o' ho' source hsource

/-- What comes of the command for several targets. -/
structure DeliversAll (setup : LogSetup) (settings : Settings) (tree : Option String) (directory : String) (w : World)
    (status : Except Fault Status) (w' : World) : Prop where
  /-- Where the configuration or the directory cannot be read, a name denotes no target, or a generator comes to
  neither a source nor a refusal, no file but the log changes. -/
  failed : (∀ config d, w.config tree = .ok config → settings.sourceDirectory directory = .ok d →
    ¬ settings.AllCome config) → status ≠ .ok 0 ∧ w.ChangesTo setup.files Set.univ "" w'
  /-- Otherwise the files of the targets that pass their check hold the sources of these targets, no other file but the
  log changes, and the status tells whether all pass. -/
  delivered : ∀ config d, w.config tree = .ok config → settings.sourceDirectory directory = .ok d →
    settings.AllCome config → w.Opens setup.files d →
    (∀ t, settings.AskFor t → Generator.Passes ⟨t, config, settings.options⟩ →
      w.Accepts setup.files (d.child t.filename)) →
    (status = .ok 0 ∨ status = .ok 1) ∧
    (status = .ok 0 ↔ ∀ t, settings.AskFor t → Generator.Passes ⟨t, config, settings.options⟩) ∧
    (∀ t, settings.AskFor t → Generator.Passes ⟨t, config, settings.options⟩ →
      ∃ source, (Generator.generate ⟨t, config, settings.options⟩).result = .ok source ∧
        w'.files.file? (w.files.placeOf (d.child t.filename)) = some (encode source)) ∧
    ∃ text, w.ChangesTo (setup.files ∪ {p | ∃ t, settings.AskFor t ∧
        Generator.Passes ⟨t, config, settings.options⟩ ∧ p = d.child t.filename}) {q | q.Begins d} text w'

/-- The sources for several targets are generated and written into a directory. -/
def sendSources (setup : LogSetup) (settings : Settings) (config : Config) (d : Path) : Run Status := do
  makeDirectories d
  let outcomes ← setup.carryOut (generateAll config settings.options settings.targets)
  outcomes.forM (deliver d)
  return if outcomes.all Outcome.ok then 0 else 1

theorem exec_generateBatch (w : World) : Run.exec (generateBatch setup settings config directory) w =
    match settings.sourceDirectory directory with
    | .error fault => (.error fault, w)
    | .ok d => Run.exec (sendSources setup settings config d) w := by
  unfold generateBatch Settings.sourceDirectory
  split_ifs
  · refine (Run.exec_bind _ _ w).trans ?_
    rw [Run.exec_liftM]
    cases settings.directoryPath <;> rfl
  · rfl

/-- Directories are all that is made where an outcome is missing. -/
theorem returns_sendSources_of_missing (h : ¬ settings.AllCome config) (w : World) :
    ∃ fault, Run.Returns (sendSources setup settings config d) w setup.files Set.univ (.error fault) := by
  have hmake : Run.Returns (makeDirectories d) w setup.files Set.univ (Run.exec (makeDirectories d) w).1 :=
    ⟨_, rfl, (Run.changesTo_exec (asks_makeDirectoriesUpTo d.names.length d) w).mono (Set.empty_subset _) subset_rfl⟩
  cases hmade : (Run.exec (makeDirectories d) w).1 with
  | error fault =>
      rw [hmade] at hmake
      exact ⟨fault, hmake.bind_of_error _⟩
  | ok _ =>
      rw [hmade] at hmake
      cases hresult : (generateAll config settings.options settings.targets).result with
      | ok outcomes => exact absurd (Settings.allCome_iff.mpr ⟨outcomes, hresult⟩) h
      | error fault =>
          refine ⟨fault, hmake.bind_of_ok fun w₁ _ => ?_⟩
          have hgenerated := returns_carryOut setup (generateAll config settings.options settings.targets) w₁
          rw [hresult] at hgenerated
          exact (hgenerated.mono subset_rfl (Set.empty_subset _)).bind_of_error _

theorem returns_generateBatch_of_missing
    (h : ∀ d, settings.sourceDirectory directory = .ok d → ¬ settings.AllCome config) (w : World) :
    ∃ fault, Run.Returns (generateBatch setup settings config directory) w setup.files Set.univ (.error fault) := by
  cases hdirectory : settings.sourceDirectory directory with
  | error fault =>
      refine ⟨fault, w, ?_, .refl w setup.files Set.univ⟩
      rw [exec_generateBatch, hdirectory]
  | ok d =>
      obtain ⟨fault, w', hexec, hchanges⟩ := returns_sendSources_of_missing (h d hdirectory) w
      refine ⟨fault, w', ?_, hchanges⟩
      rw [exec_generateBatch, hdirectory]
      exact hexec

/-- Every source is written where all outcomes are there and no file is in the way. -/
theorem exec_sendSources {outcomes : List Outcome} {w' : World}
    (h : (generateAll config settings.options settings.targets).result = .ok outcomes)
    (hopens : w.Opens setup.files d)
    (haccepts : ∀ o ∈ outcomes, o.ok = true → w.Accepts setup.files (d.child o.target.filename))
    (hchanges : w.ChangesTo setup.files ∅ "" w') :
    ∃ text w'', Run.exec (sendSources setup settings config d) w' =
        (.ok (if outcomes.all Outcome.ok then 0 else 1), w'') ∧
      w.ChangesTo (setup.files ∪ Outcome.paths d outcomes) {q | q.Begins d} text w'' ∧
      ∀ o ∈ outcomes, ∀ source, o.source = some source →
        w''.files.file? (w.files.placeOf (d.child o.target.filename)) = some (encode source) := by
  obtain ⟨w₁, hmake, hmade, hleads⟩ := hopens.exec_makeDirectories hchanges
  obtain ⟨w₂, hgenerate, hgenerated⟩ := returns_carryOut setup
    (generateAll config settings.options settings.targets) w₁
  rw [h] at hgenerate
  have hbefore := hmade.trans (hgenerated.mono subset_rfl (Set.empty_subset {q : Path | q.Begins d}))
  have hfree : ∀ o ∈ outcomes, o.ok = true →
      ¬ w₂.files.IsDirectory (w₂.files.placeOf (d.child o.target.filename)) := fun o ho hok =>
    (haccepts o ho hok).free_after (by rwa [Path.parent_child])
  obtain ⟨text, w₃, hdeliver, hdelivered, hfiles⟩ := exec_deliverAll (hgenerated.leads hleads) hfree
    (nodup_of_generateAll h)
  refine ⟨text, w₃, ?_, ?_, ?_⟩
  · exact (Run.exec_bind_of_ok hmake _).trans ((Run.exec_bind_of_ok hgenerate _).trans
      ((Run.exec_bind_of_ok hdeliver _).trans (Run.exec_pure _ w₃)))
  · exact (hbefore.mono Set.subset_union_left subset_rfl).trans
      (hdelivered.mono Set.subset_union_right (Set.empty_subset _))
  · intro o ho source hsource
    rw [← hbefore.placeOf]
    exact hfiles o ho source hsource

theorem perform_all : Command.perform setup settings (.generate "all" tree output directory) =
    loadConfig setup tree >>= fun config => generateBatch setup settings config directory := by
  simp only [CommandLine.Command.perform, beq_self_eq_true, if_true]

theorem returns_perform_of_missing (h : ∀ config d, w.config tree = .ok config →
      settings.sourceDirectory directory = .ok d → ¬ settings.AllCome config) :
    ∃ fault, Run.Returns (Command.perform setup settings (.generate "all" tree output directory)) w setup.files
      Set.univ (.error fault) := by
  rw [perform_all]
  have hload := (returns_loadConfig setup tree w).mono subset_rfl (Set.empty_subset Set.univ)
  cases hconfig : w.config tree with
  | error fault =>
      rw [hconfig] at hload
      exact ⟨fault, hload.bind_of_error _⟩
  | ok config =>
      rw [hconfig] at hload
      obtain ⟨w₁, hexec, hloaded⟩ := hload
      obtain ⟨fault, w₂, hbatch, hmade⟩ := @returns_generateBatch_of_missing setup settings config directory
        (fun d => h config d hconfig) w₁
      exact ⟨fault, w₂, (Run.exec_bind_of_ok hexec _).trans hbatch, hloaded.trans hmade⟩

/-- The files that outcomes are written to are those of the targets that pass their check. -/
theorem paths_of_generateAll {outcomes : List Outcome}
    (h : (generateAll config settings.options settings.targets).result = .ok outcomes) (d : Path) :
    Outcome.paths d outcomes = {p | ∃ t, settings.AskFor t ∧
      Generator.Passes ⟨t, config, settings.options⟩ ∧ p = d.child t.filename} := by
  have hcomes := comesTo_of_generateAll h
  ext p
  constructor
  · rintro ⟨o, ho, hok, rfl⟩
    exact ⟨o.target, (Settings.askFor_iff_mem h).mpr (List.mem_map_of_mem ho), (hcomes o ho).ok_iff_passes.mp hok, rfl⟩
  · rintro ⟨t, ht, hpasses, rfl⟩
    obtain ⟨o, ho, rfl⟩ := List.mem_map.mp ((Settings.askFor_iff_mem h).mp ht)
    exact ⟨o, ho, (hcomes o ho).ok_iff_passes.mpr hpasses, rfl⟩

/-- A run for all targets writes the source of each target that has one, and reports every other. -/
theorem deliversAll (w : World) : DeliversAll setup settings tree directory w
    (Run.exec (Command.finish setup settings (.generate "all" tree output directory)) w).1
    (Run.exec (Command.finish setup settings (.generate "all" tree output directory)) w).2 := by
  constructor
  case failed =>
    intro hmissing
    obtain ⟨fault, hfault⟩ := returns_perform_of_missing hmissing
    obtain ⟨w', hexec, hchanges⟩ := returns_finish_of_error hfault
    rw [hexec]
    exact ⟨fault.ending_ne_zero, hchanges⟩
  case delivered =>
    intro config d hconfig hdirectory hcome hopens haccepts
    obtain ⟨outcomes, houtcomes⟩ := Settings.allCome_iff.mp hcome
    have hcomes := comesTo_of_generateAll houtcomes
    have hasked : ∀ t, settings.AskFor t ↔ ∃ o ∈ outcomes, o.target = t := fun t => by
      rw [Settings.askFor_iff_mem houtcomes, List.mem_map]
    have haccepted : ∀ o ∈ outcomes, o.ok = true → w.Accepts setup.files (d.child o.target.filename) :=
      fun o ho hok => haccepts o.target ((hasked _).mpr ⟨o, ho, rfl⟩) ((hcomes o ho).ok_iff_passes.mp hok)
    obtain ⟨w₁, hload, hloaded⟩ := returns_loadConfig setup tree w
    rw [hconfig] at hload
    obtain ⟨text, w₂, hsend, hsent, hfiles⟩ := exec_sendSources houtcomes hopens haccepted hloaded
    have hperform : Run.exec (Command.perform setup settings (.generate "all" tree output directory)) w =
        (.ok (if outcomes.all Outcome.ok then 0 else 1), w₂) := by
      rw [perform_all, Run.exec_bind_of_ok hload, exec_generateBatch, hdirectory]
      exact hsend
    rw [exec_finish_of_ok hperform]
    refine ⟨?_, ?_, ?_, text, ?_⟩
    · cases outcomes.all Outcome.ok
      · exact Or.inr rfl
      · exact Or.inl rfl
    · have hall : outcomes.all Outcome.ok = true ↔
          ∀ t, settings.AskFor t → Generator.Passes ⟨t, config, settings.options⟩ := by
        rw [List.all_eq_true]
        constructor
        · intro hok t ht
          obtain ⟨o, ho, rfl⟩ := (hasked t).mp ht
          exact (hcomes o ho).ok_iff_passes.mp (hok o ho)
        · intro hpasses o ho
          exact (hcomes o ho).ok_iff_passes.mpr (hpasses o.target ((hasked _).mpr ⟨o, ho, rfl⟩))
      rw [← hall]
      cases outcomes.all Outcome.ok <;> simp
    · intro t ht hpasses
      obtain ⟨o, ho, rfl⟩ := (hasked t).mp ht
      obtain ⟨source, hsource, hgenerate⟩ := (hcomes o ho).exists_source ((hcomes o ho).ok_iff_passes.mpr hpasses)
      exact ⟨source, hgenerate, hfiles o ho source hsource⟩
    · rw [← paths_of_generateAll houtcomes]
      exact hsent

end Several

/-- The command to generate delivers everything or nothing. For one target nothing but the log changes unless there is a
source, and then the chosen file holds all of it; for several targets no file but the log changes unless every target
comes to a source or a refusal, and then each target that passes its check has its whole source in its file. -/
theorem sources_delivered_whole (setup : LogSetup) (settings : Settings) (target output directory : String)
    (tree : Option String) (w : World) :
    let run := Run.exec (Command.finish setup settings (.generate target tree output directory)) w
    (target ≠ "all" → DeliversOne setup settings.options target tree output directory w run.1 run.2) ∧
    (target = "all" → DeliversAll setup settings tree directory w run.1 run.2) := by
  refine ⟨fun h => deliversOne h w, ?_⟩
  rintro rfl
  exact deliversAll w

theorem DeliversAll.file?_of_missing {w' : World} {status : Except Fault Status}
    (h : DeliversAll setup settings tree directory w status w')
    (hmissing : ∀ config d, w.config tree = .ok config → settings.sourceDirectory directory = .ok d →
      ¬ settings.AllCome config)
    (place : Place) (hplace : ∀ p ∈ setup.files, place ≠ w.files.placeOf p) :
    w'.files.file? place = w.files.file? place :=
  (h.failed hmissing).2.files place hplace

deriving instance DecidableEq for Directives, Location, Server, Upstream, Config

/-- Surroundings with a directive tree in a file, and a directory with an older source. -/
def World.holding (tree : Tree) : World where
  files := {
    working := ["w"]
    entries := [(["w", "tree.json"], .file (encode (Json.line (.list (Node.listToData tree))))),
      (["w", "out"], .directory), (["w", "out", "edge-hook.js"], .file (encode "older\n"))] }
  clock := "noon"

/-- The tree of the configuration with a local process. -/
def processingTree : Tree :=
  [.block ⟨"server", [], none⟩
    [.block ⟨"location", ["/"], none⟩ [.simple ⟨"fastcgi_pass", ["app:9000"], none⟩]]]

theorem config_holding_processingTree :
    (World.holding processingTree).config (some "tree.json") = .ok processing :=
  toOption_eq_some_iff.mp (by decide +kernel)

theorem file?_holding (tree : Tree) : (World.holding tree).files.file? ["w", "out", "edge-hook.js"] =
    some (encode "older\n") := rfl

theorem file?_holding_worker (tree : Tree) : (World.holding tree).files.file? ["w", "out", "worker.js"] = none := rfl

theorem placeOf_holding {tree : Tree} {q : Path} (h : q.Begins (Path.ofString "out")) :
    (World.holding tree).files.placeOf q = ["w", "out"] ∨ (World.holding tree).files.placeOf q = ["w"] := by
  have hout : Path.ofString "out" = ⟨"", [] ++ ["out"]⟩ := by decide +kernel
  rw [hout, Path.begins_snoc] at h
  rcases h with rfl | h
  · exact Or.inl rfl
  · rw [Path.begins_nil h]
    exact Or.inr rfl

theorem opens_holding (tree : Tree) {logged : Set Path}
    (hlogged : ∀ l ∈ logged, (World.holding tree).files.placeOf l = ["w", "run.log"]) :
    (World.holding tree).Opens logged (Path.ofString "out") := by
  intro q hq
  rcases placeOf_holding hq with hplace | hplace <;> rw [hplace] <;>
    exact ⟨rfl, fun l hl => by rw [hlogged l hl]; decide⟩

theorem accepts_holding (tree : Tree) {logged : Set Path}
    (hlogged : ∀ l ∈ logged, (World.holding tree).files.placeOf l = ["w", "run.log"]) (t : Target) :
    (World.holding tree).Accepts logged ((Path.ofString "out").child t.filename) := by
  have hplace : (World.holding tree).files.placeOf ((Path.ofString "out").child t.filename) =
      ["w", "out", t.filename] := by
    cases t <;> rfl
  constructor
  case opens =>
    rw [Path.parent_child]
    exact opens_holding tree hlogged
  case free =>
    rw [hplace, FileSystem.IsDirectory]
    cases t <;> simp [ FileSystem.entry?, World.holding, Target.filename]
  case apart =>
    intro q hq
    rw [Path.parent_child] at hq
    rcases @placeOf_holding tree q hq with hq | hq <;> simp [hplace, hq]

/-- Two targets that cannot hand requests to a process are refused, and the older source for one of them is kept. -/
theorem sources_delivered_whole_processing :
    ∃ w', Run.exec (Command.finish { weight := 20, file := some "run.log" } {}
        (.generate "all" (some "tree.json") "" "out")) (World.holding processingTree) = (.ok 1, w') ∧
      (∃ source, (Generator.generate ⟨.worker, processing, {}⟩).result = .ok source ∧
        w'.files.file? ["w", "out", "worker.js"] = some (encode source)) ∧
      w'.files.file? ["w", "out", "edge-hook.js"] = some (encode "older\n") := by
  let setup : LogSetup := { weight := 20, file := some "run.log" }
  have hdelivers := (sources_delivered_whole setup {} "all" "" "out" (some "tree.json")
    (World.holding processingTree)).2 rfl
  obtain ⟨status, w', hexec⟩ : ∃ status w', Run.exec (Command.finish setup {}
      (.generate "all" (some "tree.json") "" "out")) (World.holding processingTree) = (status, w') :=
    ⟨_, _, Prod.mk.eta.symm⟩
  rw [hexec] at hdelivers
  have hlogged : ∀ l ∈ setup.files, (World.holding processingTree).files.placeOf l = ["w", "run.log"] := by
    rintro l ⟨⟩
    rfl
  have hasked : ∀ t, Settings.AskFor {} t := fun t =>
    ⟨t.name, List.mem_map_of_mem (by cases t <;> decide), Target.named_name t⟩
  have hcome : Settings.AllCome {} processing := by
    intro name hname
    obtain ⟨t, -, rfl⟩ := List.mem_map.mp hname
    exact ⟨t, Target.named_name t,
      Generator.exists_comesTo_iff.mpr ⟨processing_readable t, fun _ => processing_emittable t⟩⟩
  obtain ⟨hstatus, hzero, hwritten, text, hchanges⟩ := hdelivers.delivered processing (Path.ofString "out")
    config_holding_processingTree rfl hcome (opens_holding _ hlogged) fun t _ _ => accepts_holding _ hlogged t
  have hworker : Generator.Passes ⟨.worker, processing, {}⟩ :=
    (passes_iff_admitted (processing_readable .worker)).mpr fun _ _ _ _ => trivial
  have hedge : ¬ Generator.Passes ⟨.edgeHook, processing, {}⟩ := by
    rw [passes_iff_admitted (processing_readable .edgeHook)]
    simp only [processing, Config.Admitted, Target.Admits, Directives.NoProcess]
    decide +kernel
  have hrefused : status = .ok 1 := hstatus.resolve_left fun h => hedge (hzero.mp h .edgeHook (hasked .edgeHook))
  refine ⟨w', hrefused ▸ hexec, hwritten .worker (hasked .worker) hworker,
    (hchanges.files _ ?_).trans (file?_holding _)⟩
  rintro p (hp | ⟨t, -, hpasses, rfl⟩)
  · rw [hlogged p hp]
    decide
  · intro hsame
    have hplace : (World.holding processingTree).files.placeOf ((Path.ofString "out").child Target.edgeHook.filename) =
        ["w", "out", "edge-hook.js"] := rfl
    obtain rfl := FileSystem.placeOf_child_inj (hplace.trans hsame)
    exact hedge hpasses

/-- The configuration with a port written with a superscript. -/
def superscriptConfig : Config where
  servers := [{ locations := [{ path := "/", directives := { proxyPass := some "http://h:²" } }] }]

theorem config_holding_superscriptAddress :
    (World.holding superscriptAddress).config (some "tree.json") = .ok superscriptConfig :=
  toOption_eq_some_iff.mp (by decide +kernel)

/-- The port ends the check of a target that reads addresses. -/
theorem not_allCome_superscriptConfig : ¬ Settings.AllCome {} superscriptConfig := by
  intro hcome
  obtain ⟨t, ht, hcomes⟩ := hcome Target.edgeHook.name (List.mem_map_of_mem (by decide))
  obtain rfl : Target.edgeHook = t := Except.ok.inj ((Target.named_name .edgeHook).symm.trans ht)
  have hreadable := (Generator.exists_comesTo_iff.mp hcomes).1
  have hsound : AddressSound "http://h:²" :=
    (hreadable.locations _ (List.mem_singleton_self _) _ (List.mem_singleton_self _)).address rfl _ rfl
  obtain ⟨hdigits, hnumeral⟩ := Number.superscript_not_numeral
  exact hnumeral ((hsound "http" "²" (by decide +kernel)).1 hdigits)

theorem passes_superscriptConfig : Generator.Passes ⟨.worker, superscriptConfig, {}⟩ := by
  have hreadable : superscriptConfig.Readable .worker := by
    refine ⟨by simp [superscriptConfig, Server.NamesReadable], ?_⟩
    simp only [superscriptConfig, List.forall_mem_singleton]
    constructor <;> simp [Location.isRegex, Target.readsAddresses]
  exact (passes_iff_admitted hreadable).mpr fun _ _ _ _ => trivial

/-- A port that is a digit and yet no numeral keeps the source of a target from its file that has nothing to do with
it. -/
theorem superscript_address_stops_delivery :
    ∃ config, (World.holding superscriptAddress).config (some "tree.json") = .ok config ∧
      (∀ name ∈ Target.asked ({} : Settings).targets, ∃ t, Target.named name = .ok t) ∧
      Generator.Passes ⟨.worker, config, {}⟩ ∧
      (Run.exec (Command.finish { weight := 20 } {} (.generate "all" (some "tree.json") "" "out"))
        (World.holding superscriptAddress)).2.files.file? ["w", "out", "worker.js"] = none := by
  refine ⟨superscriptConfig, config_holding_superscriptAddress, ?_, passes_superscriptConfig, ?_⟩
  · intro name hname
    obtain ⟨t, -, rfl⟩ := List.mem_map.mp hname
    exact ⟨t, Target.named_name t⟩
  · refine ((@deliversAll { weight := 20 } {} (some "tree.json") "" "out" _).file?_of_missing
      (fun config d hconfig _ => ?_) _ nofun).trans (file?_holding_worker _)
    cases hconfig.symm.trans config_holding_superscriptAddress
    exact not_allCome_superscriptConfig

end EdgeRoutes
