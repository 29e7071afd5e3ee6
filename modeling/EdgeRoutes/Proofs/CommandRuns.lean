import EdgeRoutes.Proofs.ScriptRuns

/-! Runs of the parts of commands: what each comes to, and which files and directories it may change. -/

namespace EdgeRoutes

open Files CommandLine

variable {w w' : World}

section Steps

variable {S D : Set Path}

/-- The path of the log file, if there is one. -/
def LogSetup.files (setup : LogSetup) : Set Path := {p | setup.file.map Path.ofString = some p}

theorem LogSetup.asks_write (setup : LogSetup) (e : Event) : (setup.write e).Asks (Request.Within setup.files ∅) := by
  unfold LogSetup.write
  split_ifs
  · refine Script.Asks.bind (Script.asks_request ⟨Set.empty_subset _, Set.empty_subset _, rfl⟩) fun time => ?_
    refine Script.Asks.bind (Script.asks_request ⟨Set.empty_subset _, Set.empty_subset _, rfl⟩) fun _ => ?_
    cases hfile : setup.file with
    | none => exact Script.asks_pure ()
    | some file =>
        have hmem : Path.ofString file ∈ setup.files := by
          change setup.file.map Path.ofString = _
          rw [hfile]
          rfl
        refine Script.Asks.bind (Script.asks_request ⟨?_, Set.empty_subset _, rfl⟩) fun _ => Script.asks_pure ()
        exact Set.singleton_subset_iff.mpr hmem
  · exact Script.asks_pure ()

/-- Carrying out a computation changes the log file only. -/
theorem returns_carryOut {α : Type} (setup : LogSetup) (x : Logged α) (w : World) :
    Run.Returns (setup.carryOut x) w setup.files ∅ x.result :=
  (Run.returns_of_asks (Script.asks_forEach setup.asks_write x.events) w).bind fun _ w' _ _ =>
    Run.returns_liftM x.result w'

theorem returns_complainAll (label : String) (texts : List String) (w : World) :
    Run.Returns (complainAll label texts) w S D (.ok ()) := by
  refine Run.returns_of_asks (Script.asks_forEach (fun text => ?_) texts) w
  exact Script.asks_request ⟨Set.empty_subset _, Set.empty_subset _, rfl⟩

theorem exec_printLine (text : String) (w : World) :
    ∃ w', Run.exec (printLine text) w = (.ok (), w') ∧ w.ChangesTo ∅ ∅ (text ++ "\n") w' :=
  ⟨_, Run.exec_lift _ w, w.changesTo_serve (.print (text ++ "\n"))⟩

end Steps

section Directories

theorem asks_makeOneDirectory (p : Path) : (makeOneDirectory p).Asks (Request.Within ∅ Set.univ) := by
  unfold makeOneDirectory
  refine Script.Asks.bind (Script.asks_request ⟨Set.empty_subset _, Set.subset_univ _, rfl⟩) fun answer => ?_
  split
  · exact Script.asks_pure _
  · split_ifs
    · exact Script.asks_pure _
    · exact (Script.asks_request ⟨Set.empty_subset _, Set.empty_subset _, rfl⟩).bind fun _ => Script.asks_pure _

/-- Making directories changes no file, also where it fails. -/
theorem asks_makeDirectoriesUpTo (depth : Nat) (p : Path) :
    Run.Asks (Request.Within ∅ Set.univ) (makeDirectoriesUpTo depth p) := by
  induction depth generalizing p with
  | zero =>
      unfold makeDirectoriesUpTo
      refine (Run.asks_lift (asks_makeOneDirectory p)).bind fun made => ?_
      split
      · exact Run.asks_pure _
      · split_ifs <;> exact Run.asks_throw _
  | succ depth ih =>
      unfold makeDirectoriesUpTo
      refine (Run.asks_lift (asks_makeOneDirectory p)).bind fun made => ?_
      split
      · exact Run.asks_pure _
      · split_ifs
        · exact (ih p.parent).bind fun _ => Run.asks_ofFile (asks_makeOneDirectory p)
        · exact Run.asks_throw _

/-- Where nothing is in the way, the directory is made and nothing else changes. -/
theorem run_makeOneDirectory {p : Path} (hlocate : w.files.locate p = .ok (w.files.placeOf p))
    (hfile : w.files.file? (w.files.placeOf p) = none) :
    ∃ w', (makeOneDirectory p).run w = (.ok (), w') ∧ w.ChangesTo ∅ {p} "" w' ∧
      w'.files.IsDirectory (w.files.placeOf p) := by
  by_cases hdirectory : w.files.IsDirectory (w.files.placeOf p)
  · have hentry : w.files.entry? (w.files.placeOf p) = some .directory := hdirectory
    have hmake : w.files.makeDirectory p = .error ⟨.exists, p.text⟩ := by
      simp only [FileSystem.makeDirectory, hlocate, bind, Except.bind, hentry, Except.mapError]
    have hlookup : w.files.lookup p = some .directory := by simp only [FileSystem.lookup, hlocate, hentry]
    have hrun : (makeOneDirectory p).run w =
        (if w.files.lookup p == some .directory then .ok () else .error ⟨.exists, p.text⟩, w) := by
      simp only [makeOneDirectory, Script.run_bind, Script.run_request, World.serve, World.commit, hmake]
      rfl
    exact ⟨w, by rw [hrun, hlookup]; rfl, .refl w ∅ {p}, hdirectory⟩
  · have hnone := FileSystem.entry?_eq_none_of hfile hdirectory
    have hmake := FileSystem.makeDirectory_eq_ok_iff.mpr ⟨hlocate, hnone, rfl⟩
    refine ⟨_, ?_, w.changesTo_makeDirectory hmake, FileSystem.entry?_put_self hdirectory .directory⟩
    simp [makeOneDirectory, World.serve, World.commit, hmake]

theorem run_makeOneDirectory_of_missing {p : Path} (h : w.files.locate p = .error .notFound) :
    (makeOneDirectory p).run w = (.error ⟨.notFound, p.text⟩, w) := by
  have hmake : w.files.makeDirectory p = .error ⟨.notFound, p.text⟩ := by
    rw [FileSystem.makeDirectory, h]
    rfl
  simp [makeOneDirectory, World.serve, World.commit, hmake]

/-- A path that can be located leads to a directory once the last one is made. -/
theorem leads_of_makeOneDirectory {p : Path} (hlocate : w.files.locate p = .ok (w.files.placeOf p))
    (hfile : w.files.file? (w.files.placeOf p) = none) :
    ∃ w', (makeOneDirectory p).run w = (.ok (), w') ∧ w.ChangesTo ∅ {q | q.Begins p} "" w' ∧ w'.files.Leads p := by
  obtain ⟨w', hrun, hchanges, hdirectory⟩ := run_makeOneDirectory hlocate hfile
  refine ⟨w', hrun, hchanges.mono subset_rfl (Set.singleton_subset_iff.mpr (Path.Begins.refl p)), fun q hq => ?_⟩
  rw [hchanges.placeOf]
  by_cases hsame : q = p
  · exact hsame ▸ hdirectory
  · exact hchanges.kept _ ((FileSystem.locate_eq_ok_iff.mp hlocate).2 q hq hsame)

/-- Where no file is in the way, a directory can be made with all that lead to it. -/
theorem exec_makeDirectories {p : Path} (hway : ∀ q : Path, q.Begins p → w.files.file? (w.files.placeOf q) = none) :
    ∃ w', Run.exec (makeDirectories p) w = (.ok (), w') ∧ w.ChangesTo ∅ {q | q.Begins p} "" w' ∧ w'.files.Leads p := by
  obtain ⟨root, names⟩ := p
  change ∃ w', Run.exec (makeDirectoriesUpTo names.length ⟨root, names⟩) w = _ ∧ _
  induction names using List.reverseRecOn with
  | nil =>
      obtain ⟨w', hrun, hrest⟩ := @leads_of_makeOneDirectory w ⟨root, []⟩ rfl (hway _ (Path.Begins.refl _))
      refine ⟨w', ?_, hrest⟩
      rw [makeDirectoriesUpTo, Run.exec_bind, Run.exec_lift, hrun]
      rfl
  | append_singleton names name ih =>
      rw [List.length_append, List.length_singleton, makeDirectoriesUpTo, Run.exec_bind, Run.exec_lift]
      cases hlocate : w.files.locate ⟨root, names ++ [name]⟩ with
      | ok place =>
          obtain ⟨rfl, -⟩ := FileSystem.locate_eq_ok_iff.mp hlocate
          obtain ⟨w', hrun, hrest⟩ := leads_of_makeOneDirectory hlocate (hway _ (Path.Begins.refl _))
          rw [hrun]
          exact ⟨w', rfl, hrest⟩
      | error e =>
          obtain rfl := FileSystem.locate_error hlocate hway
          obtain ⟨w₁, hparent, hbefore, hleads⟩ := ih fun q hq => hway q (Path.begins_snoc.mpr (Or.inr hq))
          have hlocated : w₁.files.locate ⟨root, names ++ [name]⟩ = .ok (w₁.files.placeOf ⟨root, names ++ [name]⟩) :=
            FileSystem.locate_of_parent_leads (by rwa [Path.parent_snoc])
          have hfile : w₁.files.file? (w₁.files.placeOf ⟨root, names ++ [name]⟩) = none := by
            rw [hbefore.placeOf, hbefore.files _ fun p hp => hp.elim]
            exact hway _ (Path.Begins.refl _)
          obtain ⟨w₂, hrun, hafter, hend⟩ := leads_of_makeOneDirectory hlocated hfile
          refine ⟨w₂, ?_, (hbefore.mono subset_rfl ?_).trans hafter, hend⟩
          · rw [run_makeOneDirectory_of_missing hlocate]
            change Run.exec (makeDirectoriesUpTo names.length (Path.parent ⟨root, names ++ [name]⟩) >>= _) w = _
            rw [Path.parent_snoc, Run.exec_bind_of_ok hparent, Run.exec_ofFile, hrun]
            rfl
          · exact fun q hq => Path.begins_snoc.mpr (Or.inr hq)

end Directories

section Writing

/-- The directory can be made with all that lead to it: no file is in the way, and none is made there by logging. -/
def World.Opens (w : World) (logged : Set Path) (d : Path) : Prop := ∀ q : Path, q.Begins d →
  w.files.file? (w.files.placeOf q) = none ∧ ∀ l ∈ logged, w.files.placeOf q ≠ w.files.placeOf l

/-- A file can be made at the path: its directory can be made, and no directory is at the place of the file or gets
there. -/
structure World.Accepts (w : World) (logged : Set Path) (p : Path) : Prop where
  opens : w.Opens logged p.parent
  free : ¬ w.files.IsDirectory (w.files.placeOf p)
  apart : ∀ q : Path, q.Begins p.parent → w.files.placeOf p ≠ w.files.placeOf q

variable {logged S : Set Path} {text : String}

/-- After logging, a directory can still be made. -/
theorem World.Opens.exec_makeDirectories {d : Path} (h : w.Opens logged d) (hchanges : w.ChangesTo logged ∅ "" w') :
    ∃ w'', Run.exec (makeDirectories d) w' = (.ok (), w'') ∧ w.ChangesTo logged {q | q.Begins d} "" w'' ∧
      w''.files.Leads d := by
  have hway : ∀ q : Path, q.Begins d → w'.files.file? (w'.files.placeOf q) = none := fun q hq => by
    rw [hchanges.placeOf, hchanges.files _ (h q hq).2]
    exact (h q hq).1
  obtain ⟨w'', hrun, hmade, hleads⟩ := EdgeRoutes.exec_makeDirectories hway
  exact ⟨w'', hrun, (hchanges.mono subset_rfl (Set.empty_subset _)).trans (hmade.mono (Set.empty_subset _) subset_rfl),
    hleads⟩

/-- The place of the file stays free while its directory is made and files are written. -/
theorem World.Accepts.free_after {p : Path} (h : w.Accepts logged p)
    (hchanges : w.ChangesTo S {q | q.Begins p.parent} text w') : ¬ w'.files.IsDirectory (w'.files.placeOf p) := by
  rw [hchanges.placeOf]
  intro hdirectory
  rcases hchanges.directories _ hdirectory with hbefore | ⟨q, hq, hat⟩
  · exact h.free hbefore
  · exact h.apart q hq hat

/-- What the output says about a file that is written. -/
def wroteLine (target : Target) (p : Path) : String := target.name ++ ": wrote " ++ p.text ++ "\n"

/-- A source is written whole into a file in a directory that is there. -/
theorem exec_writeSource {p : Path} (hleads : w.files.Leads p.parent)
    (hfree : ¬ w.files.IsDirectory (w.files.placeOf p)) (target : Target) (source : String) :
    ∃ w', Run.exec (writeSource target p source) w = (.ok (), w') ∧ w.ChangesTo {p} ∅ (wroteLine target p) w' ∧
      w'.files.file? (w.files.placeOf p) = some (encode source) := by
  have hwrite : w.files.write p (encode source) = .ok (w.files.put (w.files.placeOf p) (.file (encode source))) :=
    FileSystem.modify_eq_ok_iff.mpr ⟨FileSystem.locate_of_parent_leads hleads, hfree, rfl⟩
  have hchanges := w.changesTo_modify hwrite
  have hexec : Run.exec (writeText p source) w =
      (.ok (), { w with files := w.files.put (w.files.placeOf p) (.file (encode source)) }) := by
    refine (Run.exec_ofFile _ w).trans ?_
    change ((w.commit (w.files.write p (encode source))).1.mapError Fault.file,
      (w.commit (w.files.write p (encode source))).2) = _
    rw [hwrite]
    rfl
  obtain ⟨w', hprint, hprinted⟩ := exec_printLine (target.name ++ ": wrote " ++ p.text) _
  refine ⟨w', (Run.exec_bind_of_ok hexec _).trans hprint, ?_, ?_⟩
  · exact hchanges.trans (hprinted.mono (Set.empty_subset _) subset_rfl)
  · rw [hprinted.files _ fun q hq => hq.elim]
    exact FileSystem.file?_eq_some_iff.mpr (FileSystem.entry?_put_self hfree _)

end Writing

section Loading

/-- The configuration in the file with the directive tree. -/
def World.config (w : World) (tree : Option String) : Except Fault Config :=
  match tree with
  | none => .error (.notPath "list")
  | some file => do
    let bytes ← (w.files.read (Path.ofString file)).mapError Fault.file
    let text ← (decode bytes).mapError Fault.encoding
    let tree ← (Tree.read (Path.ofString file).text text).result
    (Config.build tree).result

theorem returns_loadConfig (setup : LogSetup) (tree : Option String) (w : World) :
    Run.Returns (loadConfig setup tree) w setup.files ∅ (w.config tree) := by
  cases tree with
  | none => exact ⟨w, rfl, .refl w setup.files ∅⟩
  | some file =>
      have hread : Run.Returns (Run.ofFile (Script.request (.read (Path.ofString file)))) w setup.files ∅
          ((w.files.read (Path.ofString file)).mapError Fault.file) :=
        ⟨w, Run.exec_ofFile _ w, .refl w setup.files ∅⟩
      refine hread.bind fun bytes w₁ _ _ => (Run.returns_liftM _ w₁).bind fun text w₂ _ _ => ?_
      have hbuilt := returns_carryOut setup (do
        let tree ← Tree.read (Path.ofString file).text text
        Config.build tree) w₂
      rw [Logged.result_bind] at hbuilt
      exact hbuilt.bind_tap fun config w₃ => returns_complainAll "warning: " config.warnings w₃

end Loading

section Reporting

/-- How a command ends that a fault stops: with a status if a user can do something about the fault, else with the fault
itself. -/
def Fault.ending : Fault → Except Fault Status
  | .refused _ _ _ | .general _ _ | .unknownTarget _ _ | .treeFormat _ _ | .upstreamUrl _ _ | .file _ => .ok 1
  | fault => .error fault

theorem Fault.ending_ne_zero (fault : Fault) : fault.ending ≠ .ok 0 := by
  cases fault <;> simp [Fault.ending]

theorem returns_reportFault (fault : Fault) (w : World) {S D : Set Path} :
    Run.Returns (reportFault fault) w S D fault.ending := by
  have hone : ∀ (texts : List String) w', Run.Returns (complainAll "Error: " texts >>= fun _ => pure 1) w' S D
      (.ok (1 : Status)) := fun texts w' =>
    (returns_complainAll "Error: " texts w').bind_of_ok fun w'' _ => Run.returns_pure 1 w''
  cases fault with
  | refused target errors warnings =>
      exact (returns_complainAll "error: " errors w).bind_of_ok fun w₁ _ =>
        (returns_complainAll "Generation refused for target " _ w₁).bind_of_ok fun w₂ _ => Run.returns_pure 1 w₂
  | general | unknownTarget | treeFormat | upstreamUrl | file => exact hone _ w
  | _ => exact ⟨w, rfl, .refl w S D⟩

/-- Carries out a command and reports the faults that a user can do something about. -/
def CommandLine.Command.finish (setup : LogSetup) (settings : Settings) (command : Command) : Run Status :=
  tryCatch (command.perform setup settings) reportFault

variable {setup : LogSetup} {settings : Settings} {command : Command}

theorem exec_finish_of_ok {status : Status} (h : Run.exec (command.perform setup settings) w = (.ok status, w')) :
    Run.exec (command.finish setup settings) w = (.ok status, w') := by
  rw [CommandLine.Command.finish, Run.exec_tryCatch, h]

theorem returns_finish_of_error {fault : Fault} {S D : Set Path}
    (h : Run.Returns (command.perform setup settings) w S D (.error fault)) :
    Run.Returns (command.finish setup settings) w S D fault.ending := by
  obtain ⟨w₁, hperform, hchanges⟩ := h
  obtain ⟨w₂, hreport, hafter⟩ := @returns_reportFault fault w₁ S D
  refine ⟨w₂, ?_, hchanges.trans hafter⟩
  rw [CommandLine.Command.finish, Run.exec_tryCatch, hperform]
  exact hreport

end Reporting

end EdgeRoutes
