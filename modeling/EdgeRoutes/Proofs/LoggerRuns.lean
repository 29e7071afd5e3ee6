import EdgeRoutes.Script.Logger
import EdgeRoutes.Proofs.CommentText
import EdgeRoutes.Proofs.FileChanges
import EdgeRoutes.Proofs.Paths
import Mathlib.Data.Set.Insert

/-! Runs of the logger. Whatever was set up before, setting it up leaves one handler for the error stream and one for
the file that is named, if any. So through any sequence of setups and events, each line that is let through stands once
on the error stream and once in the file of the latest setup. -/

namespace EdgeRoutes

open Files

section Gains

variable {w w' : World} {text : String} {bytes : Place → Bytes} {opened : Set Place} {p : Path}

/-- Text is added to the error stream and bytes to files, of which those at the places `opened` may be new. Nothing else
changes. -/
structure World.Gains (w : World) (text : String) (bytes : Place → Bytes) (opened : Set Place) (w' : World) : Prop where
  complaints : w'.complaints = w.complaints ++ text
  contents : ∀ place, (w'.files.file? place).getD [] = (w.files.file? place).getD [] ++ bytes place
  present : ∀ place, (w'.files.file? place).isSome ↔ (w.files.file? place).isSome ∨ place ∈ opened
  directories : ∀ place, w'.files.IsDirectory place ↔ w.files.IsDirectory place
  working : w'.files.working = w.files.working
  output : w'.output = w.output

namespace World.Gains

theorem refl (w : World) : w.Gains "" (fun _ => []) ∅ w where
  complaints := String.append_empty.symm
  contents _ := (List.append_nil _).symm
  present place := by simp
  directories _ := Iff.rfl
  working := rfl
  output := rfl

theorem trans {w'' : World} {text' : String} {bytes' : Place → Bytes} {opened' : Set Place}
    (h : w.Gains text bytes opened w') (h' : w'.Gains text' bytes' opened' w'') :
    w.Gains (text ++ text') (fun place => bytes place ++ bytes' place) (opened ∪ opened') w'' where
  complaints := by rw [h'.complaints, h.complaints, String.append_assoc]
  contents place := by rw [h'.contents, h.contents, List.append_assoc]
  present place := by rw [h'.present, h.present, Set.mem_union, or_assoc]
  directories place := (h'.directories place).trans (h.directories place)
  working := h'.working.trans h.working
  output := h'.output.trans h.output

theorem placeOf (h : w.Gains text bytes opened w') (p : Path) : w'.files.placeOf p = w.files.placeOf p :=
  FileSystem.placeOf_congr h.working p

end World.Gains

/-- Where all files were there before, none is new. -/
theorem World.Gains.of_present (h : w.Gains text bytes opened w')
    (hpresent : ∀ place ∈ opened, (w.files.file? place).isSome) : w.Gains text bytes ∅ w' := by
  refine { h with present := fun place => ?_ }
  rw [h.present, or_iff_left_of_imp (hpresent place)]
  simp

/-- The file at the path can be opened for writing at its end. -/
def World.CanOpen (w : World) (p : Path) : Prop := ∃ fs, w.files.append p [] = .ok fs

theorem World.canOpen_iff : w.CanOpen p ↔
    w.files.locate p = .ok (w.files.placeOf p) ∧ ¬ w.files.IsDirectory (w.files.placeOf p) := by
  constructor
  · rintro ⟨fs, hopen⟩
    obtain ⟨hlocate, hfree, -⟩ := FileSystem.modify_eq_ok_iff.mp hopen
    exact ⟨hlocate, hfree⟩
  · rintro ⟨hlocate, hfree⟩
    exact ⟨_, FileSystem.modify_eq_ok_iff.mpr ⟨hlocate, hfree, rfl⟩⟩

/-- What can be opened stays so. -/
theorem World.Gains.canOpen (h : w.Gains text bytes opened w') (hopen : w.CanOpen p) : w'.CanOpen p := by
  rw [World.canOpen_iff, h.placeOf, h.directories] at *
  obtain ⟨hlocate, hfree⟩ := hopen
  refine ⟨FileSystem.locate_eq_ok_iff.mpr ⟨(h.placeOf p).symm, fun q hq hne => ?_⟩, hfree⟩
  rw [h.placeOf, h.directories]
  exact (FileSystem.locate_eq_ok_iff.mp hlocate).2 q hq hne

/-- Bytes go to the end of a file that can be opened. -/
theorem World.gains_append (hopen : w.CanOpen p) (more : Bytes) :
    ∃ w', w.serve (.append p more) = (.ok (), w') ∧
      w.Gains "" (fun place => if place = w.files.placeOf p then more else []) {w.files.placeOf p} w' := by
  obtain ⟨hlocate, hfree⟩ := canOpen_iff.mp hopen
  have happend : w.files.append p more =
      .ok (w.files.put (w.files.placeOf p) (.file ((w.files.file? (w.files.placeOf p)).getD [] ++ more))) :=
    FileSystem.modify_eq_ok_iff.mpr ⟨hlocate, hfree, rfl⟩
  refine ⟨{ w with files := _ }, by rw [serve, happend]; rfl, ?_⟩
  constructor
  case complaints => exact String.append_empty.symm
  case working => rfl
  case output => rfl
  case contents =>
    intro place
    by_cases hat : place = w.files.placeOf p
    · subst hat
      rw [FileSystem.file?, FileSystem.entry?_put_self hfree, if_pos rfl]
      rfl
    · rw [FileSystem.file?_congr (FileSystem.entry?_put_of_ne hfree _ hat), if_neg hat, List.append_nil]
  case present =>
    intro place
    by_cases hat : place = w.files.placeOf p
    · subst hat
      rw [FileSystem.file?, FileSystem.entry?_put_self hfree]
      simp
    · rw [FileSystem.file?_congr (FileSystem.entry?_put_of_ne hfree _ hat)]
      simp [hat]
  case directories =>
    intro place
    by_cases hat : place = w.files.placeOf p
    · subst hat
      rw [FileSystem.IsDirectory, FileSystem.entry?_put_self hfree]
      simp [hfree]
    · rw [FileSystem.IsDirectory, FileSystem.entry?_put_of_ne hfree _ hat, FileSystem.IsDirectory]

theorem World.gains_complain (w : World) (more : String) :
    w.Gains more (fun _ => []) ∅ (w.serve (.complain more)).2 :=
  { World.Gains.refl w with complaints := rfl }

end Gains

section Setup

variable {w : World}

def logPath (directory : List String) (file : String) : Path := (Path.ofString file).absolute directory

def Files.FileSystem.logPlace (fs : FileSystem) (file : String) : Place := fs.placeOf (logPath fs.working file)

def LogSetup.logger (setup : LogSetup) (directory : List String) : Logger where
  weight := setup.weight
  handlers := ⟨.errorStream, setup.weight⟩ ::
    (setup.file.map fun file => ⟨.file (logPath directory file), setup.weight⟩).toList
  propagates := false

def weightIn (environment : Fields String) (level : Option String) : Nat :=
  match level <|> environment.get? LogSetup.levelVariable with
  | some name => weightNamed name
  | none => Level.info.weight

theorem run_requestedWeight (level : Option String) (w : World) :
    (LogSetup.requestedWeight level).run w = (weightIn w.environment level, w) := by
  cases level with
  | some name => rfl
  | none =>
      have hvalue : (Script.environmentValue LogSetup.levelVariable).run w =
          (w.environment.get? LogSetup.levelVariable, w) := rfl
      simp only [LogSetup.requestedWeight, Script.run_bind, hvalue, weightIn]
      cases w.environment.get? LogSetup.levelVariable <;> rfl

/-- Removing each handler that there was leaves none. -/
theorem Logger.clear_eq (l : Logger) : l.clear = { l with handlers := [] } := by
  obtain ⟨weight, handlers, propagates⟩ := l
  unfold clear
  dsimp only
  induction handlers with
  | nil => rfl
  | cons h hs ih =>
      rw [List.foldl_cons, remove]
      dsimp only
      rw [List.erase_cons_head]
      exact ih

/-- The setup that a call asks for. -/
def setupFor (environment : Fields String) (level file : Option String) : LogSetup :=
  { weight := weightIn environment level, file := file.filter (· != "") }

/-- Setting up makes the logger what is asked for, whatever it was. -/
theorem Logger.run_setUp (l : Logger) (level file : Option String)
    (hopen : ∀ named ∈ file.filter (· != ""), w.CanOpen (logPath w.files.working named)) :
    ∃ w', (l.setUp level file).run w = (((setupFor w.environment level file).logger w.files.working, .ok ()), w') ∧
      w.Gains "" (fun _ => [])
        {place | (file.filter (· != "")).map w.files.logPlace = some place} w' := by
  unfold setUp setupFor
  simp only [Script.run_bind, run_requestedWeight, clear_eq]
  cases hfile : file.filter (· != "") with
  | none =>
      refine ⟨w, rfl, ?_⟩
      simpa using World.Gains.refl w
  | some named =>
      obtain ⟨w', happend, hgains⟩ := World.gains_append (hopen named hfile) []
      refine ⟨w', ?_, ?_⟩
      · have hcommit : w.commit (w.files.append ((Path.ofString named).absolute w.files.working) []) = (.ok (), w') :=
          happend
        simp only [Script.run_bind, Script.run_request, World.serve, hcommit]
        rfl
      · simpa [FileSystem.logPlace, eq_comm] using hgains

theorem LogSetup.weight_le_of_admits {setup : LogSetup} {e : Event} (h : setup.admits e = true) :
    setup.weight ≤ e.level.weight := by
  have hthreshold : setup.threshold ≤ e.level.weight := of_decide_eq_true h
  unfold threshold at hthreshold
  split_ifs at hthreshold <;> omega

/-- An event that is not let through leaves no trace. -/
theorem LogSetup.run_log_of_not_admits {setup : LogSetup} {e : Event} (h : setup.admits e = false)
    (directory : List String) (above : List (Event → Script Unit)) (w : World) :
    ((setup.logger directory).log above e).run w = ((), w) := by
  have hthreshold : ¬ (setup.logger directory).threshold ≤ e.level.weight := of_decide_eq_false h
  rw [Logger.log, if_neg hthreshold]
  rfl

theorem Handler.emit_errorStream {weight : Nat} {e : Event} (h : weight ≤ e.level.weight) (time : String) :
    emit ⟨.errorStream, weight⟩ time e = Script.complain (e.line time) := if_pos h

theorem Handler.emit_file {weight : Nat} {e : Event} (h : weight ≤ e.level.weight) (p : Path) (time : String) :
    emit ⟨.file p, weight⟩ time e = (Script.request (.append p (encode (e.line time))) >>= fun _ => pure ()) := if_pos h

/-- An event that is let through goes to the handlers of the setup and to no other. -/
theorem LogSetup.run_log_eq {setup : LogSetup} {e : Event} (h : setup.admits e = true) (directory : List String)
    (above : List (Event → Script Unit)) (w : World) : ((setup.logger directory).log above e).run w =
      (Script.forEach (·.emit w.clock e) (setup.logger directory).handlers).run w := by
  have hthreshold : (setup.logger directory).threshold ≤ e.level.weight := of_decide_eq_true h
  rw [Logger.log, if_pos hthreshold, Script.run_bind]
  obtain ⟨weight, file⟩ := setup
  cases file <;> rfl

/-- The line of an event that is let through goes to the error stream and to the file. -/
theorem LogSetup.run_log_of_admits {setup : LogSetup} {e : Event} (h : setup.admits e = true)
    (above : List (Event → Script Unit)) (hopen : ∀ named ∈ setup.file, w.CanOpen (logPath w.files.working named)) :
    ∃ w', ((setup.logger w.files.working).log above e).run w = ((), w') ∧
      w.Gains (e.line w.clock)
        (fun place => if setup.file.map w.files.logPlace = some place then encode (e.line w.clock) else [])
        {place | setup.file.map w.files.logPlace = some place} w' := by
  have hweight := weight_le_of_admits h
  have hcomplain := w.gains_complain (e.line w.clock)
  rw [run_log_eq h]
  obtain ⟨weight, file⟩ := setup
  cases file with
  | none =>
      refine ⟨(w.serve (.complain (e.line w.clock))).2, ?_, by simpa using hcomplain⟩
      change ((Handler.emit ⟨.errorStream, weight⟩ w.clock e) >>= fun _ => pure ()).run w = _
      rw [Handler.emit_errorStream hweight]
      rfl
  | some named =>
      obtain ⟨w', happend, hgains⟩ := World.gains_append (hcomplain.canOpen (hopen named rfl)) (encode (e.line w.clock))
      refine ⟨w', ?_, ?_⟩
      · change (Handler.emit ⟨.errorStream, weight⟩ w.clock e >>= fun _ =>
          Handler.emit ⟨.file (logPath w.files.working named), weight⟩ w.clock e >>= fun _ => pure ()).run w = _
        have hshown : (Script.complain (e.line w.clock)).run w = w.serve (.complain (e.line w.clock)) := rfl
        rw [Handler.emit_errorStream hweight, Handler.emit_file hweight, Script.run_bind, hshown, Script.run_bind,
          Script.run_bind, Script.run_request, happend]
        rfl
      · have := hcomplain.trans hgains
        simpa [FileSystem.logPlace, eq_comm, hcomplain.placeOf] using this

end Setup

section Calls

/-- What the program asks of the logger. -/
inductive LogAction where
  | setUp (level file : Option String)
  | record (e : Event)

/-- An action at some time and in some environment. -/
structure LogCall where
  environment : Fields String
  clock : String
  action : LogAction

/-- The same surroundings at another time and in another environment. -/
def World.atTime (w : World) (environment : Fields String) (clock : String) : World := { w with environment, clock }

/-- The logger and its surroundings. -/
structure LogSession where
  logger : Logger
  world : World

namespace LogCall

/-- Carries out a call. A setup whose file cannot be opened is a fault. -/
def perform (above : List (Event → Script Unit)) (s : LogSession) (c : LogCall) : Except Fault LogSession :=
  let now := s.world.atTime c.environment c.clock
  match c.action with
  | .setUp level file =>
    let ((logger, outcome), world) := (s.logger.setUp level file).run now
    outcome.map fun _ => ⟨logger, world⟩
  | .record e => .ok ⟨s.logger, ((s.logger.log above e).run now).2⟩

def file? (c : LogCall) : Option String :=
  match c.action with
  | .setUp _ file => file.filter (· != "")
  | .record _ => none

def setupAfter (latest : LogSetup) (c : LogCall) : LogSetup :=
  match c.action with
  | .setUp level file => setupFor c.environment level file
  | .record _ => latest

/-- What a call has to write while a setup is in force: the line of an event that is let through, for the error stream
and for the file of that setup. -/
def lines (latest : LogSetup) (c : LogCall) : List (String × Option String) :=
  match c.action with
  | .setUp _ _ => []
  | .record e => if latest.admits e then [(e.line c.clock, latest.file)] else []

/-- What calls have to write, one after the other. -/
def linesOf (latest : LogSetup) : List LogCall → List (String × Option String)
  | [] => []
  | c :: calls => c.lines latest ++ linesOf (c.setupAfter latest) calls

end LogCall

/-- What lines add to the error stream. -/
def shownText (lines : List (String × Option String)) : String := String.join (lines.map (·.1))

def addedBytes (placeOf : String → Place) (lines : List (String × Option String)) (place : Place) : Bytes :=
  (lines.filter fun line => line.2.map placeOf = some place).flatMap fun line => encode line.1

def openedBy (placeOf : String → Place) (calls : List LogCall) : Set Place :=
  {place | ∃ c ∈ calls, c.file?.map placeOf = some place}

theorem openedBy_cons (placeOf : String → Place) (c : LogCall) (calls : List LogCall) :
    openedBy placeOf (c :: calls) = {place | c.file?.map placeOf = some place} ∪ openedBy placeOf calls := by
  ext place
  simp [openedBy]

theorem shownText_append (xs ys : List (String × Option String)) :
    shownText (xs ++ ys) = shownText xs ++ shownText ys := by
  rw [shownText, List.map_append, String.join_append]
  rfl

theorem addedBytes_append (placeOf : String → Place) (xs ys : List (String × Option String)) :
    addedBytes placeOf (xs ++ ys) = fun place => addedBytes placeOf xs place ++ addedBytes placeOf ys place := by
  funext place
  rw [addedBytes, List.filter_append, List.flatMap_append]
  rfl

theorem shownText_singleton (line : String) (file : Option String) : shownText [(line, file)] = line := by
  simp [shownText, String.join]

theorem addedBytes_singleton (placeOf : String → Place) (line : String) (file : Option String) :
    addedBytes placeOf [(line, file)] = fun place => if file.map placeOf = some place then encode line else [] := by
  funext place
  rw [addedBytes, List.filter_singleton]
  by_cases hplace : file.map placeOf = some place
  · simp only [hplace, decide_true, cond_true, if_true, List.flatMap_singleton]
  · simp only [hplace, decide_false, cond_false, if_false, List.flatMap_nil]

theorem World.Gains.logPlace {w w' : World} {text : String} {bytes : Place → Bytes} {opened : Set Place}
    (h : w.Gains text bytes opened w') : w'.files.logPlace = w.files.logPlace := by
  funext file
  rw [FileSystem.logPlace, h.placeOf, h.working]
  rfl

/-- The logger is set up as asked, and the log file is there. -/
structure LogSession.Follows (s : LogSession) (setup : LogSetup) : Prop where
  logger : s.logger = setup.logger s.world.files.working
  canOpen : ∀ named ∈ setup.file, s.world.CanOpen (logPath s.world.files.working named)
  present : ∀ place, setup.file.map s.world.files.logPlace = some place → (s.world.files.file? place).isSome

variable (above : List (Event → Script Unit)) {s : LogSession} {latest : LogSetup}

/-- What a log file needs stays as it is while the logger writes. -/
theorem LogSession.Follows.of_gains {s' : LogSession} {text : String} {bytes : Place → Bytes} {opened : Set Place}
    (h : s.Follows latest) (hlogger : s'.logger = s.logger) (hgains : s.world.Gains text bytes opened s'.world) :
    s'.Follows latest where
  logger := by rw [hlogger, h.logger, hgains.working]
  canOpen named hnamed := by
    rw [hgains.working]
    exact hgains.canOpen (h.canOpen named hnamed)
  present place hplace := by
    rw [hgains.logPlace] at hplace
    exact (hgains.present place).mpr (Or.inl (h.present place hplace))

namespace LogCall

/-- After a setup the logger is as it was asked for, whatever it was before. -/
theorem perform_setUp (s : LogSession) (environment : Fields String) (clock : String) (level file : Option String)
    (hopen : ∀ named ∈ file.filter (· != ""), s.world.CanOpen (logPath s.world.files.working named)) :
    ∃ s', perform above s ⟨environment, clock, .setUp level file⟩ = .ok s' ∧
      s'.Follows (setupFor environment level file) ∧
      s.world.Gains "" (fun _ => []) {place | (file.filter (· != "")).map s.world.files.logPlace = some place}
        s'.world := by
  obtain ⟨w', hrun, hnow⟩ := s.logger.run_setUp (w := s.world.atTime environment clock) level file hopen
  have hgains : s.world.Gains "" (fun _ => [])
      {place | (file.filter (· != "")).map s.world.files.logPlace = some place} w' := { hnow with }
  refine ⟨⟨(setupFor environment level file).logger s.world.files.working, w'⟩, ?_, ⟨?_, ?_, ?_⟩, hgains⟩
  · simp only [perform, hrun]
    rfl
  · rw [hgains.working]
  · intro named hnamed
    rw [hgains.working]
    exact hgains.canOpen (hopen named hnamed)
  · intro place hplace
    rw [hgains.logPlace] at hplace
    exact (hgains.present place).mpr (Or.inr hplace)

/-- A record leaves its line where the setup in force wants it, and nothing else. -/
theorem perform_record (h : s.Follows latest) (environment : Fields String) (clock : String) (e : Event) :
    ∃ s', perform above s ⟨environment, clock, .record e⟩ = .ok s' ∧ s'.Follows latest ∧
      s.world.Gains (shownText (lines latest ⟨environment, clock, .record e⟩))
        (addedBytes s.world.files.logPlace (lines latest ⟨environment, clock, .record e⟩)) ∅ s'.world := by
  have hrun : ∃ w', ((s.logger.log above e).run (s.world.atTime environment clock)) = ((), w') ∧
      s.world.Gains (shownText (lines latest ⟨environment, clock, .record e⟩))
        (addedBytes s.world.files.logPlace (lines latest ⟨environment, clock, .record e⟩)) ∅ w' := by
    rw [h.logger, lines]
    dsimp only
    cases hadmits : latest.admits e with
    | false =>
        rw [LogSetup.run_log_of_not_admits hadmits]
        exact ⟨_, rfl, { World.Gains.refl s.world with }⟩
    | true =>
        obtain ⟨w', hlog, hgains⟩ :=
          LogSetup.run_log_of_admits (w := s.world.atTime environment clock) hadmits above h.canOpen
        have hpresent := hgains.of_present h.present
        rw [if_pos rfl, shownText_singleton, addedBytes_singleton]
        exact ⟨w', hlog, { hpresent with }⟩
  obtain ⟨w', hlog, hgains⟩ := hrun
  refine ⟨⟨s.logger, w'⟩, ?_, h.of_gains rfl hgains, hgains⟩
  simp only [perform, hlog]

/-- One call. -/
theorem perform_of_follows (h : s.Follows latest) (c : LogCall)
    (hopen : ∀ named ∈ c.file?, s.world.CanOpen (logPath s.world.files.working named)) :
    ∃ s', perform above s c = .ok s' ∧ s'.Follows (c.setupAfter latest) ∧
      s.world.Gains (shownText (c.lines latest)) (addedBytes s.world.files.logPlace (c.lines latest))
        {place | c.file?.map s.world.files.logPlace = some place} s'.world := by
  obtain ⟨environment, clock, action⟩ := c
  cases action with
  | setUp level file => exact perform_setUp above s environment clock level file hopen
  | record e =>
      obtain ⟨s', hperform, hfollows, hgains⟩ := perform_record above h environment clock e
      refine ⟨s', hperform, hfollows, ?_⟩
      simpa [file?] using hgains

/-- A whole run: what one call does, done for each. -/
theorem foldlM_perform (h : s.Follows latest) (calls : List LogCall)
    (hopen : ∀ c ∈ calls, ∀ named ∈ c.file?, s.world.CanOpen (logPath s.world.files.working named)) :
    ∃ s', calls.foldlM (perform above) s = .ok s' ∧ s'.Follows (calls.foldl setupAfter latest) ∧
      s.world.Gains (shownText (linesOf latest calls)) (addedBytes s.world.files.logPlace (linesOf latest calls))
        (openedBy s.world.files.logPlace calls) s'.world := by
  induction calls generalizing s latest with
  | nil =>
      refine ⟨s, rfl, h, { World.Gains.refl s.world with present := ?_ }⟩
      simp [openedBy]
  | cons c calls ih =>
      obtain ⟨hc, hcalls⟩ := List.forall_mem_cons.mp hopen
      obtain ⟨s₁, hfirst, hfollows, hgains⟩ := perform_of_follows above h c hc
      obtain ⟨s₂, hrest, hafter, hmore⟩ := ih hfollows fun d hd named hnamed => by
        rw [hgains.working]
        exact hgains.canOpen (hcalls d hd named hnamed)
      refine ⟨s₂, ?_, hafter, ?_⟩
      · rw [List.foldlM_cons, hfirst]
        exact hrest
      · rw [hgains.logPlace] at hmore
        rw [linesOf, shownText_append, addedBytes_append, openedBy_cons]
        exact hgains.trans hmore

end LogCall

/-- Handlers never accumulate. After a setup and any further calls the logger has one handler for the error stream and
one for the file of the latest setup, if that named one, and passes nothing on. The error stream has gained the lines
that were let through, each file those of the time when it was the current one, and nothing else has changed; and so it
is with the next event. -/
theorem each_line_once (s : LogSession) (environment : Fields String) (clock : String) (level file : Option String)
    (calls : List LogCall)
    (hopen : ∀ c ∈ ⟨environment, clock, .setUp level file⟩ :: calls, ∀ named ∈ c.file?,
      s.world.CanOpen (logPath s.world.files.working named)) :
    let first := setupFor environment level file
    let latest := calls.foldl LogCall.setupAfter first
    let lines := LogCall.linesOf first calls
    ∃ s', (⟨environment, clock, .setUp level file⟩ :: calls).foldlM (LogCall.perform above) s = .ok s' ∧
      s'.logger.weight = latest.weight ∧ s'.logger.propagates = false ∧
      s'.logger.handlers = ⟨.errorStream, latest.weight⟩ ::
        (latest.file.map fun named => ⟨.file (logPath s.world.files.working named), latest.weight⟩).toList ∧
      s.world.Gains (shownText lines) (addedBytes s.world.files.logPlace lines)
        (openedBy s.world.files.logPlace (⟨environment, clock, .setUp level file⟩ :: calls)) s'.world ∧
      ∀ environment clock e, ∃ s'', LogCall.perform above s' ⟨environment, clock, .record e⟩ = .ok s'' ∧
        s''.logger = s'.logger ∧
        s'.world.Gains (if latest.threshold ≤ e.level.weight then e.line clock else "")
          (fun place => if latest.threshold ≤ e.level.weight ∧ latest.file.map s.world.files.logPlace = some place then
            encode (e.line clock) else []) ∅ s''.world := by
  intro first latest lines
  obtain ⟨hfirst, hcalls⟩ := List.forall_mem_cons.mp hopen
  obtain ⟨s₁, hsetUp, hfollows, hbefore⟩ := LogCall.perform_setUp above s environment clock level file hfirst
  obtain ⟨s', hrun, hend, hafter⟩ := LogCall.foldlM_perform above hfollows calls fun c hc named hnamed => by
    rw [hbefore.working]
    exact hbefore.canOpen (hcalls c hc named hnamed)
  have hworking : s'.world.files.working = s.world.files.working := hafter.working.trans hbefore.working
  rw [hbefore.logPlace] at hafter
  have hgains := hbefore.trans hafter
  refine ⟨s', ?_, ?_, ?_, ?_, ?_, ?_⟩
  · rw [List.foldlM_cons, hsetUp]
    exact hrun
  · rw [hend.logger]
    rfl
  · rw [hend.logger]
    rfl
  · rw [hend.logger, hworking]
    rfl
  · rw [String.empty_append] at hgains
    rw [openedBy_cons]
    exact hgains
  · intro environment clock e
    obtain ⟨s'', hrecord, hkept, hmore⟩ := LogCall.perform_record above hend environment clock e
    have hlogger : s''.logger = s'.logger := by rw [hkept.logger, hend.logger, hmore.working]
    refine ⟨s'', hrecord, hlogger, ?_⟩
    rw [hgains.logPlace] at hmore
    by_cases hadmits : latest.threshold ≤ e.level.weight
    · have hlines : LogCall.lines latest ⟨environment, clock, .record e⟩ = [(e.line clock, latest.file)] :=
        if_pos (decide_eq_true hadmits)
      rw [hlines, shownText_singleton, addedBytes_singleton] at hmore
      simpa only [hadmits, true_and, if_true] using hmore
    · have hlines : LogCall.lines latest ⟨environment, clock, .record e⟩ = [] :=
        if_neg fun h => hadmits (of_decide_eq_true h)
      rw [hlines] at hmore
      simp only [hadmits, false_and, if_false]
      exact hmore

/-- Three setups, the second at no level in particular, with handlers left over from before. -/
theorem each_line_once_two_files :
    let e (level : Level) (message : String) : Event := ⟨"edgeconf", level, message⟩
    let stale : Logger := ⟨10, [⟨.errorStream, 10⟩, ⟨.errorStream, 10⟩, ⟨.file ⟨"/", ["w", "a"]⟩, 0⟩], true⟩
    let calls : List LogCall :=
      [⟨[], "1", .record (e .debug "one")⟩, ⟨[], "2", .setUp (some "NOTSET") (some "./b")⟩,
        ⟨[], "3", .record (e .info "two")⟩, ⟨[], "4", .record (e .warning "three")⟩,
        ⟨[], "5", .setUp (some "Error") (some "a")⟩, ⟨[], "6", .record (e .error "four")⟩]
    ∃ s', (⟨[("EDGECONF_LOG_LEVEL", "debug")], "0", .setUp none (some "a")⟩ :: calls).foldlM
        (LogCall.perform [fun e => Script.complain e.message]) ⟨stale, { files := ⟨["w"], []⟩, clock := "" }⟩ = .ok s' ∧
      s'.logger.handlers = [⟨.errorStream, 40⟩, ⟨.file ⟨"/", ["w", "a"]⟩, 40⟩] ∧
      s'.world.complaints =
        "1 - edgeconf - DEBUG - one\n4 - edgeconf - WARNING - three\n6 - edgeconf - ERROR - four\n" ∧
      (s'.world.files.file? ["w", "a"]).getD [] =
        ["1 - edgeconf - DEBUG - one\n", "6 - edgeconf - ERROR - four\n"].flatMap encode ∧
      (s'.world.files.file? ["w", "b"]).getD [] = ["4 - edgeconf - WARNING - three\n"].flatMap encode := by
  intro e stale calls
  have hlines : LogCall.linesOf (setupFor [("EDGECONF_LOG_LEVEL", "debug")] none (some "a")) calls =
      [("1 - edgeconf - DEBUG - one\n", some "a"), ("4 - edgeconf - WARNING - three\n", some "./b"),
        ("6 - edgeconf - ERROR - four\n", some "a")] := by decide
  have hnames : (⟨[("EDGECONF_LOG_LEVEL", "debug")], "0", .setUp none (some "a")⟩ :: calls).filterMap LogCall.file? =
      ["a", "./b", "a"] := by decide
  have hopen : ∀ named ∈ ["a", "./b", "a"],
      World.CanOpen { files := ⟨["w"], []⟩, clock := "" } (logPath ["w"] named) := by
    simp only [List.forall_mem_cons]
    exact ⟨⟨_, rfl⟩, ⟨_, rfl⟩, ⟨_, rfl⟩, by simp⟩
  obtain ⟨s', hrun, -, -, hhandlers, hgains, -⟩ := each_line_once [fun e => Script.complain e.message]
    ⟨stale, { files := ⟨["w"], []⟩, clock := "" }⟩ [("EDGECONF_LOG_LEVEL", "debug")] "0" none (some "a") calls
    fun c hc named hnamed => hopen named (hnames ▸ List.mem_filterMap.mpr ⟨c, hc, hnamed⟩)
  rw [hlines] at hgains
  exact ⟨s', hrun, hhandlers, hgains.complaints, hgains.contents _, hgains.contents _⟩

end Calls

section Program

variable {w : World}

/-- Writing an event with a setup of the program and passing it to the logger that was set up that way are the same. -/
theorem LogSetup.log_eq_write (setup : LogSetup) (e : Event) (above : List (Event → Script Unit))
    {directory : List String} (hfile : ∀ file ∈ setup.file, logPath directory file = Path.ofString file) :
    (setup.logger directory).log above e = setup.write e := by
  by_cases hadmits : setup.admits e = true
  · have hthreshold : (setup.logger directory).threshold ≤ e.level.weight := of_decide_eq_true hadmits
    have hweight := weight_le_of_admits hadmits
    rw [Logger.log, if_pos hthreshold, write, if_pos hadmits]
    obtain ⟨weight, file⟩ := setup
    cases file with
    | none =>
        refine congrArg (Script.request .clock >>= ·) (funext fun (time : String) => ?_)
        change (Handler.emit ⟨.errorStream, weight⟩ time e >>= fun _ => pure ()) = _
        rw [Handler.emit_errorStream hweight]
    | some file =>
        refine congrArg (Script.request .clock >>= ·) (funext fun (time : String) => ?_)
        change (Handler.emit ⟨.errorStream, weight⟩ time e >>= fun _ =>
          Handler.emit ⟨.file (logPath directory file), weight⟩ time e >>= fun _ => pure ()) = _
        rw [Handler.emit_errorStream hweight, Handler.emit_file hweight, hfile file rfl]
        rfl
  · have hthreshold : ¬ (setup.logger directory).threshold ≤ e.level.weight := fun h => hadmits (decide_eq_true h)
    rw [Logger.log, if_neg hthreshold, write, if_neg hadmits]

/-- A setup of the program leaves the logger as it says and the same surroundings, with the same outcome. -/
theorem LogSetup.start_eq_setUp (l : Logger) (level file : Option String) (w : World)
    (hworking : ∀ name ∈ w.files.working, Path.IsName name) :
    let start : Script (LogSetup × Except Fault Unit) := do
      let weight ← requestedWeight level
      LogSetup.start weight (file.filter (· != ""))
    ∃ setup outcome w', start.run w = ((setup, outcome), w') ∧
      (∀ file ∈ setup.file, logPath w.files.working file = Path.ofString file) ∧
      ∃ logger, (l.setUp level file).run w = ((logger, outcome), w') ∧
        (outcome = .ok () → logger = setup.logger w.files.working) := by
  dsimp only
  unfold LogSetup.start Logger.setUp
  simp only [Script.run_bind, run_requestedWeight, Logger.clear_eq]
  cases file.filter (· != "") with
  | none => exact ⟨_, _, _, rfl, by rintro _ ⟨⟩, _, rfl, fun _ => rfl⟩
  | some named =>
      simp only [Script.run_bind, Script.run_request, World.serve]
      cases happend : w.files.append ((Path.ofString named).absolute w.files.working) [] with
      | error e => exact ⟨_, _, _, rfl, by rintro _ ⟨⟩, _, rfl, by rintro ⟨⟩⟩
      | ok fs =>
          have htext : Path.ofString (logPath w.files.working named).text = logPath w.files.working named :=
            Path.ofString_text_absolute hworking named
          have hpath : logPath w.files.working (logPath w.files.working named).text = logPath w.files.working named :=
            (congrArg (Path.absolute · w.files.working) htext).trans ((Path.ofString named).absolute_absolute _ _)
          refine ⟨⟨weightIn w.environment level, some (logPath w.files.working named).text⟩, .ok (), { w with files := fs },
            rfl, ?_, (⟨weightIn w.environment level, some named⟩ : LogSetup).logger w.files.working, rfl, fun _ => ?_⟩
          · intro file hfile
            rw [← Option.some.inj hfile, hpath, htext]
          · rw [LogSetup.logger, LogSetup.logger, Option.map_some, Option.map_some, hpath]

end Program

end EdgeRoutes
