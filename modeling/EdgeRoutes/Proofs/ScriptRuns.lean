import EdgeRoutes.Commands
import EdgeRoutes.Proofs.FileChanges
import Mathlib.Data.Set.Insert

/-! Runs of scripts. One request changes the file at the place of its path, adds one directory or shows a text; a script
changes at most what its requests may change. -/

namespace EdgeRoutes

open Files

variable {α β : Type} {S D : Set Path} {text : String} {w w' : World}

section Changes

/-- Only files at the paths in `S` change, only directories at the paths in `D` are new, and `text` goes to the output.
What goes to the error stream is left open. -/
structure World.ChangesTo (w : World) (S D : Set Path) (text : String) (w' : World) : Prop where
  working : w'.files.working = w.files.working
  files : ∀ place, (∀ p ∈ S, place ≠ w.files.placeOf p) → w'.files.file? place = w.files.file? place
  kept : ∀ place, w.files.IsDirectory place → w'.files.IsDirectory place
  directories : ∀ place, w'.files.IsDirectory place →
    w.files.IsDirectory place ∨ ∃ p ∈ D, place = w.files.placeOf p
  output : w'.output = w.output ++ text

namespace World.ChangesTo

theorem placeOf (h : w.ChangesTo S D text w') (p : Path) : w'.files.placeOf p = w.files.placeOf p :=
  FileSystem.placeOf_congr h.working p

theorem leads (h : w.ChangesTo S D text w') {p : Path} (hp : w.files.Leads p) : w'.files.Leads p :=
  fun q hq => h.placeOf q ▸ h.kept _ (hp q hq)

theorem refl (w : World) (S D : Set Path) : w.ChangesTo S D "" w where
  working := rfl
  files _ _ := rfl
  kept _ h := h
  directories _ h := Or.inl h
  output := String.append_empty.symm

theorem mono (h : w.ChangesTo S D text w') {S' D' : Set Path} (hS : S ⊆ S')
    (hD : D ⊆ D') : w.ChangesTo S' D' text w' where
  working := h.working
  files place hplace := h.files place fun p hp => hplace p (hS hp)
  kept := h.kept
  directories place hplace := (h.directories place hplace).imp_right fun ⟨p, hp, hat⟩ => ⟨p, hD hp, hat⟩
  output := h.output

theorem trans {w'' : World} {text' : String} (h : w.ChangesTo S D text w')
    (h' : w'.ChangesTo S D text' w'') : w.ChangesTo S D (text ++ text') w'' where
  working := h'.working.trans h.working
  files place hplace := by
    rw [h'.files place fun p hp => h.placeOf p ▸ hplace p hp, h.files place hplace]
  kept place hplace := h'.kept place (h.kept place hplace)
  directories place hplace := by
    rcases h'.directories place hplace with hbefore | ⟨p, hp, hat⟩
    · exact h.directories place hbefore
    · exact Or.inr ⟨p, hp, hat.trans (h.placeOf p)⟩
  output := by rw [h'.output, h.output, String.append_assoc]

theorem isDirectory_iff (h : w.ChangesTo S ∅ text w') {place : Place} :
    w'.files.IsDirectory place ↔ w.files.IsDirectory place :=
  ⟨fun hplace => (h.directories place hplace).resolve_right fun ⟨_, hp, _⟩ => hp.elim, h.kept place⟩

end World.ChangesTo

/-- The paths of the files that a request may change. -/
def Request.written : Request → Set Path
  | .write p _ | .append p _ => {p}
  | _ => ∅

def Request.made : Request → Set Path
  | .makeDirectory p => {p}
  | _ => ∅

/-- What a request sends to the output. -/
def Request.printed : Request → String
  | .print text => text
  | _ => ""

/-- A new entry changes what is at its place only. -/
theorem World.changesTo_put {p : Path} {entry : Entry} (hfree : ¬ w.files.IsDirectory (w.files.placeOf p))
    (hfile : (∀ q ∈ S, w.files.placeOf p ≠ w.files.placeOf q) →
      entry = .directory ∧ w.files.file? (w.files.placeOf p) = none)
    (hdirectory : entry = .directory → p ∈ D) :
    w.ChangesTo S D "" { w with files := w.files.put (w.files.placeOf p) entry } := by
  constructor
  case working => rfl
  case files =>
    intro place hplace
    by_cases hat : place = w.files.placeOf p
    · subst hat
      obtain ⟨rfl, hnone⟩ := hfile hplace
      rw [hnone, FileSystem.file?, FileSystem.entry?_put_self hfree]
    · exact FileSystem.file?_congr (FileSystem.entry?_put_of_ne hfree entry hat)
  case kept =>
    intro place hplace
    have hne : place ≠ w.files.placeOf p := fun heq => hfree (heq ▸ hplace)
    exact (FileSystem.entry?_put_of_ne hfree entry hne).trans hplace
  case directories =>
    intro place hplace
    by_cases hat : place = w.files.placeOf p
    · subst hat
      rw [FileSystem.IsDirectory, FileSystem.entry?_put_self hfree] at hplace
      exact Or.inr ⟨p, hdirectory (Option.some.inj hplace), rfl⟩
    · exact Or.inl ((FileSystem.entry?_put_of_ne hfree entry hat).symm.trans hplace)
  case output => exact String.append_empty.symm

theorem World.changesTo_modify {p : Path} {change : Bytes → Bytes} {fs : FileSystem}
    (h : w.files.modify p change = .ok fs) : w.ChangesTo {p} ∅ "" { w with files := fs } := by
  obtain ⟨-, hfree, rfl⟩ := FileSystem.modify_eq_ok_iff.mp h
  exact changesTo_put hfree (fun hother => absurd rfl (hother p rfl)) fun hentry => by cases hentry

theorem World.changesTo_makeDirectory {p : Path} {fs : FileSystem} (h : w.files.makeDirectory p = .ok fs) :
    w.ChangesTo ∅ {p} "" { w with files := fs } := by
  obtain ⟨-, hnone, rfl⟩ := FileSystem.makeDirectory_eq_ok_iff.mp h
  refine changesTo_put (fun hat => by cases hnone.symm.trans hat) (fun _ => ⟨rfl, ?_⟩) fun _ => rfl
  rw [FileSystem.file?, hnone]

theorem World.changesTo_commit {changed : Except FileError FileSystem}
    (h : ∀ fs, changed = .ok fs → w.ChangesTo S D "" { w with files := fs }) :
    w.ChangesTo S D "" (w.commit changed).2 := by
  cases changed with
  | error e => exact .refl w S D
  | ok fs => exact h fs rfl

/-- A request changes only what it is about. -/
theorem World.changesTo_serve (w : World) (r : Request) : w.ChangesTo r.written r.made r.printed (w.serve r).2 := by
  cases r with
  | write p bytes => exact changesTo_commit fun fs hfs => changesTo_modify hfs
  | append p bytes => exact changesTo_commit fun fs hfs => changesTo_modify hfs
  | makeDirectory p => exact changesTo_commit fun fs hfs => changesTo_makeDirectory hfs
  | print text => exact { World.ChangesTo.refl w ∅ ∅ with output := rfl }
  | complain text => exact { World.ChangesTo.refl w ∅ ∅ with }
  | _ => exact .refl w ∅ ∅

end Changes

section Asking

/-- All requests that a script may make, whatever the answers, have a property. -/
def Script.Asks (P : Request → Prop) : Script α → Prop
  | .done _ => True
  | .ask r next => P r ∧ ∀ answer, (next answer).Asks P

/-- The request changes files and makes directories at these paths only, and shows nothing on the output. -/
structure Request.Within (S D : Set Path) (r : Request) : Prop where
  files : r.written ⊆ S
  directories : r.made ⊆ D
  output : r.printed = ""

variable {P : Request → Prop}

theorem Script.asks_pure (a : α) : (pure a : Script α).Asks P := trivial

theorem Script.asks_request {r : Request} (h : P r) : (Script.request r).Asks P := ⟨h, fun _ => trivial⟩

theorem Script.Asks.bind {s : Script α} {f : α → Script β} (h : s.Asks P) (hf : ∀ a, (f a).Asks P) :
    (s >>= f).Asks P := by
  change (Script.bind s f).Asks P
  induction s with
  | done a => exact hf a
  | ask r next ih => exact ⟨h.1, fun answer => ih answer (h.2 answer)⟩

theorem Script.asks_forEach {f : α → Script Unit} (h : ∀ a, (f a).Asks P) (as : List α) :
    (Script.forEach f as).Asks P := by
  induction as with
  | nil => exact trivial
  | cons a as ih => exact (h a).bind fun _ => ih

/-- A script changes at most what its requests may change. -/
theorem Script.changesTo_run {s : Script α} (h : s.Asks (Request.Within S D)) (w : World) :
    w.ChangesTo S D "" (s.run w).2 := by
  induction s generalizing w with
  | done a => exact .refl w S D
  | ask r next ih =>
      obtain ⟨hr, hnext⟩ := h
      have hstep := (w.changesTo_serve r).mono hr.files hr.directories
      rw [hr.output] at hstep
      exact hstep.trans (ih _ (hnext _) _)

namespace Run

/-- All requests that a computation may make have a property. -/
def Asks (P : Request → Prop) (x : Run α) : Prop := Script.Asks P x.run

theorem asks_pure (a : α) : Asks P (pure a : Run α) := trivial

theorem asks_throw (fault : Fault) : Asks P (throw fault : Run α) := trivial

theorem Asks.bind {x : Run α} {f : α → Run β} (h : Asks P x) (hf : ∀ a, Asks P (f a)) : Asks P (x >>= f) := by
  refine Script.Asks.bind h fun result => ?_
  cases result with
  | ok a => exact hf a
  | error fault => exact trivial

theorem asks_lift {s : Script α} (h : s.Asks P) : Asks P (Run.lift s) := h.bind fun _ => trivial

theorem asks_ofFile {s : Script (Except FileError α)} (h : s.Asks P) : Asks P (Run.ofFile s) := h.bind fun _ => trivial

end Run

end Asking

namespace Run

/-- What a computation comes to, and the surroundings that it leaves. -/
def exec (x : Run α) (w : World) : Except Fault α × World := Script.run x.run w

theorem changesTo_exec {x : Run α} (h : Asks (Request.Within S D) x) (w : World) :
    w.ChangesTo S D "" (exec x w).2 := Script.changesTo_run h w

@[simp] theorem exec_pure (a : α) (w : World) : exec (pure a : Run α) w = (.ok a, w) := rfl

@[simp] theorem exec_liftM (x : Except Fault α) (w : World) : exec (liftM x : Run α) w = (x, w) := rfl

@[simp] theorem exec_lift (s : Script α) (w : World) : exec (Run.lift s) w = (.ok (s.run w).1, (s.run w).2) :=
  Script.run_bind s _ w

@[simp] theorem exec_ofFile (s : Script (Except FileError α)) (w : World) :
    exec (Run.ofFile s) w = ((s.run w).1.mapError Fault.file, (s.run w).2) :=
  Script.run_bind s _ w

theorem exec_bind (x : Run α) (f : α → Run β) (w : World) : exec (x >>= f) w =
    match (exec x w).1 with
    | .ok a => exec (f a) (exec x w).2
    | .error fault => (.error fault, (exec x w).2) := by
  have hrun : exec (x >>= f) w = Script.run (ExceptT.bindCont f (exec x w).1) (exec x w).2 := Script.run_bind _ _ w
  rw [hrun]
  cases (exec x w).1 <;> rfl

theorem exec_tryCatch (x : Run α) (f : Fault → Run α) (w : World) : exec (tryCatch x f) w =
    match (exec x w).1 with
    | .ok a => (.ok a, (exec x w).2)
    | .error fault => exec (f fault) (exec x w).2 := by
  change Script.run (x.run >>= fun result => _) w = _
  rw [Script.run_bind]
  unfold exec
  cases (Script.run x.run w).1 <;> rfl

theorem exec_bind_of_ok {x : Run α} {a : α} (h : exec x w = (.ok a, w')) (f : α → Run β) :
    exec (x >>= f) w = exec (f a) w' := by
  rw [exec_bind, h]

/-- The computation comes to a result; it changes only files at the paths in `S` and makes only directories at the
paths in `D`. -/
def Returns (x : Run α) (w : World) (S D : Set Path) (result : Except Fault α) : Prop :=
  ∃ w', exec x w = (result, w') ∧ w.ChangesTo S D "" w'

theorem returns_of_asks {s : Script α} (h : s.Asks (Request.Within S D)) (w : World) :
    Returns (Run.lift s) w S D (.ok (s.run w).1) := ⟨_, exec_lift s w, Script.changesTo_run h w⟩

theorem returns_pure (a : α) (w : World) : Returns (pure a) w S D (.ok a) := ⟨w, rfl, .refl w S D⟩

theorem returns_liftM (x : Except Fault α) (w : World) : Returns (liftM x) w S D x := ⟨w, rfl, .refl w S D⟩

theorem Returns.mono {x : Run α} {result : Except Fault α} (h : Returns x w S D result) {S' D' : Set Path}
    (hS : S ⊆ S') (hD : D ⊆ D') : Returns x w S' D' result :=
  h.imp fun _ hw' => ⟨hw'.1, hw'.2.mono hS hD⟩

theorem Returns.bind {x : Run α} {f : α → Run β} {first : Except Fault α} {second : α → Except Fault β}
    (h : Returns x w S D first)
    (hf : ∀ a w', first = .ok a → w.ChangesTo S D "" w' → Returns (f a) w' S D (second a)) :
    Returns (x >>= f) w S D (first.bind second) := by
  obtain ⟨w₁, hx, hchanges⟩ := h
  cases first with
  | error fault => exact ⟨w₁, by rw [exec_bind, hx]; rfl, hchanges⟩
  | ok a =>
      obtain ⟨w₂, hrest, hafter⟩ := hf a w₁ rfl hchanges
      exact ⟨w₂, (exec_bind_of_ok hx f).trans hrest, hchanges.trans hafter⟩

theorem Returns.bind_of_ok {x : Run α} {f : α → Run β} {a : α} {result : Except Fault β}
    (h : Returns x w S D (.ok a)) (hf : ∀ w', w.ChangesTo S D "" w' → Returns (f a) w' S D result) :
    Returns (x >>= f) w S D result := by
  obtain ⟨w₁, hx, hchanges⟩ := h
  obtain ⟨w₂, hrest, hafter⟩ := hf w₁ hchanges
  exact ⟨w₂, (exec_bind_of_ok hx f).trans hrest, hchanges.trans hafter⟩

theorem Returns.bind_of_error {x : Run α} {fault : Fault} (h : Returns x w S D (.error fault)) (f : α → Run β) :
    Returns (x >>= f) w S D (.error fault) := by
  obtain ⟨w₁, hx, hchanges⟩ := h
  exact ⟨w₁, by rw [exec_bind, hx], hchanges⟩

/-- What is shown after a computation does not matter for its result. -/
theorem Returns.bind_tap {x : Run α} {f : α → Run Unit} {result : Except Fault α} (h : Returns x w S D result)
    (hf : ∀ a w', Returns (f a) w' S D (.ok ())) :
    Returns (x >>= fun a => f a >>= fun _ => pure a) w S D result := by
  have hbind : Returns (x >>= fun a => f a >>= fun _ => pure a) w S D (result.bind .ok) :=
    h.bind fun a w' _ _ => (hf a w').bind_of_ok fun w'' _ => returns_pure a w''
  cases result <;> exact hbind

end Run

end EdgeRoutes
