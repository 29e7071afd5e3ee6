import EdgeRoutes.Script.Report
import EdgeRoutes.Script.World
import EdgeRoutes.Proofs.Paths
import EdgeRoutes.Proofs.Results

/-! Changes of files. A path leads to one place, whatever is found there. It can be located where it goes through
directories only; writing and appending put a file at its place, and making a directory puts one there. -/

namespace EdgeRoutes

open Files

namespace Files

/-- Where a name leads from a place. -/
def Place.step (place : Place) (name : String) : Place :=
  if name == ".." then place.dropLast else place ++ [name]

namespace FileSystem

variable {fs fs' : FileSystem} {p : Path} {place : Place}

/-- The place that a path leads to, whatever is there and on the way. -/
def placeOf (fs : FileSystem) (p : Path) : Place :=
  p.names.foldl Place.step (if p.root.isEmpty then fs.working else [])

def file? (fs : FileSystem) (place : Place) : Option Bytes :=
  match fs.entry? place with
  | some (.file bytes) => some bytes
  | _ => none

def IsDirectory (fs : FileSystem) (place : Place) : Prop := fs.entry? place = some .directory

def Leads (fs : FileSystem) (p : Path) : Prop := ∀ q : Path, q.Begins p → fs.IsDirectory (fs.placeOf q)

theorem placeOf_snoc (root : String) (names : List String) (name : String) :
    fs.placeOf ⟨root, names ++ [name]⟩ = (fs.placeOf ⟨root, names⟩).step name := by
  simp only [placeOf, List.foldl_append, List.foldl_cons, List.foldl_nil]

theorem placeOf_congr (h : fs'.working = fs.working) (p : Path) : fs'.placeOf p = fs.placeOf p := by
  rw [placeOf, placeOf, h]

theorem file?_eq_some_iff {bytes : Bytes} : fs.file? place = some bytes ↔ fs.entry? place = some (.file bytes) := by
  rw [file?]
  rcases fs.entry? place with _ | ⟨_ | _⟩ <;> simp

theorem IsDirectory.file? (h : fs.IsDirectory place) : fs.file? place = none := by
  rw [FileSystem.file?, h]

theorem entry?_eq_none_of (hfile : fs.file? place = none) (hdirectory : ¬ fs.IsDirectory place) :
    fs.entry? place = none := by
  cases hentry : fs.entry? place with
  | none => rfl
  | some entry =>
      cases entry with
      | file bytes => cases (file?_eq_some_iff.mpr hentry).symm.trans hfile
      | directory => exact absurd hentry hdirectory

/-- The working directory is there with all that lead to it, so only other places can get an entry. -/
theorem entry?_put {entry : Entry} (h : ¬ fs.IsDirectory place) (other : Place) :
    FileSystem.entry? (fs.put place entry) other = if other = place then some entry else fs.entry? other := by
  have hworking : place.isPrefixOf fs.working = false := by
    rw [IsDirectory, entry?] at h
    exact Bool.eq_false_iff.mpr fun hleads => h (by rw [if_pos hleads])
  unfold entry? put
  by_cases hother : other = place
  · subst hother
    rw [hworking, if_pos rfl, if_neg Bool.false_ne_true, List.find?_append, List.find?_eq_none.mpr]
    · simp
    · intro x hx
      simpa using (List.mem_filter.mp hx).2
  · rw [if_neg hother]
    have hrest : ((fs.entries.filter (·.1 != place)) ++ [(place, entry)]).find? (·.1 == other) =
        fs.entries.find? (·.1 == other) := by
      rw [List.find?_append, List.find?_filter, List.find?_singleton, if_neg (by simpa using Ne.symm hother),
        Option.or_none]
      refine congrArg (fun test => List.find? test fs.entries) (funext fun x => ?_)
      by_cases hx : x.1 = other
      · simp [hx, hother]
      · simp [hx]
    rw [hrest]

theorem entry?_put_self (h : ¬ fs.IsDirectory place) (entry : Entry) :
    FileSystem.entry? (fs.put place entry) place = some entry := by
  rw [entry?_put h, if_pos rfl]

theorem entry?_put_of_ne (h : ¬ fs.IsDirectory place) (entry : Entry) {other : Place} (hother : other ≠ place) :
    FileSystem.entry? (fs.put place entry) other = fs.entry? other := by
  rw [entry?_put h, if_neg hother]

theorem file?_congr (h : fs'.entry? place = fs.entry? place) : fs'.file? place = fs.file? place := by
  rw [file?, file?, h]

section Locating

theorem follow_snoc (start : Place) (names : List String) (name : String) :
    fs.follow start (names ++ [name]) = (fs.follow start names).bind fun place =>
      match fs.entry? place with
      | none => .error .notFound
      | some (.file _) => .error .notDirectory
      | some .directory => .ok (place.step name) := by
  induction names generalizing start with
  | nil => rfl
  | cons first names ih =>
      rw [List.cons_append, follow, follow]
      cases fs.entry? start with
      | none => rfl
      | some entry =>
          cases entry with
          | file bytes => rfl
          | directory => exact ih _

theorem locate_snoc (root : String) (names : List String) (name : String) :
    fs.locate ⟨root, names ++ [name]⟩ = (fs.locate ⟨root, names⟩).bind fun place =>
      match fs.entry? place with
      | none => .error .notFound
      | some (.file _) => .error .notDirectory
      | some .directory => .ok (place.step name) :=
  follow_snoc _ names name

/-- A path can be located just if it goes through directories. -/
theorem locate_eq_ok_iff : fs.locate p = .ok place ↔
    place = fs.placeOf p ∧ ∀ q : Path, q.Begins p → q ≠ p → fs.IsDirectory (fs.placeOf q) := by
  obtain ⟨root, names⟩ := p
  induction names using List.reverseRecOn generalizing place with
  | nil =>
      constructor
      · intro h
        exact ⟨(Except.ok.inj h).symm, fun q hq hne => absurd (Path.begins_nil hq) hne⟩
      · rintro ⟨rfl, -⟩
        rfl
  | append_singleton names name ih =>
      rw [locate_snoc, bind_eq_ok_iff, placeOf_snoc]
      simp only [ih]
      constructor
      · rintro ⟨_, ⟨rfl, hway⟩, hstep⟩
        have hdirectory : fs.IsDirectory (fs.placeOf ⟨root, names⟩) := by
          rw [IsDirectory]
          split at hstep <;> first | assumption | cases hstep
        rw [hdirectory] at hstep
        refine ⟨(Except.ok.inj hstep).symm, fun q hq hne => ?_⟩
        have hq := (Path.begins_snoc.mp hq).resolve_left hne
        by_cases hlast : q = ⟨root, names⟩
        · exact hlast ▸ hdirectory
        · exact hway q hq hlast
      · rintro ⟨rfl, hway⟩
        have hbefore : ∀ q : Path, q.Begins ⟨root, names⟩ → fs.IsDirectory (fs.placeOf q) := fun q hq =>
          hway q (Path.begins_snoc.mpr (Or.inr hq)) (Path.ne_of_begins hq)
        refine ⟨_, ⟨rfl, fun q hq _ => hbefore q hq⟩, ?_⟩
        rw [hbefore _ (Path.Begins.refl _)]

/-- Where no file is in the way, a path that cannot be located lacks a directory. -/
theorem locate_error {e : FileRefusal} (h : fs.locate p = .error e)
    (hway : ∀ q : Path, q.Begins p → fs.file? (fs.placeOf q) = none) : e = .notFound := by
  obtain ⟨root, names⟩ := p
  induction names using List.reverseRecOn with
  | nil => cases h
  | append_singleton names name ih =>
      have hbefore : ∀ q : Path, q.Begins ⟨root, names⟩ → fs.file? (fs.placeOf q) = none := fun q hq =>
        hway q (Path.begins_snoc.mpr (Or.inr hq))
      rw [locate_snoc] at h
      cases hlocate : fs.locate ⟨root, names⟩ with
      | error e' =>
          rw [hlocate] at h
          cases h
          exact ih hlocate hbefore
      | ok place =>
          obtain ⟨rfl, -⟩ := locate_eq_ok_iff.mp hlocate
          rw [hlocate] at h
          have hfile := hbefore _ (Path.Begins.refl _)
          rw [file?] at hfile
          simp only [Except.bind] at h
          split at h
          · cases h
            rfl
          · rename_i hentry
            rw [hentry] at hfile
            cases hfile
          · cases h

/-- A path can be located if its parent leads to a directory. -/
theorem locate_of_parent_leads (h : fs.Leads p.parent) : fs.locate p = .ok (fs.placeOf p) := by
  refine locate_eq_ok_iff.mpr ⟨rfl, fun q hq hne => h q ?_⟩
  obtain ⟨root, names⟩ := p
  rcases List.eq_nil_or_concat names with rfl | ⟨init, last, rfl⟩
  · exact absurd (Path.begins_nil hq) hne
  · rw [List.concat_eq_append] at hq hne ⊢
    rw [Path.parent_snoc]
    exact (Path.begins_snoc.mp hq).resolve_left hne

end Locating

section Changing

theorem modify_eq_ok_iff {change : Bytes → Bytes} : fs.modify p change = .ok fs' ↔
    fs.locate p = .ok (fs.placeOf p) ∧ ¬ fs.IsDirectory (fs.placeOf p) ∧
      fs' = fs.put (fs.placeOf p) (.file (change ((fs.file? (fs.placeOf p)).getD []))) := by
  unfold modify
  cases hlocate : fs.locate p with
  | error e => simp [bind, Except.bind, Except.mapError]
  | ok place =>
      obtain ⟨rfl, -⟩ := locate_eq_ok_iff.mp hlocate
      simp only [bind, Except.bind, IsDirectory, file?]
      rcases fs.entry? (fs.placeOf p) with _ | ⟨_ | _⟩ <;> simp [Except.mapError, eq_comm]

theorem makeDirectory_eq_ok_iff : fs.makeDirectory p = .ok fs' ↔
    fs.locate p = .ok (fs.placeOf p) ∧ fs.entry? (fs.placeOf p) = none ∧ fs' = fs.put (fs.placeOf p) .directory := by
  unfold makeDirectory
  cases hlocate : fs.locate p with
  | error e => simp [bind, Except.bind, Except.mapError]
  | ok place =>
      obtain ⟨rfl, -⟩ := locate_eq_ok_iff.mp hlocate
      simp only [bind, Except.bind]
      rcases fs.entry? (fs.placeOf p) with _ | _ <;> simp [Except.mapError, eq_comm]

end Changing

end FileSystem

end Files

end EdgeRoutes
