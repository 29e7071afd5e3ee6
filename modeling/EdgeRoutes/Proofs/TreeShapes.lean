import EdgeRoutes.Proofs.Packaging

/-! The shapes of data that load as a tree. A tree is a list of nodes, or a payload with lists of nodes in its files; all
other data is refused as no tree. The exception is a file in which a number or `true` stands for a list: it stops loading
with a fault of its own, whatever it holds besides. -/

namespace EdgeRoutes

variable {α β : Type}

/-- The computation decides whether `p` holds: it returns if so, and otherwise it finds that the data is no tree. -/
def Judges (p : Prop) (x : Except Fault α) : Prop :=
  (p ∧ ∃ a, x = .ok a) ∨ (¬ p ∧ ∃ message line, x = .error (.treeFormat message line))

namespace Judges

variable {p q : Prop} {x : Except Fault α}

theorem ok (hp : p) (a : α) : Judges p (.ok a : Except Fault α) := Or.inl ⟨hp, a, rfl⟩

theorem refuse (hp : ¬ p) (message : String) (line : Option LineMark) :
    Judges p (.error (.treeFormat message line) : Except Fault α) := Or.inr ⟨hp, message, line, rfl⟩

theorem congr (h : Judges p x) (hpq : p ↔ q) : Judges q x := by
  rwa [← propext hpq]

theorem bind {f : α → Except Fault β} (hx : Judges p x) (hf : ∀ a, x = .ok a → Judges q (f a)) :
    Judges (p ∧ q) (x.bind f) := by
  rcases hx with ⟨hp, a, rfl⟩ | ⟨hp, message, line, rfl⟩
  · exact (hf a rfl).congr (and_iff_right hp).symm
  · exact .refuse (fun h => hp h.1) message line

theorem map (h : Judges p x) (f : α → β) : Judges p (x.map f) := by
  rcases h with ⟨hp, a, rfl⟩ | ⟨hp, message, line, rfl⟩
  · exact .ok hp (f a)
  · exact .refuse hp message line

theorem of_eq_ok (h : Judges p x) {a : α} (ha : x = .ok a) : p := by
  rcases h with ⟨hp, -⟩ | ⟨-, message, line, rfl⟩
  · exact hp
  · cases ha

/-- What is refused as no tree stops for no other reason. -/
theorem ne_notIterable (h : Judges p x) (kind : String) : x ≠ .error (.notIterable kind) := by
  rcases h with ⟨-, a, rfl⟩ | ⟨-, message, line, rfl⟩ <;> nofun

end Judges

namespace Data

theorem get?_map_cons (key : Scalar) (d : Data) (rest : List (Scalar × Data)) (name : String) :
    (Data.map ((key, d) :: rest)).get? name = if key = .text name then some d else (Data.map rest).get? name := by
  rw [Data.get?, List.find?_cons]
  by_cases hkey : key = .text name
  · rw [if_pos hkey, hkey]
    simp
  · rw [if_neg hkey, beq_false_of_ne hkey]
    rfl

/-- The entries name a directive, and what they have for its arguments is a list or null. -/
structure NamesDirective (entries : List (Scalar × Data)) : Prop where
  name : ∃ name, (Data.map entries).get? "directive" = some (.text name) ∧ name ≠ ""
  args : ∀ args, (Data.map entries).get? "args" = some args → args = .null ∨ ∃ items, args = .list items

/-- The data describes a node. Its block may be missing or null; otherwise it is a list of nodes. -/
inductive IsNode : Data → Prop
  | simple {entries : List (Scalar × Data)} (hhead : NamesDirective entries)
      (hblock : ∀ block, (Data.map entries).get? "block" = some block → block = .null) : IsNode (.map entries)
  | block {entries : List (Scalar × Data)} {items : List Data} (hhead : NamesDirective entries)
      (hblock : (Data.map entries).get? "block" = some (.list items)) (hitems : ∀ item ∈ items, IsNode item) :
      IsNode (.map entries)

def IsBlock (block : Option Data) : Prop :=
  (∀ d, block = some d → d = .null) ∨ ∃ items, block = some (.list items) ∧ ∀ item ∈ items, IsNode item

theorem isBlock_list_iff {items : List Data} : IsBlock (some (.list items)) ↔ ∀ item ∈ items, IsNode item := by
  constructor
  · rintro (hnull | ⟨others, hothers, h⟩)
    · cases hnull _ rfl
    · cases hothers
      exact h
  · exact fun h => Or.inr ⟨items, rfl, h⟩

theorem not_isBlock {d : Data} (hnull : d ≠ .null) (hlist : ∀ items, d ≠ .list items) : ¬ IsBlock (some d) := by
  rintro (h | ⟨items, hitems, -⟩)
  · exact hnull (h d rfl)
  · exact hlist items (Option.some.inj hitems)

theorem isNode_map_iff {entries : List (Scalar × Data)} :
    IsNode (.map entries) ↔ NamesDirective entries ∧ IsBlock ((Data.map entries).get? "block") := by
  constructor
  · rintro (⟨hhead, hblock⟩ | ⟨hhead, hblock, hitems⟩)
    · exact ⟨hhead, Or.inl hblock⟩
    · exact ⟨hhead, Or.inr ⟨_, hblock, hitems⟩⟩
  · rintro ⟨hhead, hblock | ⟨items, hblock, hitems⟩⟩
    · exact .simple hhead hblock
    · exact .block hhead hblock hitems

end Data

open Data

/-- A directive is loaded just if its entries name one. -/
theorem Directive.judges_ofEntries (entries : List (Scalar × Data)) :
    Judges (NamesDirective entries) (Directive.ofEntries entries) := by
  unfold Directive.ofEntries
  split
  · next name hname =>
      have hnamed : NamesDirective entries → name ≠ "" := by
        rintro ⟨⟨other, hother, hne⟩, -⟩
        cases hname.symm.trans hother
        exact hne
      split_ifs with hempty
      · exact .refuse (fun h => hnamed h (String.isEmpty_iff.mp hempty)) _ _
      · have hne : name ≠ "" := fun h => hempty (String.isEmpty_iff.mpr h)
        cases hargs : (Data.map entries).get? "args" with
        | none => exact .ok ⟨⟨name, hname, hne⟩, fun args h => by cases hargs.symm.trans h⟩ _
        | some args =>
            have hdecides : NamesDirective entries ↔ args = .null ∨ ∃ items, args = .list items :=
              ⟨fun h => h.args args hargs, fun h => ⟨⟨name, hname, hne⟩, fun other hother => by
                cases hargs.symm.trans hother
                exact h⟩⟩
            refine Judges.congr ?_ hdecides.symm
            rw [Option.getD_some]
            split
            · exact .ok (Or.inl rfl) _
            · exact .ok (Or.inr ⟨_, rfl⟩) _
            · next hnull hlist => exact .refuse (fun h => h.elim hnull fun ⟨items, hitems⟩ => hlist items hitems) _ _
  · next hname =>
      refine .refuse ?_ _ _
      rintro ⟨⟨name, h, -⟩, -⟩
      exact hname name h

namespace Node

mutual

theorem judges_ofData : (d : Data) → Judges (IsNode d) (ofData d)
  | .map entries => by
      rw [ofData]
      refine ((Directive.judges_ofEntries entries).bind fun head _ => ?_).congr isNode_map_iff.symm
      refine ((judges_blockOf head entries).bind (q := True) fun block _ => ?_).congr (and_iff_left trivial)
      cases block with
      | none => exact .ok trivial _
      | some body => exact .ok trivial _
  | .list items => by
      rw [ofData]
      exact .refuse nofun _ _
  | .scalar s => by
      rw [ofData]
      exact .refuse nofun _ _

theorem judges_blockOf (head : Directive) : (entries : List (Scalar × Data)) →
    Judges (IsBlock ((Data.map entries).get? "block")) (blockOf head entries)
  | [] => by
      rw [blockOf]
      exact .ok (Or.inl nofun) none
  | (key, .list items) :: rest => by
      rw [blockOf, get?_map_cons]
      split_ifs
      · exact ((judges_listOfData items).map some).congr isBlock_list_iff.symm
      · exact judges_blockOf head rest
  | (key, .scalar s) :: rest => by
      rw [blockOf, get?_map_cons]
      split_ifs with hkey hnull
      · exact .ok (Or.inl fun d hd => by rw [← Option.some.inj hd, hnull]) none
      · exact .refuse (not_isBlock (fun h => hnull (Data.scalar.inj h)) nofun) _ _
      · exact judges_blockOf head rest
  | (key, .map entries) :: rest => by
      rw [blockOf, get?_map_cons]
      split_ifs
      · exact .refuse (not_isBlock (d := .map entries) nofun nofun) _ _
      · exact judges_blockOf head rest

theorem judges_listOfData : (ds : List Data) → Judges (∀ d ∈ ds, IsNode d) (listOfData ds)
  | [] => by
      rw [listOfData]
      exact .ok (List.forall_mem_nil _) []
  | d :: ds => by
      rw [listOfData]
      refine ((judges_ofData d).bind fun n _ => ?_).congr List.forall_mem_cons.symm
      exact (judges_listOfData ds).map (n :: ·)

end

end Node

namespace Tree

/-- What a file may have for its nodes: nothing, a value that counts as false, or a list of nodes. -/
def HoldsNodes (part : Option Data) : Prop :=
  (∀ d, part = some d → d.truthy = false) ∨ ∃ items, part = some (.list items) ∧ ∀ item ∈ items, IsNode item

/-- The data describes a file of a payload. What the parser reported for it does not matter. -/
structure IsFile (file : Data) : Prop where
  isMap : ∃ entries, file = .map entries
  parsed : HoldsNodes (file.get? "parsed")

/-- The data describes a tree: a list of nodes, or a payload of files. -/
inductive IsTree : Data → Prop
  | nodes {items : List Data} (h : ∀ item ∈ items, IsNode item) : IsTree (.list items)
  | payload {entries : List (Scalar × Data)} {files : List Data}
      (hfiles : (Data.map entries).get? "config" = some (.list files)) (h : ∀ file ∈ files, IsFile file) :
      IsTree (.map entries)

/-- A loop can go over this part of a file. It cannot go over a number, unless that is zero, or over `true`. -/
def Visitable (part : Option Data) : Prop :=
  ∀ d, part = some d → d.truthy = true → d.members? ≠ none

theorem membersOf_of_visitable {part : Option Data} (h : Visitable part) : ∃ members, membersOf part = .ok members := by
  unfold membersOf
  cases part with
  | none => exact ⟨[], rfl⟩
  | some d =>
      by_cases htruthy : d.truthy = true
      · obtain ⟨members, hmembers⟩ := Option.ne_none_iff_exists'.mp (h d rfl htruthy)
        exact ⟨members, by simp only [htruthy, hmembers, if_true]⟩
      · exact ⟨[], if_neg htruthy⟩

theorem membersOf_of_not_visitable {part : Option Data} (h : ¬ Visitable part) :
    ∃ kind, membersOf part = .error (.notIterable kind) := by
  unfold Visitable at h
  push Not at h
  obtain ⟨d, rfl, htruthy, hmembers⟩ := h
  exact ⟨d.kind, by simp only [membersOf, htruthy, hmembers, if_true]⟩

theorem holdsNodes_list_iff {items : List Data} :
    HoldsNodes (some (.list items)) ↔ ∀ item ∈ items, IsNode item := by
  constructor
  · rintro (hfalse | ⟨others, hothers, h⟩)
    · have hempty := hfalse _ rfl
      rw [Data.truthy, Bool.not_eq_false', List.isEmpty_iff] at hempty
      rw [hempty]
      exact List.forall_mem_nil _
    · cases hothers
      exact h
  · exact fun h => Or.inr ⟨items, rfl, h⟩

theorem not_holdsNodes {d : Data} (htruthy : d.truthy = true) (hlist : ∀ items, d ≠ .list items) :
    ¬ HoldsNodes (some d) := by
  rintro (hfalse | ⟨items, hitems, -⟩)
  · rw [hfalse d rfl] at htruthy
    cases htruthy
  · exact hlist items (Option.some.inj hitems)

/-- Keys and characters are no nodes. -/
theorem exists_not_isNode {γ : Type} {f : γ → Scalar} {xs : List γ} (h : xs ≠ []) :
    ¬ ∀ d ∈ xs.map fun x => Data.scalar (f x), IsNode d := by
  obtain ⟨x, xs, rfl⟩ := List.exists_cons_of_ne_nil h
  intro hnodes
  cases hnodes _ List.mem_cons_self

/-- A loop goes over nodes just if the part is one that a file may have. -/
theorem holdsNodes_iff {part : Option Data} {members : List Data} (h : membersOf part = .ok members) :
    HoldsNodes part ↔ ∀ member ∈ members, IsNode member := by
  unfold membersOf at h
  cases part with
  | none =>
      cases h
      exact iff_of_true (Or.inl nofun) (List.forall_mem_nil _)
  | some d =>
      by_cases htruthy : d.truthy = true
      · simp only [htruthy, if_true] at h
        cases d with
        | list items =>
            cases h
            exact holdsNodes_list_iff
        | map entries =>
            cases h
            have hne : entries ≠ [] := by simpa [Data.truthy] using htruthy
            exact iff_of_false (not_holdsNodes htruthy nofun) (exists_not_isNode hne)
        | scalar s =>
            cases s with
            | text s =>
                cases h
                have hne : s.toList ≠ [] := by simpa [Data.truthy, Scalar.truthy] using htruthy
                exact iff_of_false (not_holdsNodes htruthy nofun) (exists_not_isNode hne)
            | null | bool b | int n | float x => cases h
      · have hfalse := Bool.eq_false_iff.mpr htruthy
        simp only [hfalse, Bool.false_eq_true, if_false] at h
        cases h
        refine iff_of_true (Or.inl fun other hother => ?_) (List.forall_mem_nil _)
        rw [← Option.some.inj hother, hfalse]

/-- What of a file a loop goes over: the errors that the parser recorded, and the nodes. -/
structure VisitableFile (file : Data) : Prop where
  errors : Visitable (file.get? "errors")
  parsed : Visitable (file.get? "parsed")

theorem result_ofFile_map (entries : List (Scalar × Data)) :
    (ofFile (.map entries)).result = (membersOf ((Data.map entries).get? "errors")).bind fun _ =>
      (membersOf ((Data.map entries).get? "parsed")).bind Node.listOfData := by
  have hreported : ∀ errors, (Logged.forEach
      (reportError (((Data.map entries).get? "file").getD (.text "<unknown>"))) errors).result =
      .ok (errors.map fun _ => ()) := by
    intro errors
    rw [Logged.result_forEach_eq_ok_iff, List.forall₂_map_right_iff, List.forall₂_same]
    exact fun _ _ => rfl
  simp only [ofFile, Logged.result_bind, Logged.result_liftM, hreported]
  rfl

theorem judges_ofFile {file : Data} (h : VisitableFile file) : Judges (IsFile file) (ofFile file).result := by
  obtain ⟨herrors, hparsed⟩ := h
  cases file with
  | scalar _ | list _ =>
      refine .refuse ?_ _ _
      rintro ⟨⟨entries, hentries⟩, -⟩
      cases hentries
  | map entries =>
      obtain ⟨errors, herrors⟩ := membersOf_of_visitable herrors
      obtain ⟨nodes, hnodes⟩ := membersOf_of_visitable hparsed
      rw [result_ofFile_map, herrors, hnodes]
      refine (Node.judges_listOfData nodes).congr ((holdsNodes_iff hnodes).symm.trans ?_)
      exact ⟨fun h => ⟨⟨entries, rfl⟩, h⟩, IsFile.parsed⟩

theorem result_ofFile_of_not_visitable {file : Data} (h : ¬ VisitableFile file) :
    ∃ kind, (ofFile file).result = .error (.notIterable kind) := by
  cases file with
  | scalar _ | list _ => exact absurd ⟨nofun, nofun⟩ h
  | map entries =>
      rw [result_ofFile_map]
      by_cases herrors : Visitable ((Data.map entries).get? "errors")
      · obtain ⟨kind, hkind⟩ := membersOf_of_not_visitable fun hparsed => h ⟨herrors, hparsed⟩
        obtain ⟨errors, herrors⟩ := membersOf_of_visitable herrors
        exact ⟨kind, by rw [herrors, hkind]; rfl⟩
      · obtain ⟨kind, hkind⟩ := membersOf_of_not_visitable herrors
        exact ⟨kind, by rw [hkind]; rfl⟩

/-- Loops can go over the files that are reached; loading does not get past one that is no file of nodes. -/
def VisitsAll : List Data → Prop
  | [] => True
  | file :: files => VisitableFile file ∧ (IsFile file → VisitsAll files)

theorem judges_files {files : List Data} (h : VisitsAll files) :
    Judges (∀ file ∈ files, IsFile file) (files.mapM fun file => (ofFile file).result) := by
  induction files with
  | nil => exact .ok (List.forall_mem_nil _) []
  | cons file files ih =>
      obtain ⟨hfile, hrest⟩ := h
      rw [List.mapM_cons]
      have hfiles : ∀ tree, (ofFile file).result = .ok tree →
          Judges (∀ file ∈ files, IsFile file) ((files.mapM fun file => (ofFile file).result).map (tree :: ·)) :=
        fun tree htree => (ih (hrest ((judges_ofFile hfile).of_eq_ok htree))).map _
      refine Judges.congr ((judges_ofFile hfile).bind hfiles) List.forall_mem_cons.symm

theorem result_files_of_not_visited {files : List Data} (h : ¬ VisitsAll files) :
    ∃ kind, (files.mapM fun file => (ofFile file).result) = .error (.notIterable kind) := by
  induction files with
  | nil => exact absurd trivial h
  | cons file files ih =>
      rw [List.mapM_cons]
      by_cases hfile : VisitableFile file
      · rw [VisitsAll, not_and, Classical.not_imp] at h
        obtain ⟨hholds, hrest⟩ := h hfile
        obtain ⟨kind, hkind⟩ := ih hrest
        rcases judges_ofFile hfile with ⟨-, tree, htree⟩ | ⟨hnot, -⟩
        · exact ⟨kind, by rw [htree, hkind]; rfl⟩
        · exact absurd hholds hnot
      · obtain ⟨kind, hkind⟩ := result_ofFile_of_not_visitable hfile
        exact ⟨kind, by rw [hkind]; rfl⟩

/-- Loops can go over the files of the data, if it is a payload, as far as they are reached. -/
def VisitsFiles (data : Data) : Prop :=
  ∀ files, data.get? "config" = some (.list files) → VisitsAll files

theorem result_load_payload {entries : List (Scalar × Data)} {files : List Data}
    (h : (Data.map entries).get? "config" = some (.list files)) :
    (load (.map entries)).result = (files.mapM fun file => (ofFile file).result).map List.flatten := by
  simp only [load, h, Logged.result_bind, result_statusWarning, Logged.result_forEach]
  cases files.mapM fun file => (ofFile file).result <;> rfl

theorem isTree_payload_iff {entries : List (Scalar × Data)} {files : List Data}
    (h : (Data.map entries).get? "config" = some (.list files)) :
    IsTree (.map entries) ↔ ∀ file ∈ files, IsFile file := by
  constructor
  · rintro (_ | ⟨hothers, hfiles⟩)
    cases h.symm.trans hothers
    exact hfiles
  · exact .payload h

theorem not_isTree_of_config {entries : List (Scalar × Data)}
    (h : ∀ files, (Data.map entries).get? "config" ≠ some (.list files)) : ¬ IsTree (.map entries) := by
  rintro (_ | ⟨hfiles, -⟩)
  exact h _ hfiles

/-- Data is loaded just if it is a tree. -/
theorem judges_load {data : Data} (h : VisitsFiles data) : Judges (IsTree data) (load data).result := by
  cases data with
  | scalar s => exact .refuse nofun _ _
  | list items =>
      refine (Node.judges_listOfData items).congr ⟨.nodes, ?_⟩
      rintro ⟨hitems⟩
      exact hitems
  | map entries =>
      cases hconfig : (Data.map entries).get? "config" with
      | none =>
          rw [load, hconfig]
          exact .refuse (not_isTree_of_config (by simp [hconfig])) _ _
      | some config =>
          cases config with
          | list files =>
              rw [result_load_payload hconfig]
              exact ((judges_files (h files hconfig)).map _).congr (isTree_payload_iff hconfig).symm
          | scalar _ | map _ =>
              rw [load, hconfig]
              exact .refuse (not_isTree_of_config (by simp [hconfig])) _ _

theorem result_load_of_not_visited {data : Data} (h : ¬ VisitsFiles data) :
    ∃ kind, (load data).result = .error (.notIterable kind) := by
  unfold VisitsFiles at h
  push Not at h
  obtain ⟨files, hconfig, hfiles⟩ := h
  obtain ⟨kind, hkind⟩ := result_files_of_not_visited hfiles
  cases data with
  | scalar _ | list _ => cases hconfig
  | map entries => exact ⟨kind, by rw [result_load_payload hconfig, hkind]; rfl⟩

theorem visitable_of_holdsNodes {part : Option Data} (h : HoldsNodes part) : Visitable part := by
  rintro d rfl htruthy
  rcases h with hfalse | ⟨items, hitems, -⟩
  · rw [hfalse d rfl] at htruthy
    cases htruthy
  · cases hitems
    exact Option.some_ne_none items

theorem visitsAll_iff {files : List Data} (h : ∀ file ∈ files, IsFile file) :
    VisitsAll files ↔ ∀ file ∈ files, Visitable (file.get? "errors") := by
  induction files with
  | nil => exact iff_of_true trivial (List.forall_mem_nil _)
  | cons file files ih =>
      obtain ⟨hfile, hfiles⟩ := List.forall_mem_cons.mp h
      rw [VisitsAll, List.forall_mem_cons, ih hfiles]
      have hparsed := visitable_of_holdsNodes hfile.parsed
      exact ⟨fun ⟨hvisited, hrest⟩ => ⟨hvisited.errors, hrest hfile⟩,
        fun ⟨herrors, hrest⟩ => ⟨⟨herrors, hparsed⟩, fun _ => hrest⟩⟩

/-- Of a payload that describes a tree, only the errors can stop a loop. -/
theorem visitsFiles_iff {data : Data} (h : IsTree data) : VisitsFiles data ↔
    ∀ files, data.get? "config" = some (.list files) → ∀ file ∈ files, Visitable (file.get? "errors") := by
  cases h with
  | nodes hitems => exact iff_of_true nofun nofun
  | payload hconfig hfiles =>
      refine forall₂_congr fun files hothers => visitsAll_iff ?_
      cases hconfig.symm.trans hothers
      exact hfiles

end Tree

/-- What loads as a tree. Loading returns just for the data that describes a tree and refuses all other data as no tree,
if and only if loops can go over what the parser recorded in each file that is reached; of a file for which that fails, the
fault is that its data has no members. So of data that describes a tree, just that is loaded whose files have nothing for
their errors, a value that counts as false, or something with members. -/
theorem tree_loads_iff (data : Data) :
    (Judges (Tree.IsTree data) (Tree.load data).result ↔ Tree.VisitsFiles data) ∧
    ((∃ kind, (Tree.load data).result = .error (.notIterable kind)) ↔ ¬ Tree.VisitsFiles data) ∧
    ((∃ tree, (Tree.load data).result = .ok tree) ↔ Tree.IsTree data ∧
      ∀ files, data.get? "config" = some (.list files) → ∀ file ∈ files, Tree.Visitable (file.get? "errors")) := by
  have hfault : (∃ kind, (Tree.load data).result = .error (.notIterable kind)) ↔ ¬ Tree.VisitsFiles data :=
    ⟨fun ⟨kind, hkind⟩ hvisits => (Tree.judges_load hvisits).ne_notIterable kind hkind,
      Tree.result_load_of_not_visited⟩
  have hjudges : Judges (Tree.IsTree data) (Tree.load data).result ↔ Tree.VisitsFiles data := by
    refine ⟨fun h => ?_, Tree.judges_load⟩
    by_contra hvisits
    obtain ⟨kind, hkind⟩ := hfault.mpr hvisits
    exact h.ne_notIterable kind hkind
  refine ⟨hjudges, hfault, ?_, ?_⟩
  · rintro ⟨tree, htree⟩
    have hvisits : Tree.VisitsFiles data := by
      by_contra hvisits
      obtain ⟨kind, hkind⟩ := hfault.mpr hvisits
      cases htree.symm.trans hkind
    have htold := (Tree.judges_load hvisits).of_eq_ok htree
    exact ⟨htold, (Tree.visitsFiles_iff htold).mp hvisits⟩
  · rintro ⟨htold, herrors⟩
    rcases Tree.judges_load ((Tree.visitsFiles_iff htold).mpr herrors) with ⟨-, hloaded⟩ | ⟨hnot, -⟩
    · exact hloaded
    · exact absurd htold hnot

/-- A payload with a file that has this under this name. -/
def payloadWith (name : String) (part : Data) : Data :=
  .object [("config", .list [.object [(name, part)]])]

/-- A number stops loading where a file has it for its errors, though the data describes a tree, and where it has it for
its nodes. -/
theorem numbers_stop_loading :
    Tree.IsTree (payloadWith "errors" (.int 5)) ∧
    ¬ Judges (Tree.IsTree (payloadWith "errors" (.int 5))) (Tree.load (payloadWith "errors" (.int 5))).result ∧
    ¬ Judges (Tree.IsTree (payloadWith "parsed" (.int 5))) (Tree.load (payloadWith "parsed" (.int 5))).result := by
  refine ⟨.payload rfl fun file hfile => ?_, fun h => h.ne_notIterable "int" rfl, fun h => h.ne_notIterable "int" rfl⟩
  obtain rfl := List.mem_singleton.mp hfile
  exact ⟨⟨_, rfl⟩, Or.inl nofun⟩

end EdgeRoutes
