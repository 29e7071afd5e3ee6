import EdgeRoutes.Files.Path
import EdgeRoutes.Proofs.CommentText
import Mathlib.Data.List.Induction

/-! Paths: what one begins with, the names in it, and how it is read back from its text. Making a path absolute carries
out the steps upwards, once and for all. -/

namespace EdgeRoutes.Files.Path

section Beginnings

/-- The path goes on from where `q` leads. -/
def Begins (q p : Path) : Prop := q.root = p.root ∧ q.names <+: p.names

theorem Begins.refl (p : Path) : p.Begins p := ⟨rfl, List.prefix_rfl⟩

theorem parent_snoc (root : String) (names : List String) (name : String) :
    (⟨root, names ++ [name]⟩ : Path).parent = ⟨root, names⟩ := by
  rw [parent, List.dropLast_concat]

theorem begins_nil {q : Path} {root : String} (h : q.Begins ⟨root, []⟩) : q = ⟨root, []⟩ := by
  obtain ⟨qroot, qnames⟩ := q
  obtain ⟨rfl, hnames⟩ := h
  obtain rfl : qnames = [] := List.prefix_nil.mp hnames
  rfl

theorem begins_snoc {q : Path} {root name : String} {names : List String} :
    q.Begins ⟨root, names ++ [name]⟩ ↔ q = ⟨root, names ++ [name]⟩ ∨ q.Begins ⟨root, names⟩ := by
  obtain ⟨qroot, qnames⟩ := q
  simp only [Begins, List.prefix_concat_iff, Path.mk.injEq]
  tauto

theorem ne_of_begins {q : Path} {root name : String} {names : List String} (h : q.Begins ⟨root, names⟩) :
    q ≠ ⟨root, names ++ [name]⟩ := by
  rintro rfl
  have hlength := h.2.length_le
  simp only [List.length_append, List.length_singleton] at hlength
  omega

end Beginnings

section Texts

structure IsName (name : String) : Prop where
  filled : name ≠ ""
  elsewhere : name ≠ "."
  single : '/' ∉ name.toList

theorem isName_of_mem_ofString {s name : String} (h : name ∈ (ofString s).names) : IsName name := by
  obtain ⟨hpiece, hkept⟩ := List.mem_filter.mp h
  obtain ⟨cs, hcs, rfl⟩ := List.mem_map.mp hpiece
  simp only [Bool.and_eq_true, bne_iff_ne, ne_eq] at hkept
  refine ⟨hkept.1, hkept.2, fun hslash => ?_⟩
  rw [String.toList_ofList] at hslash
  simpa using Text.not_of_mem_splitOnP hcs '/' hslash

theorem mem_collapsed {names : List String} {name : String} (h : name ∈ collapsed names) :
    name ∈ names ∧ name ≠ ".." := by
  unfold collapsed at h
  induction names using List.reverseRecOn with
  | nil => cases h
  | append_singleton names last ih =>
      rw [List.foldl_append, List.foldl_cons, List.foldl_nil] at h
      split_ifs at h with hup
      · exact (ih (List.mem_of_mem_dropLast h)).imp_left (List.mem_append_left _)
      · rcases List.mem_append.mp h with h | h
        · exact (ih h).imp_left (List.mem_append_left _)
        · obtain rfl := List.mem_singleton.mp h
          exact ⟨List.mem_append_right _ h, by simpa using hup⟩

theorem collapsed_eq_self {names : List String} (h : ".." ∉ names) : collapsed names = names := by
  unfold collapsed
  induction names using List.reverseRecOn with
  | nil => rfl
  | append_singleton names last ih =>
      simp only [List.mem_append, List.mem_singleton, not_or] at h
      rw [List.foldl_append, ih h.1, List.foldl_cons, List.foldl_nil, if_neg]
      simpa using Ne.symm h.2

theorem rootOf_slash {cs : List Char} (h : cs.takeWhile (· == '/') = []) : rootOf ('/' :: cs) = "/" := by
  simp [rootOf, h]

theorem rootOf_slashes {cs : List Char} (h : cs.takeWhile (· == '/') = []) : rootOf ('/' :: '/' :: cs) = "//" := by
  simp [rootOf, h]

theorem splitOn_slash (cs : List Char) : ('/' :: cs).splitOn '/' = [] :: cs.splitOn '/' :=
  List.splitOn_append_cons_self [] cs

/-- A path from the root is read back from its text. -/
theorem ofString_text {p : Path} (hroot : p.root = "/" ∨ p.root = "//") (hnames : ∀ name ∈ p.names, IsName name) :
    ofString p.text = p := by
  obtain ⟨root, names⟩ := p
  dsimp only at hroot hnames
  cases names with
  | nil => rcases hroot with rfl | rfl <;> rfl
  | cons name names =>
      have hname := hnames name List.mem_cons_self
      obtain ⟨c, cs, hc⟩ := List.exists_cons_of_ne_nil fun hnil => hname.filled (String.toList_eq_nil_iff.mp hnil)
      have hslash : c ≠ '/' := fun heq => hname.single (by rw [hc, heq]; exact List.mem_cons_self)
      -- the names take up what follows the slashes of the root
      obtain ⟨rest, hrest⟩ : ∃ rest, rest = ['/'].intercalate ((name :: names).map String.toList) := ⟨_, rfl⟩
      have htext : (⟨root, name :: names⟩ : Path).text.toList = root.toList ++ rest := by
        rw [text, List.isEmpty_cons, Bool.and_false, if_neg Bool.false_ne_true, String.toList_append, Text.joined,
          String.toList_intercalate, hrest]
        rfl
      have hstart : rest.takeWhile (· == '/') = [] := by
        rw [hrest]
        cases names with
        | nil => simp [hc, hslash]
        | cons next names => simp [List.intercalate_cons_cons, hc, hslash]
      have hsplit : rest.splitOn '/' = (name :: names).map String.toList := by
        rw [hrest]
        refine List.splitOn_intercalate '/' (fun cs hcs => ?_) (by simp)
        obtain ⟨other, hother, rfl⟩ := List.mem_map.mp hcs
        exact (hnames other hother).single
      have hread : ((rest.splitOn '/').map String.ofList).filter (fun name => name != "" && name != ".") =
          name :: names := by
        have hsame : String.ofList ∘ String.toList = id := funext fun _ => String.ofList_toList
        rw [hsplit, List.map_map, hsame, List.map_id]
        refine List.filter_eq_self.mpr fun other hother => ?_
        simpa using ⟨(hnames other hother).filled, (hnames other hother).elsewhere⟩
      rw [ofString, htext]
      rcases hroot with rfl | rfl
      · have hone : "/".toList ++ rest = '/' :: rest := rfl
        rw [hone, rootOf_slash hstart, splitOn_slash, List.map_cons, List.filter_cons_of_neg (by decide), hread]
      · have htwo : "//".toList ++ rest = '/' :: '/' :: rest := rfl
        rw [htwo, rootOf_slashes hstart, splitOn_slash, splitOn_slash, List.map_cons, List.map_cons,
          List.filter_cons_of_neg (by decide), List.filter_cons_of_neg (by decide), hread]

/-- Making a path absolute once is enough, also when it is shown and read again in between. -/
theorem ofString_text_absolute {directory : List String} (hdirectory : ∀ name ∈ directory, IsName name) (s : String) :
    ofString ((ofString s).absolute directory).text = (ofString s).absolute directory := by
  refine ofString_text ?_ ?_
  · unfold absolute
    split_ifs with hroot
    · exact Or.inl rfl
    · change rootOf _ = _ ∨ rootOf _ = _
      change ¬ (rootOf _).isEmpty = true at hroot
      unfold rootOf at *
      split at hroot
      · exact absurd rfl hroot
      · exact Or.inr rfl
      · exact Or.inl rfl
  · unfold absolute
    split_ifs with hroot
    · intro name hname
      rcases List.mem_append.mp (mem_collapsed hname).1 with hname | hname
      · exact hdirectory name hname
      · exact isName_of_mem_ofString hname
    · exact fun name hname => isName_of_mem_ofString (mem_collapsed hname).1

/-- An absolute path leads to the same place from every directory. -/
theorem absolute_absolute (p : Path) (directory other : List String) :
    (p.absolute directory).absolute other = p.absolute directory := by
  have hcollapsed : collapsed (p.absolute directory).names = (p.absolute directory).names := by
    refine collapsed_eq_self fun hup => ?_
    unfold absolute at hup
    split_ifs at hup <;> exact (mem_collapsed hup).2 rfl
  have hroot : (p.absolute directory).root.isEmpty = false := by
    unfold absolute
    split_ifs with hroot
    · rfl
    · simpa using hroot
  rw [absolute, hroot, if_neg Bool.false_ne_true, hcollapsed]

end Texts

end EdgeRoutes.Files.Path
