import EdgeRoutes.Proofs.ClassReading
import EdgeRoutes.Proofs.CodeLines

/-! Text for comments. Blanks are collapsed first and ends of block comments are broken up after that, which puts a
space between two characters that are none: neither step undoes the other. -/

namespace EdgeRoutes

open Js

namespace Text

section Replacing

variable {mark new cs rest : List Char}

theorem replaceAll_of_after? (hmark : mark ≠ []) (h : after? mark cs = some rest) :
    replaceAll mark new cs = new ++ replaceAll mark new rest := by
  have hcut : cut? mark cs = some ([], rest) := by
    unfold cut?
    rw [h]
  have hlength : rest.length < cs.length := by
    have := List.length_pos_iff.mpr hmark
    rw [after?_eq_some h, List.length_append]
    omega
  rw [replaceAll, if_neg (by simpa using hmark), hcut]
  simp only [if_pos hlength, List.nil_append]

theorem replaceAll_cons {c : Char} (hmark : mark ≠ []) (h : after? mark (c :: cs) = none) :
    replaceAll mark new (c :: cs) = c :: replaceAll mark new cs := by
  have hcut : cut? mark (c :: cs) = (cut? mark cs).map fun parts => (c :: parts.1, parts.2) := by
    rw [cut?, h]
  have hfilled : ¬ mark.isEmpty = true := by simpa using hmark
  rw [replaceAll, replaceAll, if_neg hfilled, if_neg hfilled, hcut]
  cases hrest : cut? mark cs with
  | none => rfl
  | some parts =>
      obtain ⟨before, rest⟩ := parts
      have hlength : rest.length < cs.length := by
        have := List.length_pos_iff.mpr hmark
        rw [cut?_eq_some hrest, List.length_append, List.length_append]
        omega
      simp only [Option.map_some, List.length_cons, if_pos hlength, if_pos (Nat.lt_succ_of_lt hlength),
        List.cons_append]

theorem replaceAll_nil (hmark : mark ≠ []) : replaceAll mark new [] = [] := by
  cases mark with
  | nil => exact absurd rfl hmark
  | cons m ms =>
      have hcut : cut? (m :: ms) [] = none := by
        unfold cut?
        rfl
      rw [replaceAll, if_neg (by simp), hcut]

end Replacing

section Words

theorem splitOnP_congr {p q : Char → Bool} {cs : List Char} (h : ∀ c ∈ cs, p c = q c) :
    cs.splitOnP p = cs.splitOnP q := by
  induction cs with
  | nil => rfl
  | cons c cs ih =>
      obtain ⟨hc, hcs⟩ := List.forall_mem_cons.mp h
      rw [List.splitOnP_cons_eq_if_modifyHead, List.splitOnP_cons_eq_if_modifyHead, hc, ih hcs]

theorem not_of_mem_splitOnP {p : Char → Bool} {cs piece : List Char} (h : piece ∈ cs.splitOnP p) :
    ∀ c ∈ piece, p c = false := by
  induction cs generalizing piece with
  | nil =>
      obtain rfl := List.mem_singleton.mp h
      nofun
  | cons c cs ih =>
      obtain ⟨first, pieces, heq⟩ := List.exists_cons_of_ne_nil (List.splitOnP_ne_nil p cs)
      rw [heq] at ih
      rw [List.splitOnP_cons_eq_if_modifyHead, heq] at h
      split_ifs at h with hc
      · rcases List.mem_cons.mp h with rfl | h
        · nofun
        · exact ih h
      · rcases List.mem_cons.mp h with rfl | h
        · exact List.forall_mem_cons.mpr ⟨by simpa using hc, ih List.mem_cons_self⟩
        · exact ih (List.mem_cons_of_mem _ h)

theorem mem_words {cs w : List Char} (h : w ∈ words cs) : w ≠ [] ∧ ∀ c ∈ w, isBlank c = false := by
  obtain ⟨hpiece, hfilled⟩ := List.mem_filter.mp h
  exact ⟨by simpa using hfilled, not_of_mem_splitOnP hpiece⟩

end Words

end Text

namespace Js

/-- The end of a block comment occurs in the text. -/
def closesComment : List Char → Bool
  | '*' :: '/' :: _ => true
  | _ :: cs => closesComment cs
  | [] => false

/-- The text with every end of a block comment broken up. -/
def parted : List Char → List Char
  | '*' :: '/' :: cs => '*' :: ' ' :: '/' :: parted cs
  | c :: cs => c :: parted cs
  | [] => []

theorem closesComment_iff {cs : List Char} : closesComment cs = true ↔ "*/".toList <:+: cs := by
  fun_induction closesComment cs with
  | case1 cs => exact iff_of_true rfl ⟨[], cs, rfl⟩
  | case2 c cs hnot ih =>
      rw [ih, List.infix_cons_iff]
      refine (or_iff_right ?_).symm
      rintro ⟨rest, hrest⟩
      cases hrest
      exact hnot rest rfl rfl
  | case3 => exact iff_of_false (by decide) (by decide)

/-- A mark that is in neither of two texts could only lie across their border. -/
theorem closesComment_append {a b : List Char} (h : a.getLast? ≠ some '*' ∨ b.head? ≠ some '/') :
    closesComment (a ++ b) = (closesComment a || closesComment b) := by
  fun_induction closesComment a with
  | case1 cs => rfl
  | case2 c cs hnot ih =>
      cases cs with
      | nil =>
          rw [List.singleton_append, closesComment]
          · rfl
          · rintro rest rfl rfl
            simp at h
      | cons d cs =>
          rw [List.cons_append, closesComment, ih (by simpa using h)]
          rintro rest rfl heq
          exact hnot cs rfl (by simpa using (List.cons.inj heq).1)
  | case3 => rfl

theorem closesComment_append_cons {a b : List Char} {c : Char} (hc : c ≠ '/') :
    closesComment (a ++ c :: b) = (closesComment a || closesComment (c :: b)) :=
  closesComment_append (Or.inr (by simpa using hc))

theorem replaceAll_eq_parted (cs : List Char) :
    Text.replaceAll "*/".toList "* /".toList cs = parted cs := by
  have hmark : "*/".toList ≠ [] := by decide
  fun_induction parted cs with
  | case1 cs ih =>
      have hafter : Text.after? "*/".toList ('*' :: '/' :: cs) = some cs := Text.after?_append "*/".toList cs
      rw [Text.replaceAll_of_after? hmark hafter, ih]
      rfl
  | case2 c cs hnot ih =>
      rw [Text.replaceAll_cons hmark, ih]
      cases hafter : Text.after? "*/".toList (c :: cs) with
      | none => rfl
      | some rest =>
          cases Text.after?_eq_some hafter
          exact absurd rfl (hnot rest rfl)
  | case3 => exact Text.replaceAll_nil hmark

theorem head?_parted (cs : List Char) : (parted cs).head? = cs.head? := by
  fun_cases parted cs <;> rfl

theorem closesComment_parted (cs : List Char) : closesComment (parted cs) = false := by
  fun_induction parted cs with
  | case1 cs ih => simpa [closesComment] using ih
  | case2 c cs hnot ih =>
      rw [closesComment, ih]
      rintro rest rfl hrest
      have hhead : cs.head? = some '/' := by rw [← head?_parted, hrest]; rfl
      obtain ⟨ds, rfl⟩ := List.head?_eq_some_iff.mp hhead
      exact hnot ds rfl rfl
  | case3 => rfl

theorem parted_eq_self {cs : List Char} (h : closesComment cs = false) : parted cs = cs := by
  fun_induction parted cs with
  | case1 cs ih => cases h
  | case2 c cs hnot ih =>
      rw [closesComment] at h
      · rw [ih h]
      · exact hnot
  | case3 => rfl

/-- The only blanks are single spaces between words; `gap` says that a space stands before the text. -/
def spaced (gap : Bool) : List Char → Bool
  | [] => !gap
  | c :: cs => if c = ' ' then !gap && spaced true cs else !Text.isBlank c && spaced false cs

/-- Breaking up puts a space between two characters that are none. -/
theorem spaced_parted (gap : Bool) (cs : List Char) : spaced gap (parted cs) = spaced gap cs := by
  fun_induction parted cs generalizing gap with
  | case1 cs ih => simp [spaced, ih, show Text.isBlank '*' = false by decide, show Text.isBlank '/' = false by decide]
  | case2 c cs hnot ih => simp only [spaced, ih]
  | case3 => rfl

theorem spaced_word {w : List Char} (hne : w ≠ []) (hw : ∀ c ∈ w, Text.isBlank c = false) (gap : Bool)
    (cs : List Char) : spaced gap (w ++ cs) = spaced false cs := by
  induction w generalizing gap with
  | nil => exact absurd rfl hne
  | cons c w ih =>
      obtain ⟨hc, hw⟩ := List.forall_mem_cons.mp hw
      have hspace : c ≠ ' ' := by
        rintro rfl
        exact absurd hc (by decide)
      rw [List.cons_append, spaced, if_neg hspace, hc, Bool.not_false, Bool.true_and]
      cases w with
      | nil => rfl
      | cons d w => exact ih (List.cons_ne_nil _ _) hw false

theorem spaced_intercalate {ws : List (List Char)} (hne : ws ≠ [])
    (hws : ∀ w ∈ ws, w ≠ [] ∧ ∀ c ∈ w, Text.isBlank c = false) : spaced true ([' '].intercalate ws) = true := by
  induction ws with
  | nil => exact absurd rfl hne
  | cons w ws ih =>
      obtain ⟨⟨hwne, hw⟩, hws⟩ := List.forall_mem_cons.mp hws
      cases ws with
      | nil =>
          rw [List.intercalate_singleton, ← List.append_nil w, spaced_word hwne hw]
          rfl
      | cons w' ws =>
          rw [List.intercalate_cons_cons, List.append_assoc, spaced_word hwne hw, List.singleton_append, spaced,
            if_pos rfl, ih (List.cons_ne_nil _ _) hws]
          rfl

theorem isBlank_of_spaced {gap : Bool} {cs : List Char} (h : spaced gap cs = true) :
    ∀ c ∈ cs, Text.isBlank c = (c == ' ') := by
  induction cs generalizing gap with
  | nil => nofun
  | cons c cs ih =>
      rw [spaced] at h
      split_ifs at h with hc
      · obtain ⟨-, h⟩ := Bool.and_eq_true_iff.mp h
        subst hc
        exact List.forall_mem_cons.mpr ⟨by decide, ih h⟩
      · obtain ⟨hblank, h⟩ := Bool.and_eq_true_iff.mp h
        refine List.forall_mem_cons.mpr ⟨?_, ih h⟩
        rw [beq_eq_false_iff_ne.mpr hc]
        simpa using hblank

/-- Between its spaces, spaced text has no empty pieces, but for a first one if no space stands before it. -/
theorem pieces_of_spaced {gap : Bool} {cs : List Char} (h : spaced gap cs = true) :
    (gap = true → (cs.splitOn ' ').head? ≠ some []) ∧ [] ∉ (cs.splitOn ' ').tail := by
  induction cs generalizing gap with
  | nil => cases gap <;> simp_all [spaced]
  | cons c cs ih =>
      rw [spaced] at h
      rw [List.splitOn_cons_eq_if_modifyHead]
      obtain ⟨piece, pieces, hpieces⟩ := List.exists_cons_of_ne_nil (List.splitOn_ne_nil ' ' cs)
      split_ifs at h with hc
      · obtain ⟨hgap, h⟩ := Bool.and_eq_true_iff.mp h
        obtain ⟨hhead, htail⟩ := ih h
        rw [hpieces] at hhead htail
        rw [if_pos (by simpa using hc), hpieces]
        refine ⟨fun hg => by simp [hg] at hgap, ?_⟩
        simpa [eq_comm] using ⟨fun heq => hhead rfl (congrArg some heq), htail⟩
      · obtain ⟨-, htail⟩ := ih (Bool.and_eq_true_iff.mp h).2
        rw [if_neg (by simpa using hc)]
        rw [hpieces] at htail ⊢
        exact ⟨fun _ => by simp, htail⟩

theorem intercalate_words_of_spaced {cs : List Char} (h : spaced true cs = true) :
    [' '].intercalate (Text.words cs) = cs := by
  have hpieces : cs.splitOnP Text.isBlank = cs.splitOn ' ' := by
    exact Text.splitOnP_congr (isBlank_of_spaced h)
  obtain ⟨hhead, htail⟩ := pieces_of_spaced h
  have hfilled : ∀ piece ∈ cs.splitOn ' ', (!piece.isEmpty) = true := by
    obtain ⟨piece, pieces, heq⟩ := List.exists_cons_of_ne_nil (List.splitOn_ne_nil ' ' cs)
    rw [heq] at hhead htail ⊢
    refine List.forall_mem_cons.mpr ⟨?_, fun piece hpiece => ?_⟩
    · simpa using hhead rfl
    · simpa using ne_of_mem_of_not_mem hpiece htail
  rw [Text.words, hpieces, List.filter_eq_self.mpr hfilled, List.intercalate_splitOn]

theorem toList_commentText (s : String) :
    (commentText s).toList = parted ([' '].intercalate (Text.words s.toList)) := by
  rw [commentText, String.toList_ofList, replaceAll_eq_parted]

/-- Text for a comment is empty, or it is spaced. -/
theorem spaced_commentText (s : String) : (commentText s).toList = [] ∨ spaced true (commentText s).toList = true := by
  rw [toList_commentText, spaced_parted]
  by_cases hwords : Text.words s.toList = []
  · rw [hwords]
    exact Or.inl rfl
  · exact Or.inr (spaced_intercalate hwords fun w hw => Text.mem_words hw)

theorem closesComment_commentText (s : String) : closesComment (commentText s).toList = false := by
  rw [toList_commentText]
  exact closesComment_parted _

@[simp] theorem oneLine_commentText (s : String) : OneLine (commentText s) := by
  intro c hc
  rcases spaced_commentText s with hempty | hspaced
  · rw [hempty] at hc
    cases hc
  · have hblank := isBlank_of_spaced hspaced c hc
    simp only [endsLine, Bool.or_eq_false_iff, beq_eq_false_iff_ne]
    refine ⟨⟨⟨?_, ?_⟩, ?_⟩, ?_⟩ <;> rintro rfl <;> exact absurd hblank (by decide)

theorem commentText_commentText (s : String) : commentText (commentText s) = commentText s := by
  have hwords : [' '].intercalate (Text.words (commentText s).toList) = (commentText s).toList := by
    rcases spaced_commentText s with hempty | hspaced
    · rw [hempty]
      rfl
    · exact intercalate_words_of_spaced hspaced
  refine String.toList_injective ?_
  rw [toList_commentText, hwords, parted_eq_self (closesComment_commentText s)]

end Js

end EdgeRoutes
