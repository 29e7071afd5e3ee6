import EdgeRoutes.Proofs.ClassMeaning
import EdgeRoutes.Proofs.HostNames

/-! Lower case. A text in lower case stays as it is when it is put into lower case again. Lower-casing makes no text
shorter, and it neither brings in nor takes away a character of ASCII that is no letter. -/

namespace EdgeRoutes.Text

/-- What a character becomes between those before it, the last one first, and those after it. -/
def lowerAt (before : List Char) (c : Char) (after : List Char) : List Char :=
  if c.toNat = 0x3A3 then [if meetsCased before && !meetsCased after then '\u03c2' else '\u03c3'] else lowerChar c

theorem lowerFrom_cons (before : List Char) (c : Char) (cs : List Char) :
    lowerFrom before (c :: cs) = lowerAt before c cs ++ lowerFrom (c :: before) cs := rfl

/-- The character is its own lower-case form, whatever stands around it. -/
def IsLow (c : Char) : Prop := c.toNat ≠ 0x3A3 ∧ lowerChar c = [c]

/-- The lower-case forms of a run are characters, one of ASCII is the letter `k`, and the dotted capital is none. -/
theorem lower_runs_clear : capitalRuns.all (fun (lo, hi, _, low) =>
    (low == 0x6B && lo == hi || 128 ≤ low) && (low + (hi - lo) < 0x130 || 0x130 < low) &&
      (low + (hi - lo) < 0xD800 || (0xE000 ≤ low && low + (hi - lo) < 0x110000))) = true := by
  decide +kernel

/-- The lower-case forms of a run keep clear of every run: they stand before it or after it, or between capitals that
follow each other in steps of two. -/
theorem lower_runs_settled : capitalRuns.all (fun (lo, hi, step, low) =>
    capitalRuns.all fun (lo', hi', step', _) =>
      Nat.blt hi' low || Nat.blt (low + (hi - lo)) lo' ||
        (step' == 2 && (step == 2 || lo == hi) && (low + lo') % 2 == 1)) = true := by
  decide +kernel

/-- What is known of the lower-case form of a capital beyond ASCII. -/
structure IsForm (d : Char) : Prop where
  ascii : d.toNat = 0x6B ∨ 128 ≤ d.toNat
  undotted : d.toNat ≠ 0x130
  settled : ∀ r ∈ capitalRuns, ¬ (r.1 ≤ d.toNat ∧ d.toNat ≤ r.2.1 ∧ (d.toNat - r.1) % r.2.2.1 = 0)

/-- A run of capitals leads to small letters. -/
theorem isForm_of_run {c : Char} {lo hi step low : Nat} (hrun : (lo, hi, step, low) ∈ capitalRuns)
    (hc : (lo ≤ c.toNat && c.toNat ≤ hi && (c.toNat - lo) % step == 0) = true) :
    IsForm (Char.ofNat (low + (c.toNat - lo))) := by
  have hclear := List.all_eq_true.mp lower_runs_clear _ hrun
  simp only [Bool.and_eq_true, Bool.or_eq_true, beq_iff_eq, decide_eq_true_eq] at hc hclear
  have hvalid : (low + (c.toNat - lo)).isValidChar := by
    unfold Nat.isValidChar
    omega
  have hcode : (Char.ofNat (low + (c.toNat - lo))).toNat = low + (c.toNat - lo) := by rw [toNat_ofNat, if_pos hvalid]
  constructor
  · omega
  · omega
  · rintro ⟨lo', hi', step', low'⟩ hr ⟨hlo, hhi, hstep⟩
    dsimp only at hlo hhi hstep
    have hsettled := List.all_eq_true.mp (List.all_eq_true.mp lower_runs_settled _ hrun) _ hr
    simp only [Bool.and_eq_true, Bool.or_eq_true, beq_iff_eq, Nat.blt_eq] at hsettled
    rcases hsettled with hapart | ⟨⟨hstep', hown⟩, hparity⟩
    · omega
    · -- the form and the capitals of the other run differ by an odd number
      obtain rfl : step' = 2 := hstep'
      rcases hown with rfl | rfl <;> omega

theorem isLow_of_isForm {d : Char} (h : IsForm d) : IsLow d := by
  have hsigma : d.toNat ≠ 0x3A3 := by
    intro hd
    refine h.settled (0x3a3, 0x3ab, 1, 0x3c3) (by decide +kernel) ?_
    rw [hd]
    decide
  refine ⟨hsigma, ?_⟩
  have hnone : capitalRuns.find? (fun (lo, hi, step, _) =>
      lo ≤ d.toNat && d.toNat ≤ hi && (d.toNat - lo) % step == 0) = none := by
    refine List.find?_eq_none.mpr fun r hr hd => h.settled r hr ?_
    simpa only [Bool.and_eq_true, beq_iff_eq, decide_eq_true_eq, and_assoc] using hd
  unfold lowerChar
  rw [if_neg h.undotted, hnone]
  split_ifs with hascii
  · have hk : d = 'k' := Char.toNat_inj.mp (h.ascii.resolve_right (by omega))
    rw [hk]
    rfl
  · rfl

/-- What a character becomes: a final or a plain sigma, the letter of ASCII itself, the two characters of the dotted
capital, the form that its run gives, or the character itself. -/
theorem mem_lowerAt {before after : List Char} {c d : Char} (h : d ∈ lowerAt before c after) :
    d = '\u03c2' ∨ d = '\u03c3' ∨ (c.toNat < 128 ∧ d = c.toLower) ∨ d = 'i' ∨ d = '\u0307' ∨ IsForm d ∨
      (d = c ∧ IsLow c) := by
  unfold lowerAt at h
  split_ifs at h with hsigma hfinal
  · exact Or.inl (List.mem_singleton.mp h)
  · exact Or.inr (Or.inl (List.mem_singleton.mp h))
  · have hlow : lowerChar c = [c] → c.toNat ≠ 0x3A3 := fun _ => hsigma
    unfold lowerChar at h hlow
    split_ifs at h with hascii hdotted
    · exact Or.inr (Or.inr (Or.inl ⟨hascii, List.mem_singleton.mp h⟩))
    · simp only [List.mem_cons, List.not_mem_nil, or_false] at h
      tauto
    · split at h
      · next lo hi step low hfind =>
          obtain rfl := List.mem_singleton.mp h
          have hrange := List.find?_some hfind
          have hform := isForm_of_run (List.mem_of_find?_eq_some hfind) hrange
          tauto
      · next hfind =>
          have hself : lowerChar c = [c] := by
            unfold lowerChar
            rw [if_neg hascii, if_neg hdotted, hfind]
          have hd := List.mem_singleton.mp h
          exact Or.inr (Or.inr (Or.inr (Or.inr (Or.inr (Or.inr ⟨hd, hsigma, hself⟩)))))

theorem isLow_of_ascii {c : Char} (hascii : c.toNat < 128) : IsLow c.toLower := by
  have hcode := toNat_toLower c
  have hlow : c.toLower.toNat < 128 := by split_ifs at hcode <;> omega
  refine ⟨by omega, ?_⟩
  rw [lowerChar, if_pos hlow, toLower_toLower]

/-- A character in lower case is left alone. -/
theorem isLow_of_mem_lowerAt {before after : List Char} {c d : Char} (h : d ∈ lowerAt before c after) : IsLow d := by
  rcases mem_lowerAt h with rfl | rfl | ⟨hascii, rfl⟩ | rfl | rfl | hform | ⟨rfl, hlow⟩
  · exact ⟨by decide, by decide +kernel⟩
  · exact ⟨by decide, by decide +kernel⟩
  · exact isLow_of_ascii hascii
  · exact ⟨by decide, by decide⟩
  · exact ⟨by decide, by decide +kernel⟩
  · exact isLow_of_isForm hform
  · exact hlow

theorem lowerAt_of_isLow {c : Char} (h : IsLow c) (before after : List Char) : lowerAt before c after = [c] := by
  rw [lowerAt, if_neg h.1, h.2]

theorem isLow_of_mem_lowerFrom {before cs : List Char} {d : Char} (h : d ∈ lowerFrom before cs) : IsLow d := by
  induction cs generalizing before with
  | nil => cases h
  | cons c cs ih =>
      rw [lowerFrom_cons, List.mem_append] at h
      exact h.elim isLow_of_mem_lowerAt ih

theorem lowerFrom_of_isLow {cs : List Char} (h : ∀ c ∈ cs, IsLow c) (before : List Char) : lowerFrom before cs = cs := by
  induction cs generalizing before with
  | nil => rfl
  | cons c cs ih =>
      obtain ⟨hc, hcs⟩ := List.forall_mem_cons.mp h
      rw [lowerFrom_cons, lowerAt_of_isLow hc, ih hcs, List.singleton_append]

theorem isLow_of_mem_lower {s : String} {c : Char} (h : c ∈ (lower s).toList) : IsLow c := by
  rw [lower, String.toList_ofList] at h
  exact isLow_of_mem_lowerFrom h

theorem lower_of_isLow {s : String} (h : ∀ c ∈ s.toList, IsLow c) : lower s = s := by
  rw [lower, lowerFrom_of_isLow h, String.ofList_toList]

/-- Lower-casing twice is lower-casing. -/
theorem lower_lower (s : String) : lower (lower s) = lower s :=
  lower_of_isLow fun _ hc => isLow_of_mem_lower hc

/-- No context makes a character longer or shorter. -/
theorem length_lowerAt (before : List Char) (c : Char) (after : List Char) :
    (lowerAt before c after).length = (lowerChar c).length ∧ 1 ≤ (lowerChar c).length := by
  have hpos : 1 ≤ (lowerChar c).length := by
    unfold lowerChar
    split_ifs
    · exact le_rfl
    · exact Nat.le_succ 1
    · split <;> exact le_rfl
  refine ⟨?_, hpos⟩
  unfold lowerAt
  split_ifs with hsigma
  all_goals
    first
    | rfl
    | rw [show c = '\u03a3' from Char.toNat_inj.mp hsigma]
      decide +kernel

theorem length_lowerFrom (before cs : List Char) :
    (lowerFrom before cs).length = (cs.map fun c => (lowerChar c).length).sum := by
  induction cs generalizing before with
  | nil => rfl
  | cons c cs ih => rw [lowerFrom_cons, List.length_append, (length_lowerAt before c cs).1, ih, List.map_cons, List.sum_cons]

/-- A text is shorter in lower case than a longer text that starts with it. -/
theorem length_lowerFrom_lt (before before' cs : List Char) {rest : List Char} (h : rest ≠ []) :
    (lowerFrom before cs).length < (lowerFrom before' (cs ++ rest)).length := by
  obtain ⟨c, rest, rfl⟩ := List.exists_cons_of_ne_nil h
  have hpos := (length_lowerAt [] c []).2
  rw [length_lowerFrom, length_lowerFrom, List.map_append, List.sum_append, List.map_cons, List.sum_cons]
  omega

/-- A character of ASCII that is no letter. -/
def IsMark (c : Char) : Prop := c.toNat < 128 ∧ c.isAlpha = false

instance (c : Char) : Decidable (IsMark c) := inferInstanceAs (Decidable (_ ∧ _))

theorem eq_of_mem_lowerAt {before after : List Char} {c d : Char} (hd : IsMark d) (h : d ∈ lowerAt before c after) :
    d = c := by
  obtain ⟨hascii, hletter⟩ := hd
  rcases mem_lowerAt h with rfl | rfl | ⟨-, rfl⟩ | rfl | rfl | hform | ⟨rfl, -⟩
  · exact absurd hascii (by decide)
  · exact absurd hascii (by decide)
  · have hcode := toNat_toLower c
    split_ifs at hcode with hcapital
    · rw [Pattern.isAlpha_iff.mpr (by omega)] at hletter
      cases hletter
    · exact Char.toNat_inj.mp hcode
  · exact absurd hletter (by decide)
  · exact absurd hascii (by decide)
  · have hk : d = 'k' := Char.toNat_inj.mp (hform.ascii.resolve_right (by omega))
    rw [hk] at hletter
    exact absurd hletter (by decide)
  · rfl

theorem isLow_of_isMark {c : Char} (h : IsMark c) : IsLow c := by
  have hcode := toNat_toLower c
  split_ifs at hcode with hcapital
  · rw [IsMark, Pattern.isAlpha_iff.mpr (Or.inl hcapital)] at h
    cases h.2
  · rw [← Char.toNat_inj.mp hcode]
    exact isLow_of_ascii h.1

theorem mem_lowerFrom_iff {d : Char} (hd : IsMark d) {before cs : List Char} : d ∈ lowerFrom before cs ↔ d ∈ cs := by
  induction cs generalizing before with
  | nil => exact Iff.rfl
  | cons c cs ih =>
      have hhead : d ∈ lowerAt before c cs ↔ d = c := by
        refine ⟨eq_of_mem_lowerAt hd, ?_⟩
        rintro rfl
        rw [lowerAt_of_isLow (isLow_of_isMark hd)]
        exact List.mem_singleton_self d
      rw [lowerFrom_cons, List.mem_append, hhead, ih, List.mem_cons]

theorem mem_lower_iff {d : Char} (hd : IsMark d) {s : String} : d ∈ (lower s).toList ↔ d ∈ s.toList := by
  rw [lower, String.toList_ofList]
  exact mem_lowerFrom_iff hd

theorem head?_lowerFrom_iff {d : Char} (hd : IsMark d) {before cs : List Char} :
    (lowerFrom before cs).head? = some d ↔ cs.head? = some d := by
  cases cs with
  | nil => exact Iff.rfl
  | cons c cs =>
      obtain ⟨low, lows, hlow⟩ : ∃ low lows, lowerAt before c cs = low :: lows :=
        List.exists_cons_of_length_pos (by have := length_lowerAt before c cs; omega)
      rw [lowerFrom_cons, hlow, List.cons_append, List.head?_cons, List.head?_cons, Option.some.injEq, Option.some.injEq]
      constructor
      · rintro rfl
        exact (eq_of_mem_lowerAt hd (hlow ▸ List.mem_cons_self)).symm
      · rintro rfl
        rw [lowerAt_of_isLow (isLow_of_isMark hd)] at hlow
        exact (List.cons.inj hlow).1.symm

/-- A mark that stands at the end only still does in lower case. -/
theorem exists_lowerFrom_concat {d : Char} (hd : IsMark d) (before : List Char) {cs : List Char} (h : d ∉ cs) :
    ∃ lows, lowerFrom before (cs ++ [d]) = lows ++ [d] ∧ d ∉ lows := by
  induction cs generalizing before with
  | nil =>
      refine ⟨[], ?_, List.not_mem_nil⟩
      rw [List.nil_append, lowerFrom_cons, lowerAt_of_isLow (isLow_of_isMark hd)]
      rfl
  | cons c cs ih =>
      rw [List.mem_cons, not_or] at h
      obtain ⟨lows, hlows, hnot⟩ := ih (c :: before) h.2
      refine ⟨lowerAt before c (cs ++ [d]) ++ lows, ?_, ?_⟩
      · rw [List.cons_append, lowerFrom_cons, hlows, List.append_assoc]
      · rw [List.mem_append, not_or]
        exact ⟨fun hmem => h.1 (eq_of_mem_lowerAt hd hmem), hnot⟩

end EdgeRoutes.Text
