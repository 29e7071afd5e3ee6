import EdgeRoutes.Proofs.Results
import Mathlib.Data.List.TakeWhile

/-! Texts of digits that denote numbers. Every text of decimal digits does, up to the length that is converted; a text
with a digit of another kind, such as a superscript, does not. -/

namespace EdgeRoutes

open Number

theorem isDigit_bounds {c : Char} (h : c.isDigit = true) : 48 ≤ c.toNat ∧ c.toNat ≤ 57 := by
  simpa [Char.isDigit, UInt32.le_iff_toNat_le] using h

theorem toList_toString (n : Nat) : (toString n).toList = Nat.toDigits 10 n := by
  rw [Nat.toString_eq_repr, Nat.toList_repr]

theorem isDigit_of_mem_toString {n : Nat} {c : Char} (hc : c ∈ (toString n).toList) : c.isDigit = true := by
  rw [toList_toString] at hc
  exact Nat.isDigit_of_mem_toDigits (by decide) (by decide) hc

namespace Text

/-- The digits beyond ASCII keep clear of the blanks. -/
theorem digit_ranges_clear : ∀ r ∈ digitsBeyondAscii.ranges,
    0xA0 < r.1 ∧ (r.2 < 0x1680 ∨ 0x1680 < r.1) ∧ (r.2 < 0x2000 ∨ 0x205F < r.1) ∧ (r.2 < 0x3000 ∨ 0x3000 < r.1) := by
  -- Evaluation is quick once the lines of the table are lists of characters.
  simp only [digitsBeyondAscii, CharSet.ofText, List.flatMap_cons, List.flatMap_nil]
  repeat rw [String.toList_ofList]
  decide +kernel

theorem not_isBlank_of_isDigit {c : Char} (h : isDigit c = true) : isBlank c = false := by
  rw [isDigit] at h
  split_ifs at h with hascii
  · have hbounds := isDigit_bounds h
    simp [isBlank]
    omega
  · obtain ⟨r, hr, hc⟩ := List.any_eq_true.mp h
    have hclear := digit_ranges_clear r hr
    simp only [Bool.and_eq_true, decide_eq_true_eq] at hc
    simp [isBlank]
    omega

/-- The runs of decimal digits beyond ASCII are among the digits. -/
theorem zero_runs_covered : ∀ z ∈ zerosBeyondAscii, ∃ r ∈ digitsBeyondAscii.ranges, r.1 ≤ z ∧ z + 9 ≤ r.2 := by
  simp only [zerosBeyondAscii, digitsBeyondAscii, CharSet.ofText, List.flatMap_cons, List.flatMap_nil]
  repeat rw [String.toList_ofList]
  decide +kernel

theorem decimalValue?_lt {c : Char} {d : Nat} (h : decimalValue? c = some d) : d < 10 := by
  rw [decimalValue?] at h
  split_ifs at h with hascii hdigit
  · have hbounds := isDigit_bounds hdigit
    obtain rfl := Option.some.inj h
    omega
  · obtain ⟨z, hz, rfl⟩ := Option.map_eq_some_iff.mp h
    have hrun := List.find?_some hz
    simp only [Bool.and_eq_true, decide_eq_true_eq] at hrun
    omega

theorem isDigit_of_decimalValue? {c : Char} (h : (decimalValue? c).isSome = true) : isDigit c = true := by
  rw [decimalValue?] at h
  rw [isDigit]
  split_ifs at h ⊢ with hascii hdigit
  · exact hdigit
  · exact absurd h (by decide)
  · rw [Option.isSome_map, List.find?_isSome] at h
    obtain ⟨z, hz, hrun⟩ := h
    obtain ⟨r, hr, hlo, hhi⟩ := zero_runs_covered z hz
    simp only [Bool.and_eq_true, decide_eq_true_eq] at hrun
    refine List.any_eq_true.mpr ⟨r, hr, ?_⟩
    simp only [Bool.and_eq_true, decide_eq_true_eq]
    omega

/-- The superscript two is a digit, but not a decimal one. -/
theorem superscript_two : isDigit '²' = true ∧ decimalValue? '²' = none := by
  simp only [isDigit, decimalValue?, CharSet.contains, zerosBeyondAscii, digitsBeyondAscii, CharSet.ofText,
    List.flatMap_cons, List.flatMap_nil]
  repeat rw [String.toList_ofList]
  decide +kernel

end Text

namespace Number

theorem isDigit_digitChar : ∀ d < 10, (Nat.digitChar d).isDigit = true := by decide

/-- The reader sees a decimal digit of any script as one of ASCII. -/
theorem isDigit_plainForm {c : Char} (h : (Text.decimalValue? c).isSome = true) : (plainForm c).isDigit = true := by
  have hdigit := Text.isDigit_of_decimalValue? h
  by_cases hascii : c.toNat < 127
  · rw [plainForm, if_pos hascii]
    rwa [Text.isDigit, if_pos (Nat.lt_succ_of_lt hascii)] at hdigit
  · obtain ⟨d, hd⟩ := Option.isSome_iff_exists.mp h
    rw [plainForm, if_neg hascii, Text.not_isBlank_of_isDigit hdigit, hd]
    exact isDigit_digitChar d (Text.decimalValue?_lt hd)

/-- The reader sees a digit of another kind as a question mark. -/
theorem plainForm_eq_mark {c : Char} (hdigit : Text.isDigit c = true) (h : ¬ (Text.decimalValue? c).isSome = true) :
    plainForm c = '?' := by
  have hascii : ¬ c.toNat < 128 := by
    intro hascii
    rw [Text.isDigit, if_pos hascii] at hdigit
    rw [Text.decimalValue?, if_pos hascii, if_pos hdigit] at h
    exact h rfl
  rw [plainForm, if_neg fun hlt => hascii (Nat.lt_succ_of_lt hlt), Text.not_isBlank_of_isDigit hdigit,
    Option.not_isSome_iff_eq_none.mp h]
  rfl

/-- The form of a text of digits: decimal digits of ASCII and question marks. -/
def IsDigitForm (cs : List Char) : Prop := ∀ c ∈ cs, c.isDigit = true ∨ c = '?'

theorem isDigitForm_map {cs : List Char} (h : ∀ c ∈ cs, Text.isDigit c = true) : IsDigitForm (cs.map plainForm) := by
  intro d hd
  obtain ⟨c, hc, rfl⟩ := List.mem_map.mp hd
  by_cases hdecimal : (Text.decimalValue? c).isSome = true
  · exact Or.inl (isDigit_plainForm hdecimal)
  · exact Or.inr (plainForm_eq_mark (h c hc) hdecimal)

theorem not_blank_of_digit_or {c : Char} (h : c.isDigit = true ∨ c = '?') : isAsciiBlank c = false := by
  rcases h with h | rfl
  · have hbounds := isDigit_bounds h
    have hspace : c ≠ ' ' := by
      rintro rfl
      exact absurd h (by decide)
    simp [isAsciiBlank, hspace]
    omega
  · decide

theorem dropWhile_isAsciiBlank {cs : List Char} (h : IsDigitForm cs) : cs.dropWhile isAsciiBlank = cs := by
  cases cs with
  | nil => rfl
  | cons c cs => exact List.dropWhile_cons_of_neg (by rw [not_blank_of_digit_or (h c List.mem_cons_self)]; decide)

theorem trimWhile_isAsciiBlank {cs : List Char} (h : IsDigitForm cs) : Text.trimWhile isAsciiBlank cs = cs := by
  have hreverse : IsDigitForm cs.reverse := fun c hc => h c (List.mem_reverse.mp hc)
  rw [Text.trimWhile, dropWhile_isAsciiBlank h, Text.dropEndWhile, dropWhile_isAsciiBlank hreverse,
    List.reverse_reverse]

theorem signed_of_isDigitForm {cs : List Char} (h : IsDigitForm cs) : signed cs = (false, cs) := by
  unfold signed
  split
  · exact absurd (h '-' List.mem_cons_self) (by decide)
  · exact absurd (h '+' List.mem_cons_self) (by decide)
  · rfl

theorem digitRun_of_isDigitForm {cs : List Char} (h : IsDigitForm cs) :
    digitRun false cs = some (cs.takeWhile Char.isDigit, cs.dropWhile Char.isDigit) := by
  induction cs with
  | nil => rfl
  | cons c cs ih =>
      have htail : IsDigitForm cs := fun c' hc' => h c' (List.mem_cons_of_mem _ hc')
      rw [digitRun]
      by_cases hdigit : c.isDigit = true
      · rw [if_pos hdigit, ih htail, List.takeWhile_cons_of_pos hdigit, List.dropWhile_cons_of_pos hdigit]
        rfl
      · obtain rfl : c = '?' := (h c List.mem_cons_self).resolve_left hdigit
        rfl

/-- After a mark a run needs a digit; then it goes on as after a digit. -/
theorem digitRun_true_cons (c : Char) (cs : List Char) :
    digitRun true (c :: cs) = if c.isDigit then digitRun false (c :: cs) else none := by
  by_cases hdigit : c.isDigit = true
  · rw [digitRun, digitRun, if_pos hdigit, if_pos hdigit, if_pos hdigit]
  · rw [digitRun, if_neg hdigit, if_neg hdigit, if_pos rfl]

theorem readInteger_of_isDigitForm {text : String} (h : IsDigitForm (text.toList.map plainForm)) :
    readInteger text =
      match digitRun true (text.toList.map plainForm) with
      | none => .error (.malformed text)
      | some (ds, rest) =>
        if maxDigits < ds.length then .error (.tooLong ds.length)
        else if rest.isEmpty then .ok (ofDigits ds : Int)
        else .error (.malformed text) := by
  rw [readInteger, trimWhile_isAsciiBlank h, signed_of_isDigitForm h]
  rfl

/-- The text is one that denotes a number: decimal digits only, and not too many of them. -/
def IsNumeral (text : String) : Prop :=
  (∀ c ∈ text.toList, (Text.decimalValue? c).isSome = true) ∧ text.toList.length ≤ maxDigits

instance (text : String) : Decidable (IsNumeral text) :=
  inferInstanceAs (Decidable (_ ∧ _))

theorem allDigits_iff {text : String} :
    Text.allDigits text = true ↔ text.toList ≠ [] ∧ ∀ c ∈ text.toList, Text.isDigit c = true := by
  rw [Text.allDigits, Bool.and_eq_true, List.all_eq_true]
  simp

theorem readNatural_of_isNumeral {text : String} (hne : text.toList ≠ []) (h : IsNumeral text) :
    readNatural text = .ok (ofDigits (text.toList.map plainForm)) := by
  obtain ⟨hdecimal, hlength⟩ := h
  have hform := isDigitForm_map fun c hc => Text.isDigit_of_decimalValue? (hdecimal c hc)
  have hall : ∀ d ∈ text.toList.map plainForm, d.isDigit = true := by
    intro d hd
    obtain ⟨c, hc, rfl⟩ := List.mem_map.mp hd
    exact isDigit_plainForm (hdecimal c hc)
  have hrun : digitRun true (text.toList.map plainForm) = some (text.toList.map plainForm, []) := by
    obtain ⟨c, cs, hcs⟩ := List.exists_cons_of_ne_nil (mt List.map_eq_nil_iff.mp hne)
    rw [hcs] at hform hall ⊢
    rw [digitRun_true_cons, if_pos (hall c List.mem_cons_self), digitRun_of_isDigitForm hform,
      List.takeWhile_eq_self_iff.mpr hall, List.dropWhile_eq_nil_iff.mpr hall]
  rw [readNatural, readInteger_of_isDigitForm hform, hrun]
  simp only [List.length_map, if_neg (Nat.not_lt.mpr hlength), List.isEmpty_nil, if_true]
  rfl

/-- Conversion goes through just if the run of decimal digits takes up the whole text. -/
theorem isDigit_of_readInteger {text : String} {c : Char} {cs : List Char} (htext : text.toList.map plainForm = c :: cs)
    (h : IsDigitForm (c :: cs)) {i : Int} (hi : readInteger text = .ok i) :
    (∀ d ∈ c :: cs, d.isDigit = true) ∧ (c :: cs).length ≤ maxDigits := by
  rw [readInteger_of_isDigitForm (by rwa [htext]), htext, digitRun_true_cons] at hi
  by_cases hdigit : c.isDigit = true
  · rw [if_pos hdigit, digitRun_of_isDigitForm h] at hi
    simp only at hi
    split_ifs at hi with hlong hend
    have hall : ∀ d ∈ c :: cs, d.isDigit = true := List.dropWhile_eq_nil_iff.mp (List.isEmpty_iff.mp hend)
    rw [List.takeWhile_eq_self_iff.mpr hall] at hlong
    exact ⟨hall, Nat.not_lt.mp hlong⟩
  · rw [if_neg hdigit] at hi
    cases hi

theorem isNumeral_of_readNatural {text : String} (hdigits : Text.allDigits text = true) {n : Nat}
    (h : readNatural text = .ok n) : IsNumeral text := by
  obtain ⟨hne, hdigits⟩ := allDigits_iff.mp hdigits
  obtain ⟨c, cs, hcs⟩ := List.exists_cons_of_ne_nil (mt List.map_eq_nil_iff.mp hne)
  obtain ⟨i, hi, -⟩ := map_eq_ok_iff.mp h
  have hform := isDigitForm_map hdigits
  rw [hcs] at hform
  obtain ⟨hall, hlength⟩ := isDigit_of_readInteger hcs hform hi
  rw [← hcs] at hall hlength
  refine ⟨fun d hd => ?_, by rwa [List.length_map] at hlength⟩
  by_contra hdecimal
  have hmark := hall _ (List.mem_map_of_mem hd)
  rw [plainForm_eq_mark (hdigits d hd) hdecimal] at hmark
  exact absurd hmark (by decide)

/-- A text of digits is converted just if it is a numeral. -/
theorem readNatural_ok_iff {text : String} (hdigits : Text.allDigits text = true) :
    (∃ n, readNatural text = .ok n) ↔ IsNumeral text :=
  ⟨fun ⟨_, hn⟩ => isNumeral_of_readNatural hdigits hn,
    fun h => ⟨_, readNatural_of_isNumeral (allDigits_iff.mp hdigits).1 h⟩⟩

theorem superscript_not_numeral : Text.allDigits "²" = true ∧ ¬ IsNumeral "²" := by
  refine ⟨by simp [Text.allDigits, Text.superscript_two.1], fun hnumeral => ?_⟩
  have hdecimal := hnumeral.1 '²' (by simp)
  rw [Text.superscript_two.2] at hdecimal
  cases hdecimal

end Number

end EdgeRoutes
