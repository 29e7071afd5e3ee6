import EdgeRoutes.Proofs.Conversions
import EdgeRoutes.Proofs.GrammarFaults
import Mathlib.Tactic.Ring

/-! Conversions of patterns. A pattern is translated just if the grammar check of its source comes to a verdict, as it
does for every source without long counts and without flags. -/

namespace EdgeRoutes.Pattern

open Number Grammar

/-- The text that the grammar check of a pattern reads. -/
def checkedText (pattern : String) : List Char :=
  checkedCopy (sourceOf (pieces (leadingIgnoreCase pattern.toList).2))

/-- The grammar check of a pattern comes to a verdict. A pattern with problems is not checked. -/
def Checks (pattern : String) : Prop :=
  problemsOf (pieces (leadingIgnoreCase pattern.toList).2) = [] →
    ∃ verdict, rejection? (checkedText pattern) = .ok verdict

theorem isConversion_of_repeatCount {digits : List Char} {fault : Fault}
    (h : Reader.repeatCount digits = .error (.fault fault)) : fault.isConversion = true := by
  unfold Reader.repeatCount at h
  split at h
  · cases h
    rfl
  · split_ifs at h
    cases h
    rfl

theorem needs_rejection? (cs : List Char) : Needs (rejection? cs) (∃ verdict, rejection? cs = .ok verdict) := by
  refine ⟨Iff.rfl, fun fault hfault => ?_⟩
  rcases fault_of_rejection? hfault with ⟨digits, -, -, -, hcount⟩ | ⟨rfl, -⟩
  · exact isConversion_of_repeatCount hcount
  · rfl

theorem needs_compileProblems (source : List Char) :
    Needs (compileProblems source) (∃ verdict, rejection? (checkedCopy source) = .ok verdict) :=
  (needs_rejection? (checkedCopy source)).bind_ok fun verdict => by cases verdict <;> exact .ok _

theorem needs_translate (pattern : String) (dialect : Dialect) (ignoreCase : Bool) :
    Needs (translate pattern dialect ignoreCase) (Checks pattern) := by
  rcases hleading : leadingIgnoreCase pattern.toList with ⟨leading, body⟩
  simp only [translate, Checks, checkedText, hleading]
  cases hproblems : problemsOf (pieces body) with
  | nil => exact ((needs_compileProblems _).bind_ok fun problems => .ok _).congr (by simp)
  | cons p ps => exact (Needs.ok _).congr (by simp)

/-- The text has no run of ten digits. -/
def ShortCounts (cs : List Char) : Prop :=
  ∀ digits, digits <:+: cs → (∀ c ∈ digits, c.isDigit = true) → digits.length < 10

theorem foldl_digits_lt (ds : List Char) (n : Nat) (h : ∀ d ∈ ds, d.isDigit = true) :
    ds.foldl (fun n d => 10 * n + (d.toNat - 48)) n < (n + 1) * 10 ^ ds.length := by
  induction ds generalizing n with
  | nil => simp
  | cons d ds ih =>
      obtain ⟨hd, hds⟩ := List.forall_mem_cons.mp h
      have hbounds := isDigit_bounds hd
      calc ds.foldl (fun n d => 10 * n + (d.toNat - 48)) (10 * n + (d.toNat - 48))
          < (10 * n + (d.toNat - 48) + 1) * 10 ^ ds.length := ih _ hds
        _ ≤ (10 * (n + 1)) * 10 ^ ds.length := Nat.mul_le_mul_right _ (by omega)
        _ = (n + 1) * 10 ^ (d :: ds).length := by rw [List.length_cons, pow_succ]; ring

theorem plainForm_of_isDigit {c : Char} (h : c.isDigit = true) : plainForm c = c := by
  rw [plainForm, if_pos (by have := isDigit_bounds h; omega)]

theorem isNumeral_of_isDigit {digits : List Char} (h : ∀ c ∈ digits, c.isDigit = true)
    (hlength : digits.length ≤ maxDigits) : IsNumeral (String.ofList digits) := by
  rw [IsNumeral, String.toList_ofList]
  refine ⟨fun c hc => ?_, hlength⟩
  have hbounds := isDigit_bounds (h c hc)
  rw [Text.decimalValue?, if_pos (by omega), if_pos (h c hc)]
  rfl

/-- A number below the bound is a repetition count. -/
theorem repeatCount_of_lt {digits : List Char} (hne : digits ≠ []) (hdigits : ∀ c ∈ digits, c.isDigit = true)
    (hlength : digits.length ≤ maxDigits) (hlt : ofDigits digits < maxRepeat) :
    Reader.repeatCount digits = .ok (ofDigits digits) := by
  have hread := readNatural_of_isNumeral (by rwa [String.toList_ofList]) (isNumeral_of_isDigit hdigits hlength)
  have hplain : digits.map plainForm = digits :=
    (List.map_congr_left fun c hc => plainForm_of_isDigit (hdigits c hc)).trans (List.map_id' digits)
  rw [String.toList_ofList, hplain] at hread
  rw [Reader.repeatCount, hread]
  exact if_neg (Nat.not_le.mpr hlt)

theorem repeatCount_of_short {digits : List Char} (hne : digits ≠ []) (hdigits : ∀ c ∈ digits, c.isDigit = true)
    (hshort : digits.length < 10) : ∃ n, Reader.repeatCount digits = .ok n := by
  have hlt : ofDigits digits < maxRepeat := by
    have hpow : 10 ^ digits.length ≤ 10 ^ 9 := Nat.pow_le_pow_right (by omega) (by omega)
    have hvalue : ofDigits digits < (0 + 1) * 10 ^ digits.length := foldl_digits_lt digits 0 hdigits
    rw [maxRepeat]
    omega
  exact ⟨_, repeatCount_of_lt hne hdigits (by rw [maxDigits]; omega) hlt⟩

/-- Without long counts and flags, a pattern is translated. -/
theorem checks_of_short {pattern : String} (hcounts : ShortCounts (checkedText pattern))
    (hflags : ¬ Reader.HasFlags (checkedText pattern)) : Checks pattern := by
  intro _
  cases hresult : rejection? (checkedText pattern) with
  | ok verdict => exact ⟨verdict, rfl⟩
  | error fault =>
      exfalso
      rcases fault_of_rejection? hresult with ⟨digits, hne, hinfix, hdigits, hcount⟩ | ⟨-, hflagged⟩
      · obtain ⟨n, hn⟩ := repeatCount_of_short hne hdigits (hcounts digits hinfix hdigits)
        rw [hn] at hcount
        cases hcount
      · exact hflags hflagged

end EdgeRoutes.Pattern
