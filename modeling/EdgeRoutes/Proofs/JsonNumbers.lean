import EdgeRoutes.Data.Json.Reader
import EdgeRoutes.Data.Json.Writer
import EdgeRoutes.Proofs.ShortestDecimals
import EdgeRoutes.Proofs.TimeValues

/-! Numbers in JSON text. The text of a whole number, and that of a number of 64 bits in either notation, is read as the
number, whatever follows, unless the number goes on there. -/

namespace EdgeRoutes.Json

open Number

section Numbers

/-- The whole digits of a number: a single zero, or digits that do not start with one. -/
structure Whole (ds : List Char) : Prop where
  digits : ∀ c ∈ ds, c.isDigit = true
  start : ds = ['0'] ∨ ∃ c cs, ds = c :: cs ∧ c ≠ '0'

/-- The text does not go on with a digit. -/
def Stops (cs : List Char) : Prop := ∀ c, cs.head? = some c → c.isDigit = false

theorem wholeDigits?_append {ds more : List Char} (hds : Whole ds) (hmore : Stops more) :
    wholeDigits? (ds ++ more) = some (ds, more) := by
  rcases hds.start with rfl | ⟨c, cs, rfl, hc⟩
  · rfl
  · have hspan := Http.takeWhile_of_head hds.digits hmore
    have hdigit : c.isDigit = true := hds.digits c List.mem_cons_self
    rw [List.cons_append] at *
    rw [wholeDigits?]
    · rw [if_pos hdigit, hspan.1, hspan.2]
    · exact fun heq => hc heq

theorem fraction?_append {ds more : List Char} (hds : ∀ c ∈ ds, c.isDigit = true) (hne : ds ≠ []) (hmore : Stops more) :
    fraction? ('.' :: (ds ++ more)) = some (ds, more) := by
  have hspan := Http.takeWhile_of_head hds hmore
  obtain ⟨c, cs, rfl⟩ := List.exists_cons_of_ne_nil hne
  simp only [fraction?, hspan.1, hspan.2]

theorem fraction?_eq_none {cs : List Char} (h : cs.head? ≠ some '.') : fraction? cs = none := by
  unfold fraction?
  split
  · exact absurd rfl h
  · rfl

/-- An exponent as it is written. -/
theorem exponent?_append (negative : Bool) {ds more : List Char} (hds : ∀ c ∈ ds, c.isDigit = true) (hne : ds ≠ [])
    (hmore : Stops more) : exponent? ('e' :: (if negative then '-' else '+') :: (ds ++ more)) =
      some (if negative then -(ofDigits ds : Int) else ofDigits ds, more) := by
  have hspan := Http.takeWhile_of_head hds hmore
  obtain ⟨c, cs, rfl⟩ := List.exists_cons_of_ne_nil hne
  rw [List.cons_append] at hspan
  cases negative <;> simp [exponent?, signed, hspan.1, hspan.2]

theorem exponent?_eq_none {cs : List Char} (h : ∀ c, cs.head? = some c → c ≠ 'e' ∧ c ≠ 'E') : exponent? cs = none := by
  cases cs with
  | nil => rfl
  | cons c cs =>
      have hc := h c rfl
      simp [exponent?, hc]

/-- A part of a number that may be missing is read as it was written. -/
def ReadsPart {α : Type} (part? : List Char → Option (α × List Char)) (part : Option α) (cs rest : List Char) : Prop :=
  match part with
  | some a => part? cs = some (a, rest)
  | none => part? cs = none ∧ cs = rest

theorem Whole.head {ds : List Char} (hds : Whole ds) : ∃ c cs, ds = c :: cs ∧ c.isDigit = true := by
  have hcons : ∃ c cs, ds = c :: cs := by
    rcases hds.start with rfl | ⟨c, cs, rfl, -⟩
    · exact ⟨_, _, rfl⟩
    · exact ⟨c, cs, rfl⟩
  obtain ⟨c, cs, rfl⟩ := hcons
  exact ⟨c, cs, rfl, hds.digits c List.mem_cons_self⟩

/-- The sign of a number as it is written. -/
def sign (negative : Bool) : List Char := if negative then ['-'] else []

/-- The parts of a number after its sign. -/
def unsigned? (negative : Bool) (cs : List Char) : Option (NumberText × List Char) := do
  let (digits, rest) ← wholeDigits? cs
  let (fraction, rest) := match fraction? rest with
    | some (ds, rest) => (some ds, rest)
    | none => (none, rest)
  let (exponent, rest) := match exponent? rest with
    | some (n, rest) => (some n, rest)
    | none => (none, rest)
  return (⟨negative, digits, fraction, exponent⟩, rest)

theorem number?_sign (negative : Bool) {whole : List Char} (hwhole : Whole whole) (more : List Char) :
    number? (sign negative ++ (whole ++ more)) = unsigned? negative (whole ++ more) := by
  cases negative with
  | true => rfl
  | false =>
      obtain ⟨c, cs, rfl, hc⟩ := hwhole.head
      have hminus : c ≠ '-' := by
        rintro rfl
        cases hc
      unfold number?
      dsimp only [sign, Bool.false_eq_true, if_false, List.nil_append, List.cons_append]
      split
      · next heq => exact absurd (List.cons.inj heq).1 hminus
      · rfl

/-- A number is read part by part. -/
theorem number?_eq (negative : Bool) {whole more after rest : List Char} {fraction : Option (List Char)}
    {exponent : Option Int} (hwhole : Whole whole) (hmore : Stops more)
    (hfraction : ReadsPart fraction? fraction more after) (hexponent : ReadsPart exponent? exponent after rest) :
    number? (sign negative ++ (whole ++ more)) = some (⟨negative, whole, fraction, exponent⟩, rest) := by
  rw [number?_sign negative hwhole more, unsigned?, wholeDigits?_append hwhole hmore]
  cases fraction <;> cases exponent <;> simp only [ReadsPart] at hfraction hexponent
  · obtain ⟨hfraction, rfl⟩ := hfraction
    obtain ⟨hexponent, rfl⟩ := hexponent
    simp [hfraction, hexponent]
  · obtain ⟨hfraction, rfl⟩ := hfraction
    simp [hfraction, hexponent]
  · obtain ⟨hexponent, rfl⟩ := hexponent
    simp [hfraction, hexponent]
  · simp [hfraction, hexponent]

/-- No number goes on with the text. -/
def Ends (cs : List Char) : Prop := ∀ c, cs.head? = some c → c.isDigit = false ∧ c ≠ '.' ∧ c ≠ 'e' ∧ c ≠ 'E'

variable {rest : List Char}

theorem ends_nil : Ends [] := by
  rintro _ ⟨⟩

theorem Ends.stops (h : Ends rest) : Stops rest := fun c hc => (h c hc).1

theorem Ends.fraction?_eq_none (h : Ends rest) : fraction? rest = none :=
  Json.fraction?_eq_none fun hc => (h _ hc).2.1 rfl

theorem Ends.exponent?_eq_none (h : Ends rest) : exponent? rest = none :=
  Json.exponent?_eq_none fun c hc => (h c hc).2.2

theorem stops_cons {c : Char} (h : c.isDigit = false) (cs : List Char) : Stops (c :: cs) := by
  rintro _ ⟨⟩
  exact h

theorem isDigit_of_mem_toDigits {n : Nat} {c : Char} (hc : c ∈ Nat.toDigits 10 n) : c.isDigit = true :=
  Nat.isDigit_of_mem_toDigits (by decide) (by decide) hc

theorem isDigit_zeros (k : Nat) : ∀ c ∈ List.replicate k '0', c.isDigit = true := by
  intro c hc
  rw [List.eq_of_mem_replicate hc]
  rfl

theorem whole_toDigits (n : Nat) : Whole (Nat.toDigits 10 n) where
  digits _ hc := isDigit_of_mem_toDigits hc
  start := by
    rcases Nat.eq_zero_or_pos n with rfl | hn
    · exact Or.inl rfl
    · exact Or.inr (toDigits_head hn)

def ReadsNumber (text : List Char) (value : Scalar) : Prop :=
  ∀ rest, Ends rest → ∃ t : NumberText, number? (text ++ rest) = some (t, rest) ∧ t.value = .ok value

theorem toList_toString_int (n : Int) : (toString n).toList = sign (decide (n < 0)) ++ Nat.toDigits 10 n.natAbs := by
  rw [Int.toString_eq_repr, Int.repr_eq_if]
  split_ifs with hn
  · rw [decide_eq_false hn.not_gt, Nat.toList_repr, show n.toNat = n.natAbs by omega]
    rfl
  · rw [decide_eq_true (not_le.mp hn), String.toList_append, Nat.toList_repr, show (-n).toNat = n.natAbs by omega]
    rfl

theorem readsNumber_int {n : Int} (hn : (Nat.toDigits 10 n.natAbs).length ≤ maxDigits) :
    ReadsNumber (toString n).toList (.int n) := by
  intro rest hrest
  refine ⟨⟨decide (n < 0), Nat.toDigits 10 n.natAbs, none, none⟩, ?_, ?_⟩
  · rw [toList_toString_int, List.append_assoc]
    exact number?_eq _ (whole_toDigits _) hrest.stops ⟨hrest.fraction?_eq_none, rfl⟩ ⟨hrest.exponent?_eq_none, rfl⟩
  · simp only [NumberText.value, Option.isNone_none, Bool.and_self, if_true, if_neg hn.not_gt, ofDigits_toDigits,
      decide_eq_true_eq]
    congr 2
    split_ifs <;> omega

variable {negative : Bool} {x : Magnitude}

/-- A text with a fraction or an exponent is read as the number of 64 bits that is nearest to it. -/
theorem readsNumber_of_parts {whole tail : List Char} (hwhole : Whole whole) (fraction : Option (List Char))
    (exponent : Option Int) (hfloat : (fraction.isNone && exponent.isNone) = false)
    (hparts : ∀ rest, Ends rest → Stops (tail ++ rest) ∧
      ∃ after, ReadsPart fraction? fraction (tail ++ rest) after ∧ ReadsPart exponent? exponent after rest)
    (hvalue : Magnitude.ofDecimal (ofDigits (whole ++ fraction.getD []))
      (exponent.getD 0 - (fraction.getD []).length) = some x) :
    ReadsNumber (sign negative ++ (whole ++ tail)) (.float (.finite negative x)) := by
  intro rest hrest
  obtain ⟨hstops, after, hfraction, hexponent⟩ := hparts rest hrest
  refine ⟨⟨negative, whole, fraction, exponent⟩, ?_, ?_⟩
  · rw [List.append_assoc, List.append_assoc]
    exact number?_eq negative hwhole hstops hfraction hexponent
  · simp only [NumberText.value, hfloat, Bool.false_eq_true, if_false, Binary64.ofDecimal, hvalue]

theorem exists_digits {d : Decimal} (hd : d.Reads x) : ∃ c cs, d.digits = c :: cs := by
  rcases hd.start with hzero | ⟨c, cs, hcons, -⟩
  · exact ⟨_, _, by rw [hzero]⟩
  · exact ⟨c, cs, hcons⟩

/-- Positional notation reads as the decimal that it writes. -/
theorem readsNumber_positional {d : Decimal} (hd : d.Reads x) :
    ReadsNumber (sign negative ++ d.positional) (.float (.finite negative x)) := by
  have hfraction {ds : List Char} (hds : ∀ c ∈ ds, c.isDigit = true) (hne : ds ≠ []) (rest : List Char)
      (hrest : Ends rest) : Stops ('.' :: ds ++ rest) ∧ ∃ after, ReadsPart fraction? (some ds) ('.' :: ds ++ rest) after ∧
        ReadsPart exponent? none after rest :=
    ⟨stops_cons rfl _, rest, fraction?_append hds hne hrest.stops, hrest.exponent?_eq_none, rfl⟩
  have hne : d.digits ≠ [] := by
    obtain ⟨c, cs, hcons⟩ := exists_digits hd
    exact hcons ▸ List.cons_ne_nil _ _
  unfold Decimal.positional
  dsimp only
  split_ifs with hsmall hlarge
  · have hdigits : ∀ c ∈ List.replicate (-d.point).toNat '0' ++ d.digits, c.isDigit = true :=
      List.forall_mem_append.mpr ⟨isDigit_zeros _, hd.digits⟩
    have hwhole : Whole ['0'] := ⟨List.forall_mem_singleton.mpr rfl, Or.inl rfl⟩
    refine readsNumber_of_parts hwhole (some _) none rfl (hfraction hdigits (by simp [hne])) ?_
    rw [← hd.value]
    simp only [Option.getD_some, Option.getD_none, List.singleton_append, ← List.cons_append, ← List.replicate_succ,
      ofDigits_zeros_append]
    congr 1
    simp
    omega
  · have hwhole : Whole (d.digits ++ List.replicate (d.point.toNat - d.digits.length) '0') := by
      refine ⟨List.forall_mem_append.mpr ⟨hd.digits, isDigit_zeros _⟩, ?_⟩
      rcases hd.start with hzero | ⟨c, cs, hcons, hc⟩
      · exact Or.inl (by rw [hzero]; rfl)
      · exact Or.inr ⟨c, _, by rw [hcons, List.cons_append], hc⟩
    have hzero : ∀ c ∈ ['0'], c.isDigit = true := List.forall_mem_singleton.mpr rfl
    refine readsNumber_of_parts hwhole (some _) none rfl (hfraction hzero (List.cons_ne_nil _ _)) ?_
    rw [← hd.value, Option.getD_some, List.append_assoc, ← List.replicate_succ', ofDigits_append_zeros,
      Magnitude.ofDecimal_mul_pow]
    congr 1
    simp
    omega
  · have hpoint : 0 < d.point.toNat := by omega
    have hwhole : Whole (d.digits.take d.point.toNat) := by
      refine ⟨fun c hc => hd.digits c (List.mem_of_mem_take hc), ?_⟩
      rcases hd.start with hzero | ⟨c, cs, hcons, hc⟩
      · exact Or.inl (by rw [hzero]; rfl)
      · refine Or.inr ⟨c, cs.take (d.point.toNat - 1), ?_, hc⟩
        rw [hcons, List.take_cons hpoint]
    have hmore : d.digits.drop d.point.toNat ≠ [] := by
      rw [ne_eq, List.drop_eq_nil_iff]
      omega
    have hdigits : ∀ c ∈ d.digits.drop d.point.toNat, c.isDigit = true :=
      fun c hc => hd.digits c (List.mem_of_mem_drop hc)
    refine readsNumber_of_parts hwhole (some _) none rfl (hfraction hdigits hmore) ?_
    rw [← hd.value, Option.getD_some, List.take_append_drop]
    congr 1
    simp
    omega

/-- The exponent part of scientific notation. -/
def exponentText (e : Int) : List Char :=
  let digits := Nat.toDigits 10 e.natAbs
  'e' :: (if e < 0 then '-' else '+') :: (List.replicate (2 - digits.length) '0' ++ digits)

theorem exponent?_exponentText (e : Int) (hrest : Ends rest) : exponent? (exponentText e ++ rest) = some (e, rest) := by
  have hdigits : ∀ c ∈ List.replicate (2 - (Nat.toDigits 10 e.natAbs).length) '0' ++ Nat.toDigits 10 e.natAbs,
      c.isDigit = true :=
    List.forall_mem_append.mpr ⟨isDigit_zeros _, fun _ hc => isDigit_of_mem_toDigits hc⟩
  have hne : List.replicate (2 - (Nat.toDigits 10 e.natAbs).length) '0' ++ Nat.toDigits 10 e.natAbs ≠ [] :=
    List.append_ne_nil_of_right_ne_nil _ (List.ne_nil_of_length_pos Nat.length_toDigits_pos)
  have hread := exponent?_append (decide (e < 0)) hdigits hne hrest.stops
  rw [ofDigits_zeros_append, ofDigits_toDigits] at hread
  simp only [decide_eq_true_eq] at hread
  rw [exponentText, List.cons_append, List.cons_append, hread]
  congr 2
  split_ifs <;> omega

/-- Scientific notation reads as the decimal that it writes. -/
theorem readsNumber_scientific {d : Decimal} (hd : d.Reads x) :
    ReadsNumber (sign negative ++ d.scientific) (.float (.finite negative x)) := by
  obtain ⟨c, cs, hcons⟩ := exists_digits hd
  have hdigits : ∀ b ∈ c :: cs, b.isDigit = true := hcons ▸ hd.digits
  have hwhole : Whole [c] := by
    refine ⟨fun b hb => hdigits b (List.mem_cons.mpr (Or.inl (List.mem_singleton.mp hb))), ?_⟩
    rcases hd.start with hzero | ⟨b, bs, hstart, hb⟩
    · rw [hzero] at hcons
      exact Or.inl (by rw [(List.cons.inj hcons).1])
    · exact Or.inr ⟨c, [], rfl, (List.cons.inj (hcons.symm.trans hstart)).1 ▸ hb⟩
  have hvalue : Magnitude.ofDecimal (ofDigits (c :: cs)) (d.point - 1 - cs.length) = some x := by
    rw [← hd.value, hcons]
    congr 1
    simp
    omega
  have hstops (rest : List Char) : Stops (exponentText (d.point - 1) ++ rest) := stops_cons rfl _
  cases cs with
  | nil =>
      have htext : d.scientific = [c] ++ exponentText (d.point - 1) := by
        simp only [Decimal.scientific, hcons]
        rfl
      rw [htext]
      refine readsNumber_of_parts hwhole none (some (d.point - 1)) rfl (fun rest hrest => ?_) hvalue
      exact ⟨hstops rest, _, ⟨fraction?_eq_none (by simp [exponentText]), rfl⟩, exponent?_exponentText _ hrest⟩
  | cons b bs =>
      have htext : d.scientific = [c] ++ ('.' :: (b :: bs ++ exponentText (d.point - 1))) := by
        simp only [Decimal.scientific, hcons]
        rfl
      have hfraction (rest : List Char) : fraction? ('.' :: (b :: bs ++ exponentText (d.point - 1)) ++ rest) =
          some (b :: bs, exponentText (d.point - 1) ++ rest) := by
        rw [List.cons_append, List.append_assoc]
        exact fraction?_append (fun a ha => hdigits a (List.mem_cons_of_mem _ ha)) (List.cons_ne_nil _ _) (hstops rest)
      rw [htext]
      refine readsNumber_of_parts hwhole (some (b :: bs)) (some (d.point - 1)) rfl (fun rest hrest => ?_) hvalue
      exact ⟨stops_cons rfl _, _, hfraction rest, exponent?_exponentText _ hrest⟩

/-- A finite number is read back from its text. -/
theorem readsNumber_float (hx : x.Fits) :
    ReadsNumber (float (.finite negative x)).toList (.float (.finite negative x)) := by
  have htext : (float (.finite negative x)).toList = sign negative ++ x.shortest.text := String.toList_ofList
  rw [htext, Decimal.text]
  split_ifs
  · exact readsNumber_positional (Magnitude.reads_shortest hx)
  · exact readsNumber_scientific (Magnitude.reads_shortest hx)

end Numbers

end EdgeRoutes.Json
