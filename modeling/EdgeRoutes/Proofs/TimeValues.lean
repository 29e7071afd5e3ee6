import EdgeRoutes.Proofs.BinarySums
import EdgeRoutes.Proofs.Conversions

/-! Time values. A text is one if it can be divided into parts: digits, a unit or none, and blanks. Divided so that no
run of digits is broken it has one division only, and its seconds are the sum over those parts, without rounding as long
as that is at most `2 ^ 53`. -/

namespace EdgeRoutes.Http

open Number

def TimeUnit.letters : TimeUnit → List Char
  | .millisecond => ['m', 's']
  | .second => ['s']
  | .minute => ['m']
  | .hour => ['h']
  | .day => ['d']
  | .week => ['w']
  | .month => ['M']
  | .year => ['y']

/-- A part of a time value as it is written: digits, a unit or none, and blanks. -/
structure TimePiece where
  digits : List Char
  unit : Option TimeUnit
  blanks : List Char
  deriving DecidableEq

namespace TimePiece

/-- There are digits, and they and the blanks are what they are called. -/
structure Valid (p : TimePiece) : Prop where
  ne_nil : p.digits ≠ []
  digits : ∀ c ∈ p.digits, isDecimal c = true
  blanks : ∀ c ∈ p.blanks, Text.isBlank c = true

theorem valid_iff {p : TimePiece} :
    p.Valid ↔ p.digits ≠ [] ∧ p.digits.all isDecimal = true ∧ p.blanks.all Text.isBlank = true := by
  rw [List.all_eq_true, List.all_eq_true]
  exact ⟨fun h => ⟨h.ne_nil, h.digits, h.blanks⟩, fun h => ⟨h.1, h.2.1, h.2.2⟩⟩

instance (p : TimePiece) : Decidable p.Valid := decidable_of_iff _ valid_iff.symm

/-- What follows the digits. -/
def tail (p : TimePiece) : List Char := p.unit.elim [] TimeUnit.letters ++ p.blanks

def text (p : TimePiece) : List Char := p.digits ++ p.tail

/-- The part without its blanks; an amount without a unit counts seconds. -/
def part (p : TimePiece) : TimePart := ⟨p.digits, p.unit.getD .second⟩

/-- The number that the digits denote. -/
def amount (p : TimePiece) : Nat := p.digits.foldl (fun n c => 10 * n + (Text.decimalValue? c).getD 0) 0

/-- The seconds of a part that has no milliseconds. -/
def seconds (p : TimePiece) : Nat := p.amount * (p.part.unit.seconds?.getD 0)

end TimePiece

/-- The text can be divided into parts, at least one. -/
def IsTime (cs : List Char) : Prop :=
  ∃ ps : List TimePiece, ps ≠ [] ∧ (∀ p ∈ ps, p.Valid) ∧ ps.flatMap TimePiece.text = cs

/-- Parts that break no run of digits: there is a unit or a blank between any two of them. -/
def Unbroken : List TimePiece → Prop
  | [] => True
  | p :: ps => p.Valid ∧ (p.tail = [] → ps = []) ∧ Unbroken ps

/-- A division of a text into parts that breaks no run of digits. -/
structure Divides (ps : List TimePiece) (cs : List Char) : Prop where
  ne_nil : ps ≠ []
  unbroken : Unbroken ps
  text : ps.flatMap TimePiece.text = cs

/-- The seconds of all parts. -/
def totalSeconds (ps : List TimePiece) : Nat := (ps.map TimePiece.seconds).sum

theorem TimeUnit.length_take_le (cs : List Char) : (TimeUnit.take cs).2.length ≤ cs.length := by
  obtain ⟨letters, hletters, -⟩ := TimeUnit.take_eq cs
  have hlength := congrArg List.length hletters
  rw [List.length_append] at hlength
  omega

/-- The amounts in a text, each with the unit after it, whatever stands between them. -/
def findParts (cs : List Char) : List TimePart :=
  match cs with
  | [] => []
  | c :: cs =>
    if isDecimal c then
      ⟨c :: cs.takeWhile isDecimal, (TimeUnit.take (cs.dropWhile isDecimal)).1⟩ ::
        findParts (TimeUnit.take (cs.dropWhile isDecimal)).2
    else findParts cs
termination_by cs.length
decreasing_by
  · have htake := TimeUnit.length_take_le (cs.dropWhile isDecimal)
    have hdrop := (List.dropWhile_suffix (p := isDecimal) (l := cs)).length_le
    simp only [List.length_cons]
    omega
  · exact Nat.lt_succ_self _

section Characters

theorem not_isBlank_of_isDecimal {c : Char} (h : isDecimal c = true) : Text.isBlank c = false :=
  Text.not_isBlank_of_isDigit (Text.isDigit_of_decimalValue? h)

theorem not_isDecimal_of_isBlank {c : Char} (h : Text.isBlank c = true) : isDecimal c = false := by
  cases hc : isDecimal c with
  | false => rfl
  | true => exact absurd h (by rw [not_isBlank_of_isDecimal hc]; decide)

/-- A letter of a unit. -/
def IsLetter (c : Char) : Prop := c ∈ ['m', 's', 'h', 'd', 'w', 'M', 'y']

theorem IsLetter.apart {c : Char} (h : IsLetter c) : isDecimal c = false ∧ Text.isBlank c = false := by
  have hall : (['m', 's', 'h', 'd', 'w', 'M', 'y'].all fun c => !isDecimal c && !Text.isBlank c) = true := by decide
  simpa using List.all_eq_true.mp hall c h

theorem TimeUnit.isLetter_of_mem {u : TimeUnit} {c : Char} (h : c ∈ u.letters) : IsLetter c := by
  have hall : u.letters ⊆ ['m', 's', 'h', 'd', 'w', 'M', 'y'] := by cases u <;> decide
  exact hall h

/-- The text does not begin with a letter of a unit. -/
def Unlettered (cs : List Char) : Prop := ∀ c, cs.head? = some c → ¬ IsLetter c

theorem TimeUnit.take_of_unlettered {cs : List Char} (h : Unlettered cs) : TimeUnit.take cs = (.second, cs) := by
  unfold TimeUnit.take
  split
  case h_9 => rfl
  all_goals exact absurd (by unfold IsLetter; decide) (h _ rfl)

/-- A unit is read as long as it can be. -/
theorem TimeUnit.take_letters {cs : List Char} (h : Unlettered cs) (u : TimeUnit) :
    TimeUnit.take (u.letters ++ cs) = (u, cs) := by
  cases u with
  | minute =>
      rw [letters, List.singleton_append, TimeUnit.take]
      rintro rest rfl
      exact h 's' rfl (by unfold IsLetter; decide)
  | _ => rfl

theorem TimeUnit.letters_inj {u v : Option TimeUnit} (h : u.elim [] letters = v.elim [] letters) : u = v := by
  have htake (u : TimeUnit) : (TimeUnit.take u.letters).1 = u := by cases u <;> rfl
  rcases u with _ | u <;> rcases v with _ | v
  · rfl
  · cases v <;> cases h
  · cases u <;> cases h
  · rw [← htake u, ← htake v]
    exact congrArg (fun cs => some (TimeUnit.take cs).1) h

end Characters

section Reading

theorem takeWhile_of_head {p : Char → Bool} {as bs : List Char} (has : ∀ c ∈ as, p c = true)
    (hbs : ∀ c, bs.head? = some c → p c = false) : (as ++ bs).takeWhile p = as ∧ (as ++ bs).dropWhile p = bs := by
  rw [List.takeWhile_append_of_pos has, List.dropWhile_append_of_pos has]
  cases bs with
  | nil => exact ⟨List.append_nil as, rfl⟩
  | cons b bs =>
      have hb : ¬ p b = true := by simp [hbs b rfl]
      rw [List.takeWhile_cons_of_neg hb, List.dropWhile_cons_of_neg hb, List.append_nil]
      exact ⟨rfl, rfl⟩

/-- The text is empty or begins with the next digits. -/
def Resumes (cs : List Char) : Prop := ∀ c, cs.head? = some c → isDecimal c = true

theorem Unbroken.valid {ps : List TimePiece} (h : Unbroken ps) : ∀ p ∈ ps, p.Valid := by
  induction ps with
  | nil => exact List.forall_mem_nil _
  | cons p ps ih => exact List.forall_mem_cons.mpr ⟨h.1, ih h.2.2⟩

theorem Unbroken.resumes {ps : List TimePiece} (h : Unbroken ps) : Resumes (ps.flatMap TimePiece.text) := by
  cases ps with
  | nil => nofun
  | cons p ps =>
      intro c hc
      obtain ⟨d, digits, hdigits⟩ := List.exists_cons_of_ne_nil h.1.ne_nil
      rw [List.flatMap_cons, TimePiece.text, hdigits] at hc
      obtain rfl := Option.some.inj hc
      exact h.1.digits d (hdigits ▸ List.mem_cons_self)

theorem TimePiece.Valid.text_append_ne_nil {p : TimePiece} (hp : p.Valid) (rest : List Char) : p.text ++ rest ≠ [] :=
  List.append_ne_nil_of_left_ne_nil (List.append_ne_nil_of_left_ne_nil hp.ne_nil _) rest

theorem flatMap_eq_nil {p : TimePiece} {ps : List TimePiece} (h : p.tail = [] → ps = []) :
    p.tail = [] → ps.flatMap TimePiece.text = [] := by
  intro htail
  rw [h htail, List.flatMap_nil]

variable {p : TimePiece} (hp : p.Valid) {rest : List Char}

include hp

/-- The digits of a part are read up to their end, if no more of them follow. -/
theorem TimePiece.Valid.read_digits (hapart : p.tail = [] → rest = []) :
    (p.text ++ rest).takeWhile isDecimal = p.digits ∧ (p.text ++ rest).dropWhile isDecimal = p.tail ++ rest := by
  rw [TimePiece.text, List.append_assoc]
  refine takeWhile_of_head hp.digits fun c hc => ?_
  cases htail : p.tail with
  | nil =>
      rw [htail, hapart htail] at hc
      cases hc
  | cons b tail =>
      rw [htail] at hc
      obtain rfl := Option.some.inj hc
      have hmem : b ∈ p.unit.elim [] TimeUnit.letters ++ p.blanks := by
        rw [← TimePiece.tail, htail]
        exact List.mem_cons_self
      rcases List.mem_append.mp hmem with hmem | hmem
      · cases hunit : p.unit with
        | none =>
            rw [hunit] at hmem
            cases hmem
        | some u =>
            rw [hunit] at hmem
            exact (TimeUnit.isLetter_of_mem hmem).apart.1
      · exact not_isDecimal_of_isBlank (hp.blanks b hmem)

variable (hrest : Resumes rest)

include hrest

theorem TimePiece.Valid.unlettered : Unlettered (p.blanks ++ rest) := by
  intro c hc hletter
  obtain ⟨hdecimal, hblank⟩ := hletter.apart
  cases hblanks : p.blanks with
  | nil =>
      rw [hblanks] at hc
      exact absurd (hrest c hc) (by rw [hdecimal]; decide)
  | cons b blanks =>
      rw [hblanks] at hc
      obtain rfl := Option.some.inj hc
      exact absurd (hp.blanks b (hblanks ▸ List.mem_cons_self)) (by rw [hblank]; decide)

/-- After its digits a part is read up to the digits of the next one. -/
theorem TimePiece.Valid.read_tail : TimeUnit.take (p.tail ++ rest) = (p.part.unit, p.blanks ++ rest) ∧
    (p.blanks ++ rest).takeWhile Text.isBlank = p.blanks ∧ (p.blanks ++ rest).dropWhile Text.isBlank = rest := by
  refine ⟨?_, takeWhile_of_head hp.blanks fun c hc => not_isBlank_of_isDecimal (hrest c hc)⟩
  rw [TimePiece.tail, TimePiece.part, List.append_assoc]
  cases p.unit with
  | none => exact TimeUnit.take_of_unlettered (hp.unlettered hrest)
  | some u => exact TimeUnit.take_letters (hp.unlettered hrest) u

theorem timeParts?_append (hapart : p.tail = [] → rest = []) :
    timeParts? (p.text ++ rest) = (timeParts? rest).map (p.part :: ·) := by
  obtain ⟨htake, hdrop⟩ := hp.read_digits hapart
  obtain ⟨hunit, -, hblanks⟩ := hp.read_tail hrest
  have hdigits : ¬ p.digits.isEmpty = true := mt List.isEmpty_iff.mp hp.ne_nil
  have hlt : rest.length < (p.text ++ rest).length := by
    rw [List.length_append, TimePiece.text, List.length_append]
    have hpos := List.length_pos_iff.mpr hp.ne_nil
    omega
  have hne : ¬ (p.text ++ rest).isEmpty = true := mt List.isEmpty_iff.mp (hp.text_append_ne_nil rest)
  rw [timeParts?, if_neg hne, htake, hdrop, hunit]
  simp only [hblanks]
  rw [if_neg hdigits, if_pos hlt]
  rfl

omit hp hrest in
theorem findParts_blanks {blanks : List Char} (h : ∀ c ∈ blanks, Text.isBlank c = true) :
    findParts (blanks ++ rest) = findParts rest := by
  induction blanks with
  | nil => rfl
  | cons b blanks ih =>
      obtain ⟨hb, hblanks⟩ := List.forall_mem_cons.mp h
      rw [List.cons_append, findParts, if_neg (by rw [not_isDecimal_of_isBlank hb]; decide), ih hblanks]

/-- The first part of a time is found where its text ends. -/
theorem findParts_append (hapart : p.tail = [] → rest = []) :
    findParts (p.text ++ rest) = p.part :: findParts rest := by
  obtain ⟨htake, hdrop⟩ := hp.read_digits hapart
  obtain ⟨hunit, -, -⟩ := hp.read_tail hrest
  cases hcs : p.text ++ rest with
  | nil =>
      rw [hcs] at htake
      exact absurd htake.symm hp.ne_nil
  | cons c cs =>
      rw [hcs] at htake hdrop
      have hc : isDecimal c = true := by
        by_contra hc
        rw [List.takeWhile_cons_of_neg hc] at htake
        exact hp.ne_nil htake.symm
      rw [List.takeWhile_cons_of_pos hc] at htake
      rw [List.dropWhile_cons_of_pos hc] at hdrop
      rw [findParts, if_pos hc, htake, hdrop, hunit, findParts_blanks hp.blanks]
      rfl

end Reading

section Divisions

theorem Unbroken.read {ps : List TimePiece} (h : Unbroken ps) :
    timeParts? (ps.flatMap TimePiece.text) = some (ps.map TimePiece.part) ∧
      findParts (ps.flatMap TimePiece.text) = ps.map TimePiece.part := by
  induction ps with
  | nil =>
      rw [List.flatMap_nil, timeParts?, findParts]
      exact ⟨rfl, rfl⟩
  | cons p ps ih =>
      obtain ⟨hp, hlast, hps⟩ := h
      have hlast := flatMap_eq_nil hlast
      obtain ⟨hparts, hfound⟩ := ih hps
      rw [List.flatMap_cons, timeParts?_append hp hps.resumes hlast, hparts, findParts_append hp hps.resumes hlast,
        hfound]
      exact ⟨rfl, rfl⟩

/-- The part with more digits in front of it. -/
def TimePiece.prepend (digits : List Char) (p : TimePiece) : TimePiece :=
  { p with digits := digits ++ p.digits }

theorem TimePiece.Valid.prepend {digits : List Char} {p : TimePiece} (hp : p.Valid)
    (hdigits : ∀ c ∈ digits, isDecimal c = true) : (p.prepend digits).Valid :=
  ⟨List.append_ne_nil_of_right_ne_nil _ hp.ne_nil, List.forall_mem_append.mpr ⟨hdigits, hp.digits⟩, hp.blanks⟩

/-- Parts that break a run of digits can be joined. -/
theorem exists_unbroken {ps : List TimePiece} (h : ∀ p ∈ ps, p.Valid) :
    ∃ qs : List TimePiece, (ps ≠ [] → qs ≠ []) ∧ Unbroken qs ∧
      qs.flatMap TimePiece.text = ps.flatMap TimePiece.text := by
  induction ps with
  | nil => exact ⟨[], id, trivial, rfl⟩
  | cons p ps ih =>
      obtain ⟨hp, hps⟩ := List.forall_mem_cons.mp h
      obtain ⟨qs, -, hqs, htext⟩ := ih hps
      rw [List.flatMap_cons, ← htext]
      by_cases hlast : p.tail = [] → qs = []
      · exact ⟨p :: qs, fun _ => List.cons_ne_nil p qs, ⟨hp, hlast, hqs⟩, List.flatMap_cons⟩
      · -- nothing ends the digits of the part, so those of the next one belong to the same run
        obtain ⟨htail, hne⟩ := Classical.not_imp.mp hlast
        obtain ⟨q, qs, rfl⟩ := List.exists_cons_of_ne_nil hne
        refine ⟨q.prepend p.digits :: qs, fun _ => List.cons_ne_nil _ qs, ⟨hqs.1.prepend hp.digits, hqs.2⟩, ?_⟩
        rw [List.flatMap_cons, List.flatMap_cons, TimePiece.text, TimePiece.text, TimePiece.text, htail,
          List.append_nil, ← List.append_assoc, ← List.append_assoc]
        rfl

/-- No text has two divisions that break no run of digits. -/
theorem Unbroken.eq {ps qs : List TimePiece} (hps : Unbroken ps) (hqs : Unbroken qs)
    (h : ps.flatMap TimePiece.text = qs.flatMap TimePiece.text) : ps = qs := by
  induction ps generalizing qs with
  | nil =>
      cases qs with
      | nil => rfl
      | cons q qs => exact absurd h.symm (hqs.1.text_append_ne_nil _)
  | cons p ps ih =>
      cases qs with
      | nil => exact absurd h (hps.1.text_append_ne_nil _)
      | cons q qs =>
          obtain ⟨hp, hlast, hps⟩ := hps
          obtain ⟨hq, hlast', hqs⟩ := hqs
          rw [List.flatMap_cons, List.flatMap_cons] at h
          obtain ⟨hdigits, htail⟩ := hp.read_digits (flatMap_eq_nil hlast)
          obtain ⟨hdigits', htail'⟩ := hq.read_digits (flatMap_eq_nil hlast')
          obtain ⟨hunit, -, hrest⟩ := hp.read_tail hps.resumes
          obtain ⟨hunit', -, hrest'⟩ := hq.read_tail hqs.resumes
          -- the first parts are read alike from the same text, and so are the texts behind them
          rw [h, hdigits'] at hdigits
          rw [h, htail'] at htail
          rw [← htail, hunit', Prod.mk.injEq] at hunit
          rw [← hunit.2, hrest'] at hrest
          obtain rfl := ih hps hqs hrest.symm
          have hletters := List.append_cancel_right htail
          have hblanks := List.append_cancel_right hunit.2
          rw [TimePiece.tail, TimePiece.tail, hblanks] at hletters
          have hunits := TimeUnit.letters_inj (List.append_cancel_right hletters)
          obtain ⟨digits, unit, blanks⟩ := p
          obtain ⟨digits', unit', blanks'⟩ := q
          simp only at hdigits hunits hblanks
          rw [hdigits, hunits, hblanks]

theorem Divides.unique {ps qs : List TimePiece} {cs : List Char} (hps : Divides ps cs) (hqs : Divides qs cs) :
    ps = qs :=
  hps.unbroken.eq hqs.unbroken (hps.text.trans hqs.text.symm)

theorem existsUnique_divides {cs : List Char} (h : IsTime cs) : ∃! ps, Divides ps cs := by
  obtain ⟨ps, hne, hvalid, rfl⟩ := h
  obtain ⟨qs, hqs, hunbroken, htext⟩ := exists_unbroken hvalid
  have hdivides : Divides qs (ps.flatMap TimePiece.text) := ⟨hqs hne, hunbroken, htext⟩
  exact ⟨qs, hdivides, fun qs' hqs' => hqs'.unique hdivides⟩

theorem TimeUnit.take_spec (cs : List Char) :
    ∃ u : Option TimeUnit, cs = u.elim [] letters ++ (TimeUnit.take cs).2 := by
  unfold TimeUnit.take
  split
  exacts [⟨some .millisecond, rfl⟩, ⟨some .second, rfl⟩, ⟨some .minute, rfl⟩, ⟨some .hour, rfl⟩, ⟨some .day, rfl⟩,
    ⟨some .week, rfl⟩, ⟨some .month, rfl⟩, ⟨some .year, rfl⟩, ⟨none, rfl⟩]

/-- A text that is divided into parts is the text of valid pieces. -/
theorem exists_valid_of_timeParts? {cs : List Char} (h : (timeParts? cs).isSome = true) :
    ∃ ps : List TimePiece, (∀ p ∈ ps, p.Valid) ∧ ps.flatMap TimePiece.text = cs := by
  fun_induction timeParts? cs with
  | case1 cs hempty => exact ⟨[], List.forall_mem_nil _, (List.isEmpty_iff.mp hempty).symm⟩
  | case2 => cases h
  | case4 => cases h
  | case3 cs hne digits unit rest hunit after hdigits hlt =>
      rename_i ih
      rw [Option.isSome_map] at h
      obtain ⟨ps, hps, htext⟩ := ih h
      obtain ⟨u, hu⟩ := TimeUnit.take_spec (cs.dropWhile isDecimal)
      have hp : TimePiece.Valid ⟨digits, u, rest.takeWhile Text.isBlank⟩ :=
        ⟨mt List.isEmpty_iff.mpr hdigits, fun c hc => List.mem_takeWhile_imp hc, fun c hc => List.mem_takeWhile_imp hc⟩
      refine ⟨_ :: ps, List.forall_mem_cons.mpr ⟨hp, hps⟩, ?_⟩
      rw [List.flatMap_cons, htext, TimePiece.text, TimePiece.tail, List.append_assoc, List.append_assoc,
        List.takeWhile_append_dropWhile]
      rw [hunit] at hu
      rw [← hu, List.takeWhile_append_dropWhile]

end Divisions

section Seconds

theorem digitChar_value : ∀ d < 10, (Nat.digitChar d).toNat - 48 = d := by decide

/-- The reader of numbers and the table of digits agree on the value of a digit. -/
theorem plainForm_value {c : Char} {d : Nat} (h : Text.decimalValue? c = some d) : (plainForm c).toNat - 48 = d := by
  have hdigit : Text.isDigit c = true := Text.isDigit_of_decimalValue? (by rw [h]; rfl)
  by_cases hascii : c.toNat < 127
  · rw [plainForm, if_pos hascii]
    rw [Text.decimalValue?, if_pos (Nat.lt_succ_of_lt hascii)] at h
    split_ifs at h
    exact Option.some.inj h
  · rw [plainForm, if_neg hascii, Text.not_isBlank_of_isDigit hdigit, h]
    exact digitChar_value d (Text.decimalValue?_lt h)

theorem TimePiece.Valid.amount_eq {p : TimePiece} (hp : p.Valid) : ofDigits (p.digits.map plainForm) = p.amount := by
  rw [ofDigits, TimePiece.amount, List.foldl_map]
  refine List.foldl_ext _ _ _ fun n c hc => ?_
  obtain ⟨d, hd⟩ := Option.isSome_iff_exists.mp (hp.digits c hc)
  rw [plainForm_value hd, hd, Option.getD_some]

/-- A part without milliseconds is converted without rounding. -/
theorem TimePiece.Valid.magnitude {p : TimePiece} (hp : p.Valid) (hunit : p.unit ≠ some .millisecond)
    (h : p.seconds ≤ 2 ^ 53) : ∃ x, p.part.magnitude? = some x ∧ x.value = p.seconds := by
  have hwhole : ∃ s, p.part.unit.seconds? = some s := by
    rw [TimePiece.part]
    cases hu : p.unit with
    | none => exact ⟨1, rfl⟩
    | some u =>
        rw [hu] at hunit
        cases u with
        | millisecond => exact absurd rfl hunit
        | _ => exact ⟨_, rfl⟩
  obtain ⟨s, hs⟩ := hwhole
  have hseconds : p.seconds = p.amount * s := by rw [TimePiece.seconds, hs, Option.getD_some]
  have hmagnitude : p.part.magnitude? = Magnitude.ofNat p.seconds := by
    rw [TimePart.magnitude?, hs, hseconds, ← hp.amount_eq]
    rfl
  rw [hmagnitude]
  exact Magnitude.ofNat_of_le h

/-- So is a sum of such parts. -/
theorem sumOf?_of_le {ps : List TimePiece} (hvalid : ∀ p ∈ ps, p.Valid) (hunits : ∀ p ∈ ps, p.unit ≠ some .millisecond)
    {t : Magnitude} {n : Nat} (ht : t.value = n) (h : n + totalSeconds ps ≤ 2 ^ 53) :
    ∃ x, sumOf? (some t) (ps.map TimePiece.part) = some x ∧ x.value = (n + totalSeconds ps : Nat) := by
  induction ps generalizing t n with
  | nil => exact ⟨t, rfl, ht⟩
  | cons p ps ih =>
      obtain ⟨hp, hps⟩ := List.forall_mem_cons.mp hvalid
      obtain ⟨hunit, hunits⟩ := List.forall_mem_cons.mp hunits
      have htotal : totalSeconds (p :: ps) = p.seconds + totalSeconds ps := List.sum_cons
      rw [htotal] at h
      obtain ⟨x, hx, hvalue⟩ := hp.magnitude hunit (by omega)
      obtain ⟨t', hadd, ht'⟩ := Magnitude.add_of_le ht hvalue (by omega)
      have hstep : sumOf? (some t) ((p :: ps).map TimePiece.part) = sumOf? (some t') (ps.map TimePiece.part) := by
        rw [List.map_cons, sumOf?, hx, Option.bind_some, Option.bind_some, hadd]
      rw [hstep, htotal, ← Nat.add_assoc]
      exact ih hps hunits ht' (by omega)

end Seconds

/-- The text that has to be a time: without the blanks around it and without a sign. -/
def unsignedTime (value : String) : List Char := (signed (Text.trim value).toList).2

theorem signed_fst (cs : List Char) : (signed cs).1 = true ↔ cs.head? = some '-' := by
  unfold signed
  split
  · simp
  · simp
  · next hminus _ =>
      refine iff_of_false (by simp) fun h => ?_
      obtain ⟨rest, rfl⟩ := List.head?_eq_some_iff.mp h
      exact hminus rest rfl

/-- The number with the sign that stands before the value. -/
def withSign (value : String) (n : Nat) : Int :=
  if (Text.trim value).toList.head? = some '-' then -n else n

theorem parseTime_eq (value : String) :
    parseTime value =
      if (unsignedTime value).isEmpty then .ok none
      else
        match timeParts? (unsignedTime value) with
        | none => .ok none
        | some parts => (sumParts (some .zero) parts).bind fun total =>
          match total with
          | none => .error .infinite
          | some x => .ok (some (withSign value x.floor)) := by
  have hsign := signed_fst (Text.trim value).toList
  unfold parseTime unsignedTime withSign
  revert hsign
  rcases signed (Text.trim value).toList with ⟨negative, body⟩
  intro hsign
  simp only [hsign]
  rfl

theorem parseTime_of_divides {value : String} {ps : List TimePiece} (h : Divides ps (unsignedTime value)) :
    parseTime value = (sumParts (some .zero) (ps.map TimePiece.part)).bind fun total =>
      match total with
      | none => .error .infinite
      | some x => .ok (some (withSign value x.floor)) := by
  have hparts := h.unbroken.read.1
  rw [h.text] at hparts
  have hne : unsignedTime value ≠ [] := by
    obtain ⟨p, ps, rfl⟩ := List.exists_cons_of_ne_nil h.ne_nil
    rw [← h.text]
    exact h.unbroken.1.text_append_ne_nil _
  rw [parseTime_eq, if_neg (mt List.isEmpty_iff.mp hne), hparts]

/-- No seconds are found just if the text, without its sign, is no time. -/
theorem parseTime_eq_none_iff {value : String} : parseTime value = .ok none ↔ ¬ IsTime (unsignedTime value) := by
  constructor
  · intro hnone htime
    obtain ⟨ps, hps, -⟩ := existsUnique_divides htime
    rw [parseTime_of_divides hps] at hnone
    obtain ⟨total, -, hnone⟩ := bind_eq_ok_iff.mp hnone
    cases total <;> cases hnone
  · intro htime
    rw [parseTime_eq]
    split_ifs with hempty
    · rfl
    · cases hparts : timeParts? (unsignedTime value) with
      | none => rfl
      | some parts =>
          obtain ⟨ps, hps, htext⟩ := exists_valid_of_timeParts? (by rw [hparts]; rfl)
          refine absurd ⟨ps, ?_, hps, htext⟩ htime
          rintro rfl
          exact hempty (List.isEmpty_iff.mpr htext.symm)

theorem parseTime_of_le {value : String} {ps : List TimePiece} (h : Divides ps (unsignedTime value))
    (hunits : ∀ p ∈ ps, p.unit ≠ some .millisecond) (hlengths : ∀ p ∈ ps, p.digits.length ≤ maxDigits)
    (htotal : totalSeconds ps ≤ 2 ^ 53) : parseTime value = .ok (some (withSign value (totalSeconds ps))) := by
  have hvalid := h.unbroken.valid
  have hzero : Magnitude.zero.value = (0 : Nat) := by simp [Magnitude.value, Magnitude.zero]
  obtain ⟨x, hsum, hvalue⟩ := sumOf?_of_le hvalid hunits hzero (by rwa [Nat.zero_add])
  rw [Nat.zero_add] at hvalue
  have hformed : ∀ p ∈ ps.map TimePiece.part, p.WellFormed :=
    List.forall_mem_map.mpr fun p hp => ⟨(hvalid p hp).ne_nil, (hvalid p hp).digits⟩
  have hshort : ∀ p ∈ ps.map TimePiece.part, p.digits.length ≤ maxDigits := List.forall_mem_map.mpr hlengths
  rw [parseTime_of_divides h]
  rcases sumParts_spec (some .zero) hformed with ⟨-, hparts⟩ | ⟨fault, -, -, hnot⟩
  · rw [hparts, hsum, ← Magnitude.floor_of_value hvalue]
    rfl
  · exact absurd ⟨hshort, by rw [hsum]; rfl⟩ hnot

/-- A text is read as a time just if, without its sign, it can be divided into parts. It has then just one division that
breaks no run of digits, which is what a search for amounts finds, and its seconds are the exact sum over those parts
where no part counts milliseconds or is too long and the sum is at most `2 ^ 53`. -/
theorem parseTime_exact (value : String) :
    (parseTime value = .ok none ↔ ¬ IsTime (unsignedTime value)) ∧
    (IsTime (unsignedTime value) → ∃! ps, Divides ps (unsignedTime value)) ∧
    ∀ ps, Divides ps (unsignedTime value) →
      findParts (unsignedTime value) = ps.map TimePiece.part ∧
      ((∀ p ∈ ps, p.unit ≠ some .millisecond) → (∀ p ∈ ps, p.digits.length ≤ maxDigits) →
        totalSeconds ps ≤ 2 ^ 53 → parseTime value = .ok (some (withSign value (totalSeconds ps)))) := by
  refine ⟨parseTime_eq_none_iff, existsUnique_divides, fun ps h => ⟨?_, parseTime_of_le h⟩⟩
  rw [← h.text]
  exact h.unbroken.read.2

/-- An hour, half an hour and seconds without a unit. -/
def mixedTime : List TimePiece := [⟨['1'], some .hour, [' ']⟩, ⟨['3', '0'], some .minute, []⟩, ⟨['7'], none, []⟩]

theorem parseTime_exact_mixed :
    Divides mixedTime (unsignedTime " -1h 30m7") ∧ parseTime " -1h 30m7" = .ok (some (-5407)) := by
  have hdivides : Divides mixedTime (unsignedTime " -1h 30m7") :=
    ⟨by decide, ⟨by decide, by decide, by decide, by decide, by decide, by decide, trivial⟩, by decide +kernel⟩
  have hresult := ((parseTime_exact " -1h 30m7").2.2 _ hdivides).2 (by decide) (by decide) (by decide)
  rw [show withSign " -1h 30m7" (totalSeconds mixedTime) = -5407 by decide +kernel] at hresult
  exact ⟨hdivides, hresult⟩

end EdgeRoutes.Http
