import EdgeRoutes.Generate.Plan
import EdgeRoutes.Proofs.Numerals

/-! Conversions of values: numbers, times and addresses. For each the condition is given under which it comes to a
result; where the condition fails, it stops with a fault of its own kind. -/

namespace EdgeRoutes

open Number Http

/-- The faults of converting a value: a number, a time, an address or a pattern. -/
def Fault.isConversion : Fault → Bool
  | .integer _ | .beyondFloat | .infinite | .repetition | .conflictingFlags | .unknownScheme _ => true
  | _ => false

/-- The computation comes to a result just if `P` holds; if it does not, a conversion has failed. -/
structure Needs {α : Type} (x : Except Fault α) (P : Prop) : Prop where
  returns : (∃ a, x = .ok a) ↔ P
  faults : ∀ fault, x = .error fault → fault.isConversion = true

namespace Needs

variable {α β : Type}

theorem ok (a : α) : Needs (.ok a) True :=
  ⟨iff_of_true ⟨a, rfl⟩ trivial, fun _ h => by cases h⟩

theorem error {fault : Fault} (h : fault.isConversion = true) : Needs (.error fault : Except Fault α) False := by
  refine ⟨iff_of_false ?_ id, ?_⟩
  · rintro ⟨a, ha⟩
    cases ha
  · intro fault' h'
    cases h'
    exact h

theorem congr {x : Except Fault α} {P Q : Prop} (h : Needs x P) (hPQ : P ↔ Q) : Needs x Q :=
  ⟨h.returns.trans hPQ, h.faults⟩

/-- What failed once fails in the same way wherever it is passed on. -/
theorem of_error {x : Except Fault α} {P : Prop} (h : Needs x P) {fault : Fault} (hx : x = .error fault) :
    Needs (.error fault : Except Fault β) P := by
  refine (error (h.faults fault hx)).congr (iff_of_false id fun hP => ?_)
  obtain ⟨a, ha⟩ := h.returns.mpr hP
  rw [hx] at ha
  cases ha

theorem of_ok {x : Except Fault α} {P : Prop} (h : Needs x P) {a : α} (hx : x = .ok a) (b : β) :
    Needs (.ok b : Except Fault β) P :=
  (ok b).congr (iff_of_true trivial (h.returns.mp ⟨a, hx⟩))

theorem bind {x : Except Fault α} {f : α → Except Fault β} {P : Prop} {Q : α → Prop} (hx : Needs x P)
    (hf : ∀ a, x = .ok a → Needs (f a) (Q a)) : Needs (x.bind f) (P ∧ ∀ a, x = .ok a → Q a) := by
  cases x with
  | error fault => exact (hx.of_error rfl).congr ⟨fun hP => ⟨hP, fun a ha => by cases ha⟩, And.left⟩
  | ok a =>
      have hP : P := hx.returns.mp ⟨a, rfl⟩
      refine (hf a rfl).congr ⟨fun hQ => ⟨hP, ?_⟩, fun h => h.2 a rfl⟩
      intro a' ha'
      cases ha'
      exact hQ

theorem bind_const {x : Except Fault α} {f : α → Except Fault β} {P Q : Prop} (hx : Needs x P)
    (hf : ∀ a, x = .ok a → Needs (f a) Q) : Needs (x.bind f) (P ∧ Q) := by
  refine (hx.bind hf).congr ⟨fun ⟨hP, hQ⟩ => ?_, fun ⟨hP, hQ⟩ => ⟨hP, fun _ _ => hQ⟩⟩
  obtain ⟨a, ha⟩ := hx.returns.mpr hP
  exact ⟨hP, hQ a ha⟩

theorem bind_ok {x : Except Fault α} {f : α → Except Fault β} {P : Prop} (hx : Needs x P)
    (hf : ∀ a, Needs (f a) True) : Needs (x.bind f) P :=
  (hx.bind_const fun a _ => hf a).congr (and_iff_left trivial)

theorem map {x : Except Fault α} {P : Prop} (hx : Needs x P) (f : α → β) : Needs (x.map f) P := by
  cases x with
  | error fault => exact hx.of_error rfl
  | ok a => exact hx.of_ok rfl (f a)

theorem mapM {f : α → Except Fault β} {P : α → Prop} {as : List α} (hf : ∀ a ∈ as, Needs (f a) (P a)) :
    Needs (as.mapM f) (∀ a ∈ as, P a) := by
  induction as with
  | nil => exact (ok []).congr (iff_of_true trivial (by simp))
  | cons a as ih =>
      rw [List.mapM_cons]
      have htail := ih fun a' ha' => hf a' (List.mem_cons_of_mem _ ha')
      refine ((hf a List.mem_cons_self).bind_const fun b _ => htail.bind_ok fun bs => ok (b :: bs)).congr ?_
      rw [List.forall_mem_cons]

end Needs

theorem needs_natural {text : String} (hdigits : Text.allDigits text = true) :
    Needs ((readNatural text).mapError Fault.integer) (IsNumeral text) := by
  refine Needs.congr ?_ (readNatural_ok_iff hdigits)
  cases readNatural text with
  | error cause => exact (Needs.error rfl).congr (iff_of_false id fun ⟨_, h⟩ => by cases h)
  | ok n => exact (Needs.ok n).congr (iff_of_true trivial ⟨n, rfl⟩)

section Addresses

open ProxyTarget

/-- The scheme and the text of the port of an address that names a host. -/
def addressParts? (url : String) : Option (String × String) :=
  match scheme? (Text.trim url).toList with
  | none => none
  | some (scheme, body) =>
    if (body.dropWhile (!endsAuthority ·)).contains '\n' then none
    else
      match hostAndPort (body.takeWhile (!endsAuthority ·)) with
      | .error _ => none
      | .ok (_, port) => some (Text.lower (String.ofList scheme), String.ofList port)

def IsStandardScheme (scheme : String) : Prop := scheme = "http" ∨ scheme = "https"

theorem needs_standardPort (scheme : String) : Needs (standardPort scheme) (IsStandardScheme scheme) := by
  unfold standardPort IsStandardScheme
  split_ifs with hhttp hhttps
  · exact (Needs.ok 80).congr (iff_of_true trivial (Or.inl hhttp))
  · exact (Needs.ok 443).congr (iff_of_true trivial (Or.inr hhttps))
  · exact (Needs.error rfl).congr (iff_of_false id (by tauto))

/-- The address can be told to name an origin or not to: a port of digits is a numeral, and where the port is left out
the scheme has a standard one. -/
def AddressSound (url : String) : Prop :=
  ∀ scheme port, addressParts? url = some (scheme, port) →
    (Text.allDigits port = true → IsNumeral port) ∧ (port = "" → IsStandardScheme scheme)

theorem needs_portOf (text : String) : Needs (portOf text) (Text.allDigits text = true → IsNumeral text) := by
  unfold portOf
  split_ifs with hdigits
  · exact ((needs_natural hdigits).bind_ok fun n => .ok _).congr ⟨fun h _ => h, fun h => h hdigits⟩
  · exact (Needs.ok none).congr (iff_of_true trivial fun h => absurd h hdigits)

theorem parse_of_no_parts {url : String} (h : addressParts? url = none) :
    ∃ reason, ProxyTarget.parse url = .error (.upstreamUrl url reason) := by
  cases hscheme : scheme? (Text.trim url).toList with
  | none => exact ⟨_, by simp only [ProxyTarget.parse, hscheme]; rfl⟩
  | some found =>
      obtain ⟨scheme, body⟩ := found
      by_cases hline : (body.dropWhile (!endsAuthority ·)).contains '\n' = true
      · exact ⟨_, by simp only [ProxyTarget.parse, hscheme, if_pos hline]; rfl⟩
      · cases hhost : hostAndPort (body.takeWhile (!endsAuthority ·)) with
        | error defect => exact ⟨_, by simp only [ProxyTarget.parse, hscheme, if_neg hline, hhost]; rfl⟩
        | ok found => simp only [addressParts?, hscheme, if_neg hline, hhost, reduceCtorEq] at h

/-- The port of an address from its text. -/
def portNumber (url scheme port : String) : Except Fault Nat :=
  if port.isEmpty then standardPort scheme
  else (portOf port).bind fun n => match n with
    | some n => .ok n
    | none => .error (.upstreamUrl url (UrlDefect.badPort port).message)

/-- An address with a host and a scheme fails for its port only. -/
theorem parse_of_parts {url scheme port : String} (h : addressParts? url = some (scheme, port)) :
    ∃ host uri, ProxyTarget.parse url = (portNumber url scheme port).map fun n => ⟨url, scheme, host, n, uri⟩ := by
  cases hscheme : scheme? (Text.trim url).toList with
  | none => simp only [addressParts?, hscheme, reduceCtorEq] at h
  | some found =>
      obtain ⟨letters, body⟩ := found
      by_cases hline : (body.dropWhile (!endsAuthority ·)).contains '\n' = true
      · simp only [addressParts?, hscheme, if_pos hline, reduceCtorEq] at h
      · cases hhost : hostAndPort (body.takeWhile (!endsAuthority ·)) with
        | error defect => simp only [addressParts?, hscheme, if_neg hline, hhost, reduceCtorEq] at h
        | ok found =>
            obtain ⟨host, digits⟩ := found
            simp only [addressParts?, hscheme, if_neg hline, hhost, Option.some.injEq, Prod.mk.injEq] at h
            obtain ⟨rfl, rfl⟩ := h
            simp only [ProxyTarget.parse, hscheme, if_neg hline, hhost, portNumber]
            generalize (if (body.dropWhile (!endsAuthority ·)).isEmpty = true then none
              else some (String.ofList (body.dropWhile (!endsAuthority ·)))) = uri
            refine ⟨Text.lower (String.ofList host), uri, ?_⟩
            split_ifs
            · cases standardPort (Text.lower (String.ofList letters)) <;> rfl
            · rcases portOf (String.ofList digits) with fault | - | n <;> rfl

/-- An address that names no origin is no failed conversion. -/
theorem needs_resolve_of_refused {url reason : String} {P : Prop} (hP : P)
    (h : ProxyTarget.parse url = .error (.upstreamUrl url reason)) : Needs (resolve url) P := by
  rw [resolve, h]
  exact (Needs.ok _).congr (iff_of_true trivial hP)

theorem needs_resolve_of_parse {url : String} {P : Prop} (h : Needs (ProxyTarget.parse url) P) :
    Needs (resolve url) P := by
  cases hparse : ProxyTarget.parse url with
  | ok target =>
      rw [resolve, hparse]
      exact h.of_ok hparse _
  | error fault =>
      have hconversion := h.faults fault hparse
      have hresolve : resolve url = .error fault := by
        rw [resolve, hparse]
        cases fault <;> first | rfl | cases hconversion
      rw [hresolve]
      exact h.of_error hparse

/-- An address is resolved, or found unusable, just if nothing goes wrong with the number of its port. -/
theorem needs_resolve (url : String) : Needs (resolve url) (AddressSound url) := by
  cases hparts : addressParts? url with
  | none =>
      obtain ⟨reason, hparse⟩ := parse_of_no_parts hparts
      exact needs_resolve_of_refused (by simp [AddressSound, hparts]) hparse
  | some parts =>
      obtain ⟨scheme, port⟩ := parts
      obtain ⟨host, uri, hparse⟩ := parse_of_parts hparts
      have hsound : AddressSound url ↔
          (Text.allDigits port = true → IsNumeral port) ∧ (port = "" → IsStandardScheme scheme) := by
        simp [AddressSound, hparts]
      by_cases hempty : port = ""
      · apply needs_resolve_of_parse
        rw [hparse, portNumber, if_pos (by rw [hempty]; rfl)]
        refine ((needs_standardPort scheme).map _).congr ?_
        rw [hsound, hempty]
        exact ⟨fun h => ⟨fun hdigits => absurd hdigits (by decide), fun _ => h⟩, fun h => h.2 rfl⟩
      · have hneeds := (needs_portOf port).congr
          ⟨fun h => hsound.mpr ⟨h, fun hport => absurd hport hempty⟩, fun h => (hsound.mp h).1⟩
        rw [portNumber, if_neg (by simpa using hempty)] at hparse
        cases hport : portOf port with
        | error fault =>
            rw [hport] at hparse
            apply needs_resolve_of_parse
            rw [hparse]
            exact hneeds.of_error hport
        | ok n =>
            rw [hport] at hparse
            cases n with
            | none => exact needs_resolve_of_refused (hneeds.returns.mp ⟨none, hport⟩) hparse
            | some n =>
                apply needs_resolve_of_parse
                rw [hparse]
                exact hneeds.of_ok hport _

theorem needs_proxyResolved (l : Location) (target : ProxyTarget) :
    Needs (l.proxyResolved target) (IsStandardScheme target.scheme) := by
  have horigin : Needs target.origin (IsStandardScheme target.scheme) :=
    ((needs_standardPort target.scheme).map _).bind_ok fun standard => .ok _
  exact horigin.bind_ok fun origin => .ok _

end Addresses

namespace Http

/-- The characters of time values: decimal digits, letters of units, blanks. -/
def IsTimeChar (c : Char) : Prop :=
  isDecimal c = true ∨ c ∈ ['m', 's', 'h', 'd', 'w', 'M', 'y'] ∨ Text.isBlank c = true

theorem TimeUnit.take_eq (cs : List Char) :
    ∃ letters, cs = letters ++ (TimeUnit.take cs).2 ∧ ∀ c ∈ letters, c ∈ ['m', 's', 'h', 'd', 'w', 'M', 'y'] := by
  unfold TimeUnit.take
  split
  · exact ⟨['m', 's'], rfl, by simp⟩
  · exact ⟨['s'], rfl, by simp⟩
  · exact ⟨['m'], rfl, by simp⟩
  · exact ⟨['h'], rfl, by simp⟩
  · exact ⟨['d'], rfl, by simp⟩
  · exact ⟨['w'], rfl, by simp⟩
  · exact ⟨['M'], rfl, by simp⟩
  · exact ⟨['y'], rfl, by simp⟩
  · exact ⟨[], rfl, by simp⟩

/-- A part of a time value as it stands in a text: decimal digits, at least one. -/
def TimePart.WellFormed (p : TimePart) : Prop :=
  p.digits ≠ [] ∧ ∀ c ∈ p.digits, isDecimal c = true

/-- A text is divided into well-formed parts of a time, and has the characters of these only. -/
theorem timeParts?_spec {cs : List Char} {parts : List TimePart} (h : timeParts? cs = some parts) :
    (∀ p ∈ parts, p.WellFormed) ∧ ∀ c ∈ cs, IsTimeChar c := by
  fun_induction timeParts? cs generalizing parts with
  | case1 cs hempty =>
      cases h
      rw [List.isEmpty_iff.mp hempty]
      simp
  | case2 => cases h
  | case4 => cases h
  | case3 cs hne digits unit rest hunit after hdigits hlt =>
      rename_i ih
      obtain ⟨more, hmore, rfl⟩ := Option.map_eq_some_iff.mp h
      obtain ⟨hparts, hchars⟩ := ih hmore
      constructor
      · intro p hp
        rcases List.mem_cons.mp hp with rfl | hp
        · exact ⟨mt List.isEmpty_iff.mpr hdigits, fun c hc => List.mem_takeWhile_imp hc⟩
        · exact hparts p hp
      · intro c hc
        obtain ⟨letters, hletters, hunits⟩ := TimeUnit.take_eq (cs.dropWhile isDecimal)
        rw [hunit] at hletters
        rw [← List.takeWhile_append_dropWhile (p := isDecimal) (l := cs), hletters,
          ← List.takeWhile_append_dropWhile (p := Text.isBlank) (l := rest)] at hc
        simp only [List.mem_append] at hc
        rcases hc with hc | hc | hc | hc
        · exact Or.inl (List.mem_takeWhile_imp hc)
        · exact Or.inr (Or.inl (hunits c hc))
        · exact Or.inr (Or.inr (List.mem_takeWhile_imp hc))
        · exact hchars c hc

/-- The seconds of a part as a binary number, if there is one that large. -/
def TimePart.magnitude? (p : TimePart) : Option Magnitude :=
  let amount := ofDigits (p.digits.map plainForm)
  match p.unit.seconds? with
  | some s => Magnitude.ofNat (amount * s)
  | none => (Magnitude.ofNat amount).bind (·.mul thousandth)

theorem seconds_of_read {p : TimePart} {amount : Nat} (h : readNatural (String.ofList p.digits) = .ok amount) :
    p.seconds = match p.unit.seconds? with
      | some s => (toBinary (amount * s)).map some
      | none => (toBinary amount).map (·.mul thousandth) := by
  rw [TimePart.seconds, h]
  cases p.unit.seconds? with
  | some s =>
      cases hbinary : toBinary (amount * s) <;>
        simp [Except.mapError, bind, Except.bind, Except.map, hbinary, pure, Except.pure]
  | none =>
      cases hbinary : toBinary amount <;>
        simp [Except.mapError, bind, Except.bind, Except.map, hbinary, pure, Except.pure]

/-- A part is converted to its magnitude, or it has too many digits or no magnitude. -/
theorem seconds_spec {p : TimePart} (hp : p.WellFormed) :
    (p.digits.length ≤ maxDigits ∧ p.seconds = .ok p.magnitude?) ∨
      ∃ fault, p.seconds = .error fault ∧ fault.isConversion = true ∧
        ¬ (p.digits.length ≤ maxDigits ∧ p.magnitude?.isSome = true) := by
  obtain ⟨hne, hdecimal⟩ := hp
  by_cases hlength : p.digits.length ≤ maxDigits
  · have hread : readNatural (String.ofList p.digits) = .ok (ofDigits (p.digits.map plainForm)) := by
      have hnumeral : IsNumeral (String.ofList p.digits) := by
        rw [IsNumeral, String.toList_ofList]
        exact ⟨hdecimal, hlength⟩
      rw [readNatural_of_isNumeral (by rwa [String.toList_ofList]) hnumeral, String.toList_ofList]
    rw [seconds_of_read hread, TimePart.magnitude?]
    cases p.unit.seconds? with
    | some s =>
        simp only [toBinary]
        cases Magnitude.ofNat (ofDigits (p.digits.map plainForm) * s) with
        | none => exact Or.inr ⟨.beyondFloat, rfl, rfl, by simp⟩
        | some x => exact Or.inl ⟨hlength, rfl⟩
    | none =>
        simp only [toBinary]
        cases Magnitude.ofNat (ofDigits (p.digits.map plainForm)) with
        | none => exact Or.inr ⟨.beyondFloat, rfl, rfl, by simp⟩
        | some x =>
            rw [Option.bind_some]
            exact Or.inl ⟨hlength, rfl⟩
  · have hdigits : Text.allDigits (String.ofList p.digits) = true := by
      rw [allDigits_iff, String.toList_ofList]
      exact ⟨hne, fun c hc => Text.isDigit_of_decimalValue? (hdecimal c hc)⟩
    cases hread : readNatural (String.ofList p.digits) with
    | ok n =>
        have hnumeral := isNumeral_of_readNatural hdigits hread
        rw [IsNumeral, String.toList_ofList] at hnumeral
        exact absurd hnumeral.2 hlength
    | error cause =>
        refine Or.inr ⟨.integer cause, ?_, rfl, fun h => hlength h.1⟩
        rw [TimePart.seconds, hread]
        rfl

/-- The parts added to what is there already, as far as the sum is a finite binary number. -/
def sumOf? (total : Option Magnitude) : List TimePart → Option Magnitude
  | [] => total
  | p :: ps => sumOf? (total.bind fun t => p.magnitude?.bind t.add) ps

theorem sumOf?_none (ps : List TimePart) : sumOf? none ps = none := by
  induction ps with
  | nil => rfl
  | cons p ps ih => exact ih

/-- Parts are converted to their sum, or one of them has too many digits or there is no sum. -/
theorem sumParts_spec (total : Option Magnitude) {ps : List TimePart} (hps : ∀ p ∈ ps, p.WellFormed) :
    ((∀ p ∈ ps, p.digits.length ≤ maxDigits) ∧ sumParts total ps = .ok (sumOf? total ps)) ∨
      ∃ fault, sumParts total ps = .error fault ∧ fault.isConversion = true ∧
        ¬ ((∀ p ∈ ps, p.digits.length ≤ maxDigits) ∧ (sumOf? total ps).isSome = true) := by
  induction ps generalizing total with
  | nil => exact Or.inl ⟨by simp, rfl⟩
  | cons p ps ih =>
      obtain ⟨hp, htail⟩ := List.forall_mem_cons.mp hps
      rcases seconds_spec hp with ⟨hlength, hseconds⟩ | ⟨fault, hseconds, hfault, hnot⟩
      · have hstep : sumParts total (p :: ps) = sumParts (total.bind fun t => p.magnitude?.bind t.add) ps := by
          rw [sumParts, hseconds]
          rfl
        rw [hstep, List.forall_mem_cons, sumOf?]
        rcases ih (total.bind fun t => p.magnitude?.bind t.add) htail with ⟨hlengths, hsum⟩ | ⟨fault, hsum, hfault, hnot⟩
        · exact Or.inl ⟨⟨hlength, hlengths⟩, hsum⟩
        · exact Or.inr ⟨fault, hsum, hfault, fun h => hnot ⟨h.1.2, h.2⟩⟩
      · refine Or.inr ⟨fault, by rw [sumParts, hseconds]; rfl, hfault, ?_⟩
        rintro ⟨hlengths, hsome⟩
        refine hnot ⟨hlengths p List.mem_cons_self, ?_⟩
        cases hmagnitude : p.magnitude? with
        | some m => rfl
        | none =>
            rw [sumOf?, hmagnitude] at hsome
            cases total <;> simp [sumOf?_none] at hsome

/-- A time value can be converted: no part has too many digits, and the sum of the parts is a finite binary number. -/
def TimeSound (value : String) : Prop :=
  ∀ parts, timeParts? (signed (Text.trim value).toList).2 = some parts →
    (∀ p ∈ parts, p.digits.length ≤ maxDigits) ∧ (sumOf? (some .zero) parts).isSome = true

/-- A time is read just if the numbers in it can be. -/
theorem needs_parseTime (value : String) : Needs (parseTime value) (TimeSound value) := by
  rcases hsigned : signed (Text.trim value).toList with ⟨negative, body⟩
  have hsound : TimeSound value ↔ ∀ parts, timeParts? body = some parts →
      (∀ p ∈ parts, p.digits.length ≤ maxDigits) ∧ (sumOf? (some .zero) parts).isSome = true := by
    rw [TimeSound, hsigned]
  rw [hsound]
  simp only [parseTime, hsigned]
  by_cases hempty : body.isEmpty = true
  · rw [if_pos hempty, List.isEmpty_iff.mp hempty]
    refine (Needs.ok none).congr (iff_of_true trivial ?_)
    intro parts hparts
    rw [timeParts?] at hparts
    cases hparts
    exact ⟨by simp, rfl⟩
  · rw [if_neg hempty]
    cases hparts : timeParts? body with
    | none => exact (Needs.ok none).congr (by simp)
    | some parts =>
        simp only [Option.some.injEq, forall_eq']
        rcases sumParts_spec (some .zero) (timeParts?_spec hparts).1 with
          ⟨hlengths, hsum⟩ | ⟨fault, hsum, hfault, hnot⟩
        · rw [hsum]
          cases sumOf? (some .zero) parts with
          | none => exact (Needs.error rfl).congr (by simp)
          | some total => exact (Needs.ok _).congr (by simpa using hlengths)
        · rw [hsum]
          exact (Needs.error hfault).congr (iff_of_false id hnot)

theorem mem_dropWhile {p : Char → Bool} {c : Char} {cs : List Char} (hc : c ∈ cs) (hp : ¬ p c = true) :
    c ∈ cs.dropWhile p := by
  rw [← List.takeWhile_append_dropWhile (p := p) (l := cs)] at hc
  rcases List.mem_append.mp hc with hc | hc
  · exact absurd (List.mem_takeWhile_imp hc) hp
  · exact hc

theorem mem_trim {c : Char} {s : String} (hc : c ∈ s.toList) (hblank : ¬ Text.isBlank c = true) :
    c ∈ (Text.trim s).toList := by
  rw [Text.trim, String.toList_ofList, Text.trimWhile, Text.dropEndWhile, List.mem_reverse]
  exact mem_dropWhile (List.mem_reverse.mpr (mem_dropWhile hc hblank)) hblank

theorem mem_signed {c : Char} {cs : List Char} (hc : c ∈ cs) (hsign : c ≠ '-' ∧ c ≠ '+') : c ∈ (signed cs).2 := by
  unfold signed
  split
  · exact (List.mem_cons.mp hc).resolve_left hsign.1
  · exact (List.mem_cons.mp hc).resolve_left hsign.2
  · exact hc

/-- Text with a character that time values do not have is no time value, so there is nothing to convert. -/
theorem timeSound_of_mem {value : String} {c : Char} (hc : c ∈ value.toList) (hother : ¬ IsTimeChar c)
    (hsign : c ≠ '-' ∧ c ≠ '+') : TimeSound value := by
  intro parts hparts
  have hmem := mem_signed (mem_trim hc fun hblank => hother (Or.inr (Or.inr hblank))) hsign
  exact absurd ((timeParts?_spec hparts).2 c hmem) hother

theorem timeSound_empty : TimeSound "" := by
  intro parts hparts
  have hbody : (signed (Text.trim "").toList).2 = [] := by decide
  rw [hbody, timeParts?] at hparts
  cases hparts
  exact ⟨by simp, rfl⟩

theorem mem_joined {sep w : String} {ws : List String} (hw : w ∈ ws) {c : Char} (hc : c ∈ w.toList) :
    c ∈ (Text.joined sep ws).toList := by
  unfold Text.joined
  induction ws with
  | nil => cases hw
  | cons v vs ih =>
      cases vs with
      | nil =>
          obtain rfl := List.mem_singleton.mp hw
          rwa [String.intercalate_singleton]
      | cons u us =>
          rw [String.intercalate_cons_cons, String.toList_append, String.toList_append]
          simp only [List.mem_append]
          rcases List.mem_cons.mp hw with rfl | hw
          · exact Or.inl (Or.inl hc)
          · exact Or.inr (ih hw)

theorem mem_of_startsWith {s : String} (h : Text.startsWith s "@" = true) : '@' ∈ s.toList := by
  have hstarts : (Text.after? ['@'] s.toList).isSome = true := h
  cases hs : s.toList with
  | nil =>
      rw [hs] at hstarts
      cases hstarts
  | cons c cs =>
      rw [hs, Text.after?] at hstarts
      split_ifs at hstarts with hc
      · rw [← hc]
        exact List.mem_cons_self
      · cases hstarts

/-- The time that an `expires` value gives, as a text. -/
def expiresTime (expires : String) : String := Text.joined " " (expiresWords expires)

/-- The caching rule of `expires` is found just if its time is read. -/
theorem needs_cacheControl (expires : String) : Needs (cacheControl expires) (TimeSound (expiresTime expires)) := by
  unfold cacheControl expiresTime
  split
  · next hwords =>
      rw [hwords]
      exact (Needs.ok none).congr (iff_of_true trivial timeSound_empty)
  · generalize Text.joined " " (expiresWords expires) = value
    simp only
    split_ifs with hnone hepoch hmax
    · refine (Needs.ok none).congr (iff_of_true trivial ?_)
      rcases Bool.or_eq_true_iff.mp hnone with hoff | hat
      · rw [beq_iff_eq.mp hoff]
        exact timeSound_of_mem (c := 'o') (by decide) (by unfold IsTimeChar; decide) (by decide)
      · exact timeSound_of_mem (mem_of_startsWith hat) (by unfold IsTimeChar; decide) (by decide)
    · refine (Needs.ok _).congr (iff_of_true trivial ?_)
      rw [beq_iff_eq.mp hepoch]
      exact timeSound_of_mem (c := 'p') (by decide) (by unfold IsTimeChar; decide) (by decide)
    · refine (Needs.ok _).congr (iff_of_true trivial ?_)
      rw [beq_iff_eq.mp hmax]
      exact timeSound_of_mem (c := 'a') (by decide) (by unfold IsTimeChar; decide) (by decide)
    · exact (needs_parseTime value).bind_ok fun seconds => by cases seconds <;> exact .ok _

/-- A value whose last word is `off` gives no time. -/
theorem timeSound_of_off {expires : String} (h : (Text.words expires.toList).getLast? = some "off".toList) :
    TimeSound (expiresTime expires) := by
  have hmem : "off" ∈ expiresWords expires := by
    obtain ⟨before, hwords⟩ := List.getLast?_eq_some_iff.mp h
    rw [expiresWords, hwords, List.map_append]
    cases before with
    | nil => exact List.mem_singleton_self "off"
    | cons w ws =>
        split
        · next rest hrest =>
            rw [← (List.cons.inj hrest).2]
            exact List.mem_append_right _ (List.mem_singleton_self "off")
        · exact List.mem_append_right _ (List.mem_singleton_self "off")
  exact timeSound_of_mem (mem_joined hmem (c := 'o') (by decide)) (by unfold IsTimeChar; decide) (by decide)

theorem needs_expiresConvertible (expires : String) :
    Needs (expiresConvertible expires) (TimeSound (expiresTime expires)) := by
  unfold expiresConvertible
  split_ifs with hoff
  · exact (Needs.ok true).congr (iff_of_true trivial (timeSound_of_off (beq_iff_eq.mp hoff)))
  · exact (needs_cacheControl expires).map _

theorem needs_responseHeaders (d : Directives) :
    Needs (responseHeaders d) (∀ expires, d.expires = some expires → TimeSound (expiresTime expires)) := by
  unfold responseHeaders
  cases d.expires with
  | none => exact (Needs.ok _).congr (by simp)
  | some expires => exact ((needs_cacheControl expires).bind_ok fun rule => .ok _).congr (by simp)

theorem needs_readTimeout (d : Directives) :
    Needs (readTimeout d) (∀ setting, d.extra.get? "proxy_read_timeout" = some setting → TimeSound setting.display) := by
  unfold readTimeout
  cases d.extra.get? "proxy_read_timeout" with
  | none => exact (Needs.ok _).congr (by simp)
  | some setting =>
      refine ((needs_parseTime setting.display).bind_ok fun seconds => ?_).congr (by simp)
      cases seconds <;> exact .ok _

end Http

end EdgeRoutes
