import EdgeRoutes.Proofs.LineBreaks
import EdgeRoutes.Proofs.PatternLiterals

/-! Reading the expressions of emitted code: the conditions of its blocks, and the expressions for a path or an address.
A pattern stands in the code as the body of a literal, and the body is what is read; what it matches is left to the
runtime. A translation that can be used has no backslash at its end that would go with the slash after it, so its literal
is read up to the slash that closes it. -/

namespace EdgeRoutes

open Js Pattern

/-- The parts of a runtime that emitted code calls. A pattern is handed over as the body of its literal. -/
structure Runtime where
  test : (body : List Char) → (ignoreCase : Bool) → (value : String) → Bool
  /-- The path with the first match replaced. -/
  replace : (body : List Char) → (ignoreCase : Bool) → (replacement path : String) → String
  /-- A text with its variables filled in, `uri` being the one for the path. -/
  expand : (uri text : String) → String

/-- The engine that tests and replaces by the literals of patterns. -/
def Runtime.engine (R : Runtime) : Engine where
  matchesPattern source ignoreCase value := R.test (bodyOf source) ignoreCase value
  substitute s path := R.replace (bodyOf s.pattern.source) s.pattern.ignoreCase s.replacement path
  expand := R.expand

section Sources

theorem paired_append {a b : List Char} (ha : Paired a) (hb : Paired b) : Paired (a ++ b) := by
  rw [Paired, units_append ha, List.mem_append, not_or]
  exact ⟨ha, hb⟩

theorem paired_singleton {c : Char} (hc : c ≠ '\\') : Paired [c] := by
  rw [Paired, units_single hc, Js.units, List.mem_singleton]
  exact fun h => hc (PatternUnit.single.inj h).symm

/-- Only a backslash at the very end can be left without a character. -/
theorem paired_concat (cs : List Char) {c : Char} (hc : c ≠ '\\') : Paired (cs ++ [c]) := by
  fun_induction Js.units cs with
  | case1 d cs ih => exact paired_append (a := ['\\', d]) (by simp [Paired, Js.units]) ih
  | case2 d cs hnot ih =>
      by_cases hd : d = '\\'
      · cases cs with
        | nil =>
            rw [hd]
            simp [Paired, Js.units]
        | cons e cs => exact absurd rfl (hnot e cs hd)
      · exact paired_append (a := [d]) (paired_singleton hd) ih
  | case3 => exact paired_singleton hc

theorem paired_escapePattern (cs : List Char) : Paired (escapePattern cs) := by
  induction cs with
  | nil => decide
  | cons c cs ih =>
      rw [escapePattern, List.flatMap_cons, ← escapePattern]
      refine paired_append ?_ ih
      unfold escapeChar
      split_ifs with hspecial
      · simp [Paired, Js.units]
      · refine paired_singleton ?_
        rintro rfl
        exact hspecial rfl

theorem Pattern.Reads.paired {c : Char} {cs text rest : List Char} (h : Reads (c :: cs) text rest) : Paired text := by
  cases h with
  | escape | start | stop | blank | comment | commentToEnd => simp [Paired, Js.units]
  | quoted | quotedToEnd => exact paired_escapePattern _
  | bracket hclass =>
      obtain ⟨body, rfl⟩ := exists_concat_of_bracketClass hclass
      exact paired_concat body (by decide)
  | group hc => exact paired_concat ['(', '?'] (by rintro rfl; simp at hc)
  | lookbehind hc => exact paired_concat ['(', '?', '<'] (by rintro rfl; simp at hc)
  | named | respelled => decide
  | reference => exact paired_concat ('\\' :: 'k' :: '<' :: _) (by decide)
  | plain hescape => exact paired_singleton hescape

/-- No piece of a pattern without problems leaves a backslash for the next one to go with. -/
theorem paired_sourceOf {cs : List Char} (h : problemsOf (pieces cs) = []) : Paired (sourceOf (pieces cs)) := by
  refine reads_induction (motive := fun cs => Paired (sourceOf (pieces cs))) ?_ ?_ h
  · rw [pieces]
    decide
  · intro c cs text rest hreads _ ih
    rw [hreads.sourceOf_eq]
    exact paired_append hreads.paired ih

theorem paired_of_translate {pattern : String} {dialect : Dialect} {ignoreCase : Bool} {t : Translation}
    (h : translate pattern dialect ignoreCase = .ok t) (hsupported : t.supported = true) : Paired t.source.toList := by
  obtain ⟨hnone, hsource⟩ := source_of_supported h hsupported
  rw [hsource, String.toList_ofList]
  exact paired_sourceOf hnone

end Sources

namespace Js

/-- The values that conditions are about. -/
inductive Subject where
  | hostname
  | path

/-- The name of the value in the code. -/
def Subject.name : Subject → String
  | .hostname => "hostname"
  | .path => "path"

def Subject.value (host path : String) : Subject → String
  | .hostname => host
  | .path => path

/-- An alternative of a condition. -/
inductive Check where
  | constant (b : Bool)
  | equals (subject : Subject) (value : String)
  | startsWith (subject : Subject) (value : String)
  | matches (body : List Char) (ignoreCase : Bool) (subject : Subject)

def Check.holds (R : Runtime) (host path : String) : Check → Bool
  | .constant b => b
  | .equals subject value => subject.value host path == value
  | .startsWith subject value => Text.startsWith (subject.value host path) value
  | .matches body ignoreCase subject => R.test body ignoreCase (subject.value host path)

/-- The body of a pattern literal after its first slash, and what follows the slash that closes it. A slash inside
brackets is escaped like any other, so brackets make no difference. -/
def readBody? : List Char → Option (List Char × List Char)
  | '\\' :: c :: cs =>
    if endsLine c then none else (readBody? cs).map fun (body, rest) => ('\\' :: c :: body, rest)
  | '/' :: cs => some ([], cs)
  | c :: cs => if endsLine c then none else (readBody? cs).map fun (body, rest) => (c :: body, rest)
  | [] => none

/-- The body of a pattern literal, whether it ignores letter case, and what follows the literal. -/
def readLiteral? (cs : List Char) : Option ((List Char × Bool) × List Char) := do
  let rest ← Text.after? "/".toList cs
  let (body, rest) ← readBody? rest
  match Text.after? "i".toList rest with
  | some rest => return ((body, true), rest)
  | none => return ((body, false), rest)

def readSubject? (cs : List Char) : Option (Subject × List Char) :=
  match Text.after? "hostname".toList cs with
  | some rest => some (.hostname, rest)
  | none => (Text.after? "path".toList cs).map fun rest => (.path, rest)

/-- Reads a test on a value, the value first. -/
def readComparison? (cs : List Char) : Option (Check × List Char) := do
  let (subject, rest) ← readSubject? cs
  match Text.after? " === ".toList rest with
  | some rest =>
    let (value, rest) ← readString? rest
    return (.equals subject value, rest)
  | none =>
    let rest ← Text.after? ".startsWith(".toList rest
    let (value, rest) ← readString? rest
    let rest ← Text.after? ")".toList rest
    return (.startsWith subject value, rest)

/-- Reads the test of a pattern literal on a value. -/
def readMatch? (cs : List Char) : Option (Check × List Char) := do
  let ((body, ignoreCase), rest) ← readLiteral? cs
  let rest ← Text.after? ".test(".toList rest
  let (subject, rest) ← readSubject? rest
  let rest ← Text.after? ")".toList rest
  return (.matches body ignoreCase subject, rest)

def readCheck? (cs : List Char) : Option (Check × List Char) :=
  match Text.after? "true".toList cs with
  | some rest => some (.constant true, rest)
  | none =>
    match Text.after? "false".toList cs with
    | some rest => some (.constant false, rest)
    | none => if cs.head? = some '/' then readMatch? cs else readComparison? cs

/-- Reads alternatives, as far as they go. -/
def readChecks? (cs : List Char) : Option (List Check × List Char) :=
  match readCheck? cs with
  | none => none
  | some (check, rest) =>
    match Text.after? " || ".toList rest with
    | none => some ([check], rest)
    | some more =>
      if more.length < cs.length then (readChecks? more).map fun (checks, rest) => (check :: checks, rest) else none
termination_by cs.length

/-- Reads a condition, in parentheses or without. -/
def readCondition? (cs : List Char) : Option (List Check × List Char) :=
  match Text.after? "(".toList cs with
  | none => readChecks? cs
  | some inner => do
    let (checks, rest) ← readChecks? inner
    let rest ← Text.after? ")".toList rest
    return (checks, rest)

/-- An expression for a path or an address: a text, or the path with a match replaced. Either has its variables filled
in. -/
inductive Address where
  | url (text : String)
  | replaced (body : List Char) (ignoreCase : Bool) (replacement : String)

def Address.value (R : Runtime) (r : RequestState) : Address → String
  | .url text => R.expand r.uri text
  | .replaced body ignoreCase replacement => R.expand r.uri (R.replace body ignoreCase replacement r.path)

def readAddress? (cs : List Char) : Option (Address × List Char) := do
  let rest ← Text.after? "expandVars(".toList cs
  match Text.after? "path.replace(".toList rest with
  | some rest =>
    let ((body, ignoreCase), rest) ← readLiteral? rest
    let rest ← Text.after? ", ".toList rest
    let (replacement, rest) ← readString? rest
    let rest ← Text.after? "), vars)".toList rest
    return (.replaced body ignoreCase replacement, rest)
  | none =>
    let (text, rest) ← readString? rest
    let rest ← Text.after? ", vars)".toList rest
    return (.url text, rest)

/-- Reads a number, and what follows it. -/
def readNumber (cs : List Char) : Nat × List Char :=
  (Nat.ofDigitChars 10 (cs.takeWhile Char.isDigit) 0, cs.dropWhile Char.isDigit)

/-- The text can stand between the slashes of a literal. -/
structure IsBody (body : List Char) : Prop where
  tight : ∀ u ∈ Js.units body, u.isLoose = false
  unbroken : ∀ c ∈ body, endsLine c = false

/-- The pattern has a literal that is read up to the slash that closes it, on one line. -/
structure Writable (source : String) : Prop where
  paired : Paired source.toList
  unbroken : unbroken source.toList = true

theorem Writable.isBody {source : String} (h : Writable source) : IsBody (bodyOf source) where
  tight _ := isLoose_of_mem_bodyOf h.paired
  unbroken := by
    unfold bodyOf
    split_ifs
    · exact forall_clear rfl
    · exact forall_literalBody.mpr h.unbroken

theorem readNumber_toString (n : Nat) {c : Char} (hc : c.isDigit = false) (cs : List Char) :
    readNumber ((toString n).toList ++ c :: cs) = (n, c :: cs) := by
  have hdigits : ∀ d ∈ (toString n).toList, d.isDigit = true := by
    intro d hd
    rw [Nat.toString_eq_repr, Nat.toList_repr] at hd
    exact Nat.isDigit_of_mem_toDigits (by decide) (by decide) hd
  have hvalue : Nat.ofDigitChars 10 (toString n).toList 0 = n := by
    rw [Nat.toString_eq_repr, Nat.toList_repr, Nat.ofDigitChars_ten_toDigits]
  have hstop : ¬ c.isDigit = true := by
    rw [hc]
    decide
  rw [readNumber, List.takeWhile_append_of_pos hdigits, List.dropWhile_append_of_pos hdigits,
    List.takeWhile_cons_of_neg hstop, List.dropWhile_cons_of_neg hstop, List.append_nil, hvalue]

section Literals

variable {body rest : List Char}

theorem readBody?_append (h : IsBody body) : readBody? (body ++ '/' :: rest) = some (body, rest) := by
  obtain ⟨htight, hline⟩ := h
  fun_induction Js.units body with
  | case1 c cs ih =>
      obtain ⟨-, htight⟩ := List.forall_mem_cons.mp htight
      obtain ⟨-, hc, hcs⟩ := by simpa only [List.forall_mem_cons] using hline
      rw [List.cons_append, List.cons_append, readBody?, hc, ih htight hcs]
      rfl
  | case2 c cs hnot ih =>
      obtain ⟨hloose, htight⟩ := List.forall_mem_cons.mp htight
      obtain ⟨hc, hcs⟩ := List.forall_mem_cons.mp hline
      simp only [PatternUnit.isLoose, Bool.or_eq_false_iff, beq_eq_false_iff_ne, ne_eq, PatternUnit.single.injEq] at hloose
      rw [List.cons_append, readBody?, hc, ih htight hcs]
      · rfl
      · exact fun _ _ hbackslash _ => hloose.2 hbackslash
      · exact hloose.1.1
  | case3 => simp [readBody?]

/-- The literal of a pattern, with the flag that says whether it ignores letter case. -/
theorem readLiteral?_append (h : IsBody body) (ignoreCase : Bool) (hrest : rest.head? ≠ some 'i') :
    readLiteral? ('/' :: (body ++ '/' :: ((if ignoreCase then "i" else "").toList ++ rest))) =
      some ((body, ignoreCase), rest) := by
  have hslash : ∀ cs, Text.after? "/".toList ('/' :: cs) = some cs := fun _ => rfl
  rw [readLiteral?, hslash]
  simp only [Option.bind_eq_bind, Option.bind_some, readBody?_append h]
  cases ignoreCase with
  | true =>
      rw [if_pos rfl, Text.after?_append]
      rfl
  | false =>
      have hflag : Text.after? "i".toList rest = none := by
        cases rest with
        | nil => rfl
        | cons c cs =>
            have hc : 'i' ≠ c := fun hc => hrest (by rw [hc, List.head?_cons])
            exact if_neg hc
      rw [if_neg Bool.false_ne_true]
      change (match Text.after? "i".toList rest with
        | some rest => some ((body, true), rest)
        | none => some ((body, false), rest)) = _
      rw [hflag]

theorem toList_patternLiteral (source flags : String) :
    (patternLiteral source flags).toList = '/' :: (bodyOf source ++ '/' :: flags.toList) := by
  rw [patternLiteral_eq]
  simp only [String.toList_append, String.toList_ofList, List.append_assoc]
  rfl

theorem readLiteral?_patternLiteral {source : String} (h : Writable source) (ignoreCase : Bool)
    (hrest : rest.head? ≠ some 'i') :
    readLiteral? ((patternLiteral source (if ignoreCase then "i" else "")).toList ++ rest) =
      some ((bodyOf source, ignoreCase), rest) := by
  rw [toList_patternLiteral, List.cons_append, List.append_assoc, List.cons_append]
  exact readLiteral?_append h.isBody ignoreCase hrest

end Literals

end Js

def Test.Writable : Test → Prop
  | .matchesPattern source _ => Js.Writable source
  | .matchesSegments segments => ∀ s ∈ segments, OneLine s.render
  | _ => True

def Segment.pattern (segments : List Segment) : String := "^" ++ String.join (segments.map Segment.render) ++ "$"

def Test.check (subject : Subject) : Test → Check
  | .constant b => .constant b
  | .equals value => .equals subject value
  | .startsWith value => .startsWith subject value
  | .matchesPattern source ignoreCase => .matches (bodyOf source) ignoreCase subject
  | .matchesSegments segments => .matches (bodyOf (Segment.pattern segments)) true subject

section Checks

variable {rest : List Char}

theorem Test.holds_check (R : Runtime) (host path : String) (subject : Subject) (t : Test) :
    (t.check subject).holds R host path = t.holds R.engine (subject.value host path) := by
  cases t <;> rfl

theorem isBody_append {a b : List Char} (ha : IsBody a) (hb : IsBody b) : IsBody (a ++ b) where
  tight := by
    have hpaired : Paired a := fun hmem => Bool.noConfusion (ha.tight _ hmem)
    rw [units_append hpaired, List.forall_mem_append]
    exact ⟨ha.tight, hb.tight⟩
  unbroken := List.forall_mem_append.mpr ⟨ha.unbroken, hb.unbroken⟩

/-- Text in which the special characters are escaped can stand in a literal. -/
theorem isBody_escapePattern {cs : List Char} (h : ∀ c ∈ cs, endsLine c = false) : IsBody (escapePattern cs) := by
  induction cs with
  | nil => exact ⟨nofun, nofun⟩
  | cons c cs ih =>
      obtain ⟨hc, hcs⟩ := List.forall_mem_cons.mp h
      rw [escapePattern, List.flatMap_cons, ← escapePattern]
      refine isBody_append ?_ (ih hcs)
      unfold escapeChar
      split_ifs with hspecial
      · exact ⟨by simp [Js.units, PatternUnit.isLoose], by simp [hc]; decide⟩
      · have hne : ∀ d, isPatternSpecial d = true → c ≠ d := by
          rintro d hd rfl
          exact hspecial hd
        have hfeed : c ≠ '\n' := by
          rintro rfl
          cases hc
        refine ⟨?_, List.forall_mem_singleton.mpr hc⟩
        rw [units_single (hne '\\' rfl), Js.units, List.forall_mem_singleton]
        simp [PatternUnit.isLoose, hne '/' rfl, hne '\\' rfl, hfeed]

/-- Fixed text is looked at character by character. -/
theorem isBody_of_all {body : List Char} (htight : (Js.units body).all (!·.isLoose) = true)
    (hunbroken : body.all (!endsLine ·) = true) : IsBody body where
  tight u hu := (Bool.not_eq_true' _).mp (List.all_eq_true.mp htight u hu)
  unbroken := forall_clear hunbroken

theorem isBody_segment {s : Segment} (h : OneLine s.render) : IsBody s.render.toList := by
  cases s with
  | text s =>
      rw [Segment.render, oneLine_ofList, forall_escapePattern] at h
      rw [Segment.render, String.toList_ofList]
      exact isBody_escapePattern h
  | anything => exact isBody_of_all rfl rfl
  | subdomains => exact isBody_of_all rfl rfl

theorem isBody_pattern {segments : List Segment} (h : ∀ s ∈ segments, OneLine s.render) :
    IsBody (Segment.pattern segments).toList := by
  have hjoined : IsBody (String.join (segments.map Segment.render)).toList := by
    induction segments with
    | nil => exact ⟨nofun, nofun⟩
    | cons s segments ih =>
        obtain ⟨hs, hsegments⟩ := List.forall_mem_cons.mp h
        rw [List.map_cons, String.join_cons, String.toList_append]
        exact isBody_append (isBody_segment hs) (ih hsegments)
  rw [Segment.pattern, String.toList_append, String.toList_append]
  exact isBody_append (isBody_append (isBody_of_all rfl rfl) hjoined) (isBody_of_all rfl rfl)

/-- A pattern that can stand between slashes as it is, is its own body. -/
theorem bodyOf_of_isBody {pattern : String} (h : IsBody pattern.toList) (hne : pattern ≠ "") :
    bodyOf pattern = pattern.toList := by
  rw [bodyOf, if_neg hne, literalBody_of_units h.tight]

theorem readSubject?_name (s : Subject) : readSubject? (s.name.toList ++ rest) = some (s, rest) := by
  cases s with
  | hostname =>
      rw [readSubject?, Subject.name, Text.after?_append]
  | path => rfl

theorem readComparison?_equals (s : Subject) (value : String) :
    readComparison? (((Test.equals value).render s.name).toList ++ rest) = some (.equals s value, rest) := by
  rw [Test.render, String.toList_append, String.toList_append, List.append_assoc, List.append_assoc, readComparison?,
    readSubject?_name]
  simp only [Option.bind_eq_bind, Option.bind_some, Text.after?_append, readString?_string, Option.pure_def]

theorem readComparison?_startsWith (s : Subject) (value : String) :
    readComparison? (((Test.startsWith value).render s.name).toList ++ rest) = some (.startsWith s value, rest) := by
  have hother : ∀ cs, Text.after? " === ".toList (".startsWith(".toList ++ cs) = none := fun _ => rfl
  rw [Test.render, String.toList_append, String.toList_append, String.toList_append, List.append_assoc,
    List.append_assoc, List.append_assoc, readComparison?, readSubject?_name]
  simp only [Option.bind_eq_bind, Option.bind_some, hother, Text.after?_append, readString?_string, Option.pure_def]

theorem readMatch?_append {body : List Char} (h : IsBody body) (ignoreCase : Bool) (s : Subject) :
    readMatch? ('/' :: (body ++ '/' :: ((if ignoreCase then "i" else "").toList ++
      (".test(".toList ++ (s.name.toList ++ (")".toList ++ rest)))))) = some (.matches body ignoreCase s, rest) := by
  have hflag : (".test(".toList ++ (s.name.toList ++ (")".toList ++ rest))).head? ≠ some 'i' := by
    intro h
    cases h
  rw [readMatch?, readLiteral?_append h ignoreCase hflag]
  simp only [Option.bind_eq_bind, Option.bind_some, Text.after?_append, readSubject?_name, Option.pure_def]

theorem readCheck?_subject (s : Subject) (cs : List Char) :
    readCheck? (s.name.toList ++ cs) = readComparison? (s.name.toList ++ cs) := by
  cases s <;> rfl

theorem readCheck?_slash (cs : List Char) : readCheck? ('/' :: cs) = readMatch? ('/' :: cs) := rfl

/-- A test is read from its code, whatever follows. -/
theorem readCheck?_render {t : Test} (h : t.Writable) (s : Subject) :
    readCheck? ((t.render s.name).toList ++ rest) = some (t.check s, rest) := by
  cases t with
  | constant b =>
      rw [Test.render]
      cases b <;> rfl
  | equals value =>
      have hread : readComparison? (_ ++ rest) = _ := readComparison?_equals s value
      rw [Test.render, String.append_assoc, String.toList_append, List.append_assoc] at hread ⊢
      rw [readCheck?_subject, hread]
      rfl
  | startsWith value =>
      have hread : readComparison? (_ ++ rest) = _ := readComparison?_startsWith s value
      rw [Test.render, String.append_assoc, String.append_assoc, String.toList_append, List.append_assoc] at hread ⊢
      rw [readCheck?_subject, hread]
      rfl
  | matchesPattern source ignoreCase =>
      have htext : ((Test.matchesPattern source ignoreCase).render s.name).toList ++ rest =
          '/' :: (bodyOf source ++ '/' :: ((if ignoreCase then "i" else "").toList ++
            (".test(".toList ++ (s.name.toList ++ (")".toList ++ rest))))) := by
        rw [Test.render]
        simp only [String.toList_append, toList_patternLiteral, List.append_assoc, List.cons_append]
      rw [htext, readCheck?_slash, readMatch?_append h.isBody]
      rfl
  | matchesSegments segments =>
      have hbody := isBody_pattern h
      have hne : Segment.pattern segments ≠ "" := by
        unfold Segment.pattern
        simp
      have htext : ((Test.matchesSegments segments).render s.name).toList ++ rest =
          '/' :: ((Segment.pattern segments).toList ++ '/' :: ((if true then "i" else "").toList ++
            (".test(".toList ++ (s.name.toList ++ (")".toList ++ rest))))) := by
        have hopening : "/^".toList = '/' :: "^".toList := rfl
        have hclosing : "$/i.test(".toList = "$".toList ++ '/' :: ("i".toList ++ ".test(".toList) := rfl
        unfold Test.render Segment.pattern
        simp only [String.toList_append, hopening, hclosing, List.append_assoc, List.cons_append, if_true]
      rw [htext, readCheck?_slash, readMatch?_append hbody]
      rw [Test.check, bodyOf_of_isBody hbody hne]

end Checks

section Conditions

variable {rest : List Char}

/-- Alternatives are read up to the first that no other follows. -/
theorem readChecks?_tests {tests : List Test} (hne : tests ≠ []) (h : ∀ t ∈ tests, t.Writable) (s : Subject)
    (hrest : Text.after? " || ".toList rest = none) :
    readChecks? ((Text.joined " || " (tests.map (Test.render s.name))).toList ++ rest) =
      some (tests.map (Test.check s), rest) := by
  induction tests with
  | nil => exact absurd rfl hne
  | cons t tests ih =>
      obtain ⟨ht, htests⟩ := List.forall_mem_cons.mp h
      cases tests with
      | nil =>
          rw [List.map_singleton, Text.joined, String.intercalate_singleton, readChecks?, readCheck?_render ht]
          simp only [hrest, List.map_singleton]
      | cons next tests =>
          have ih := ih (List.cons_ne_nil _ _) htests
          generalize hmore : (Text.joined " || " ((next :: tests).map (Test.render s.name))).toList = more at ih
          have htext : (Text.joined " || " ((t :: next :: tests).map (Test.render s.name))).toList ++ rest =
              (t.render s.name).toList ++ (" || ".toList ++ (more ++ rest)) := by
            rw [← hmore, Text.joined, Text.joined, List.map_cons, List.map_cons, String.intercalate_cons_cons,
              String.toList_append, String.toList_append, List.append_assoc, List.append_assoc]
          have hlength : (more ++ rest).length < ((t.render s.name).toList ++ (" || ".toList ++ (more ++ rest))).length := by
            have hbar : " || ".toList.length = 4 := rfl
            simp only [List.length_append, hbar]
            omega
          rw [htext, readChecks?, readCheck?_render ht]
          simp only [Text.after?_append, if_pos hlength, ih, Option.map_some, List.map_cons]

/-- The first character of a test is no parenthesis. -/
theorem after?_parenthesis (t : Test) (s : Subject) : Text.after? "(".toList ((t.render s.name).toList ++ rest) = none := by
  cases t with
  | constant b =>
      rw [Test.render]
      cases b <;> rfl
  | equals value | startsWith value =>
      rw [Test.render]
      cases s <;> simp only [String.toList_append, List.append_assoc] <;> rfl
  | matchesPattern source ignoreCase =>
      rw [Test.render]
      simp only [String.toList_append, toList_patternLiteral]
      rfl
  | matchesSegments segments =>
      rw [Test.render]
      simp only [String.toList_append, List.append_assoc]
      rfl

/-- A condition is read from its code. -/
theorem readCondition?_render {c : Condition} (hne : c.tests ≠ []) (h : ∀ t ∈ c.tests, t.Writable) (s : Subject)
    (hrest : Text.after? " || ".toList rest = none) :
    readCondition? ((c.render s.name).toList ++ rest) = some (c.tests.map (Test.check s), rest) := by
  unfold Condition.render
  split_ifs with henclosed
  · have hclose : Text.after? " || ".toList (")".toList ++ rest) = none := rfl
    rw [String.toList_append, String.toList_append, List.append_assoc, List.append_assoc, readCondition?,
      Text.after?_append]
    simp only [readChecks?_tests hne h s hclose, Option.bind_eq_bind, Option.bind_some, Text.after?_append,
      Option.pure_def]
  · have hopen : Text.after? "(".toList ((Text.joined " || " (c.tests.map (Test.render s.name))).toList ++ rest) = none := by
      obtain ⟨t, tests, htests⟩ := List.exists_cons_of_ne_nil hne
      rw [htests]
      cases tests with
      | nil =>
          rw [List.map_singleton, Text.joined, String.intercalate_singleton]
          exact after?_parenthesis t s
      | cons next tests =>
          rw [Text.joined, List.map_cons, List.map_cons, String.intercalate_cons_cons, String.toList_append,
            String.toList_append, List.append_assoc, List.append_assoc]
          exact after?_parenthesis t s
    rw [readCondition?, hopen]
    exact readChecks?_tests hne h s hrest

/-- One of the alternatives that are read holds just if the condition does. -/
theorem Condition.holds_checks (R : Runtime) (host path : String) (s : Subject) (c : Condition) :
    (c.tests.map (Test.check s)).any (Check.holds R host path) = c.holds R.engine (s.value host path) := by
  rw [List.any_map, Condition.holds]
  refine congrArg (List.any c.tests) (funext fun t => ?_)
  exact t.holds_check R host path s

end Conditions

section Addresses

variable {rest : List Char}

def Destination.address : Destination → Address
  | .url text => .url text
  | .replaced s => .replaced (bodyOf s.pattern.source) s.pattern.ignoreCase s.replacement

theorem readAddress?_url (text : String) :
    readAddress? ((expanded (string text)).toList ++ rest) = some (.url text, rest) := by
  have hquote : ∀ cs, Text.after? "path.replace(".toList ((string text).toList ++ cs) = none := by
    intro cs
    unfold string Json.string
    simp only [String.toList_ofList]
    rfl
  unfold expanded
  rw [String.toList_append, String.toList_append, List.append_assoc, List.append_assoc, readAddress?]
  simp only [Text.after?_append, Option.bind_eq_bind, Option.bind_some, hquote, readString?_string, Option.pure_def]

theorem readAddress?_replaced {s : Substitution} (h : Js.Writable s.pattern.source) :
    readAddress? ((expanded s.expression).toList ++ rest) =
      some (.replaced (bodyOf s.pattern.source) s.pattern.ignoreCase s.replacement, rest) := by
  have hclose : "), vars)".toList = ")".toList ++ ", vars)".toList := rfl
  have hcomma : (", ".toList ++ ((string s.replacement).toList ++ ("), vars)".toList ++ rest))).head? ≠ some 'i' := by
    intro h
    cases h
  have htext : (expanded s.expression).toList ++ rest = "expandVars(".toList ++ ("path.replace(".toList ++
      ((patternLiteral s.pattern.source (if s.pattern.ignoreCase then "i" else "")).toList ++
        (", ".toList ++ ((string s.replacement).toList ++ ("), vars)".toList ++ rest))))) := by
    unfold expanded Substitution.expression PathPattern.literal
    simp only [String.toList_append, hclose, List.append_assoc]
  rw [htext, readAddress?]
  simp only [Text.after?_append, Option.bind_eq_bind, Option.bind_some, readLiteral?_patternLiteral h _ hcomma,
    readString?_string, Option.pure_def]

/-- The expression for an address is read from its code. -/
theorem readAddress?_expression {d : Destination}
    (h : ∀ s, d = .replaced s → Js.Writable s.pattern.source) :
    readAddress? ((expanded d.expression).toList ++ rest) = some (d.address, rest) := by
  cases d with
  | url text => exact readAddress?_url text
  | replaced s => exact readAddress?_replaced (h s rfl)

end Addresses

end EdgeRoutes
