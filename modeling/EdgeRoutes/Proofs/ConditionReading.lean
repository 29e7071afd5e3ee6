import EdgeRoutes.Proofs.PatternLines
import EdgeRoutes.Proofs.StringLiterals

/-! Reading conditions as the language does. A condition is a list of alternatives: constants, comparisons with a
string, and tests of a pattern literal. Patterns are read character by character, with a stack for open groups, and they
match as the language says: a dot is any character that does not end a line, and an anchor is an end of the text. -/

namespace EdgeRoutes.Js

/-- A pattern of the language. -/
inductive Regex where
  | empty
  | start
  | stop
  | char (c : Char)
  | any
  | seq (a b : Regex)
  | star (r : Regex)
  | optional (r : Regex)

namespace Regex

/-- Patterns one after the other. -/
def seqs : List Regex → Regex
  | [] => .empty
  | r :: rs => .seq r (seqs rs)

/-- A quantifier can follow. -/
def quantifiable : Regex → Bool
  | .start | .stop | .star _ | .optional _ => false
  | _ => true

/-- The characters are the same, or for `ignoreCase` the same letter. The letters with a case are those of ASCII. -/
def Same (ignoreCase : Bool) (c d : Char) : Prop :=
  if ignoreCase then c.toUpper = d.toUpper else c = d

/-- Any number of steps, each from where the one before has ended. -/
inductive Iterated (step : List Char → List Char → List Char → Prop) : List Char → List Char → List Char → Prop where
  | done {pre post : List Char} : Iterated step pre [] post
  | next {pre x y post : List Char} (hfirst : step pre x (y ++ post)) (hrest : Iterated step (pre ++ x) y post) :
      Iterated step pre (x ++ y) post

/-- The pattern matches the text `mid` that stands between `pre` and `post`. -/
def Matches (ignoreCase : Bool) : Regex → (pre mid post : List Char) → Prop
  | .empty, _, mid, _ => mid = []
  | .start, pre, mid, _ => mid = [] ∧ pre = []
  | .stop, _, mid, post => mid = [] ∧ post = []
  | .char c, _, mid, _ => ∃ d, mid = [d] ∧ Same ignoreCase c d
  | .any, _, mid, _ => ∃ d, mid = [d] ∧ endsLine d = false
  | .seq a b, pre, mid, post =>
    ∃ x y, mid = x ++ y ∧ a.Matches ignoreCase pre x (y ++ post) ∧ b.Matches ignoreCase (pre ++ x) y post
  | .star r, pre, mid, post => Iterated (r.Matches ignoreCase) pre mid post
  | .optional r, pre, mid, post => mid = [] ∨ r.Matches ignoreCase pre mid post

/-- The pattern matches somewhere in a text. -/
def Tests (r : Regex) (ignoreCase : Bool) (text : List Char) : Prop :=
  ∃ pre mid post, text = pre ++ mid ++ post ∧ r.Matches ignoreCase pre mid post

/-- Reads a pattern. `terms` are those of the innermost open group, last one first, and `stack` has those of the groups
around it. Of escapes, only those of characters with a meaning are read. -/
def readTerms (stack : List (List Regex)) (terms : List Regex) : List Char → Option (List Regex)
  | [] => if stack.isEmpty then some terms.reverse else none
  | '\\' :: c :: cs => if isPatternSpecial c then readTerms stack (.char c :: terms) cs else none
  | '(' :: '?' :: ':' :: cs => readTerms (terms :: stack) [] cs
  | ')' :: cs =>
    match stack with
    | outer :: stack => readTerms stack (seqs terms.reverse :: outer) cs
    | [] => none
  | '*' :: cs =>
    match terms with
    | r :: rs => if r.quantifiable then readTerms stack (.star r :: rs) cs else none
    | [] => none
  | '?' :: cs =>
    match terms with
    | r :: rs => if r.quantifiable then readTerms stack (.optional r :: rs) cs else none
    | [] => none
  | '^' :: cs => readTerms stack (.start :: terms) cs
  | '$' :: cs => readTerms stack (.stop :: terms) cs
  | '.' :: cs => readTerms stack (.any :: terms) cs
  | c :: cs => if isPatternSpecial c || endsLine c then none else readTerms stack (.char c :: terms) cs

end Regex

/-- The body of a pattern literal after its first slash, and what follows its last one. A slash inside brackets does not
end a literal; brackets are not read. -/
def literalText : List Char → Option (List Char × List Char)
  | '\\' :: c :: cs =>
    if endsLine c then none else (literalText cs).map fun (body, rest) => ('\\' :: c :: body, rest)
  | '/' :: cs => some ([], cs)
  | c :: cs =>
    if endsLine c || c == '[' then none else (literalText cs).map fun (body, rest) => (c :: body, rest)
  | [] => none

/-- An alternative of a condition. -/
inductive Operand where
  | constant (b : Bool)
  | equals (value : String)
  | tests (r : Regex) (ignoreCase : Bool)

def Operand.Holds (value : String) : Operand → Prop
  | .constant b => b = true
  | .equals text => value = text
  | .tests r ignoreCase => r.Tests ignoreCase value.toList

def readTest? (subject : String) (cs : List Char) : Option (Operand × List Char) := do
  let (body, rest) ← literalText cs
  let terms ← Regex.readTerms [] [] body
  let flag := rest.head? == some 'i'
  let rest ← Text.after? (".test(" ++ subject ++ ")").toList (if flag then rest.tail else rest)
  return (.tests (.seqs terms) flag, rest)

/-- The alternative at the front, and what follows it. -/
def readOperand? (subject : String) (cs : List Char) : Option (Operand × List Char) :=
  match Text.after? ['/'] cs with
  | some rest => readTest? subject rest
  | none =>
    match Text.after? (subject ++ " === ").toList cs with
    | some rest => (readString? rest).map fun (value, rest) => (.equals value, rest)
    | none =>
      match Text.after? "true".toList cs with
      | some rest => some (.constant true, rest)
      | none => (Text.after? "false".toList cs).map fun rest => (.constant false, rest)

def readAlternatives? (subject : String) (cs : List Char) : Option (List Operand) :=
  match readOperand? subject cs with
  | none => none
  | some (o, []) => some [o]
  | some (o, rest) =>
    match Text.after? " || ".toList rest with
    | some more => if more.length < cs.length then (readAlternatives? subject more).map (o :: ·) else none
    | none => none
termination_by cs.length

section Reading

variable {rest : List Char}

namespace Regex

theorem readTerms_plain {c : Char} (hspecial : isPatternSpecial c = false) (hline : endsLine c = false)
    (stack : List (List Regex)) (terms : List Regex) :
    readTerms stack terms (c :: rest) = readTerms stack (.char c :: terms) rest := by
  rw [readTerms, hspecial, hline]
  · rfl
  · rintro d ds rfl
    cases hspecial
  · rintro ds rfl
    cases hspecial
  all_goals
    rintro rfl
    cases hspecial

theorem readTerms_escapePattern {cs : List Char} (h : ∀ c ∈ cs, endsLine c = false) (stack : List (List Regex))
    (terms : List Regex) :
    readTerms stack terms (escapePattern cs ++ rest) = readTerms stack ((cs.map char).reverse ++ terms) rest := by
  induction cs generalizing terms with
  | nil => rfl
  | cons c cs ih =>
      obtain ⟨hc, hcs⟩ := List.forall_mem_cons.mp h
      rw [escapePattern, List.flatMap_cons, List.append_assoc, ← escapePattern]
      have hstep : readTerms stack terms (escapeChar c ++ (escapePattern cs ++ rest)) =
          readTerms stack (.char c :: terms) (escapePattern cs ++ rest) := by
        unfold escapeChar
        by_cases hspecial : isPatternSpecial c = true
        · rw [if_pos hspecial, List.cons_append, List.singleton_append, readTerms, if_pos hspecial]
        · rw [if_neg hspecial, List.singleton_append,
            readTerms_plain (Bool.not_eq_true _ ▸ hspecial) hc]
      rw [hstep, ih hcs, List.map_cons, List.reverse_cons, List.append_assoc, List.singleton_append]

/-- The terms that a segment is read as. -/
def ofSegment : Segment → List Regex
  | .text s => s.toList.map char
  | .anything => [.star .any]
  | .subdomains => [.optional (seqs [.star .any, .char '.'])]

theorem readTerms_segment {s : Segment} (h : OneLine s.render) (stack : List (List Regex)) (terms : List Regex) :
    readTerms stack terms (s.render.toList ++ rest) = readTerms stack ((ofSegment s).reverse ++ terms) rest := by
  cases s with
  | text s =>
      rw [Segment.render, oneLine_ofList, forall_escapePattern] at h
      rw [Segment.render, String.toList_ofList, ofSegment, readTerms_escapePattern h]
  | anything =>
      change readTerms stack terms ('.' :: '*' :: rest) = _
      rw [readTerms, readTerms]
      rfl
  | subdomains =>
      change readTerms stack terms ('(' :: '?' :: ':' :: '.' :: '*' :: '\\' :: '.' :: ')' :: '?' :: rest) = _
      simp [readTerms, quantifiable, isPatternSpecial, ofSegment, seqs]

theorem readTerms_segments {segments : List Segment} (h : ∀ s ∈ segments, OneLine s.render) (terms : List Regex) :
    readTerms [] terms ((String.join (segments.map Segment.render)).toList ++ rest) =
      readTerms [] ((segments.flatMap ofSegment).reverse ++ terms) rest := by
  induction segments generalizing terms with
  | nil => rfl
  | cons s segments ih =>
      obtain ⟨hs, hsegments⟩ := List.forall_mem_cons.mp h
      rw [List.map_cons, String.join_cons, String.toList_append, List.append_assoc, readTerms_segment hs, ih hsegments,
        List.flatMap_cons, List.reverse_append, List.append_assoc]

end Regex

def Continues (text : List Char) : Prop :=
  ∀ rest, literalText (text ++ rest) = (literalText rest).map fun (body, after) => (text ++ body, after)

theorem continues_append {a b : List Char} (ha : Continues a) (hb : Continues b) : Continues (a ++ b) := by
  intro rest
  rw [List.append_assoc, ha, hb, Option.map_map]
  simp only [Function.comp_def, List.append_assoc]

theorem continues_nil : Continues [] := by
  intro rest
  simp

theorem continues_escape {c : Char} (h : endsLine c = false) : Continues ['\\', c] := by
  intro rest
  rw [List.cons_append, List.singleton_append, literalText, h]
  rfl

/-- The character stands for itself in the body of a literal. -/
def isBodyChar (c : Char) : Bool := !endsLine c && c != '\\' && c != '/' && c != '['

theorem continues_plain {cs : List Char} (h : cs.all isBodyChar = true) : Continues cs := by
  induction cs with
  | nil => exact continues_nil
  | cons c cs ih =>
      rw [List.all_cons, Bool.and_eq_true] at h
      simp only [isBodyChar, Bool.and_eq_true, Bool.not_eq_true', bne_iff_ne] at h
      obtain ⟨⟨⟨⟨hline, hbackslash⟩, hslash⟩, hbracket⟩, hcs⟩ := h
      intro rest
      rw [List.cons_append, literalText, ih hcs, hline, beq_eq_false_iff_ne.mpr hbracket, Option.map_map]
      · rfl
      · rintro d ds rfl
        exact absurd rfl hbackslash
      · exact hslash

theorem continues_escapePattern {cs : List Char} (h : ∀ c ∈ cs, endsLine c = false) : Continues (escapePattern cs) := by
  induction cs with
  | nil => exact continues_nil
  | cons c cs ih =>
      obtain ⟨hc, hcs⟩ := List.forall_mem_cons.mp h
      rw [escapePattern, List.flatMap_cons, ← escapePattern]
      refine continues_append ?_ (ih hcs)
      unfold escapeChar
      split_ifs with hspecial
      · exact continues_escape hc
      · have hne : ∀ d, isPatternSpecial d = true → c ≠ d := by
          rintro d hd rfl
          exact hspecial hd
        refine continues_plain ?_
        simp [isBodyChar, hc, hne '\\' rfl, hne '/' rfl, hne '[' rfl]

theorem continues_segment {s : Segment} (h : OneLine s.render) : Continues s.render.toList := by
  cases s with
  | text s =>
      rw [Segment.render, oneLine_ofList, forall_escapePattern] at h
      rw [Segment.render, String.toList_ofList]
      exact continues_escapePattern h
  | anything =>
      have hplain : Continues ".*".toList := continues_plain rfl
      exact hplain
  | subdomains =>
      have hopening : Continues "(?:.*".toList := continues_plain rfl
      have hclosing : Continues ")?".toList := continues_plain rfl
      exact continues_append hopening (continues_append (continues_escape (by decide)) hclosing)

theorem continues_segments {segments : List Segment} (h : ∀ s ∈ segments, OneLine s.render) :
    Continues (String.join (segments.map Segment.render)).toList := by
  induction segments with
  | nil => exact continues_nil
  | cons s segments ih =>
      obtain ⟨hs, hsegments⟩ := List.forall_mem_cons.mp h
      rw [List.map_cons, String.join_cons, String.toList_append]
      exact continues_append (continues_segment hs) (ih hsegments)

theorem readOperand?_equals (value : String) :
    readOperand? "hostname" (((Test.equals value).render "hostname").toList ++ rest) = some (.equals value, rest) := by
  have htext : ((Test.equals value).render "hostname").toList ++ rest =
      ("hostname" ++ " === ").toList ++ ((string value).toList ++ rest) := by
    rw [Test.render, String.toList_append, List.append_assoc]
  have hslash : Text.after? ['/'] (("hostname" ++ " === ").toList ++ ((string value).toList ++ rest)) = none := rfl
  rw [htext]
  simp only [readOperand?, hslash, Text.after?_append, readString?_string, Option.map_some]

theorem readOperand?_true : readOperand? "hostname" (((Test.constant true).render "hostname").toList ++ rest) =
    some (.constant true, rest) := rfl

theorem readTest?_literal {body : List Char} {terms : List Regex} (hbody : Continues body)
    (hterms : Regex.readTerms [] [] body = some terms) (subject : String) :
    readTest? subject (body ++ ('/' :: 'i' :: ((".test(" ++ subject ++ ")").toList ++ rest))) =
      some (.tests (.seqs terms) true, rest) := by
  have hliteral : ∀ after, literalText (body ++ '/' :: after) = some (body, after) := by
    intro after
    rw [hbody, literalText]
    simp
  rw [readTest?, hliteral]
  simp only [Option.bind_eq_bind, Option.bind_some, hterms, List.head?_cons, beq_self_eq_true, if_true, List.tail_cons,
    Text.after?_append, Option.pure_def]

/-- The test of a name with wildcards is read as the terms of its segments between the two ends of the text. -/
theorem readOperand?_segments {segments : List Segment} (h : ∀ s ∈ segments, OneLine s.render) :
    readOperand? "hostname" (((Test.matchesSegments segments).render "hostname").toList ++ rest) =
      some (.tests (.seqs (.start :: (segments.flatMap Regex.ofSegment ++ [.stop]))) true, rest) := by
  generalize hjoined : (String.join (segments.map Segment.render)).toList = joined
  have htext : ((Test.matchesSegments segments).render "hostname").toList ++ rest =
      ['/'] ++ (('^' :: (joined ++ ['$'])) ++ '/' :: 'i' :: ((".test(" ++ "hostname" ++ ")").toList ++ rest)) := calc
    ((Test.matchesSegments segments).render "hostname").toList ++ rest
      = "/^".toList ++ (joined ++ ("$/i.test(".toList ++ ("hostname".toList ++ (")".toList ++ rest)))) := by
        rw [Test.render]
        simp only [String.toList_append, hjoined, List.append_assoc]
    _ = "/^".toList ++ (joined ++ '$' :: '/' :: 'i' :: ((".test(" ++ "hostname" ++ ")").toList ++ rest)) := rfl
    _ = ['/'] ++ (('^' :: (joined ++ ['$'])) ++ '/' :: 'i' :: ((".test(" ++ "hostname" ++ ")").toList ++ rest)) := by
        generalize '/' :: 'i' :: ((".test(" ++ "hostname" ++ ")").toList ++ rest) = tail
        simp
  have hscan : Continues ('^' :: (joined ++ ['$'])) := by
    have hsegments : Continues joined := hjoined ▸ continues_segments h
    have hcaret : Continues ['^'] := continues_plain rfl
    exact continues_append hcaret (continues_append hsegments (continues_plain rfl))
  have hterms : Regex.readTerms [] [] ('^' :: (joined ++ ['$'])) =
      some (.start :: (segments.flatMap Regex.ofSegment ++ [.stop])) := by
    rw [Regex.readTerms, ← hjoined, Regex.readTerms_segments h, Regex.readTerms, Regex.readTerms]
    simp
  rw [htext, readOperand?, Text.after?_append]
  exact readTest?_literal hscan hterms "hostname"

/-- What stands between bars is read one by one. -/
theorem readAlternatives?_joined {texts : List String} {operands : List Operand} (hne : texts ≠ [])
    (h : List.Forall₂ (fun text o => ∀ rest, readOperand? "hostname" (text.toList ++ rest) = some (o, rest)) texts
      operands) : readAlternatives? "hostname" (Text.joined " || " texts).toList = some operands := by
  rw [Text.joined]
  induction h with
  | nil => exact absurd rfl hne
  | @cons text o texts operands ho hrest ih =>
      cases hrest with
      | nil =>
          have hread := ho []
          rw [List.append_nil] at hread
          rw [String.intercalate_singleton, readAlternatives?, hread]
      | @cons next o' texts operands ho' hrest =>
          generalize hmore : (String.intercalate " || " (next :: texts)).toList = more at ih
          have htext : (String.intercalate " || " (text :: next :: texts)).toList =
              text.toList ++ (" || ".toList ++ more) := by
            rw [String.intercalate_cons_cons, String.toList_append, String.toList_append, List.append_assoc, hmore]
          have hlength : more.length < (text.toList ++ (" || ".toList ++ more)).length := by
            have hbar : " || ".toList.length = 4 := rfl
            rw [List.length_append, List.length_append, hbar]
            omega
          rw [htext, readAlternatives?, ho]
          change (match Text.after? " || ".toList (" || ".toList ++ more) with
            | some more => if more.length < _ then (readAlternatives? "hostname" more).map (o :: ·) else none
            | none => none) = _
          rw [Text.after?_append]
          simp only [if_pos hlength, ih (by simp), Option.map_some]

end Reading

end EdgeRoutes.Js
