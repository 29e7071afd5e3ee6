import EdgeRoutes.Js.Literal
import Mathlib.Data.List.Basic
import Mathlib.Tactic.SplitIfs

/-! Pattern literals. A pattern is read from left to right in units: a backslash together with the character after it, or a
character by itself. A literal changes just the units that would end it early, a slash and a line feed, into pairs; so
the first slash that stands by itself is the one that closes the literal, and a body that was guarded once is not changed
again. -/

namespace EdgeRoutes.Js

/-- A unit of a pattern: a backslash with the character that it goes with, or a character by itself. -/
inductive PatternUnit where
  | pair (c : Char)
  | single (c : Char)
  deriving DecidableEq

namespace PatternUnit

def text : PatternUnit → List Char
  | .pair c => ['\\', c]
  | .single c => [c]

def guarded : PatternUnit → PatternUnit
  | .single '/' => .pair '/'
  | .single '\n' => .pair 'n'
  | u => u

/-- The units that would end a literal early or leave it open: a slash, a line feed or a backslash by itself. -/
def isLoose (u : PatternUnit) : Bool :=
  u == .single '/' || u == .single '\n' || u == .single '\\'

end PatternUnit

/-- The units of a pattern. A backslash at the very end goes with nothing. -/
def units : List Char → List PatternUnit
  | '\\' :: c :: cs => .pair c :: units cs
  | c :: cs => .single c :: units cs
  | [] => []

/-- No backslash is left without a character to go with. -/
def Paired (cs : List Char) : Prop := .single '\\' ∉ units cs

instance (cs : List Char) : Decidable (Paired cs) := inferInstanceAs (Decidable (_ ∉ _))

variable {cs : List Char}

theorem units_single {c : Char} (hc : c ≠ '\\') (cs : List Char) : units (c :: cs) = .single c :: units cs := by
  rw [units]
  exact fun _ _ h _ => hc h

theorem flatMap_text_units (cs : List Char) : (units cs).flatMap PatternUnit.text = cs := by
  fun_induction units cs with
  | case1 c cs ih => rw [List.flatMap_cons, ih, PatternUnit.text, List.cons_append, List.singleton_append]
  | case2 c cs hnot ih => rw [List.flatMap_cons, ih, PatternUnit.text, List.singleton_append]
  | case3 => rfl

/-- Only at its end can a pattern have a backslash that goes with what follows. -/
theorem units_append (h : Paired cs) (rest : List Char) : units (cs ++ rest) = units cs ++ units rest := by
  unfold Paired at h
  fun_induction units cs with
  | case1 c cs ih =>
      rw [List.cons_append, List.cons_append, units, ih (mt (List.mem_cons_of_mem _) h), List.cons_append]
  | case2 c cs hnot ih =>
      have hc : c ≠ '\\' := by
        rintro rfl
        exact h List.mem_cons_self
      rw [List.cons_append, units_single hc, ih (mt (List.mem_cons_of_mem _) h), List.cons_append]
  | case3 => rfl

theorem units_flatMap_text {us : List PatternUnit} (h : .single '\\' ∉ us) : units (us.flatMap PatternUnit.text) = us := by
  induction us with
  | nil => rfl
  | cons u us ih =>
      obtain ⟨hu, hus⟩ := not_or.mp (mt List.mem_cons.mpr h)
      have hone : units u.text = [u] := by
        cases u with
        | pair c => rfl
        | single c => exact units_single (fun hc => hu (hc ▸ rfl)) []
      have hpaired : Paired u.text := by
        rw [Paired, hone, List.mem_singleton]
        exact hu
      rw [List.flatMap_cons, units_append hpaired, hone, ih hus, List.singleton_append]

namespace PatternUnit

theorem guarded_of_isLoose {u : PatternUnit} (h : u.isLoose = false) : u.guarded = u := by
  unfold guarded
  split
  · cases h
  · cases h
  · rfl

theorem isLoose_guarded {u : PatternUnit} (h : u ≠ .single '\\') : u.guarded.isLoose = false := by
  unfold guarded
  split
  · rfl
  · rfl
  · next hslash hfeed =>
      have hslash : (u == .single '/') = false := beq_eq_false_iff_ne.mpr hslash
      have hfeed : (u == .single '\n') = false := beq_eq_false_iff_ne.mpr hfeed
      rw [isLoose, hslash, hfeed, beq_eq_false_iff_ne.mpr h]
      rfl

end PatternUnit

theorem literalBody_eq (cs : List Char) : literalBody cs = (units cs).flatMap fun u => u.guarded.text := by
  fun_induction literalBody cs with
  | case1 => rfl
  | case2 => rfl
  | case3 c cs ih => rw [units, List.flatMap_cons, ← ih]; rfl
  | case4 cs hlast hpair ih => rw [units_single (by decide), List.flatMap_cons, ← ih]; rfl
  | case5 cs hlast hpair hslash ih => rw [units_single (by decide), List.flatMap_cons, ← ih]; rfl
  | case6 c cs hlast hpair hslash hfeed ih =>
      have hc : (PatternUnit.single c).guarded = .single c := by
        unfold PatternUnit.guarded
        split
        · next heq => cases heq; exact absurd rfl hslash
        · next heq => cases heq; exact absurd rfl hfeed
        · rfl
      rw [units, List.flatMap_cons, ← ih, hc]
      · rfl
      · exact hpair

/-- The units of a body are those of the pattern, each guarded. -/
theorem units_literalBody (h : Paired cs) : units (literalBody cs) = (units cs).map PatternUnit.guarded := by
  have hunits : .single '\\' ∉ (units cs).map PatternUnit.guarded := by
    intro hmem
    obtain ⟨u, hu, hguarded⟩ := List.mem_map.mp hmem
    have hloose := PatternUnit.isLoose_guarded (ne_of_mem_of_not_mem hu h)
    rw [hguarded] at hloose
    cases hloose
  rw [literalBody_eq, ← List.flatMap_map, units_flatMap_text hunits]

/-- A body without loose units is left as it is. -/
theorem literalBody_of_units (h : ∀ u ∈ units cs, u.isLoose = false) : literalBody cs = cs := by
  rw [literalBody_eq]
  calc (units cs).flatMap (fun u => u.guarded.text)
      = (units cs).flatMap PatternUnit.text := by
        refine List.flatMap_congr fun u hu => ?_
        rw [PatternUnit.guarded_of_isLoose (h u hu)]
    _ = cs := flatMap_text_units cs

def bodyOf (pattern : String) : List Char :=
  if pattern = "" then "(?:)".toList else literalBody pattern.toList

theorem literalBody_eq_nil_iff : literalBody cs = [] ↔ cs = [] := by
  fun_cases literalBody cs with
  | case1 => exact iff_of_true rfl rfl
  | case2 | case3 | case4 | case5 => exact iff_of_false (List.cons_ne_nil _ _) (List.cons_ne_nil _ _)
  | case6 => exact iff_of_false (List.cons_ne_nil _ _) (List.cons_ne_nil _ _)

theorem patternLiteral_eq (pattern flags : String) :
    patternLiteral pattern flags = "/" ++ String.ofList (bodyOf pattern) ++ "/" ++ flags := by
  have hbody : (if (literalBody pattern.toList).isEmpty then "(?:)".toList else literalBody pattern.toList) =
      bodyOf pattern := by
    rw [bodyOf]
    refine if_congr ?_ rfl rfl
    rw [List.isEmpty_iff, literalBody_eq_nil_iff, String.toList_eq_nil_iff]
  apply String.toList_injective
  simp only [patternLiteral, hbody, String.toList_append, String.toList_ofList, List.append_assoc]
  rfl

theorem bodyOf_ne_nil (pattern : String) : bodyOf pattern ≠ [] := by
  unfold bodyOf
  split_ifs with hempty
  · decide
  · rwa [Ne, literalBody_eq_nil_iff, String.toList_eq_nil_iff]

theorem units_bodyOf {pattern : String} (h : Paired pattern.toList) : units (bodyOf pattern) =
    if pattern = "" then units "(?:)".toList else (units pattern.toList).map PatternUnit.guarded := by
  unfold bodyOf
  split_ifs with hempty
  · rfl
  · exact units_literalBody h

theorem isLoose_of_mem_bodyOf {pattern : String} (h : Paired pattern.toList) {u : PatternUnit}
    (hu : u ∈ units (bodyOf pattern)) : u.isLoose = false := by
  rw [units_bodyOf h] at hu
  split_ifs at hu with hempty
  · exact (by decide : ∀ u ∈ units "(?:)".toList, u.isLoose = false) u hu
  · obtain ⟨v, hv, rfl⟩ := List.mem_map.mp hu
    exact PatternUnit.isLoose_guarded (ne_of_mem_of_not_mem hv h)

/-- A literal is not cut short. Between its slashes stands a body that is not empty and has no loose unit, so the first
slash by itself is the one that closes the literal. The body has the units of the pattern, of which just the loose ones
became pairs, and it is its own body. -/
theorem literal_not_cut_short {pattern : String} (h : Paired pattern.toList) (flags : String) :
    ∃ body : String, patternLiteral pattern flags = "/" ++ body ++ "/" ++ flags ∧ body ≠ "" ∧
      (∀ u ∈ units body.toList, u ≠ .single '/' ∧ u ≠ .single '\n' ∧ u ≠ .single '\\') ∧
      units (body ++ "/" ++ flags).toList = units body.toList ++ .single '/' :: units flags.toList ∧
      units body.toList =
        (if pattern = "" then units "(?:)".toList else (units pattern.toList).map PatternUnit.guarded) ∧
      ∀ flags', patternLiteral body flags' = "/" ++ body ++ "/" ++ flags' := by
  have hunits : units (String.ofList (bodyOf pattern)).toList = units (bodyOf pattern) := by
    rw [String.toList_ofList]
  have hloose : ∀ u ∈ units (bodyOf pattern), u.isLoose = false := fun u => isLoose_of_mem_bodyOf h
  have hne : String.ofList (bodyOf pattern) ≠ "" := by
    rw [Ne, ← String.toList_eq_nil_iff, String.toList_ofList]
    exact bodyOf_ne_nil pattern
  refine ⟨String.ofList (bodyOf pattern), patternLiteral_eq pattern flags, hne, fun u hu => ?_, ?_, ?_, fun flags' => ?_⟩
  · have hu := hloose u (hunits ▸ hu)
    simpa only [PatternUnit.isLoose, Bool.or_eq_false_iff, beq_eq_false_iff_ne, and_assoc] using hu
  · have hpaired : Paired (bodyOf pattern) := fun hmem => Bool.noConfusion (hloose _ hmem)
    rw [String.toList_append, String.toList_append, List.append_assoc, String.toList_ofList, units_append hpaired]
    exact congrArg (units (bodyOf pattern) ++ ·) (units_single (by decide) flags.toList)
  · rw [hunits, units_bodyOf h]
  · have hagain : bodyOf (String.ofList (bodyOf pattern)) = bodyOf pattern := by
      rw [bodyOf, if_neg hne, String.toList_ofList, literalBody_of_units hloose]
    rw [patternLiteral_eq, hagain]

/-- The slash after two backslashes stands by itself, the one after three does not. -/
theorem literal_not_cut_short_slashes : Paired "\\\\/a\\\\\\/\n".toList ∧
    ∃ body : String, patternLiteral "\\\\/a\\\\\\/\n" "i" = "/" ++ body ++ "/" ++ "i" ∧
      (∀ u ∈ units body.toList, u ≠ .single '/' ∧ u ≠ .single '\n' ∧ u ≠ .single '\\') ∧
      units body.toList = [.pair '\\', .pair '/', .single 'a', .pair '\\', .pair '/', .pair 'n'] := by
  have hpaired : Paired "\\\\/a\\\\\\/\n".toList := by decide
  obtain ⟨body, hliteral, -, hloose, -, hunits, -⟩ := literal_not_cut_short hpaired "i"
  exact ⟨hpaired, body, hliteral, hloose, hunits⟩

end EdgeRoutes.Js
