import EdgeRoutes.Proofs.CodeLines
import EdgeRoutes.Proofs.PatternReading

/-! Patterns and lines. A pattern literal escapes a line feed, but copies all other characters that end a line, and a
line feed after a backslash; so it stays on one line if these do not occur. Neither lower-casing nor translating brings
in characters that end a line. -/

namespace EdgeRoutes

open Js Js.Code Pattern

namespace Js

/-- The characters of a pattern that are written as they stand do not end the line. A line feed is written as an escape,
unless a backslash stands before it. -/
def unbroken : List Char → Bool
  | '\\' :: c :: cs => !endsLine c && unbroken cs
  | c :: cs => (c == '\n' || !endsLine c) && unbroken cs
  | [] => true

theorem unbroken_of_forall {cs : List Char} (h : ∀ c ∈ cs, endsLine c = false) : unbroken cs = true := by
  fun_induction unbroken cs with
  | case1 c cs ih =>
      obtain ⟨-, hc, hcs⟩ := by simpa only [List.forall_mem_cons] using h
      rw [hc, ih hcs]
      rfl
  | case2 c cs hnot ih =>
      obtain ⟨hc, hcs⟩ := List.forall_mem_cons.mp h
      rw [hc, ih hcs]
      simp
  | case3 => rfl

theorem forall_literalBody {cs : List Char} : (∀ c ∈ literalBody cs, endsLine c = false) ↔ unbroken cs = true := by
  have hbackslash : endsLine '\\' = false := by decide
  fun_induction literalBody cs with
  | case1 => exact iff_of_true nofun rfl
  | case2 => exact iff_of_true (forall_clear rfl) (by decide)
  | case3 c cs ih =>
      simp only [List.forall_mem_cons, ih, unbroken, Bool.and_eq_true, Bool.not_eq_true', hbackslash, true_and]
  | case4 cs _ _ ih | case5 cs _ _ _ ih =>
      simp only [List.forall_mem_cons, ih, unbroken, hbackslash, true_and]
      simp [endsLine]
  | case6 c cs hsingle hpair hslash hfeed ih =>
      rw [unbroken]
      · simp only [List.forall_mem_cons, ih]
        simp [hfeed]
      · exact hpair

theorem oneLine_patternLiteral {source flags : String} (hflags : OneLine flags) :
    OneLine (patternLiteral source flags) ↔ unbroken source.toList = true := by
  have hbody : (∀ c ∈ if (literalBody source.toList).isEmpty then "(?:)".toList else literalBody source.toList,
      endsLine c = false) ↔ unbroken source.toList = true := by
    rw [← forall_literalBody]
    split_ifs with hempty
    · rw [List.isEmpty_iff.mp hempty]
      exact iff_of_true (forall_clear rfl) nofun
    · rfl
  unfold patternLiteral
  rw [oneLine_ofList, List.forall_mem_cons, List.forall_mem_append, List.forall_mem_cons, hbody]
  exact ⟨fun h => h.2.1, fun h => ⟨by decide, h, by decide, hflags⟩⟩

theorem forall_escapePattern {cs : List Char} :
    (∀ c ∈ escapePattern cs, endsLine c = false) ↔ ∀ c ∈ cs, endsLine c = false := by
  have hchar : ∀ c, (∀ d ∈ escapeChar c, endsLine d = false) ↔ endsLine c = false := by
    intro c
    unfold escapeChar
    split_ifs
    · simp [show endsLine '\\' = false by decide]
    · simp
  rw [escapePattern, List.forall_mem_flatMap]
  exact forall₂_congr fun c _ => hchar c

end Js

section LowerCase

theorem toNat_toLower (c : Char) :
    c.toLower.toNat = if 65 ≤ c.toNat ∧ c.toNat ≤ 90 then c.toNat + 32 else c.toNat := by
  have hiff : (c.val ≥ 'A'.val ∧ c.val ≤ 'Z'.val) ↔ 65 ≤ c.toNat ∧ c.toNat ≤ 90 := by
    rw [ge_iff_le, UInt32.le_iff_toNat_le, UInt32.le_iff_toNat_le]
    rfl
  unfold Char.toLower
  by_cases h : c.val ≥ 'A'.val ∧ c.val ≤ 'Z'.val
  · have hbounds := hiff.mp h
    have hval : c.val.toNat = c.toNat := rfl
    rw [dif_pos h, if_pos hbounds]
    change (c.val + 32).toNat = c.val.toNat + 32
    rw [UInt32.toNat_add]
    change (c.val.toNat + 32) % _ = _
    omega
  · rw [dif_neg h, if_neg (mt hiff.mpr h)]

theorem toNat_ofNat (n : Nat) : (Char.ofNat n).toNat = if n.isValidChar then n else 0 := by
  unfold Char.ofNat
  by_cases h : n.isValidChar
  · rw [dif_pos h, if_pos h]
    rfl
  · rw [dif_neg h, if_neg h]
    rfl

/-- No lower-case form beyond ASCII ends a line. -/
theorem capitalRuns_clear : Text.capitalRuns.all (fun (lo, hi, _, low) =>
    decide (14 ≤ low) && (decide (low + (hi - lo) < 0x2028) || decide (0x2029 < low))) = true := by
  decide +kernel

theorem endsLine_iff {c : Char} :
    endsLine c = true ↔ c.toNat = 10 ∨ c.toNat = 13 ∨ c.toNat = 0x2028 ∨ c.toNat = 0x2029 := by
  simp only [endsLine, Bool.or_eq_true, beq_iff_eq, ← Char.toNat_inj, or_assoc]
  rfl

theorem lowerChar_of_endsLine {c : Char} (h : endsLine c = true) : Text.lowerChar c = [c] := by
  simp only [endsLine, Bool.or_eq_true, beq_iff_eq] at h
  rcases h with ((rfl | rfl) | rfl) | rfl <;> decide +kernel

theorem endsLine_of_mem_lowerChar {c d : Char} (hd : d ∈ Text.lowerChar c) (h : endsLine d = true) :
    endsLine c = true := by
  rw [endsLine_iff] at h
  unfold Text.lowerChar at hd
  split_ifs at hd with hascii hdotted
  · obtain rfl := List.mem_singleton.mp hd
    rw [toNat_toLower] at h
    rw [endsLine_iff]
    split_ifs at h <;> omega
  · simp only [List.mem_cons, List.not_mem_nil, or_false] at hd
    rcases hd with rfl | rfl <;> exact absurd h (by decide)
  · split at hd
    · next lo hi step low hfind =>
        obtain rfl := List.mem_singleton.mp hd
        have hclear := List.all_eq_true.mp capitalRuns_clear _ (List.mem_of_find?_eq_some hfind)
        have hrange := List.find?_some hfind
        simp only [Bool.and_eq_true, Bool.or_eq_true, decide_eq_true_eq] at hclear hrange
        rw [toNat_ofNat] at h
        by_cases hvalid : (low + (c.toNat - lo)).isValidChar
        · simp only [if_pos hvalid] at h
          omega
        · simp only [if_neg hvalid] at h
          omega
    · obtain rfl := List.mem_singleton.mp hd
      exact endsLine_iff.mpr h

/-- Letter case has no say in where lines end. -/
theorem oneLine_lower {s : String} : OneLine (Text.lower s) ↔ OneLine s := by
  have hfrom : ∀ before cs, (∀ c ∈ Text.lowerFrom before cs, endsLine c = false) ↔ ∀ c ∈ cs, endsLine c = false := by
    intro before cs
    induction cs generalizing before with
    | nil => exact iff_of_true nofun nofun
    | cons c cs ih =>
        have hchar : (∀ d ∈ (if c.toNat = 0x3A3 then [if Text.meetsCased before && !Text.meetsCased cs then '\u03c2'
            else '\u03c3'] else Text.lowerChar c), endsLine d = false) ↔ endsLine c = false := by
          by_cases hsigma : c.toNat = 0x3A3
          · rw [if_pos hsigma, List.forall_mem_singleton]
            refine iff_of_true ?_ ?_
            · split_ifs <;> decide
            · rw [← Bool.not_eq_true, endsLine_iff]
              omega
          · rw [if_neg hsigma]
            constructor
            · intro h
              by_contra hends
              rw [Bool.not_eq_false] at hends
              rw [lowerChar_of_endsLine hends, List.forall_mem_singleton, hends] at h
              cases h
            · intro h d hd
              by_contra hends
              rw [endsLine_of_mem_lowerChar hd (Bool.not_eq_false _ ▸ hends)] at h
              cases h
        rw [Text.lowerFrom, List.forall_mem_append, hchar, ih, List.forall_mem_cons]
  rw [Text.lower, oneLine_ofList]
  exact hfrom [] s.toList

end LowerCase

section Translations

/-- The members of named classes are written with escapes. -/
theorem namedClass_clear (name : List Char) : ∀ c ∈ (namedClass name).1, endsLine c = false := by
  have htable : ∀ e ∈ namedClasses, e.2.toList.all (!endsLine ·) = true := by decide +kernel
  unfold namedClass
  split
  · nofun
  · split
    · next e members hfind => exact forall_clear (htable _ (List.mem_of_find?_eq_some hfind))
    · nofun

/-- A class is written with the line ends of its source only. -/
theorem mem_of_classMembers {c : Char} (h : endsLine c = true) {cs : List Char}
    (hc : c ∈ (classMembers cs).text) : c ∈ cs := by
  have hplain : ∀ {text : List Char}, (∀ d ∈ text, endsLine d = false) → c ∉ text := by
    intro text htext hmem
    rw [htext c hmem] at h
    cases h
  fun_induction classMembers cs with
  | case1 => cases hc
  | case2 cs ih =>
      rcases List.mem_append.mp hc with hc | hc
      · exact absurd hc (hplain (forall_clear rfl))
      · simp [ih hc]
  | case3 d cs hd ih =>
      rcases List.mem_append.mp hc with hc | hc
      · exact List.mem_append_left cs hc
      · simp [ih hc]
  | case4 cs name rest hcut hlength new problems hnamed ih =>
      rcases List.mem_append.mp hc with hc | hc
      · have hclear := namedClass_clear name
        rw [hnamed] at hclear
        exact absurd hc (hplain hclear)
      · rw [Text.cut?_eq_some hcut]
        simp [ih hc]
  | case5 => cases hc
  | case6 cs hcut ih =>
      rcases List.mem_append.mp hc with hc | hc
      · exact absurd hc (hplain (forall_clear rfl))
      · exact List.mem_cons_of_mem _ (ih hc)
  | case7 cs hcs ih =>
      rcases List.mem_append.mp hc with hc | hc
      · exact absurd hc (hplain (forall_clear rfl))
      · exact List.mem_cons_of_mem _ (ih hc)
  | case8 cs =>
      obtain rfl := List.mem_singleton.mp hc
      cases h
  | case9 d cs _ _ _ _ _ ih =>
      rcases List.mem_append.mp hc with hc | hc
      · exact List.mem_append_left cs hc
      · exact List.mem_cons_of_mem _ (ih hc)

theorem mem_of_bracketClass {c : Char} (h : endsLine c = true) {cs : List Char}
    (hc : c ∈ (bracketClass cs).text) : c ∈ cs := by
  have hopening : ∀ {opening rest : List Char}, c ∈ ((classMembers rest).before opening []).text →
      (∀ d ∈ opening, endsLine d = false) → c ∈ rest := by
    intro opening rest hc hopening
    rcases List.mem_append.mp hc with hc | hc
    · rw [hopening c hc] at h
      cases h
    · exact mem_of_classMembers h hc
  fun_cases bracketClass cs with
  | case1 cs => exact List.mem_cons_of_mem _ (List.mem_cons_of_mem _ (hopening hc (forall_clear rfl)))
  | case2 cs hcs =>
      rw [bracketClass.eq_2 cs hcs] at hc
      exact List.mem_cons_of_mem _ (hopening hc (forall_clear rfl))
  | case3 cs => exact List.mem_cons_of_mem _ (hopening hc (forall_clear rfl))
  | case4 hnegated hcaret hclose =>
      rw [bracketClass] at hc <;> try assumption
      exact hopening hc (forall_clear rfl)

theorem mem_of_escapePattern {c : Char} (h : endsLine c = true) {cs : List Char} (hc : c ∈ escapePattern cs) :
    c ∈ cs := by
  obtain ⟨d, hd, hc⟩ := List.mem_flatMap.mp hc
  unfold escapeChar at hc
  split_ifs at hc
  · rcases List.mem_cons.mp hc with rfl | hc
    · cases h
    · exact List.mem_singleton.mp hc ▸ hd
  · exact List.mem_singleton.mp hc ▸ hd

/-- What a piece contributes ends a line only where its text does. -/
theorem mem_of_reads {c d : Char} {cs text rest : List Char} (h : Reads (d :: cs) text rest) (hends : endsLine c = true)
    (hc : c ∈ text) : c ∈ d :: cs := by
  cases h with
  | bracket hclass =>
      refine List.mem_cons_of_mem _ (mem_of_bracketClass hends ?_)
      rw [hclass]
      exact hc
  | quoted hcut =>
      rw [Text.cut?_eq_some hcut]
      simp [mem_of_escapePattern hends hc]
  | quotedToEnd hcut => simp [mem_of_escapePattern hends hc]
  | reference hcut =>
      rw [Text.cut?_eq_some hcut]
      simp only [List.mem_cons, List.mem_append, List.not_mem_nil, or_false] at hc ⊢
      rcases hc with rfl | rfl | rfl | hc | rfl
      · cases hends
      · cases hends
      · cases hends
      · simp [hc]
      · cases hends
  | comment | commentToEnd => cases hc
  | start | stop | blank | group | lookbehind | named | respelled | escape | plain =>
      simp only [List.mem_cons, List.not_mem_nil, or_false] at hc
      grind [endsLine]

theorem mem_of_sourceOf {c : Char} (hends : endsLine c = true) {cs : List Char} (h : problemsOf (pieces cs) = [])
    (hc : c ∈ sourceOf (pieces cs)) : c ∈ cs := by
  refine reads_induction (motive := fun cs => c ∈ sourceOf (pieces cs) → c ∈ cs) ?_ ?_ h hc
  · intro hc
    rw [pieces] at hc
    cases hc
  · intro d cs text rest hreads _ ih hc
    rw [hreads.sourceOf_eq] at hc
    rcases List.mem_append.mp hc with hc | hc
    · exact mem_of_reads hreads hends hc
    · exact List.mem_cons_of_mem _ (hreads.suffix.subset (ih hc))

/-- A translation that can be used breaks no line that its pattern does not break. -/
theorem unbroken_of_translate {pattern : String} {dialect : Dialect} {ignoreCase : Bool} {t : Translation}
    (h : translate pattern dialect ignoreCase = .ok t) (hsupported : t.supported = true) (hpattern : OneLine pattern) :
    unbroken t.source.toList = true := by
  obtain ⟨hnone, hsource⟩ := source_of_supported h hsupported
  rw [hsource, String.toList_ofList]
  refine unbroken_of_forall fun c hc => ?_
  by_contra hends
  have hmem := mem_of_sourceOf (Bool.not_eq_false _ ▸ hends) hnone hc
  have hsuffix : (leadingIgnoreCase pattern.toList).2 <:+ pattern.toList := by
    unfold leadingIgnoreCase
    split
    · next hpattern =>
        rw [hpattern]
        exact List.suffix_append ['(', '?', 'i', ')'] _
    · exact List.suffix_refl _
  exact hends (hpattern c (hsuffix.subset hmem))

end Translations

end EdgeRoutes
