import EdgeRoutes.Data.Json.Reader
import EdgeRoutes.Js.Literal
import EdgeRoutes.Proofs.Results
import Mathlib.Tactic.SplitIfs

/-! String literals. Whatever a text holds, its literal is a run of printable ASCII characters, and the reader of strings
gets the text back from it, whatever follows. So nothing in a text can end its literal early. -/

namespace EdgeRoutes

namespace Json

theorem hexValue?_digitChar : ∀ d < 16, hexValue? (Nat.digitChar d) = some d := by decide

theorem hexDigits_four (n : Nat) : Text.hexDigits 4 n =
    [Nat.digitChar (n / 4096 % 16), Nat.digitChar (n / 256 % 16), Nat.digitChar (n / 16 % 16),
      Nat.digitChar (n % 16)] := by
  simp [Text.hexDigits, List.range_succ]

/-- The reader wants a character after the digits, as a string always has one. -/
theorem unit?_hexDigits {n : Nat} (hn : n < 0x10000) (c : Char) (rest : List Char) :
    unit? (Text.hexDigits 4 n ++ c :: rest) = some (n, c :: rest) := by
  have hvalue : ∀ k, hexValue? (Nat.digitChar (k % 16)) = some (k % 16) := fun k =>
    hexValue?_digitChar (k % 16) (Nat.mod_lt k (by decide))
  simp only [hexDigits_four, List.cons_append, List.nil_append, unit?, hvalue, Option.bind_eq_bind, Option.bind_some]
  have hsum : ((n / 4096 % 16 * 16 + n / 256 % 16) * 16 + n / 16 % 16) * 16 + n % 16 = n := by omega
  rw [hsum]
  rfl

theorem toNat_bounds (c : Char) : c.toNat < 0xD800 ∨ 0xDFFF < c.toNat ∧ c.toNat < 0x110000 := by
  have hvalid : c.toNat.isValidChar := c.valid
  simp only [Nat.isValidChar] at hvalid
  omega

theorem unicodeEscape_unit {c : Char} (hc : c.toNat < 0x10000) (d : Char) (rest : List Char) :
    unicodeEscape (Text.hexDigits 4 c.toNat ++ d :: rest) = .ok (c, d :: rest) := by
  have hbounds := toNat_bounds c
  rw [unicodeEscape, unit?_hexDigits hc]
  simp only
  rw [if_neg (by omega), charOfUnit, if_neg (by omega), Char.ofNat_toNat]

/-- The two escapes of a character beyond the first plane are read as that character. -/
theorem unicodeEscape_pair {c : Char} (hc : 0x10000 ≤ c.toNat) (d : Char) (rest : List Char) :
    unicodeEscape (Text.hexDigits 4 (0xD800 + (c.toNat - 0x10000) / 0x400) ++
      (unitEscape (0xDC00 + (c.toNat - 0x10000) % 0x400) ++ d :: rest)) = .ok (c, d :: rest) := by
  have hbounds := toNat_bounds c
  have hlow : lowSurrogate? (unitEscape (0xDC00 + (c.toNat - 0x10000) % 0x400) ++ d :: rest) =
      .ok (some (0xDC00 + (c.toNat - 0x10000) % 0x400, d :: rest)) := by
    have hlength : ¬ (Text.hexDigits 4 (0xDC00 + (c.toNat - 0x10000) % 0x400) ++ d :: rest).length < 5 := by
      simp [hexDigits_four]
    rw [unitEscape, List.cons_append, List.cons_append, lowSurrogate?, if_neg hlength, unit?_hexDigits (by omega)]
    simp only
    rw [if_pos (by omega)]
  have hchar : 0x10000 + (0xD800 + (c.toNat - 0x10000) / 0x400 - 0xD800) * 0x400 +
      (0xDC00 + (c.toNat - 0x10000) % 0x400 - 0xDC00) = c.toNat := by omega
  have hhead : unitEscape (0xDC00 + (c.toNat - 0x10000) % 0x400) ++ d :: rest =
      '\\' :: ('u' :: (Text.hexDigits 4 (0xDC00 + (c.toNat - 0x10000) % 0x400) ++ d :: rest)) := rfl
  rw [unicodeEscape, hhead, unit?_hexDigits (by omega)]
  simp only
  rw [if_pos (by omega), ← hhead, hlow]
  simp only [bind, Except.bind, hchar, Char.ofNat_toNat]
  rfl

/-- A character has an escape of its own, stands for itself, or is written as one or two units. -/
theorem escapedChar_cases (c : Char) :
    (∃ e, shortEscape? e = some c ∧ e ≠ 'u' ∧ (32 ≤ e.toNat ∧ e.toNat < 127) ∧ escapedChar c = ['\\', e]) ∨
      (c ≠ '"' ∧ c ≠ '\\' ∧ (32 ≤ c.toNat ∧ c.toNat < 127) ∧ escapedChar c = [c]) ∨
      (c.toNat < 0x10000 ∧ escapedChar c = unitEscape c.toNat) ∨
      (0x10000 ≤ c.toNat ∧ escapedChar c = unitEscape (0xD800 + (c.toNat - 0x10000) / 0x400) ++
        unitEscape (0xDC00 + (c.toNat - 0x10000) % 0x400)) := by
  by_cases hshort : c ∈ ['"', '\\', '\n', '\r', '\t', '\x0c', '\x08']
  · left
    simp only [List.mem_cons, List.not_mem_nil, or_false] at hshort
    rcases hshort with rfl | rfl | rfl | rfl | rfl | rfl | rfl <;>
      exact ⟨_, rfl, by decide, by decide, rfl⟩
  · simp only [List.mem_cons, List.not_mem_nil, or_false, not_or] at hshort
    obtain ⟨hquote, hbackslash, hline, hreturn, htab, hfeed, hback⟩ := hshort
    have hescaped : escapedChar c = if 32 ≤ c.toNat ∧ c.toNat < 127 then [c]
        else if c.toNat < 0x10000 then unitEscape c.toNat
        else unitEscape (0xD800 + (c.toNat - 0x10000) / 0x400) ++ unitEscape (0xDC00 + (c.toNat - 0x10000) % 0x400) := by
      rw [escapedChar, if_neg hquote, if_neg hbackslash, if_neg hline, if_neg hreturn, if_neg htab, if_neg hfeed,
        if_neg hback]
    right
    by_cases hprintable : 32 ≤ c.toNat ∧ c.toNat < 127
    · exact Or.inl ⟨hquote, hbackslash, hprintable, by rw [hescaped, if_pos hprintable]⟩
    · rw [hescaped, if_neg hprintable]
      by_cases hunit : c.toNat < 0x10000
      · exact Or.inr (Or.inl ⟨hunit, if_pos hunit⟩)
      · exact Or.inr (Or.inr ⟨Nat.le_of_not_lt hunit, if_neg hunit⟩)

/-- One character of a string is read back from its escape. -/
theorem stringRest_escapedChar (opened : Nat) (c d : Char) (rest : List Char) :
    stringRest opened (escapedChar c ++ d :: rest) =
      (stringRest opened (d :: rest)).map fun read => (c :: read.1, read.2) := by
  have hunicode : ∀ digits, unicodeEscape digits = .ok (c, d :: rest) → (d :: rest).length < digits.length →
      stringRest opened ('\\' :: 'u' :: digits) =
        (stringRest opened (d :: rest)).map fun read => (c :: read.1, read.2) := by
    intro digits hdigits hlength
    rw [stringRest, hdigits]
    simp only [bind, Except.bind, if_pos hlength]
    cases stringRest opened (d :: rest) <;> rfl
  rcases escapedChar_cases c with ⟨e, he, hu, -, hescaped⟩ | ⟨hquote, hbackslash, hprintable, hescaped⟩ |
      ⟨hunit, hescaped⟩ | ⟨hpair, hescaped⟩ <;> rw [hescaped]
  · rw [List.cons_append, List.singleton_append, stringRest]
    · simp only [he]
      cases stringRest opened (d :: rest) <;> rfl
    · exact hu
  · rw [List.singleton_append, stringRest, if_neg (by omega)]
    · cases stringRest opened (d :: rest) <;> rfl
    · exact hquote
    · exact hbackslash
  · exact hunicode _ (unicodeEscape_unit hunit d rest) (by simp [hexDigits_four])
  · rw [List.append_assoc]
    exact hunicode _ (unicodeEscape_pair hpair d rest) (by simp [hexDigits_four, unitEscape])

/-- A string is read back from its escaped characters, up to the quote that ends it. -/
theorem stringRest_flatMap (opened : Nat) (s rest : List Char) :
    stringRest opened (s.flatMap escapedChar ++ '"' :: rest) = .ok (s, rest) := by
  induction s with
  | nil =>
      rw [List.flatMap_nil, List.nil_append, stringRest]
  | cons c s ih =>
      obtain ⟨d, more, hmore⟩ : ∃ d more, s.flatMap escapedChar ++ '"' :: rest = d :: more :=
        List.exists_cons_of_ne_nil (by simp)
      rw [List.flatMap_cons, List.append_assoc, hmore, stringRest_escapedChar, ← hmore, ih]
      rfl

end Json

namespace Js

/-- The text is made of printable ASCII characters. -/
def PrintsPlainly (cs : List Char) : Prop := ∀ c ∈ cs, 32 ≤ c.toNat ∧ c.toNat < 127

theorem printsPlainly_append {a b : List Char} (ha : PrintsPlainly a) (hb : PrintsPlainly b) : PrintsPlainly (a ++ b) :=
  List.forall_mem_append.mpr ⟨ha, hb⟩

theorem printsPlainly_unitEscape (n : Nat) : PrintsPlainly (Json.unitEscape n) := by
  have hdigit : ∀ d < 16, 32 ≤ (Nat.digitChar d).toNat ∧ (Nat.digitChar d).toNat < 127 := by decide
  have hmod : ∀ k, k % 16 < 16 := fun k => Nat.mod_lt k (by decide)
  simp only [PrintsPlainly, Json.unitEscape, Json.hexDigits_four, List.forall_mem_cons]
  exact ⟨by decide, by decide, hdigit _ (hmod _), hdigit _ (hmod _), hdigit _ (hmod _), hdigit _ (hmod _), nofun⟩

theorem printsPlainly_escapedChar (c : Char) : PrintsPlainly (Json.escapedChar c) := by
  rcases Json.escapedChar_cases c with ⟨e, -, -, he, hescaped⟩ | ⟨-, -, hc, hescaped⟩ | ⟨-, hescaped⟩ | ⟨-, hescaped⟩ <;>
    rw [hescaped]
  · exact List.forall_mem_cons.mpr ⟨by decide, List.forall_mem_singleton.mpr he⟩
  · exact List.forall_mem_singleton.mpr hc
  · exact printsPlainly_unitEscape _
  · exact printsPlainly_append (printsPlainly_unitEscape _) (printsPlainly_unitEscape _)

theorem printsPlainly_string (s : String) : PrintsPlainly (string s).toList := by
  rw [string, Json.string, String.toList_ofList]
  intro c hc
  simp only [List.mem_cons, List.mem_append, List.mem_flatMap, List.not_mem_nil, or_false] at hc
  obtain rfl | ⟨d, -, hd⟩ | rfl := hc
  · decide
  · exact printsPlainly_escapedChar d c hd
  · decide

theorem exists_toList_string (s : String) : ∃ tail, (string s).toList = '"' :: tail := by
  rw [string, Json.string]
  exact ⟨_, String.toList_ofList⟩

/-- The text that a string literal at the front stands for, and what follows the literal. -/
def readString? : List Char → Option (String × List Char)
  | '"' :: cs => (Json.stringRest (cs.length + 1) cs).toOption.map fun read => (String.ofList read.1, read.2)
  | _ => none

theorem readString?_string (s : String) (rest : List Char) :
    readString? ((string s).toList ++ rest) = some (s, rest) := by
  rw [string, Json.string, String.toList_ofList, List.cons_append, List.append_assoc, List.singleton_append, readString?,
    Json.stringRest_flatMap]
  simp [Except.toOption]

end Js

end EdgeRoutes
