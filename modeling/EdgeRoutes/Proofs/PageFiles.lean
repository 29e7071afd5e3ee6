import EdgeRoutes.Files.Encoding
import EdgeRoutes.Proofs.JsonRoundTrip
import EdgeRoutes.Proofs.Numerals

/-! JSON pages in files. A page of data holds printable ASCII characters and line feeds, so each of its characters is
one byte, and the bytes are read as the page. -/

namespace EdgeRoutes.Json

open Number

section Characters

open Js (PrintsPlainly printsPlainly_append)

instance decidablePrintsPlainly (cs : List Char) : Decidable (PrintsPlainly cs) :=
  List.decidableBAll (fun c : Char => 32 ≤ c.toNat ∧ c.toNat < 127) cs

theorem printsPlainly_digits {ds : List Char} (h : ∀ c ∈ ds, c.isDigit = true) : PrintsPlainly ds := by
  intro c hc
  have hbounds := isDigit_bounds (h c hc)
  omega

theorem printsPlainly_zeros (k : Nat) : PrintsPlainly (List.replicate k '0') :=
  printsPlainly_digits (isDigit_zeros k)

theorem printsPlainly_sign (negative : Bool) : PrintsPlainly (sign negative) := by
  cases negative <;> decide

theorem printsPlainly_toDigits (n : Nat) : PrintsPlainly (Nat.toDigits 10 n) :=
  printsPlainly_digits fun _ hc => isDigit_of_mem_toDigits hc

theorem printsPlainly_text {d : Decimal} (h : ∀ c ∈ d.digits, c.isDigit = true) : PrintsPlainly d.text := by
  have hmark (c : Char) (hc : 32 ≤ c.toNat ∧ c.toNat < 127) {cs : List Char} (hcs : PrintsPlainly cs) :
      PrintsPlainly (c :: cs) := List.forall_mem_cons.mpr ⟨hc, hcs⟩
  have hexponent : PrintsPlainly (exponentText (d.point - 1)) := by
    refine hmark _ (by decide) (hmark _ ?_ (printsPlainly_append (printsPlainly_zeros _) (printsPlainly_toDigits _)))
    split_ifs <;> decide
  have hdigits := printsPlainly_digits h
  rw [Decimal.text]
  split_ifs
  · unfold Decimal.positional
    dsimp only
    split_ifs
    · exact hmark _ (by decide) (hmark _ (by decide) (printsPlainly_append (printsPlainly_zeros _) hdigits))
    · exact printsPlainly_append (printsPlainly_append hdigits (printsPlainly_zeros _)) (by decide)
    · exact printsPlainly_append (fun c hc => hdigits c (List.mem_of_mem_take hc))
        (hmark _ (by decide) fun c hc => hdigits c (List.mem_of_mem_drop hc))
  · unfold Decimal.scientific
    dsimp only
    refine printsPlainly_append ?_ hexponent
    split
    · next hone => exact hone ▸ hdigits
    · next c cs _ hcons =>
        rw [hcons] at hdigits
        exact hmark _ (hdigits c List.mem_cons_self)
          (hmark _ (by decide) fun b hb => hdigits b (List.mem_cons_of_mem _ hb))
    · decide

theorem printsPlainly_scalar {v : Scalar} (hv : Plain v) : PrintsPlainly (scalar v).toList := by
  cases v with
  | null => decide
  | bool b => cases b <;> decide
  | int n =>
      rw [scalar, toList_toString_int]
      exact printsPlainly_append (printsPlainly_sign _) (printsPlainly_toDigits _)
  | float x =>
      cases x with
      | nan => decide
      | infinite negative => cases negative <;> decide
      | finite negative x =>
          have htext : (scalar (.float (.finite negative x))).toList = sign negative ++ x.shortest.text :=
            String.toList_ofList
          rw [htext]
          exact printsPlainly_append (printsPlainly_sign _) (printsPlainly_text (Magnitude.reads_shortest hv).digits)
  | text s => exact Js.printsPlainly_string s

/-- The text is made of printable ASCII characters on lines. -/
def OnLines (cs : List Char) : Prop := ∀ c ∈ cs, c = '\n' ∨ 32 ≤ c.toNat ∧ c.toNat < 127

theorem onLines_append {a b : List Char} (ha : OnLines a) (hb : OnLines b) : OnLines (a ++ b) :=
  List.forall_mem_append.mpr ⟨ha, hb⟩

theorem onLines_of_printsPlainly {cs : List Char} (h : PrintsPlainly cs) : OnLines cs :=
  fun c hc => Or.inr (h c hc)

theorem onLines_newline (depth : Nat) : OnLines (newline depth).toList := by
  rw [toList_newline]
  refine List.forall_mem_cons.mpr ⟨Or.inl rfl, fun c hc => ?_⟩
  rw [List.eq_of_mem_replicate hc]
  decide

/-- A page of plain data is printable ASCII on lines. -/
theorem onLines_page {d : Data} (h : IsPlain d) (depth : Nat) : OnLines (page depth d).toList := by
  have hmark (c : Char) (hc : 32 ≤ c.toNat ∧ c.toNat < 127) {cs : List Char} (hcs : OnLines cs) : OnLines (c :: cs) :=
    List.forall_mem_cons.mpr ⟨Or.inr hc, hcs⟩
  have hnil : OnLines [] := nofun
  have hbreak {depth : Nat} {cs : List Char} (hcs : OnLines cs) : OnLines ((newline depth).toList ++ cs) :=
    onLines_append (onLines_newline depth) hcs
  induction h generalizing depth with
  | @scalar v hv => exact onLines_of_printsPlainly (printsPlainly_scalar hv)
  | @list items hitems ih =>
      cases items with
      | nil =>
          rw [toList_page_list_nil]
          exact hmark _ (by decide) (hmark _ (by decide) hnil)
      | cons d ds =>
          have hmore : OnLines (moreItems (depth + 1) ds) := by
            intro c hc
            obtain ⟨e, he, hc⟩ := List.mem_flatMap.mp hc
            exact hmark _ (by decide) (hbreak (ih e (List.mem_cons_of_mem _ he) _)) c hc
          rw [toList_page_list]
          exact hmark _ (by decide) (hbreak (onLines_append (ih d List.mem_cons_self _) (onLines_append hmore
            (hbreak (hmark _ (by decide) hnil)))))
  | @map entries hnames hentries ih =>
      have hentry : ∀ e ∈ entries, OnLines (entryText (depth + 1) e) := fun e he =>
        onLines_append (onLines_of_printsPlainly (Js.printsPlainly_string e.1))
          (hmark _ (by decide) (hmark _ (by decide) (ih e he _)))
      cases entries with
      | nil =>
          rw [toList_page_object_nil]
          exact hmark _ (by decide) (hmark _ (by decide) hnil)
      | cons e es =>
          have hmore : OnLines (moreEntries (depth + 1) (newline (depth + 1)).toList es) := by
            intro c hc
            obtain ⟨e', he, hc⟩ := List.mem_flatMap.mp hc
            exact hmark _ (by decide) (hbreak (hentry e' (List.mem_cons_of_mem _ he))) c hc
          rw [toList_page_object]
          exact hmark _ (by decide) (hbreak (onLines_append (hentry e List.mem_cons_self) (onLines_append hmore
            (hbreak (hmark _ (by decide) hnil)))))

end Characters

end EdgeRoutes.Json

namespace EdgeRoutes.Files

theorem toList_loop (bytes : ByteArray) (i : Nat) (read : List UInt8) :
    ByteArray.toList.loop bytes i read = read.reverse ++ bytes.data.toList.drop i := by
  fun_induction ByteArray.toList.loop bytes i read with
  | case1 i read hi ih =>
      have hlength : i < bytes.data.toList.length := by simpa using hi
      rw [ih, List.drop_eq_getElem_cons hlength]
      simp [ByteArray.get!, hi]
  | case2 i read hi =>
      rw [List.drop_eq_nil_of_le (by simpa using Nat.le_of_not_lt hi), List.append_nil]

theorem encode_ofList (cs : List Char) : encode (String.ofList cs) = cs.flatMap String.utf8EncodeChar := by
  rw [encode, String.toUTF8_eq_toByteArray, String.toByteArray_ofList, ByteArray.toList, toList_loop, List.utf8Encode,
    List.toList_data_toByteArray, List.reverse_nil, List.nil_append, List.drop_zero]

/-- An ASCII character is one byte. -/
theorem toNat_utf8EncodeChar {c : Char} (hc : c.toNat < 128) :
    (String.utf8EncodeChar c).map UInt8.toNat = [c.toNat] := by
  have hsize : c.utf8Size = 1 := Char.utf8Size_eq_one_iff.mpr (UInt32.le_iff_toNat_le.mpr (Nat.le_of_lt_succ hc))
  rw [String.utf8EncodeChar_eq_singleton hsize, List.map_singleton, UInt32.toNat_toUInt8]
  exact congrArg (fun n => [n]) (Nat.mod_eq_of_lt (hc.trans (by decide)))

theorem toNat_encode {cs : List Char} (h : ∀ c ∈ cs, c.toNat < 128) :
    (encode (String.ofList cs)).map UInt8.toNat = cs.map Char.toNat := by
  rw [encode_ofList, List.map_flatMap]
  induction cs with
  | nil => rfl
  | cons c cs ih =>
      rw [List.flatMap_cons, toNat_utf8EncodeChar (h c List.mem_cons_self),
        ih fun b hb => h b (List.mem_cons_of_mem _ hb)]
      rfl

/-- ASCII bytes are read as their characters. -/
theorem decodeFrom_ascii {cs : List Char} (h : ∀ c ∈ cs, c.toNat < 128) (position : Nat) :
    decodeFrom position (cs.map Char.toNat) = .ok cs := by
  induction cs generalizing position with
  | nil => rw [List.map_nil, decodeFrom]
  | cons c cs ih =>
      have hc : c.toNat < 0x80 := h c List.mem_cons_self
      have hfirst : firstCharacter c.toNat (cs.map Char.toNat) = .ok (c, 1) := by
        simp [firstCharacter, characterLength?, hc, codePoint]
      rw [List.map_cons, decodeFrom, hfirst]
      simp only [Nat.sub_self, List.drop_zero, ih (fun b hb => h b (List.mem_cons_of_mem _ hb))]
      rfl

theorem lineFeeds_eq_self {cs : List Char} (h : ∀ c ∈ cs, c ≠ '\r') : lineFeeds cs = cs := by
  induction cs with
  | nil => rfl
  | cons c cs ih =>
      rw [lineFeeds, ih fun b hb => h b (List.mem_cons_of_mem _ hb)]
      · exact fun _ hc => absurd hc (h c List.mem_cons_self)
      · exact fun hc => absurd hc (h c List.mem_cons_self)

/-- A page of plain data is found in its file as it was written. -/
theorem decode_encode {cs : List Char} (h : Json.OnLines cs) :
    decode (encode (String.ofList cs)) = .ok (String.ofList cs) := by
  have hascii : ∀ c ∈ cs, c.toNat < 128 := by
    intro c hc
    rcases h c hc with rfl | hc
    · decide
    · omega
  have hreturn : ∀ c ∈ cs, c ≠ '\r' := by
    rintro c hc rfl
    rcases h _ hc with hc | hc
    · cases hc
    · exact absurd hc.1 (by decide)
  simp only [decode, toNat_encode hascii, decodeFrom_ascii hascii, bind, Except.bind, pure, Except.pure,
    lineFeeds_eq_self hreturn]

end EdgeRoutes.Files
