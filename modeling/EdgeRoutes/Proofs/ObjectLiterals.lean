import EdgeRoutes.Proofs.JsonRoundTrip

/-! Object literals. The literal of a map of headers is a line of printable ASCII and at the same time a JSON text. What
stands in the names and values, quotes, backslashes, separators or characters of any plane, is taken up by the two strings
of its entry; so the reader finds the entries one after the other, in the order of the map. -/

namespace EdgeRoutes.Js

open Json

def textFields (m : Fields String) : Fields Data := m.map fun (k, v) => (k, .text v)

theorem keys_textFields (m : Fields String) : (textFields m).keys = m.keys := by
  simp only [Fields.keys, textFields, List.map_map]
  rfl

theorem textMap_injective : Function.Injective Data.textMap := by
  intro m n h
  simp only [Data.textMap, Data.object, Data.map.injEq, List.map_map] at h
  refine List.map_injective_iff.mpr ?_ h
  rintro ⟨k, v⟩ ⟨k', v'⟩ he
  simpa using he

theorem reads_text (s : String) : Reads (.text s) := reads_of_isPlain (.scalar trivial)

theorem toList_objectLiteral (e : String × String) (m : Fields String) : (objectLiteral (e :: m)).toList =
    '{' :: ' ' :: (entryText 0 (e.1, .text e.2) ++ (moreEntries 0 [' '] (textFields m) ++ [' ', '}'])) := by
  have hentry (e : String × String) :
      (string e.1 ++ ": " ++ string e.2).toList = entryText 0 (e.1, .text e.2) := by
    simp only [String.toList_append, List.append_assoc]
    rfl
  rw [objectLiteral, if_neg (by simp), String.toList_append, String.toList_append, List.map_cons, toList_joined_cons,
    hentry, List.flatMap_map, moreEntries, textFields, List.flatMap_map]
  simp only [hentry]
  simp

/-- A literal is read as the entries of its map. -/
theorem read_objectLiteral {m : Fields String} (hm : m.keys.Nodup) : Json.read (objectLiteral m) = .ok (.textMap m) := by
  refine read_of_value ?_
  cases m with
  | nil => rfl
  | cons e m =>
      have hblank : Blanks [' '] := List.forall_mem_singleton.mpr rfl
      have hreads : ∀ e' ∈ (e.1, Data.text e.2) :: textFields m, Reads e'.2 := by
        intro e' he
        rcases List.mem_cons.mp he with rfl | he
        · exact reads_text _
        · obtain ⟨e'', -, rfl⟩ := List.mem_map.mp he
          exact reads_text _
      have hnames : (Fields.keys ([] ++ (e.1, Data.text e.2) :: textFields m)).Nodup := by
        rw [List.nil_append, Fields.keys_cons, keys_textFields]
        exact hm
      have hskip : skipBlanks (' ' :: (entryText 0 (e.1, .text e.2) ++ (moreEntries 0 [' '] (textFields m) ++ [' ', '}']))) =
          entryText 0 (e.1, .text e.2) ++ (moreEntries 0 [' '] (textFields m) ++ [' ', '}']) := by
        rw [entryText, Json.string, String.toList_ofList]
        rfl
      rw [toList_objectLiteral]
      refine value_map hskip ?_ (@entries_listed 0 [' '] [' '] hblank hblank [] _ _ hreads hnames [] _ ?_)
      · rw [entryText, Json.string, String.toList_ofList]
        rintro ⟨⟩
      · simp
        omega

/-- The literal of a text is read as the text. -/
theorem read_string (s : String) : Json.read (string s) = .ok (.text s) :=
  @read_page (.text s) (.scalar trivial)

theorem printsPlainly_cons {c : Char} {cs : List Char} (hc : 32 ≤ c.toNat ∧ c.toNat < 127) (h : PrintsPlainly cs) :
    PrintsPlainly (c :: cs) :=
  List.forall_mem_cons.mpr ⟨hc, h⟩

theorem printsPlainly_objectLiteral (m : Fields String) : PrintsPlainly (objectLiteral m).toList := by
  have hclose : PrintsPlainly [' ', '}'] := printsPlainly_cons (by decide) (printsPlainly_cons (by decide) nofun)
  have hentry (e : String × String) : PrintsPlainly (entryText 0 (e.1, .text e.2)) :=
    printsPlainly_append (printsPlainly_string e.1)
      (printsPlainly_cons (by decide) (printsPlainly_cons (by decide) (printsPlainly_string e.2)))
  cases m with
  | nil => exact printsPlainly_cons (by decide) (printsPlainly_cons (by decide) nofun)
  | cons e m =>
      have hmore : PrintsPlainly (moreEntries 0 [' '] (textFields m)) := by
        intro c hc
        obtain ⟨e', he, hc⟩ := List.mem_flatMap.mp hc
        obtain ⟨e'', -, rfl⟩ := List.mem_map.mp he
        rw [List.singleton_append] at hc
        have hline : PrintsPlainly (',' :: ' ' :: entryText 0 (e''.1, .text e''.2)) :=
          printsPlainly_cons (by decide) (printsPlainly_cons (by decide) (hentry e''))
        exact hline c hc
      rw [toList_objectLiteral]
      exact printsPlainly_cons (by decide) (printsPlainly_cons (by decide)
        (printsPlainly_append (hentry e) (printsPlainly_append hmore hclose)))

/-- A map of texts is encoded without loss. Its literal is one line of printable ASCII from which a reader of JSON gets the
entries of the map, just these and in their order; the literal of a text is read as the text. So maps that differ, be it in
the order of their entries alone, have different literals. -/
theorem object_literal_decodes {m : Fields String} (hm : m.keys.Nodup) :
    PrintsPlainly (objectLiteral m).toList ∧ Text.lines (objectLiteral m).toList = [(objectLiteral m).toList] ∧
      Json.read (objectLiteral m) = .ok (.textMap m) ∧ (∀ s, Json.read (string s) = .ok (.text s)) ∧
      ∀ n : Fields String, n.keys.Nodup → objectLiteral n = objectLiteral m → n = m := by
  have hplain := printsPlainly_objectLiteral m
  have hfeed : '\n' ∉ (objectLiteral m).toList := fun hmem => absurd (hplain _ hmem).1 (by decide)
  refine ⟨hplain, List.splitOn_eq_singleton hfeed, read_objectLiteral hm, read_string, ?_⟩
  intro n hn hsame
  have hread := read_objectLiteral hn
  rw [hsame, read_objectLiteral hm] at hread
  exact (textMap_injective (Except.ok.inj hread)).symm

/-- Names and values that look like the marks between them, and a character that is written as a pair of units. -/
def markedMap : List (String × String) := [("\": \"", "\x7d, \\"), ("\\", "\n\"😀"), ("", "")]

theorem object_literal_decodes_marks : (Fields.keys markedMap).Nodup ∧
    objectLiteral markedMap = "\x7b \"\\\": \\\"\": \"\x7d, \\\\\", \"\\\\\": \"\\n\\\"\\ud83d\\ude00\", \"\": \"\" \x7d" ∧
      Json.read (objectLiteral markedMap) = .ok (.textMap markedMap) := by
  have hkeys : (Fields.keys markedMap).Nodup := by decide
  obtain ⟨-, -, hread, -⟩ := object_literal_decodes hkeys
  exact ⟨hkeys, by decide +kernel, hread⟩

end EdgeRoutes.Js
