import EdgeRoutes.Proofs.ClassReading
import EdgeRoutes.Proofs.JsonNumbers
import EdgeRoutes.Proofs.OrderedMaps
import EdgeRoutes.Proofs.StringLiterals

/-! Data on a JSON page. What is written with every item on a line of its own is read back as the same data: scalars by
their texts, lists and maps item by item. -/

namespace EdgeRoutes.Json

open Number

section Values

/-- A scalar that its text gives: whole numbers within the length that is converted, and numbers of 64 bits. -/
def Plain : Scalar → Prop
  | .int n => (Nat.toDigits 10 n.natAbs).length ≤ maxDigits
  | .float (.finite _ x) => x.Fits
  | _ => True

/-- A word is no number. -/
theorem number?_word {e : List Char × Scalar} (he : e ∈ wordValues) (rest : List Char) :
    number? (e.1 ++ rest) = none := by
  simp only [wordValues, List.mem_cons, List.not_mem_nil, or_false] at he
  rcases he with rfl | rfl | rfl | rfl | rfl | rfl <;> rfl

theorem simpleValue_of_readsNumber {text : List Char} {v : Scalar} (h : ReadsNumber text v) {rest : List Char}
    (hrest : Ends rest) : simpleValue (text ++ rest) = .ok (v, rest) := by
  obtain ⟨t, hnumber, hvalue⟩ := h rest hrest
  unfold simpleValue
  split
  · next found hfound =>
      -- a word at the front would leave no number there
      obtain ⟨e, he, hword⟩ := List.exists_of_findSome?_eq_some hfound
      obtain ⟨more, hmore, -⟩ := Option.map_eq_some_iff.mp hword
      rw [Text.after?_eq_some hmore, number?_word he] at hnumber
      cases hnumber
  · rw [hnumber]
    simp only [hvalue]
    rfl

/-- What is no text, list or map is read as a simple value. -/
theorem value_simple {cs rest : List Char} {v : Scalar} (h : simpleValue cs = .ok (v, rest)) (fuel : Nat) :
    value (fuel + 1) cs = .ok (.scalar v, rest) := by
  have hfails : ∀ c ∈ ['"', '[', '{'], ∀ more, ∃ e, simpleValue (c :: more) = .error e := by
    intro c hc more
    simp only [List.mem_cons, List.not_mem_nil, or_false] at hc
    rcases hc with rfl | rfl | rfl <;> exact ⟨_, rfl⟩
  have hapart : ∀ c ∈ ['"', '[', '{'], ∀ more, cs ≠ c :: more := by
    rintro c hc more rfl
    obtain ⟨e, he⟩ := hfails c hc more
    cases h.symm.trans he
  rw [value]
  · rw [h]
    rfl
  · exact hapart _ (by decide)
  · exact hapart _ (by decide)
  · exact hapart _ (by decide)

theorem value_scalar {v : Scalar} (hv : Plain v) {rest : List Char} (hrest : Ends rest) (fuel : Nat) :
    value (fuel + 1) ((scalar v).toList ++ rest) = .ok (.scalar v, rest) := by
  cases v with
  | null => exact value_simple rfl fuel
  | bool b => cases b <;> exact value_simple rfl fuel
  | int n => exact value_simple (simpleValue_of_readsNumber (readsNumber_int hv) hrest) fuel
  | float x =>
      cases x with
      | nan => exact value_simple rfl fuel
      | infinite negative => cases negative <;> exact value_simple rfl fuel
      | finite negative x => exact value_simple (simpleValue_of_readsNumber (readsNumber_float hv) hrest) fuel
  | text s =>
      rw [scalar, string, String.toList_ofList, List.cons_append, List.append_assoc, List.singleton_append, value,
        stringRest_flatMap]
      simp only [bind, Except.bind, pure, Except.pure, String.ofList_toList]

end Values

section Pages

/-- Data that JSON text holds: scalars that their texts give, and maps with different names for keys. -/
inductive IsPlain : Data → Prop
  | scalar {v : Scalar} (hv : Plain v) : IsPlain (.scalar v)
  | list {items : List Data} (hitems : ∀ d ∈ items, IsPlain d) : IsPlain (.list items)
  | map {entries : Fields Data} (hnames : entries.keys.Nodup) (hentries : ∀ e ∈ entries, IsPlain e.2) :
      IsPlain (.object entries)

theorem toList_joined_cons (sep p : String) (ps : List String) :
    (Text.joined sep (p :: ps)).toList = p.toList ++ ps.flatMap fun q => sep.toList ++ q.toList := by
  induction ps generalizing p with
  | nil => simp [Text.joined]
  | cons q qs ih =>
      rw [Text.joined, String.intercalate_cons_cons, String.toList_append, String.toList_append, ← Text.joined, ih,
        List.flatMap_cons, List.append_assoc, List.append_assoc]

theorem itemPages_eq (depth : Nat) (items : List Data) :
    itemPages depth items = items.map fun d => newline depth ++ page depth d := by
  induction items with
  | nil => rfl
  | cons d ds ih => rw [itemPages, ih, List.map_cons]

theorem entryPages_eq (depth : Nat) (entries : List (Scalar × Data)) :
    entryPages depth entries = entries.map fun e => newline depth ++ key e.1 ++ ": " ++ page depth e.2 := by
  induction entries with
  | nil => rfl
  | cons e es ih => rw [entryPages, ih, List.map_cons]

theorem toList_newline (depth : Nat) : (newline depth).toList = '\n' :: List.replicate (2 * depth) ' ' := by
  rw [newline, String.toList_append, @String.toList_ofList (List.replicate (2 * depth) ' ')]
  rfl

/-- The text is made of blanks, as they may stand between the parts of a value. -/
def Blanks (cs : List Char) : Prop := ∀ c ∈ cs, isBlank c = true

theorem Blanks.skip {gap : List Char} (h : Blanks gap) (cs : List Char) : skipBlanks (gap ++ cs) = skipBlanks cs :=
  List.dropWhile_append_of_pos h

theorem blanks_newline (depth : Nat) : Blanks (newline depth).toList := by
  rw [toList_newline]
  refine List.forall_mem_cons.mpr ⟨rfl, fun c hc => ?_⟩
  rw [List.eq_of_mem_replicate hc]
  rfl

/-- A line break is blank. -/
theorem skipBlanks_newline (depth : Nat) (cs : List Char) :
    skipBlanks ((newline depth).toList ++ cs) = skipBlanks cs :=
  (blanks_newline depth).skip cs

/-- The page of data is read as the data, if there is fuel for its characters and no number goes on after it. -/
def Reads (d : Data) : Prop :=
  ∀ (depth fuel : Nat) (rest : List Char), 2 * (page depth d).toList.length ≤ fuel → Ends rest →
    value fuel ((page depth d).toList ++ rest) = .ok (d, rest)

/-- What a value starts with. -/
theorem exists_head_of_value {fuel : Nat} {cs : List Char} {read : Data × List Char} (h : value fuel cs = .ok read) :
    ∃ c more, cs = c :: more ∧ c ∉ [' ', '\t', '\n', '\r', ']', '}', '\ufeff'] := by
  obtain _ | fuel := fuel
  · cases h
  cases cs with
  | nil => cases h
  | cons c more =>
      refine ⟨c, more, rfl, fun hc => ?_⟩
      simp only [List.mem_cons, List.not_mem_nil, or_false] at hc
      rcases hc with rfl | rfl | rfl | rfl | rfl | rfl | rfl <;> cases h

theorem Reads.head {d : Data} (h : Reads d) (depth : Nat) :
    ∃ c more, (page depth d).toList = c :: more ∧ c ∉ [' ', '\t', '\n', '\r', ']', '}', '\ufeff'] := by
  have hread := h depth (2 * (page depth d).toList.length) [] le_rfl ends_nil
  rw [List.append_nil] at hread
  exact exists_head_of_value hread

theorem Reads.skipBlanks {d : Data} (h : Reads d) (depth : Nat) (rest : List Char) :
    skipBlanks ((page depth d).toList ++ rest) = (page depth d).toList ++ rest := by
  obtain ⟨c, more, hpage, hc⟩ := h.head depth
  simp only [List.mem_cons, not_or] at hc
  obtain ⟨hspace, htab, hline, hreturn, -⟩ := hc
  rw [hpage, List.cons_append, Json.skipBlanks, List.dropWhile_cons_of_neg]
  simp [isBlank, hspace, htab, hline, hreturn]

theorem ends_newline (depth : Nat) (cs : List Char) : Ends ((newline depth).toList ++ cs) := by
  rw [toList_newline]
  rintro _ ⟨⟩
  decide

theorem ends_comma (cs : List Char) : Ends (',' :: cs) := by
  rintro _ ⟨⟩
  decide

theorem Blanks.ends {gap : List Char} (h : Blanks gap) {cs : List Char} (hcs : Ends cs) : Ends (gap ++ cs) := by
  cases gap with
  | nil => exact hcs
  | cons c gap =>
      rintro _ ⟨⟩
      have hc : c = ' ' ∨ c = '\t' ∨ c = '\n' ∨ c = '\r' := by
        simpa [isBlank, or_assoc] using h c List.mem_cons_self
      rcases hc with rfl | rfl | rfl | rfl <;> decide

/-- The items after the first one, as a page has them. -/
def moreItems (depth : Nat) (items : List Data) : List Char :=
  items.flatMap fun d => ',' :: ((newline depth).toList ++ (page depth d).toList)

/-- The items of a list are read one by one. -/
theorem items_page {depth n : Nat} {d : Data} {ds : List Data} (hreads : ∀ e ∈ d :: ds, Reads e) {rest : List Char}
    {fuel : Nat} (hfuel : 2 * ((page depth d).toList ++ moreItems depth ds).length + 2 ≤ fuel) :
    items fuel ((page depth d).toList ++ (moreItems depth ds ++ ((newline n).toList ++ ']' :: rest))) =
      .ok (d :: ds, rest) := by
  induction ds generalizing d fuel with
  | nil =>
      obtain _ | fuel := fuel
      · omega
      have hvalue := hreads d List.mem_cons_self depth fuel ((newline n).toList ++ ']' :: rest)
        (by simp [moreItems] at hfuel; omega) (ends_newline n _)
      rw [moreItems, List.flatMap_nil, List.nil_append, items, hvalue]
      simp only [bind, Except.bind, skipBlanks_newline]
      rfl
  | cons e es ih =>
      obtain _ | fuel := fuel
      · omega
      have hvalue := hreads d List.mem_cons_self depth fuel
        (moreItems depth (e :: es) ++ ((newline n).toList ++ ']' :: rest)) (by simp at hfuel; omega) (ends_comma _)
      have hmore := @ih e (fun e he => hreads e (List.mem_cons_of_mem _ he)) fuel
        (by simp [moreItems] at hfuel ⊢; omega)
      have hskip : skipBlanks ((newline depth).toList ++ ((page depth e).toList ++ (moreItems depth es ++
          ((newline n).toList ++ ']' :: rest)))) = (page depth e).toList ++ (moreItems depth es ++
            ((newline n).toList ++ ']' :: rest)) := by
        rw [skipBlanks_newline, (hreads e (by simp)).skipBlanks]
      have hcomma : skipBlanks (moreItems depth (e :: es) ++ ((newline n).toList ++ ']' :: rest)) =
          ',' :: ((newline depth).toList ++ ((page depth e).toList ++ (moreItems depth es ++
            ((newline n).toList ++ ']' :: rest)))) := by
        simp [moreItems, skipBlanks, isBlank]
      rw [items, hvalue]
      simp only [bind, Except.bind, hcomma, hskip, hmore]
      rfl

/-- An entry with a name, as data has it. -/
def named (e : String × Data) : Scalar × Data := (.text e.1, e.2)

def entryText (depth : Nat) (e : String × Data) : List Char :=
  (string e.1).toList ++ ':' :: ' ' :: (page depth e.2).toList

/-- The entries after the first one, a gap standing before each. -/
def moreEntries (depth : Nat) (gap : List Char) (entries : Fields Data) : List Char :=
  entries.flatMap fun e => ',' :: (gap ++ entryText depth e)

theorem putBy_named {read : Fields Data} {name : String} (h : name ∉ read.keys) (d : Data) :
    Fields.putBy (· == ·) (read.map named) (.text name) d = (read ++ [(name, d)]).map named := by
  induction read with
  | nil => rfl
  | cons e read ih =>
      rw [Fields.keys_cons, List.mem_cons, not_or] at h
      have hname : ((named e).1 == Scalar.text name) = false := by
        simpa [named] using Ne.symm h.1
      rw [List.map_cons, Fields.putBy, hname, ih h.2]
      rfl

/-- One entry is read and put after those already read. -/
theorem entries_entry {depth fuel : Nat} {read : Fields Data} {e : String × Data} (hreads : Reads e.2)
    (hnew : e.1 ∉ read.keys) (hfuel : 2 * (entryText depth e).length ≤ fuel) {after : List Char} (hafter : Ends after) :
    entries (fuel + 1) (read.map named) (entryText depth e ++ after) =
      match skipBlanks after with
      | '}' :: rest => .ok ((read ++ [e]).map named, rest)
      | ',' :: rest => entries fuel ((read ++ [e]).map named) (skipBlanks rest)
      | rest => .error (.defect .noComma rest.length) := by
  obtain ⟨name, d⟩ := e
  replace hreads : Reads d := hreads
  have hvalue := hreads depth fuel after (by simp [entryText] at hfuel; omega) hafter
  have hcolon : skipBlanks (':' :: ' ' :: ((page depth d).toList ++ after)) =
      ':' :: ' ' :: ((page depth d).toList ++ after) := rfl
  have hspace : skipBlanks (' ' :: ((page depth d).toList ++ after)) = (page depth d).toList ++ after :=
    hreads.skipBlanks depth after
  have htext : entryText depth (name, d) ++ after = '"' :: (name.toList.flatMap escapedChar ++
      '"' :: ':' :: ' ' :: ((page depth d).toList ++ after)) := by
    simp [entryText, string]
  rw [htext, entries, stringRest_flatMap]
  simp only [bind, Except.bind, hcolon, hspace, hvalue, String.ofList_toList, putBy_named hnew]
  rfl

/-- The entries of a map are read one by one, whatever blanks stand between them. -/
theorem entries_listed {depth : Nat} {gap close : List Char} (hgap : Blanks gap) (hclose : Blanks close)
    {read : Fields Data} {e : String × Data} {es : Fields Data} (hreads : ∀ e' ∈ e :: es, Reads e'.2)
    (hnames : (Fields.keys (read ++ e :: es)).Nodup) {rest : List Char} {fuel : Nat}
    (hfuel : 2 * (entryText depth e ++ moreEntries depth gap es).length + 2 ≤ fuel) :
    entries fuel (read.map named) (entryText depth e ++ (moreEntries depth gap es ++ (close ++ '}' :: rest))) =
      .ok ((read ++ e :: es).map named, rest) := by
  have hnew : e.1 ∉ read.keys := by
    rw [Fields.keys, List.map_append, List.nodup_append] at hnames
    exact fun hmem => hnames.2.2 _ hmem _ List.mem_cons_self rfl
  induction es generalizing read e fuel with
  | nil =>
      obtain _ | fuel := fuel
      · omega
      have hbrace : Ends ('}' :: rest) := by
        rintro _ ⟨⟩
        decide
      rw [moreEntries, List.flatMap_nil, List.nil_append, entries_entry (hreads e List.mem_cons_self) hnew
        (by simp [moreEntries] at hfuel; omega) (hclose.ends hbrace), hclose.skip]
      rfl
  | cons e' es ih =>
      obtain _ | fuel := fuel
      · omega
      have hcomma : skipBlanks (moreEntries depth gap (e' :: es) ++ (close ++ '}' :: rest)) =
          ',' :: (gap ++ (entryText depth e' ++ (moreEntries depth gap es ++ (close ++ '}' :: rest)))) := by
        simp [moreEntries, skipBlanks, isBlank]
      have hskip (cs : List Char) : skipBlanks (entryText depth e' ++ cs) = entryText depth e' ++ cs := by
        rw [entryText, string, String.toList_ofList]
        rfl
      have happend : read ++ e :: e' :: es = (read ++ [e]) ++ e' :: es := by simp
      have hafter : Ends (moreEntries depth gap (e' :: es) ++ (close ++ '}' :: rest)) := ends_comma _
      have hlength : 2 * (entryText depth e).length ≤ fuel := by
        simp at hfuel
        omega
      rw [happend] at hnames ⊢
      rw [entries_entry (hreads e List.mem_cons_self) hnew hlength hafter, hcomma]
      simp only [hgap.skip, hskip]
      refine ih (fun e'' he => hreads e'' (List.mem_cons_of_mem _ he)) hnames ?_ ?_
      · simp [moreEntries] at hfuel ⊢
        omega
      · rw [Fields.keys, List.map_append, List.nodup_append] at hnames
        exact fun hmem => hnames.2.2 _ hmem _ List.mem_cons_self rfl

theorem toList_page_list (depth : Nat) (d : Data) (ds : List Data) : (page depth (.list (d :: ds))).toList =
    '[' :: ((newline (depth + 1)).toList ++ ((page (depth + 1) d).toList ++ (moreItems (depth + 1) ds ++
      ((newline depth).toList ++ [']'])))) := by
  rw [page, String.toList_append, String.toList_append, String.toList_append, itemPages_eq, List.map_cons,
    toList_joined_cons, List.flatMap_map]
  · simp [moreItems]
  · exact List.cons_ne_nil _ _

theorem toList_page_object (depth : Nat) (e : String × Data) (es : Fields Data) :
    (page depth (.object (e :: es))).toList =
      '{' :: ((newline (depth + 1)).toList ++ (entryText (depth + 1) e ++
        (moreEntries (depth + 1) (newline (depth + 1)).toList es ++ ((newline depth).toList ++ ['}'])))) := by
  rw [Data.object, List.map_cons, page, String.toList_append, String.toList_append, String.toList_append,
    entryPages_eq, List.map_cons, toList_joined_cons, List.map_map, List.flatMap_map]
  · simp [moreEntries, entryText, key]
  · exact List.cons_ne_nil _ _

theorem value_list {fuel : Nat} {cs body rest : List Char} {ds : List Data} (hbody : skipBlanks cs = body)
    (hopen : body.head? ≠ some ']') (hitems : items fuel body = .ok (ds, rest)) :
    value (fuel + 1) ('[' :: cs) = .ok (.list ds, rest) := by
  rw [value, hbody]
  split
  · exact absurd rfl hopen
  · rw [hitems]
    rfl

theorem value_map {fuel : Nat} {cs body rest : List Char} {es : List (Scalar × Data)} (hbody : skipBlanks cs = body)
    (hopen : body.head? ≠ some '}') (hentries : entries fuel [] body = .ok (es, rest)) :
    value (fuel + 1) ('{' :: cs) = .ok (.map es, rest) := by
  rw [value, hbody]
  split
  · exact absurd rfl hopen
  · rw [hentries]
    rfl

theorem toList_page_list_nil (depth : Nat) : (page depth (.list [])).toList = ['[', ']'] := by
  rw [page]
  rfl

theorem toList_page_object_nil (depth : Nat) : (page depth (.object [])).toList = ['{', '}'] := by
  rw [Data.object, List.map_nil, page]
  rfl

/-- Plain data is read back from its page. -/
theorem reads_of_isPlain {d : Data} (h : IsPlain d) : Reads d := by
  have hfuel {length fuel : Nat} (hlength : 0 < length) (hle : 2 * length ≤ fuel) : ∃ less, fuel = less + 1 :=
    ⟨fuel - 1, by omega⟩
  induction h with
  | @scalar v hv =>
      intro depth fuel rest hle hrest
      have hpage : page depth (.scalar v) = scalar v := rfl
      have hread : value 1 ((scalar v).toList ++ []) = .ok (.scalar v, []) := value_scalar hv ends_nil 0
      obtain ⟨c, more, htext, -⟩ := exists_head_of_value hread
      rw [List.append_nil] at htext
      obtain ⟨fuel, rfl⟩ := hfuel (by simp [hpage, htext]) hle
      exact value_scalar hv hrest fuel
  | @list items hitems ih =>
      intro depth fuel rest hle hrest
      cases items with
      | nil =>
          rw [toList_page_list_nil] at hle ⊢
          obtain ⟨fuel, rfl⟩ := hfuel (by simp) hle
          rfl
      | cons d ds =>
          rw [toList_page_list] at hle ⊢
          obtain ⟨fuel, rfl⟩ := hfuel (by simp) hle
          have hitems := @items_page (depth + 1) depth d ds ih rest fuel (by simp at hle ⊢; omega)
          obtain ⟨c, more, hpage, hc⟩ := (ih d List.mem_cons_self).head (depth + 1)
          rw [List.cons_append]
          refine value_list ?_ ?_ hitems
          · rw [List.append_assoc, skipBlanks_newline, List.append_assoc, (ih d List.mem_cons_self).skipBlanks]
            simp
          · rw [hpage]
            rintro ⟨⟩
            exact hc (by decide)
  | @map entries hnames hentries ih =>
      intro depth fuel rest hle hrest
      cases entries with
      | nil =>
          rw [toList_page_object_nil] at hle ⊢
          obtain ⟨fuel, rfl⟩ := hfuel (by simp) hle
          rfl
      | cons e es =>
          rw [toList_page_object] at hle ⊢
          obtain ⟨fuel, rfl⟩ := hfuel (by simp) hle
          have hlisted : 2 * (entryText (depth + 1) e ++ moreEntries (depth + 1) (newline (depth + 1)).toList es).length + 2 ≤
              fuel := by
            simp at hle ⊢
            omega
          have hentries := @entries_listed _ _ _ (blanks_newline (depth + 1)) (blanks_newline depth) [] e es ih hnames
            rest fuel hlisted
          rw [List.cons_append]
          refine value_map ?_ ?_ hentries
          · rw [List.append_assoc, skipBlanks_newline, entryText, string, String.toList_ofList]
            simp [skipBlanks, isBlank]
          · rw [entryText, string, String.toList_ofList]
            rintro ⟨⟩

/-- A text that is one value is read as this value. -/
theorem read_of_value {text : String} {d : Data}
    (h : value (2 * text.toList.length + 2) text.toList = .ok (d, [])) : read text = .ok d := by
  obtain ⟨c, more, htext, hc⟩ := exists_head_of_value h
  simp only [List.mem_cons, List.not_mem_nil, or_false, not_or] at hc
  obtain ⟨hspace, htab, hline, hreturn, -, -, hmark⟩ := hc
  have hskip : Json.skipBlanks text.toList = text.toList := by
    rw [htext, Json.skipBlanks, List.dropWhile_cons_of_neg]
    simp [isBlank, hspace, htab, hline, hreturn]
  unfold read
  dsimp only
  split
  · next heq =>
      rw [htext] at heq
      exact absurd (List.cons.inj heq).1 hmark
  · rw [hskip, h]
    rfl

/-- Plain data is read back from the page that it is written on. -/
theorem read_page {d : Data} (h : IsPlain d) : read (page 0 d) = .ok d := by
  refine read_of_value ?_
  simpa using reads_of_isPlain h 0 (2 * (page 0 d).toList.length + 2) [] (by omega) ends_nil

end Pages

end EdgeRoutes.Json
