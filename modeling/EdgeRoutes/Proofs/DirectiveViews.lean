import EdgeRoutes.Model.View
import EdgeRoutes.Proofs.Building
import EdgeRoutes.Proofs.Flattening
import EdgeRoutes.Proofs.OrderedMaps

/-! The directives of a location as plain data. Directives that the converter understands stand there under their own
names, and all others are kept beside them as settings. Only a `return` can come as both: without a code and without an
address it is kept as a setting, which hides the answer that another `return` gives. -/

namespace EdgeRoutes

open Build Location

/-- The arguments of a return directive give an answer: a code first, or an address alone. -/
inductive Return.Given : List String → Prop
  | code {first : String} (rest : List String) (h : Text.allDigits first = true) : Given (first :: rest)
  | address {url : String} (h : isAbsoluteUrl url = true) : Given [url]

/-- A `return` is kept just if its arguments give a code or an address. -/
theorem Return.isSome_ofDirective_iff {d : Directive} {answer : Option Return}
    (h : (Return.ofDirective d).result = .ok answer) : answer.isSome = true ↔ Return.Given d.args := by
  obtain ⟨name, args, line⟩ := d
  cases args with
  | nil =>
      cases h
      exact iff_of_false (by simp) nofun
  | cons first rest =>
      simp only [Return.ofDirective, Logged.result_bind, Logged.result_liftM] at h
      obtain ⟨code, hcode, h⟩ := bind_eq_ok_iff.mp h
      have hdigits := isNone_of_natural? hcode
      cases code with
      | some code =>
          cases h
          exact iff_of_true rfl (.code rest (by simpa using hdigits))
      | none =>
          have hfirst : ¬ Text.allDigits first = true := by simpa using hdigits
          by_cases haddress : (rest.isEmpty && isAbsoluteUrl first) = true
          · rw [if_pos haddress] at h
            cases h
            obtain ⟨hrest, hurl⟩ := Bool.and_eq_true_iff.mp haddress
            rw [List.isEmpty_iff.mp hrest]
            exact iff_of_true rfl (.address hurl)
          · rw [if_neg haddress] at h
            cases h
            refine iff_of_false (by simp) ?_
            rintro (⟨_, hcode⟩ | hurl)
            · exact hfirst hcode
            · exact haddress (by simpa using hurl)

namespace Fields

variable {β γ : Type}

theorem keys_map (m : Fields β) (f : β → γ) : keys (m.map fun e => (e.1, f e.2)) = m.keys := by
  rw [keys, List.map_map]
  rfl

theorem get?_map (m : Fields β) (f : β → γ) (key : String) :
    get? (m.map fun e => (e.1, f e.2)) key = (m.get? key).map f := by
  induction m with
  | nil => rfl
  | cons e m ih =>
      rw [List.map_cons, get?_cons, get?_cons, ih]
      split_ifs <;> rfl

/-- A key of a map has a value, and no key has two. -/
theorem get?_eq_some_iff {m : Fields β} (h : m.keys.Nodup) {key : String} {value : β} :
    m.get? key = some value ↔ (key, value) ∈ m := by
  induction m with
  | nil => simp [get?]
  | cons e m ih =>
      obtain ⟨hfresh, hm⟩ := nodup_keys_cons.mp h
      rw [get?_cons, List.mem_cons]
      split_ifs with hkey
      · subst hkey
        constructor
        · intro hvalue
          exact Or.inl (Prod.ext rfl (Option.some.inj hvalue).symm)
        · rintro (he | he)
          · rw [← he]
          · exact absurd (List.mem_map_of_mem he) hfresh
      · rw [ih hm, or_iff_right]
        rintro rfl
        exact hkey rfl

end Fields

namespace Directives

/-- The names of the directives that have fields of their own. -/
def fieldNames : List String :=
  ["proxy_pass", "root", "alias", "expires", "index", "try_files", "allow", "deny", "rewrite", "return", "add_header",
    "proxy_set_header"]

/-- A field that is present, under the name of its directive and with its value as data. -/
inductive Shows (d : Directives) : String → Data → Prop
  | proxyPass {url : String} (h : d.proxyPass = some url) : Shows d "proxy_pass" (.text url)
  | root {path : String} (h : d.root = some path) : Shows d "root" (.text path)
  | aliasPath {path : String} (h : d.aliasPath = some path) : Shows d "alias" (.text path)
  | expires {value : String} (h : d.expires = some value) : Shows d "expires" (.text value)
  | index (h : d.index ≠ []) : Shows d "index" (.texts d.index)
  | tryFiles (h : d.tryFiles ≠ []) : Shows d "try_files" (.texts d.tryFiles)
  | allow (h : d.allow ≠ []) : Shows d "allow" (.texts d.allow)
  | deny (h : d.deny ≠ []) : Shows d "deny" (.texts d.deny)
  | rewrites (h : d.rewrites ≠ []) : Shows d "rewrite" (.list (d.rewrites.map RewriteRule.view))
  | answer {answer : Return} (h : d.answer = some answer) : Shows d "return" answer.view
  | addHeaders (h : d.addHeaders ≠ []) : Shows d "add_header" (.textMap d.addHeaders)
  | proxyHeaders (h : d.proxyHeaders ≠ []) : Shows d "proxy_set_header" (.textMap d.proxyHeaders)

/-- The view tells the directives that are present from all others, and has the fields with their own values. -/
structure Faithful (d : Directives) : Prop where
  has_iff : ∀ name, name ≠ "return_" → (d.has name = true ↔ name ∈ d.entries.keys)
  shows : ∀ name value, d.Shows name value → d.entries.get? name = some value

theorem mem_presentEntry {α : Type} {name key : String} {part : Option α} {f : α → Data} {value : Data} :
    (key, value) ∈ presentEntry name (part.map f) ↔ key = name ∧ ∃ a, part = some a ∧ value = f a := by
  cases part <;> simp [presentEntry]

theorem mem_entryUnless {α : Type} {name key : String} {as : List α} {shown value : Data} :
    (key, value) ∈ (if as.isEmpty then [] else [(name, shown)]) ↔ key = name ∧ as ≠ [] ∧ value = shown := by
  cases as <;> simp

theorem mem_textsEntry {name key : String} {texts : List String} {value : Data} :
    (key, value) ∈ textsEntry name texts ↔ key = name ∧ texts ≠ [] ∧ value = .texts texts :=
  mem_entryUnless

theorem mem_fieldEntries {d : Directives} {name : String} {value : Data} :
    (name, value) ∈ d.fieldEntries ↔ d.Shows name value := by
  constructor
  · intro h
    simp only [fieldEntries, List.mem_append, mem_presentEntry, mem_textsEntry, mem_entryUnless, or_assoc] at h
    rcases h with ⟨rfl, _, h, rfl⟩ | ⟨rfl, _, h, rfl⟩ | ⟨rfl, _, h, rfl⟩ | ⟨rfl, _, h, rfl⟩ | ⟨rfl, h, rfl⟩ |
      ⟨rfl, h, rfl⟩ | ⟨rfl, h, rfl⟩ | ⟨rfl, h, rfl⟩ | ⟨rfl, h, rfl⟩ | ⟨rfl, _, h, rfl⟩ | ⟨rfl, h, rfl⟩ | ⟨rfl, h, rfl⟩
    exacts [.proxyPass h, .root h, .aliasPath h, .expires h, .index h, .tryFiles h, .allow h, .deny h, .rewrites h,
      .answer h, .addHeaders h, .proxyHeaders h]
  · rintro (h | h | h | h | h | h | h | h | h | h | h | h) <;>
      simp [fieldEntries, presentEntry, textsEntry, h]

theorem mem_keys_presentEntry {name key : String} {part : Option Data} :
    key ∈ Fields.keys (presentEntry name part) ↔ key = name ∧ part.isSome = true := by
  cases part <;> simp [presentEntry, Fields.keys]

theorem mem_keys_entryUnless {α : Type} {name key : String} {as : List α} {shown : Data} :
    key ∈ Fields.keys (if as.isEmpty then [] else [(name, shown)]) ↔ key = name ∧ (!as.isEmpty) = true := by
  cases as <;> simp [Fields.keys]

theorem keys_presentEntry_sublist (name : String) (part : Option Data) :
    (Fields.keys (presentEntry name part)).Sublist [name] := by
  cases part <;> simp [presentEntry, Fields.keys]

theorem keys_entryUnless_sublist {α : Type} (name : String) (as : List α) (shown : Data) :
    (Fields.keys (if as.isEmpty then [] else [(name, shown)])).Sublist [name] := by
  cases as <;> simp [Fields.keys]

theorem keys_append {β : Type} (m n : Fields β) : Fields.keys (m ++ n) = m.keys ++ n.keys := List.map_append

/-- Every field has at most one entry, and they come in a fixed order. -/
theorem keys_fieldEntries_sublist (d : Directives) : d.fieldEntries.keys.Sublist fieldNames := by
  have hname : fieldNames = ["proxy_pass"] ++ ["root"] ++ ["alias"] ++ ["expires"] ++ ["index"] ++ ["try_files"] ++
    ["allow"] ++ ["deny"] ++ ["rewrite"] ++ ["return"] ++ ["add_header"] ++ ["proxy_set_header"] := rfl
  rw [hname]
  simp only [fieldEntries, keys_append]
  repeat' apply List.Sublist.append
  all_goals first | exact keys_presentEntry_sublist _ _ | exact keys_entryUnless_sublist _ _ _

theorem nodup_keys_fieldEntries (d : Directives) : d.fieldEntries.keys.Nodup :=
  d.keys_fieldEntries_sublist.nodup (by decide)

theorem get?_fieldEntries {d : Directives} {name : String} {value : Data} :
    d.fieldEntries.get? name = some value ↔ d.Shows name value :=
  (Fields.get?_eq_some_iff d.nodup_keys_fieldEntries).trans mem_fieldEntries

theorem mem_keys_fieldEntries {d : Directives} {name : String} :
    name ∈ d.fieldEntries.keys ↔ ∃ value, d.Shows name value := by
  simp only [Fields.keys, List.mem_map, Prod.exists, exists_and_right, exists_eq_right, mem_fieldEntries]

theorem Shows.mem_fieldNames {d : Directives} {name : String} {value : Data} (h : d.Shows name value) :
    name ∈ fieldNames :=
  d.keys_fieldEntries_sublist.subset (mem_keys_fieldEntries.mpr ⟨value, h⟩)

/-- A directive is present if its field is, or, for those without a field, if it is kept as a setting. -/
theorem has_iff {d : Directives} {name : String} (hname : name ≠ "return_") :
    d.has name = true ↔ (∃ value, d.Shows name value) ∨ name ∉ fieldNames ∧ name ∈ d.extra.keys := by
  by_cases hfield : name ∈ fieldNames
  · rw [or_iff_left fun h => h.1 hfield, ← mem_keys_fieldEntries]
    simp only [fieldEntries, textsEntry, keys_append, List.mem_append, mem_keys_presentEntry, mem_keys_entryUnless]
    simp only [fieldNames, List.mem_cons, List.not_mem_nil, or_false] at hfield
    rcases hfield with rfl | rfl | rfl | rfl | rfl | rfl | rfl | rfl | rfl | rfl | rfl | rfl <;> simp [has]
  · have hother : d.has name = d.extra.has name := by
      unfold has
      split <;> simp_all [fieldNames]
    have hshown : ¬ ∃ value, d.Shows name value := fun ⟨_, h⟩ => hfield h.mem_fieldNames
    rw [hother, or_iff_right hshown, and_iff_right hfield]
    simp [Fields.has, Fields.keys]

/-- The directive is kept as a setting: it has no field, or it is a return that gives no answer. -/
def IsKept (d : Directive) : Prop :=
  d.name ∉ fieldNames ∨ d.name = "return" ∧ ¬ Return.Given d.args

theorem extra_of_keep {read read' : Directives} {d : Directive} (h : (read.keep d).result = .ok read') :
    ∃ setting, read'.extra = read.extra.put d.name setting := by
  simp only [keep, Logged.result_bind] at h
  obtain ⟨setting, -, h⟩ := bind_eq_ok_iff.mp h
  cases h
  exact ⟨setting, rfl⟩

/-- A directive goes to the settings, or leaves them as they are. -/
theorem extra_of_apply {read read' : Directives} {d : Directive} (h : (read.apply d).result = .ok read') :
    (IsKept d ∧ ∃ setting, read'.extra = read.extra.put d.name setting) ∨
      ¬ IsKept d ∧ read'.extra = read.extra := by
  unfold apply at h
  split at h
  case h_13 =>
    refine Or.inl ⟨Or.inl ?_, extra_of_keep h⟩
    simp_all [fieldNames]
  case h_10 hname =>
    rw [Logged.result_bind] at h
    obtain ⟨answer, hanswer, h⟩ := bind_eq_ok_iff.mp h
    have hgiven := Return.isSome_ofDirective_iff hanswer
    cases answer with
    | none => exact Or.inl ⟨Or.inr ⟨hname, fun hg => absurd (hgiven.mpr hg) (by simp)⟩, extra_of_keep h⟩
    | some answer =>
        cases h
        refine Or.inr ⟨?_, rfl⟩
        rintro (hother | ⟨-, hnot⟩)
        · exact hother (by rw [hname]; decide)
        · exact hnot (hgiven.mp rfl)
  all_goals
    next hname =>
      have hkept : ¬ IsKept d := by
        rintro (hother | ⟨hreturn, -⟩)
        · exact hother (by rw [hname]; decide)
        · exact absurd (hname.symm.trans hreturn) (by decide)
      refine Or.inr ⟨hkept, ?_⟩
      try
        rw [Logged.result_bind] at h
        obtain ⟨value, -, h⟩ := bind_eq_ok_iff.mp h
      cases h
      rfl

theorem mem_keys_put {β : Type} {m : Fields β} {name key : String} {value : β} :
    key ∈ (m.put name value).keys ↔ key ∈ m.keys ∨ key = name := by
  rw [Fields.keys_put]
  split_ifs with hname
  · exact ⟨Or.inl, fun h => h.elim id fun hkey => hkey ▸ hname⟩
  · rw [List.mem_append, List.mem_singleton]

/-- The settings are those that were there and the directives that are kept, each name once. -/
theorem extra_of_readAll {read read' : Directives} {ds : List Directive} (h : read.readAll ds = .ok read')
    (hnodup : read.extra.keys.Nodup) :
    read'.extra.keys.Nodup ∧
      ∀ name, name ∈ read'.extra.keys ↔ name ∈ read.extra.keys ∨ ∃ d ∈ ds, d.name = name ∧ IsKept d := by
  induction ds generalizing read with
  | nil =>
      cases h
      exact ⟨hnodup, by simp⟩
  | cons d ds ih =>
      obtain ⟨next, hnext, hrest⟩ := bind_eq_ok_iff.mp h
      simp only [List.mem_cons, exists_eq_or_imp]
      rcases extra_of_apply hnext with ⟨hkept, setting, hextra⟩ | ⟨hkept, hextra⟩
      · obtain ⟨hnodup', hkeys⟩ := ih hrest (by rw [hextra]; exact Fields.nodup_keys_put hnodup _ _)
        refine ⟨hnodup', fun name => ?_⟩
        rw [hkeys, hextra, mem_keys_put, or_assoc, and_iff_left hkept, eq_comm]
      · obtain ⟨hnodup', hkeys⟩ := ih hrest (by rwa [hextra])
        refine ⟨hnodup', fun name => ?_⟩
        have hother : ¬ (d.name = name ∧ IsKept d) := fun hd => hkept hd.2
        rw [hkeys, hextra, or_iff_right hother]

section View

variable {d : Directives} (hnodup : d.extra.keys.Nodup)

include hnodup

/-- Settings stand in the view in place of fields of the same name. -/
theorem get?_entries (name : String) :
    d.entries.get? name = ((d.extra.get? name).map Setting.view).or (d.fieldEntries.get? name) := by
  rw [entries, Fields.get?_update _ (by rwa [Fields.keys_map]), Fields.get?_map]

theorem mem_keys_entries {name : String} :
    name ∈ d.entries.keys ↔ (∃ value, d.Shows name value) ∨ name ∈ d.extra.keys := by
  rw [entries, Fields.keys_update _ (by rwa [Fields.keys_map]), Fields.keys_map, List.mem_append,
    mem_keys_fieldEntries, List.mem_filter]
  by_cases hshown : ∃ value, d.Shows name value
  · simp [hshown]
  · simp [hshown, mem_keys_fieldEntries]

theorem get?_entries_of_shows {name : String} {value : Data} (hfresh : name ∉ d.extra.keys)
    (h : d.Shows name value) : d.entries.get? name = some value := by
  rw [get?_entries hnodup, Fields.get?_eq_none_iff.mpr hfresh, get?_fieldEntries.mpr h]
  rfl

/-- No setting looks like an answer. -/
theorem get?_entries_ne_answer (hreturn : "return" ∈ d.extra.keys) (answer : Return) :
    d.entries.get? "return" ≠ some answer.view := by
  obtain ⟨setting, hsetting⟩ := Option.ne_none_iff_exists'.mp (mt Fields.get?_eq_none_iff.mp (not_not_intro hreturn))
  rw [get?_entries hnodup, hsetting]
  cases setting <;> simp [Setting.view, Return.view, Data.texts, Data.object]

/-- Where no field but that of `return` shares its name with a setting, the view is faithful unless it does. -/
theorem faithful_iff (hapart : ∀ name ∈ d.extra.keys, name ∈ fieldNames → name = "return") :
    d.Faithful ↔ "return" ∉ d.extra.keys := by
  constructor
  · intro h hreturn
    have hhas := (h.has_iff "return" (by decide)).mpr ((mem_keys_entries hnodup).mpr (Or.inr hreturn))
    obtain ⟨answer, hanswer⟩ := Option.isSome_iff_exists.mp hhas
    exact get?_entries_ne_answer hnodup hreturn answer (h.shows _ _ (.answer hanswer))
  · intro hreturn
    have hfresh : ∀ name ∈ d.extra.keys, name ∉ fieldNames := fun name hname hfield =>
      hreturn (hapart name hname hfield ▸ hname)
    refine ⟨fun name hname => ?_, fun name value h => ?_⟩
    · rw [has_iff hname, mem_keys_entries hnodup]
      exact or_congr_right (and_iff_right_of_imp (hfresh name))
    · exact get?_entries_of_shows hnodup (fun hkey => hfresh name hkey h.mem_fieldNames) h

end View

/-- After the directives of a block, only `return` can name both a field and a setting, and then one gave no answer. -/
theorem mem_extra_keys {d : Directives} {ds : List Directive} (h : readAll {} ds = .ok d) :
    d.extra.keys.Nodup ∧ (∀ name ∈ d.extra.keys, name ∈ fieldNames → name = "return") ∧
      ("return" ∈ d.extra.keys ↔ ∃ e ∈ ds, e.name = "return" ∧ ¬ Return.Given e.args) := by
  obtain ⟨hnodup, hkeys⟩ := extra_of_readAll h List.nodup_nil
  have hkeys (name : String) : name ∈ d.extra.keys ↔ ∃ e ∈ ds, e.name = name ∧ IsKept e :=
    (hkeys name).trans (or_iff_right List.not_mem_nil)
  refine ⟨hnodup, fun name hname hfield => ?_, ?_⟩
  · obtain ⟨e, -, rfl, hother | ⟨hreturn, -⟩⟩ := (hkeys name).mp hname
    · exact absurd hfield hother
    · exact hreturn
  · rw [hkeys]
    refine exists_congr fun e => and_congr_right fun _ => and_congr_right fun hname => ?_
    have hfield : e.name ∈ fieldNames := by
      rw [hname]
      decide
    rw [IsKept, or_iff_right (not_not_intro hfield), and_iff_right hname]

end Directives

namespace Location

open Directives Node

/-- In every location of a node the view is faithful for all names but `return`, and it is so for `return` too if every
return of its block gives an answer, and only then. -/
theorem faithful_iff_returns_given {n : Node} {found : List Location} (h : (ofNode n).result = .ok found) :
    List.Forall₂
      (fun x l =>
        (∀ name, name ≠ "return" → name ≠ "return_" →
          (l.directives.has name = true ↔ name ∈ l.directives.entries.keys)) ∧
        (∀ name value, name ≠ "return" → l.directives.Shows name value →
          l.directives.entries.get? name = some value) ∧
        (l.directives.Faithful ↔
          ∀ d ∈ ownDirectives x.2.children, d.name = "return" → Return.Given d.args))
      n.preorder found := by
  refine (convertedFrom_of_ofNode n h).imp fun x l hl => ?_
  obtain ⟨hnodup, hapart, hreturn⟩ := mem_extra_keys hl.directives
  refine ⟨fun name hname hinner => ?_, fun name value hname hshows => ?_, ?_⟩
  · rw [has_iff hinner, mem_keys_entries hnodup]
    refine or_congr_right (and_iff_right_of_imp fun hkey hfield => ?_)
    exact hname (hapart name hkey hfield)
  · refine get?_entries_of_shows hnodup (fun hkey => ?_) hshows
    exact hname (hapart name hkey hshows.mem_fieldNames)
  · rw [faithful_iff hnodup hapart, hreturn]
    push Not
    rfl

/-- A location that gives an answer, and one in it that has an odd return as well. -/
def returningTwice : Node :=
  .block ⟨"location", ["/"], none⟩
    [.simple ⟨"return", ["204"], none⟩,
      .simple ⟨"limit_rate", ["10k"], none⟩,
      .block ⟨"location", ["/tea"], none⟩
        [.simple ⟨"return", ["301", "/pot"], none⟩, .simple ⟨"return", ["teapot", "now"], none⟩]]

theorem faithful_iff_returns_given_twice :
    ∃ outer inner : Location, (ofNode returningTwice).result = .ok [outer, inner] ∧
      outer.directives.has "limit_rate" = true ∧ outer.directives.Faithful ∧ ¬ inner.directives.Faithful := by
  have hresult : ∃ outer inner : Location, (ofNode returningTwice).result = .ok [outer, inner] ∧
      outer.directives.has "limit_rate" = true := ⟨_, _, rfl, by decide +kernel⟩
  obtain ⟨outer, inner, hfound, hlimit⟩ := hresult
  have hviews := faithful_iff_returns_given hfound
  rw [show returningTwice.preorder = [([], returningTwice), ([2], returningTwice.children[2])] from rfl] at hviews
  obtain ⟨⟨-, -, houter⟩, hinside⟩ := List.forall₂_cons.mp hviews
  obtain ⟨⟨-, -, hinner⟩, -⟩ := List.forall₂_cons.mp hinside
  refine ⟨outer, inner, hfound, hlimit, houter.mpr ?_, fun h => ?_⟩
  · intro d hd hname
    have hd : d ∈ [⟨"return", ["204"], none⟩, ⟨"limit_rate", ["10k"], none⟩] := hd
    rcases List.mem_pair.mp hd with rfl | rfl
    · exact .code [] (by decide +kernel)
    · exact absurd hname (by decide)
  · have hodd : Return.Given ["teapot", "now"] :=
      hinner.mp h ⟨"return", ["teapot", "now"], none⟩ (List.mem_pair.mpr (Or.inr rfl)) rfl
    obtain ⟨_, hdigits⟩ := hodd
    exact absurd hdigits (by decide +kernel)

/-- A return that gives no answer is in the view and is not told as present. -/
def oddReturn : Node :=
  .block ⟨"location", ["/"], none⟩ [.simple ⟨"return", ["teapot", "now"], none⟩]

/-- A return that gives no answer, after one that does. -/
def hiddenAnswer : Node :=
  .block ⟨"location", ["/"], none⟩ [.simple ⟨"return", ["204"], none⟩, .simple ⟨"return", ["teapot"], none⟩]

theorem not_faithful_of_odd_return :
    ∃ odd hidden : Location,
      (ofNode oddReturn).result = .ok [odd] ∧ odd.directives.has "return" = false ∧
        "return" ∈ odd.directives.entries.keys ∧
      (ofNode hiddenAnswer).result = .ok [hidden] ∧ hidden.directives.answer = some { code := 204 } ∧
        hidden.directives.entries.get? "return" ≠ some (Return.view { code := 204 }) := by
  have hodd : ∃ odd : Location, (ofNode oddReturn).result = .ok [odd] ∧ odd.directives.has "return" = false ∧
      "return" ∈ odd.directives.entries.keys := ⟨_, rfl, by decide +kernel, by decide +kernel⟩
  have hhidden : ∃ hidden : Location, (ofNode hiddenAnswer).result = .ok [hidden] ∧
      hidden.directives.answer = some { code := 204 } ∧ hidden.directives.extra.keys = ["return"] :=
    ⟨_, rfl, by decide +kernel, by decide +kernel⟩
  obtain ⟨odd, hfound, hhas, hkey⟩ := hodd
  obtain ⟨hidden, hfound', hanswer, hextra⟩ := hhidden
  refine ⟨odd, hidden, hfound, hhas, hkey, hfound', hanswer, get?_entries_ne_answer ?_ ?_ _⟩
  · rw [hextra]
    exact List.nodup_singleton _
  · rw [hextra]
    exact List.mem_singleton_self _

end Location
end EdgeRoutes
