import EdgeRoutes.Proofs.CommentText
import EdgeRoutes.Proofs.PatternNotes
import Mathlib.Data.List.DropRight

/-! Caching rules from `expires` values. A value that gives no rule is reported by the check of the configuration,
unless it is off. Whether it is off is read there from its last word alone, so a value of several words that ends in
`off` gives no rule and is not reported. -/

namespace EdgeRoutes

namespace Text

theorem words_append_cons {b : Char} (hb : isBlank b = true) (cs ds : List Char) :
    words (cs ++ b :: ds) = words cs ++ words ds := by
  rw [words, List.splitOnP_append_cons _ _ hb, List.filter_append]
  rfl

theorem words_append_blanks {blanks : List Char} (h : ∀ b ∈ blanks, isBlank b = true) (cs : List Char) :
    words (cs ++ blanks) = words cs := by
  induction blanks generalizing cs with
  | nil => rw [List.append_nil]
  | cons b blanks ih =>
      obtain ⟨hb, hblanks⟩ := List.forall_mem_cons.mp h
      have hnone : words blanks = [] := ih hblanks []
      rw [words_append_cons hb, hnone, List.append_nil]

theorem words_of_word {w : List Char} (hne : w ≠ []) (h : ∀ c ∈ w, isBlank c = false) : words w = [w] := by
  rw [words, List.splitOnP_eq_singleton h, List.filter_cons_of_pos (by simpa using hne)]
  rfl

/-- After the last word there are blanks only, and before it there is a blank, unless the text begins with it. -/
theorem exists_last_word {cs w : List Char} {before : List (List Char)} (h : words cs = before ++ [w]) :
    ∃ blanks, (∀ b ∈ blanks, isBlank b = true) ∧
      (before = [] ∨ ∃ front b, isBlank b = true ∧ cs = front ++ b :: (w ++ blanks)) := by
  have hcs := List.rdropWhile_append_rtakeWhile (p := isBlank) (l := cs)
  have hblanks : ∀ b ∈ cs.rtakeWhile isBlank, isBlank b = true := fun b hb => List.mem_rtakeWhile_imp hb
  have hlast := List.rdropWhile_last_not isBlank cs
  revert hcs hblanks hlast
  generalize cs.rdropWhile isBlank = body, cs.rtakeWhile isBlank = blanks
  rintro rfl hblanks hlast
  rw [words_append_blanks hblanks] at h
  have hbody : body ≠ [] := by
    rintro rfl
    cases before <;> cases h
  have hsplit := List.rdropWhile_append_rtakeWhile (p := fun c => !isBlank c) (l := body)
  have hword : words (body.rtakeWhile fun c => !isBlank c) = [body.rtakeWhile fun c => !isBlank c] := by
    refine words_of_word (fun hnil => ?_) fun c hc => by simpa using List.mem_rtakeWhile_imp hc
    exact List.rtakeWhile_eq_nil_iff.mp hnil hbody (by simpa using hlast hbody)
  refine ⟨blanks, hblanks, ?_⟩
  rcases List.eq_nil_or_concat' (body.rdropWhile fun c => !isBlank c) with hfront | ⟨front, b, hfront⟩
  · rw [hfront, List.nil_append] at hsplit
    rw [← hsplit, hword] at h
    exact Or.inl (List.append_eq_singleton_iff.mp h.symm |>.elim And.left fun hw => absurd hw.2 (by simp))
  · have hb : isBlank b = true := by
      have hend := List.rdropWhile_last_not (fun c => !isBlank c) body
      simpa [hfront] using hend
    rw [hfront, List.append_assoc, List.singleton_append] at hsplit
    rw [← hsplit, words_append_cons hb, hword] at h
    obtain rfl : body.rtakeWhile _ = w := (List.cons.inj (List.append_inj' h rfl).2).1
    refine Or.inr ⟨front, b, hb, ?_⟩
    rw [← List.cons_append, ← List.append_assoc, hsplit]

theorem getLast?_words_append {w blanks : List Char} {b : Char} (hb : isBlank b = true) (hne : w ≠ [])
    (hword : ∀ c ∈ w, isBlank c = false) (hblanks : ∀ b ∈ blanks, isBlank b = true) (front : List Char) :
    (words (front ++ b :: (w ++ blanks))).getLast? = some w := by
  rw [words_append_cons hb, words_append_blanks hblanks, words_of_word hne hword, List.getLast?_concat]

end Text

namespace Http

open Number

def EndsOff (expires : String) : Prop := (expiresWords expires).getLast? = some "off"

theorem endsOff_iff {expires : String} :
    EndsOff expires ↔ (Text.words expires.toList).getLast? = some "off".toList := by
  have hwords : ((Text.words expires.toList).map String.ofList).getLast? = some "off" ↔
      (Text.words expires.toList).getLast? = some "off".toList := by
    rw [List.getLast?_map, Option.map_eq_some_iff]
    constructor
    · rintro ⟨w, hw, hoff⟩
      rw [hw, ← hoff, String.toList_ofList]
    · intro hlast
      exact ⟨_, hlast, String.ofList_toList⟩
  rw [← hwords, EndsOff, expiresWords]
  split
  · next rest hrest =>
      rw [hrest]
      cases rest <;> simp
  · rfl

theorem parseTime_of_mem {value : String} {c : Char} (hc : c ∈ value.toList) (hother : ¬ IsTimeChar c)
    (hsign : c ≠ '-' ∧ c ≠ '+') : parseTime value = .ok none := by
  have hmem := mem_signed (mem_trim hc fun hblank => hother (Or.inr (Or.inr hblank))) hsign
  unfold parseTime
  rcases hsigned : signed (Text.trim value).toList with ⟨negative, body⟩
  rw [hsigned] at hmem
  simp only
  by_cases hempty : body.isEmpty = true
  · rw [if_pos hempty]
  · rw [if_neg hempty]
    cases hparts : timeParts? body with
    | none => rfl
    | some parts => exact absurd ((timeParts?_spec hparts).2 c hmem) hother

/-- A value whose last word is `off` gives no caching rule, whatever stands before. -/
theorem cacheControl_of_endsOff {expires : String} (h : EndsOff expires) : cacheControl expires = .ok none := by
  have hmem : 'f' ∈ (expiresTime expires).toList := mem_joined (List.mem_of_getLast? h) (by decide)
  unfold cacheControl
  unfold expiresTime at hmem
  split
  · rfl
  · revert hmem
    generalize Text.joined " " (expiresWords expires) = value
    intro hmem
    simp only
    split_ifs with hnone hepoch hmax
    · rfl
    · rw [beq_iff_eq.mp hepoch] at hmem
      exact absurd hmem (by decide)
    · rw [beq_iff_eq.mp hmax] at hmem
      exact absurd hmem (by decide)
    · rw [parseTime_of_mem hmem (by unfold IsTimeChar; decide) (by decide)]
      rfl

/-- Where a value can be read at all, the check takes it as settled if its last word is `off` or it gives a rule. -/
theorem expiresConvertible_eq {expires : String} {rule : Option String} (h : cacheControl expires = .ok rule) :
    ∃ b, expiresConvertible expires = .ok b ∧ (b = true ↔ EndsOff expires ∨ rule.isSome = true) := by
  unfold expiresConvertible
  split_ifs with hoff
  · exact ⟨true, rfl, iff_of_true rfl (Or.inl (endsOff_iff.mpr (beq_iff_eq.mp hoff)))⟩
  · have hends : ¬ EndsOff expires := fun hends => hoff (beq_iff_eq.mpr (endsOff_iff.mp hends))
    rw [h, or_iff_right hends]
    exact ⟨rule.isSome, rfl, Iff.rfl⟩

/-- A value that is off ends in `off`. -/
theorem endsOff_of_off {expires : String} (h : expiresTime expires = "off") : EndsOff expires := by
  unfold EndsOff
  unfold expiresTime Text.joined at h
  generalize expiresWords expires = ws at h
  match ws with
  | [] => exact absurd h (by decide)
  | [w] =>
      rw [String.intercalate_singleton] at h
      rw [h]
      rfl
  | w :: u :: us =>
      rw [String.intercalate_cons_cons] at h
      have hspace : ' ' ∈ "off".toList := by
        rw [← h, String.toList_append, String.toList_append]
        simp
      exact absurd hspace (by decide)

end Http

open Http Pattern

section Endings

/-- What every warning about a caching rule ends with. -/
def refusal : String := "' cannot be converted to Cache-Control"

/-- The warning about the caching rule of a location. -/
def refusalOf (label expires : String) : String := label ++ ": expires '" ++ expires ++ refusal

/-- The text does not end as a warning about a caching rule does. -/
def Unrefused (text : String) : Prop := ¬ refusal.toList <:+ text.toList

/-- The last character tells the texts apart. -/
theorem unrefused_append {ending : List Char} (h : ending.getLast?.any (· != 'l') = true) (text : String) :
    Unrefused (text ++ String.ofList ending) := by
  rintro ⟨before, hbefore⟩
  have hrefusal : refusal.toList.getLast? = some 'l' := by
    rw [refusal, String.toList_ofList]
    rfl
  have hend : (before ++ refusal.toList).getLast? = some 'l' := by
    rw [List.getLast?_append, hrefusal, Option.some_or]
  rw [hbefore, String.toList_append, String.toList_ofList, List.getLast?_append] at hend
  cases hlast : ending.getLast? with
  | none =>
      rw [hlast] at h
      cases h
  | some c =>
      rw [hlast, Option.some_or] at hend
      rw [hlast, Option.some.inj hend] at h
      cases h

theorem unrefused_note (text : String) (note : Note) : Unrefused (text ++ note.message) := by
  cases note <;> exact unrefused_append (by rfl) text

theorem unrefused_sslWarning (t : Target) (text : String) : Unrefused (text ++ t.sslWarning) := by
  cases t <;> exact unrefused_append (by rfl) text

theorem unrefused_staticWarning (t : Target) (text : String) : Unrefused (text ++ t.staticWarning) := by
  cases t <;> exact unrefused_append (by rfl) text

theorem unrefused_noServers : Unrefused "Configuration has no server blocks; generated code matches no routes" := by
  rw [← String.empty_append (s := "Configuration has no server blocks; generated code matches no routes")]
  exact unrefused_append (by rfl) _

theorem unrefused_serverWarnings {s : Server} {index : Nat} {dialect : Dialect} {warnings : List String}
    (h : s.warnings index dialect = .ok warnings) : ∀ w ∈ warnings, Unrefused w := by
  obtain ⟨problems, -, h⟩ := bind_eq_ok_iff.mp h
  obtain rfl := Except.ok.inj h
  have hlisten : Unrefused ("Server " ++ toString index ++ " has no listen directive") :=
    unrefused_append (by rfl) _
  refine List.forall_mem_append.mpr ⟨List.forall_mem_append.mpr ⟨forall_mem_warnIf hlisten _, ?_⟩, ?_⟩
  · exact List.forall_mem_map.mpr fun _ _ => unrefused_append (by rfl) _
  · exact List.forall_mem_map.mpr fun _ _ => unrefused_append (by rfl) _

variable {label : String} {l : Location} {dialect : Dialect} {warnings : List String}

/-- No report on a translation ends so. -/
theorem unrefused_translation (t : Translation) {report : Problem → String} (h : ∀ p, Unrefused (report p))
    (place : String) :
    ∀ w ∈ t.problems.map report ++ t.notes.map (fun note => place ++ ": " ++ note.message), Unrefused w :=
  List.forall_mem_append.mpr ⟨List.forall_mem_map.mpr fun p _ => h p,
    List.forall_mem_map.mpr fun note _ => unrefused_note _ note⟩

theorem unrefused_patternWarnings (h : l.patternWarnings label dialect = .ok warnings) :
    ∀ w ∈ warnings, Unrefused w := by
  obtain ⟨translation, -, h⟩ := bind_eq_ok_iff.mp h
  cases translation with
  | none =>
      cases h
      exact List.forall_mem_nil _
  | some t =>
      cases h
      exact unrefused_translation t (fun _ => unrefused_append (by rfl) _) label

theorem unrefused_ruleWarnings {rule : RewriteRule} (h : Location.ruleWarnings label dialect rule = .ok warnings) :
    ∀ w ∈ warnings, Unrefused w := by
  obtain ⟨t, -, h⟩ := bind_eq_ok_iff.mp h
  cases h
  exact unrefused_translation t (fun _ => unrefused_append (by rfl) _) _

theorem unrefused_proxyWarnings (url : String) (c : Config) : ∀ w ∈ l.proxyWarnings label url c, Unrefused w := by
  unfold Location.proxyWarnings
  obtain ⟨origin, uri⟩ := splitProxyPass url
  refine List.forall_mem_append.mpr ⟨forall_mem_warnIf (unrefused_append (by rfl) _) _, ?_⟩
  split_ifs
  · exact List.forall_mem_nil _
  · exact List.forall_mem_singleton.mpr (unrefused_append (by rfl) _)
  · exact forall_mem_warnIf (unrefused_append (by rfl) _) _

/-- Of the warnings about a location, just those about its caching rule end as they do. -/
theorem mem_expiresWarnings_of_refusal {c : Config} (h : l.warnings label c dialect = .ok warnings) {w : String}
    (hw : w ∈ warnings) (hrefusal : refusal.toList <:+ w.toList) :
    ∃ found, l.expiresWarnings label = .ok found ∧ w ∈ found := by
  obtain ⟨pattern, hpattern, h⟩ := bind_eq_ok_iff.mp h
  obtain ⟨rules, hrules, h⟩ := bind_eq_ok_iff.mp h
  obtain ⟨expires, hexpires, h⟩ := bind_eq_ok_iff.mp h
  cases h
  refine ⟨expires, hexpires, (List.mem_append.mp hw).resolve_left fun hw => absurd hrefusal ?_⟩
  rcases List.mem_append.mp hw with hw | hw
  · rcases List.mem_append.mp hw with hw | hw
    · rcases List.mem_append.mp hw with hw | hw
      · exact forall_mem_warnIf (unrefused_append (by rfl) _) _ w hw
      · exact unrefused_patternWarnings hpattern w hw
    · obtain ⟨found, hfound, hw⟩ := List.mem_flatten.mp hw
      obtain ⟨rule, -, hrule⟩ := exists_left_of_forall₂ (mapM_eq_ok_iff.mp hrules) hfound
      exact unrefused_ruleWarnings hrule w hw
  · cases hurl : l.directives.proxyPass with
    | none =>
        rw [hurl] at hw
        cases hw
    | some url =>
        rw [hurl] at hw
        exact unrefused_proxyWarnings url c w hw

/-- What a target says about an upstream refuses no value of `expires`. -/
theorem unrefused_targetProxyWarnings {t : Target} {url : String} (h : t.proxyWarnings label url = .ok warnings) :
    ∀ w ∈ warnings, Unrefused w := by
  have hstrict : ∀ {limit}, Unrefused (label ++ ": " ++ limit) →
      Target.strictProxyWarnings label limit url = .ok warnings → ∀ w ∈ warnings, Unrefused w := by
    intro limit hlimit h
    unfold Target.strictProxyWarnings at h
    obtain ⟨found, -, h⟩ := bind_eq_ok_iff.mp h
    cases h
    refine List.forall_mem_cons.mpr ⟨hlimit, ?_⟩
    cases found with
    | error reason => exact List.forall_mem_singleton.mpr (unrefused_append (by rfl) _)
    | ok upstream => exact List.forall_mem_nil _
  cases t with
  | worker =>
      cases h
      exact List.forall_mem_nil _
  | middleware =>
      obtain rfl : Target.middlewareProxyWarnings label url = warnings := Except.ok.inj h
      unfold Target.middlewareProxyWarnings
      obtain ⟨origin, uri⟩ := splitProxyPass url
      refine iteInduction (motive := fun ws => ∀ w ∈ ws, Unrefused w) (fun _ => ?_) fun _ => ?_
      · exact List.forall_mem_singleton.mpr (unrefused_append (by rfl) _)
      · exact forall_mem_warnIf (unrefused_append (by rfl) _) _
  | edgeHook => exact hstrict (unrefused_append (by rfl) _) h
  | minimal => exact hstrict (unrefused_append (by rfl) _) h

theorem unrefused_locationFindings {t : Target} {found : Validation} (h : t.locationFindings label l = .ok found) :
    ∀ w ∈ found.warnings, Unrefused w := by
  have hown : ∀ w ∈ warnIf l.directives.servesStatic (label ++ ": " ++ t.staticWarning) ++
      warnIf (t == .worker && l.directives.expires.isSome)
        (label ++ ": expires is emitted as Cache-Control; edge cache rules are preferred"), Unrefused w :=
    List.forall_mem_append.mpr ⟨forall_mem_warnIf (unrefused_staticWarning t _) _,
      forall_mem_warnIf (unrefused_append (by rfl) _) _⟩
  unfold Target.locationFindings at h
  cases hurl : l.directives.proxyPass with
  | none =>
      simp only [hurl] at h
      cases h
      exact List.forall_mem_append.mpr ⟨hown, List.forall_mem_nil _⟩
  | some url =>
      simp only [hurl] at h
      obtain ⟨proxy, hproxy, h⟩ := bind_eq_ok_iff.mp h
      cases h
      exact List.forall_mem_append.mpr ⟨hown, unrefused_targetProxyWarnings hproxy⟩

/-- A finding that ends as a warning about a caching rule is one, for some location. -/
theorem exists_labelled_of_refusal {g : Generator} {v : Validation} (h : g.findings = .ok v) {w : String}
    (hw : w ∈ v.warnings) (hrefusal : refusal.toList <:+ w.toList) :
    ∃ x ∈ g.config.labelled, ∃ found, x.2.expiresWarnings x.1 = .ok found ∧ w ∈ found := by
  obtain ⟨structural, hstructural, h⟩ := bind_eq_ok_iff.mp h
  obtain ⟨specific, hspecific, h⟩ := bind_eq_ok_iff.mp h
  cases h
  rcases List.mem_append.mp hw with hw | hw
  · obtain ⟨servers, hservers, hstructural⟩ := bind_eq_ok_iff.mp hstructural
    obtain ⟨locations, hlocations, hstructural⟩ := bind_eq_ok_iff.mp hstructural
    cases hstructural
    rcases List.mem_append.mp hw with hw | hw
    · rcases List.mem_append.mp hw with hw | hw
      · exact absurd hrefusal (forall_mem_warnIf unrefused_noServers _ w hw)
      · obtain ⟨warnings, hmem, hw⟩ := List.mem_flatten.mp hw
        obtain ⟨s, -, hs⟩ := exists_left_of_forall₂ (mapM_eq_ok_iff.mp hservers) hmem
        exact absurd hrefusal (unrefused_serverWarnings hs w hw)
    · obtain ⟨warnings, hmem, hw⟩ := List.mem_flatten.mp hw
      obtain ⟨x, hx, hwarnings⟩ := exists_left_of_forall₂ (mapM_eq_ok_iff.mp hlocations) hmem
      exact ⟨x, hx, mem_expiresWarnings_of_refusal hwarnings hw hrefusal⟩
  · obtain ⟨locations, hlocations, hspecific⟩ := bind_eq_ok_iff.mp hspecific
    cases hspecific
    rcases List.mem_append.mp hw with hw | hw
    · obtain ⟨s, -, rfl⟩ := List.mem_map.mp hw
      exact absurd hrefusal (unrefused_sslWarning g.target _)
    · obtain ⟨found, hfound, hw⟩ := List.mem_flatMap.mp hw
      obtain ⟨x, -, hfindings⟩ := exists_left_of_forall₂ (mapM_eq_ok_iff.mp hlocations) hfound
      exact absurd hrefusal (unrefused_locationFindings hfindings w hw)

end Endings

theorem mem_warnIf {b : Bool} {w text : String} : w ∈ warnIf b text ↔ b = true ∧ w = text := by
  cases b <;> simp [warnIf]

/-- There is a warning about a caching rule if the value gives none and its last word is not `off`. -/
theorem mem_expiresWarnings {l : Location} {label : String} {found : List String}
    (h : l.expiresWarnings label = .ok found) {w : String} :
    w ∈ found ↔ ∃ expires, l.directives.expires = some expires ∧ cacheControl expires = .ok none ∧
      ¬ EndsOff expires ∧ w = refusalOf label expires := by
  unfold Location.expiresWarnings at h
  cases hexpires : l.directives.expires with
  | none =>
      rw [hexpires] at h
      cases h
      simp
  | some expires =>
      rw [hexpires] at h
      obtain ⟨convertible, hconvertible, h⟩ := bind_eq_ok_iff.mp h
      cases h
      obtain ⟨rule, hrule⟩ := (needs_cacheControl expires).returns.mpr
        ((needs_expiresConvertible expires).returns.mp ⟨convertible, hconvertible⟩)
      obtain ⟨b, hb, hiff⟩ := expiresConvertible_eq hrule
      obtain rfl : convertible = b := Except.ok.inj (hconvertible.symm.trans hb)
      have hnone : (!convertible) = true ↔ cacheControl expires = .ok none ∧ ¬ EndsOff expires := by
        rw [Bool.not_eq_true', ← Bool.not_eq_true, hiff, hrule, not_or]
        cases rule <;> simp
      simp only [Option.some.injEq, exists_eq_left']
      rw [mem_warnIf, hnone, and_assoc]
      rfl

/-- A value that ends in `off` and is not off has a blank before that word. -/
theorem exists_blank_before_off {expires : String} (hends : EndsOff expires) (hoff : expiresTime expires ≠ "off") :
    ∃ front b blanks, Text.isBlank b = true ∧ (∀ c ∈ blanks, Text.isBlank c = true) ∧
      expires.toList = front ++ b :: (['o', 'f', 'f'] ++ blanks) := by
  obtain ⟨before, hwords⟩ := List.getLast?_eq_some_iff.mp (endsOff_iff.mp hends)
  obtain ⟨blanks, hblanks, hbefore | ⟨front, b, hb, hexpires⟩⟩ := Text.exists_last_word hwords
  · rw [hbefore, List.nil_append] at hwords
    refine absurd ?_ hoff
    rw [expiresTime, expiresWords, hwords]
    decide
  · exact ⟨front, b, blanks, hb, hblanks, hexpires⟩

/-- No warning about another value reads like one about a value of several words that ends in `off`. -/
theorem endsOff_of_refusalOf_eq {label label' expires expires' : String}
    (h : refusalOf label expires = refusalOf label' expires') (hends : EndsOff expires)
    (hoff : expiresTime expires ≠ "off") : EndsOff expires' := by
  obtain ⟨front, b, blanks, hb, hblanks, hexpires⟩ := exists_blank_before_off hends hoff
  have hquote : ": expires '".toList = ": expires ".toList ++ ['\''] := by decide
  have htexts := congrArg String.toList h
  simp only [refusalOf, String.toList_append, hquote] at htexts
  have htexts := List.append_cancel_right htexts
  generalize hoffs : b :: (['o', 'f', 'f'] ++ blanks) = ending at hexpires
  have hunquoted : '\'' ∉ ending := by
    rw [← hoffs, List.mem_cons, List.mem_append, not_or, not_or]
    refine ⟨?_, by decide, fun hmem => absurd (hblanks _ hmem) (by decide)⟩
    rintro rfl
    exact absurd hb (by decide)
  -- the value with its quote and the end of the other value are endings of the same text
  have hquoted : '\'' :: expires'.toList <:+ label.toList ++ (": expires ".toList ++ ['\'']) ++ expires.toList := by
    rw [htexts, List.append_assoc, List.append_assoc]
    exact ⟨label'.toList ++ ": expires ".toList, by rw [List.append_assoc]; rfl⟩
  have hending : ending <:+ label.toList ++ (": expires ".toList ++ ['\'']) ++ expires.toList := by
    rw [hexpires]
    exact List.suffix_append_of_suffix (List.suffix_append _ _)
  rcases List.suffix_or_suffix_of_suffix hending hquoted with hsuffix | hsuffix
  · rcases List.suffix_cons_iff.mp hsuffix with hwhole | ⟨front', hexpires'⟩
    · exact absurd (hwhole ▸ List.mem_cons_self) hunquoted
    · have hword : ∀ c ∈ ['o', 'f', 'f'], Text.isBlank c = false := by
        simp only [List.mem_cons, List.not_mem_nil, or_false, forall_eq_or_imp, forall_eq]
        decide
      rw [endsOff_iff, ← hexpires', ← hoffs]
      exact Text.getLast?_words_append hb (by decide) hword hblanks front'
  · exact absurd (hsuffix.subset List.mem_cons_self) hunquoted

/-- The warning about the caching rule of a location at a route is there if its value gives no rule and does not end in
`off`, and, where the value is not off, only then. -/
theorem refused_iff {g : Generator} {v : Validation} (h : g.findings = .ok v) {r : Route} {l : Location}
    (hat : g.config.HasAt r l) {expires : String} (hexpires : l.directives.expires = some expires)
    (hrule : cacheControl expires = .ok none) (hoff : expiresTime expires ≠ "off") :
    refusalOf (r.place l.label) expires ∈ v.warnings ↔ ¬ EndsOff expires := by
  constructor
  · intro hw hends
    have hrefusal : refusal.toList <:+ (refusalOf (r.place l.label) expires).toList := by
      rw [refusalOf, String.toList_append]
      exact List.suffix_append _ _
    obtain ⟨x, -, found, hfound, hmem⟩ := exists_labelled_of_refusal h hw hrefusal
    obtain ⟨expires', -, -, hends', htext⟩ := (mem_expiresWarnings hfound).mp hmem
    exact hends' (endsOff_of_refusalOf_eq htext hends hoff)
  · intro hends
    obtain ⟨warnings, hwarnings, hsubset⟩ := locationWarnings_of_findings h (mem_labelled hat)
    obtain ⟨pattern, -, hwarnings⟩ := bind_eq_ok_iff.mp hwarnings
    obtain ⟨rules, -, hwarnings⟩ := bind_eq_ok_iff.mp hwarnings
    obtain ⟨found, hfound, hwarnings⟩ := bind_eq_ok_iff.mp hwarnings
    cases hwarnings
    exact hsubset (List.mem_append_right _ ((mem_expiresWarnings hfound).mpr ⟨expires, hexpires, hrule, hends, rfl⟩))

/-- A value that can be read is taken as settled just if it is off or gives a rule, unless it is not off and ends in
`off`. A location whose value is not off and gives no rule is reported, unless its value ends in `off`. -/
theorem expires_settled_iff (expires : String) :
    (∀ rule, cacheControl expires = .ok rule → ∃ settled, expiresConvertible expires = .ok settled ∧
      ((settled = true ↔ expiresTime expires = "off" ∨ rule.isSome = true) ↔
        (EndsOff expires → expiresTime expires = "off"))) ∧
    ∀ (g : Generator) (v : Validation), g.validate.result = .ok v → ∀ (r : Route) (l : Location), g.config.HasAt r l →
      l.directives.expires = some expires → cacheControl expires = .ok none → expiresTime expires ≠ "off" →
        (r.place l.label ++ ": expires '" ++ expires ++ "' cannot be converted to Cache-Control" ∈ v.warnings ↔
          ¬ EndsOff expires) := by
  refine ⟨fun rule hrule => ?_, fun g v h r l hat hexpires hrule hoff => ?_⟩
  · obtain ⟨settled, hsettled, hiff⟩ := expiresConvertible_eq hrule
    refine ⟨settled, hsettled, ?_⟩
    rw [hiff]
    constructor
    · intro h hends
      obtain rfl : rule = none := Except.ok.inj (hrule.symm.trans (cacheControl_of_endsOff hends))
      exact (h.mp (Or.inl hends)).resolve_right (by simp)
    · intro h
      exact or_congr_left ⟨h, endsOff_of_off⟩
  · exact refused_iff (findings_of_validate h) hat hexpires hrule hoff

/-- Locations whose values give no rule; the last one ends in `off`. -/
def unsettled : Config where
  servers := [{
    locations := [
      { path := "/a", directives := { expires := some "modified off" } },
      { path := "/b", directives := { expires := some "@2h" } },
      { path := "/c", directives := { expires := some "1x off" } }] }]

theorem validate_unsettled : (Generator.validate ⟨.minimal, unsettled, {}⟩).result =
    .ok ⟨[], ["Server 1 has no listen directive",
      "Server 1, location /b: expires '@2h' cannot be converted to Cache-Control"]⟩ :=
  toOption_eq_some_iff.mp (by decide +kernel)

theorem expires_settled_iff_unsettled : ∃ v, (Generator.validate ⟨.minimal, unsettled, {}⟩).result = .ok v ∧
    (Route.place ⟨1, 2⟩ "/b" ++ ": expires '" ++ "@2h" ++ "' cannot be converted to Cache-Control" ∈ v.warnings ↔
      ¬ EndsOff "@2h") ∧
    ∃ settled, expiresConvertible "@2h" = .ok settled ∧
      ((settled = true ↔ expiresTime "@2h" = "off" ∨ (none : Option String).isSome = true) ↔
        (EndsOff "@2h" → expiresTime "@2h" = "off")) := by
  have hrule : cacheControl "@2h" = .ok none := toOption_eq_some_iff.mp (by decide +kernel)
  have hat : unsettled.HasAt ⟨1, 2⟩ { path := "/b", directives := { expires := some "@2h" } } :=
    ⟨0, 1, _, rfl, rfl, rfl⟩
  have hrefused := (expires_settled_iff "@2h").2 _ _ validate_unsettled ⟨1, 2⟩ _ hat rfl hrule (by decide +kernel)
  exact ⟨_, validate_unsettled, hrefused, (expires_settled_iff "@2h").1 none hrule⟩

/-- A value that is not off and gives no rule is taken as settled, and the location is not reported. -/
theorem ends_off_unreported : ∃ v, (Generator.validate ⟨.minimal, unsettled, {}⟩).result = .ok v ∧
    unsettled.HasAt ⟨1, 3⟩ { path := "/c", directives := { expires := some "1x off" } } ∧
    cacheControl "1x off" = .ok none ∧ expiresTime "1x off" ≠ "off" ∧ expiresConvertible "1x off" = .ok true ∧
    Route.place ⟨1, 3⟩ "/c" ++ ": expires '" ++ "1x off" ++ "' cannot be converted to Cache-Control" ∉ v.warnings :=
  ⟨_, validate_unsettled, ⟨0, 2, _, rfl, rfl, rfl⟩, toOption_eq_some_iff.mp (by decide +kernel), by decide +kernel,
    toOption_eq_some_iff.mp (by decide +kernel), by decide +kernel⟩

end EdgeRoutes
