import EdgeRoutes.Generate.Matchers
import EdgeRoutes.Model.Build
import EdgeRoutes.Proofs.ClassReading
import EdgeRoutes.Proofs.LocationChoice

/-! Which paths a middleware is called for. Its matchers are made from the same locations as the conditions of its code, but
in another way: a location of the form `^~` answers for every path that starts with its own, and its matchers stop at the
next slash. So the code answers for some paths that it never gets to see, unless another location takes in all of
them. -/

namespace EdgeRoutes

open Pattern

namespace Matcher

/-- The characters that have a meaning in a matcher. -/
def isSpecial (c : Char) : Bool := ":()*+?\x7b\x7d\\".toList.contains c

/-- The text has no such characters. -/
def isPlain (s : String) : Bool := s.toList.all (!isSpecial ·)

/-- What ends a matcher for a path and everything below it. -/
def below : String := "/:path*"

/-- The path of a matcher for a path and everything below it. -/
def stem? (m : String) : Option String :=
  (Text.after? below.toList.reverse m.toList.reverse).map fun cs => String.ofList cs.reverse

/-- The matcher accepts the path: it is the path, or the path is its stem or stands below it, everything being below the
empty stem. Matchers that use special characters in other ways accept what `special` says. -/
def accepts (special : String → String → Bool) (m path : String) : Bool :=
  match stem? m with
  | some stem =>
    if isPlain stem then stem.isEmpty || path == stem || Text.startsWith path (stem ++ "/") else special m path
  | none => if isPlain m then path == m else special m path

variable {special : String → String → Bool} {path : String}

theorem stem?_append_below (stem : String) : stem? (stem ++ below) = some stem := by
  rw [stem?, String.toList_append, List.reverse_append, Text.after?_append]
  simp

theorem stem?_of_isPlain {m : String} (h : isPlain m = true) : stem? m = none := by
  rw [stem?, Option.map_eq_none_iff]
  cases hafter : Text.after? below.toList.reverse m.toList.reverse with
  | none => rfl
  | some rest =>
      have hstar : '*' ∈ m.toList := by
        rw [← List.mem_reverse, Text.after?_eq_some hafter]
        exact List.mem_append_left _ (by decide)
      have hplain := List.all_eq_true.mp h '*' hstar
      cases hplain

theorem accepts_of_isPlain {m : String} (h : isPlain m = true) : accepts special m path = (path == m) := by
  rw [accepts, stem?_of_isPlain h]
  exact if_pos h

theorem accepts_below {stem : String} (h : isPlain stem = true) :
    accepts special (stem ++ below) path = (stem.isEmpty || path == stem || Text.startsWith path (stem ++ "/")) := by
  rw [accepts, stem?_append_below]
  exact if_pos h

end Matcher

open Matcher

namespace Location

/-- The path without a slash at its end. -/
def stem (l : Location) : String :=
  if Text.endsWith l.path '/' then String.ofList l.path.toList.dropLast else l.path

theorem path_eq_stem_append {l : Location} (h : Text.endsWith l.path '/' = true) : l.path = l.stem ++ "/" := by
  have hlast : l.path.toList.getLast? = some '/' := beq_iff_eq.mp h
  rw [stem, if_pos h, ← String.toList_inj, String.toList_append, String.toList_ofList]
  exact (List.dropLast_append_getLast? _ hlast).symm

theorem stem_of_not_endsWith {l : Location} (h : Text.endsWith l.path '/' = false) : l.stem = l.path := by
  rw [stem, h]
  rfl

theorem isPlain_stem {l : Location} (h : isPlain l.path = true) : isPlain l.stem = true := by
  unfold stem
  split_ifs
  · rw [isPlain, String.toList_ofList]
    exact List.all_eq_true.mpr fun c hc => List.all_eq_true.mp h c (List.dropLast_subset _ hc)
  · exact h

theorem matchers_of_exact {l : Location} (hnamed : l.isNamed = false) (hexact : l.modifier = some .exact) :
    l.matchers = [l.path] := by
  have hregex : l.isRegex = false := by rw [isRegex, hexact]; rfl
  simp [matchers, hnamed, hregex, hexact]

/-- The matchers of a location for a path and everything below it. -/
theorem matchers_eq {l : Location} (hnamed : l.isNamed = false) (hregex : l.isRegex = false)
    (hexact : l.modifier ≠ some .exact) :
    l.matchers = (if Text.endsWith l.path '/' then [] else [l.path]) ++ [l.stem ++ below] := by
  rw [matchers, hnamed, hregex, if_neg Bool.false_ne_true, if_neg Bool.false_ne_true, if_neg hexact]
  by_cases hslash : Text.endsWith l.path '/' = true
  · have hpath : l.stem ++ below = l.path ++ ":path*" := by
      conv_rhs => rw [path_eq_stem_append hslash]
      rw [String.append_assoc]
      rfl
    rw [if_pos hslash, if_pos hslash, List.nil_append, hpath]
    split_ifs with hroot
    · rw [hroot]
      rfl
    · rfl
  · have hroot : l.path ≠ "/" := by
      intro hroot
      rw [hroot] at hslash
      exact hslash rfl
    rw [if_neg hroot, if_neg hslash, if_neg hslash, stem_of_not_endsWith (Bool.eq_false_iff.mpr hslash)]
    rfl

section Answers

variable {special : String → String → Bool} {e : Engine} {dialect : Dialect} {path : String} {l : Location}

theorem answers_of_not_regex (hregex : l.isRegex = false) : l.answers e dialect path = l.plainCondition.holds e path := by
  have hcondition : l.condition dialect = .ok l.plainCondition := by
    rw [condition, translation?, hregex]
    rfl
  rw [answers, hcondition]

/-- The location answers for paths that continue its own in the middle of a name. -/
def OpenEnded (l : Location) : Prop :=
  l.modifier = some .priority ∧ l.path ≠ "" ∧ Text.endsWith l.path '/' = false

instance (l : Location) : Decidable l.OpenEnded := inferInstanceAs (Decidable (_ ∧ _))

/-- A location that is not exact accepts its stem and what stands below it. -/
theorem accepted_below (hnamed : l.isNamed = false) (hregex : l.isRegex = false) (hexact : l.modifier ≠ some .exact)
    (hplain : isPlain l.path = true)
    (h : l.stem = "" ∨ path = l.stem ∨ Text.startsWith path (l.stem ++ "/") = true) :
    ∃ m ∈ l.matchers, accepts special m path = true := by
  refine ⟨l.stem ++ below, ?_, ?_⟩
  · rw [matchers_eq hnamed hregex hexact]
    exact List.mem_append_right _ (List.mem_singleton_self _)
  · rw [accepts_below (isPlain_stem hplain)]
    rcases h with h | h | h <;> simp [h]

theorem modifier_of_prefix (hregex : l.isRegex = false) (hexact : l.modifier ≠ some .exact) :
    l.modifier = none ∨ l.modifier = some .priority := by
  rw [isRegex] at hregex
  rcases hmodifier : l.modifier with - | (- | - | - | -)
  · exact Or.inl rfl
  · exact absurd hmodifier hexact
  · rw [hmodifier] at hregex
    cases hregex
  · rw [hmodifier] at hregex
    cases hregex
  · exact Or.inr rfl

/-- A location whose path ends in a slash, or that has the mark for it, answers for what starts with its path. -/
theorem answers_iff_startsWith (hexact : l.modifier ≠ some .exact) (htextual : l.IsTextual) :
    l.answers e dialect path = true ↔ Text.startsWith path l.path = true := by
  have hne : (l.modifier == some .exact) = false := beq_eq_false_iff_ne.mpr hexact
  rw [answers_of_isTextual htextual, isExactly, isPrefixOf, bne, hne, Bool.false_and, Bool.false_or, Bool.not_false,
    Bool.true_and]

theorem OpenEnded.answers_iff (h : l.OpenEnded) :
    l.answers e dialect path = true ↔ Text.startsWith path l.path = true := by
  have hexact : l.modifier ≠ some .exact := by rw [h.1]; nofun
  exact answers_iff_startsWith hexact (Or.inr (Or.inl h.1))

/-- A location has a matcher for every path that it answers for, unless it is open-ended and the path continues its own
otherwise than by a slash. -/
theorem accepted_of_answers (hnamed : l.isNamed = false) (hregex : l.isRegex = false) (hplain : isPlain l.path = true)
    (hopen : l.OpenEnded → path = l.path ∨ Text.startsWith path (l.path ++ "/") = true)
    (h : l.answers e dialect path = true) : ∃ m ∈ l.matchers, accepts special m path = true := by
  by_cases hexact : l.modifier = some .exact
  · rw [answers_of_exact hexact] at h
    refine ⟨l.path, ?_, ?_⟩
    · rw [matchers_of_exact hnamed hexact]
      exact List.mem_singleton_self _
    · rw [accepts_of_isPlain hplain]
      exact h
  · apply accepted_below hnamed hregex hexact hplain
    have hmodifier := modifier_of_prefix hregex hexact
    cases hslash : Text.endsWith l.path '/' with
    | true =>
        have htextual : l.IsTextual := Or.inr (hmodifier.symm.imp id fun hnone => ⟨hnone, hslash⟩)
        have hstarts := (answers_iff_startsWith hexact htextual).mp h
        rw [path_eq_stem_append hslash] at hstarts
        exact Or.inr (Or.inr hstarts)
    | false =>
        rw [stem_of_not_endsWith hslash]
        rcases hmodifier with hnone | hpriority
        · rw [answers_of_not_regex hregex, plainCondition, hnone] at h
          simp only [hslash, Bool.false_eq_true, if_false, Condition.holds, List.any_cons, List.any_nil, Bool.or_false,
            Test.holds, Bool.or_eq_true, beq_iff_eq] at h
          exact Or.inr h
        · by_cases hempty : l.path = ""
          · exact Or.inl hempty
          · exact Or.inr (hopen ⟨hpriority, hempty, hslash⟩)

/-- Everything that starts with the text is below the path of the location. -/
def Encloses (text : String) (l : Location) : Prop :=
  l.isNamed = false ∧ l.isRegex = false ∧ l.modifier ≠ some .exact ∧
    (l.stem = "" ∨ Text.startsWith text (l.stem ++ "/") = true)

instance (text : String) (l : Location) : Decidable (l.Encloses text) := inferInstanceAs (Decidable (_ ∧ _))

theorem Encloses.accepted {text : String} (h : l.Encloses text) (hplain : isPlain l.path = true)
    (hstarts : Text.startsWith path text = true) : ∃ m ∈ l.matchers, accepts special m path = true := by
  obtain ⟨hnamed, hregex, hexact, hbelow⟩ := h
  refine accepted_below hnamed hregex hexact hplain (hbelow.imp_right fun hdirectory => Or.inr ?_)
  rw [Text.startsWith_iff] at *
  exact hdirectory.trans hstarts

/-- The text with a continuation that has no slash in it. -/
def continued (text : String) (n : Nat) : String := text ++ String.ofList (List.replicate n 'x')

theorem length_continued (text : String) (n : Nat) : (continued text n).length = text.length + n := by
  rw [continued, String.length_append, String.length_ofList, List.length_replicate]

theorem startsWith_continued (text : String) (n : Nat) : Text.startsWith (continued text n) text = true := by
  rw [Text.startsWith_iff, continued, String.toList_append]
  exact List.prefix_append _ _

/-- A directory that holds the continuation of a text holds the text. -/
theorem startsWith_of_continued {text directory : String} (hslash : Text.endsWith directory '/' = true) {n : Nat}
    (h : Text.startsWith (continued text n) directory = true) : Text.startsWith text directory = true := by
  rw [Text.startsWith_iff] at h ⊢
  rw [continued, String.toList_append, String.toList_ofList] at h
  rcases List.prefix_or_prefix_of_prefix h (List.prefix_append text.toList _) with hinside | ⟨more, hmore⟩
  · exact hinside
  · obtain ⟨rest, hrest⟩ := h
    rw [← hmore, List.append_assoc, List.append_cancel_left_eq] at hrest
    cases more with
    | nil => exact ⟨[], by rw [← hmore, List.append_nil, List.append_nil]⟩
    | cons c cs =>
        -- the directory would reach into the continuation and end there, in a slash
        rw [Text.endsWith, ← hmore, List.getLast?_append_of_ne_nil _ (List.cons_ne_nil c cs), beq_iff_eq] at hslash
        have hmem : '/' ∈ List.replicate n 'x' := hrest ▸ List.mem_append_left rest (List.mem_of_getLast? hslash)
        exact absurd (List.eq_of_mem_replicate hmem) (by decide)

/-- The matchers of a location accept a long continuation of a text only if the location encloses the text. -/
theorem encloses_of_accepted (hplain : l.isRegex = false → isPlain l.path = true) {m : String} (hm : m ∈ l.matchers)
    {text : String} {n : Nat} (hlength : m.length < n)
    (h : accepts (fun _ _ => false) m (continued text n) = true) : l.Encloses text := by
  have hlonger : ∀ s : String, s.length ≤ m.length → (continued text n == s) = false := by
    intro s hs
    refine beq_eq_false_iff_ne.mpr fun heq => ?_
    have hlengths := congrArg String.length heq
    rw [length_continued] at hlengths
    omega
  have hnot : isPlain m = true → False := by
    intro hm
    rw [accepts_of_isPlain hm, hlonger m le_rfl] at h
    cases h
  cases hnamed : l.isNamed with
  | true => simp [matchers, hnamed] at hm
  | false =>
      cases hregex : l.isRegex with
      | true =>
          obtain rfl : m = catchAllMatcher := by simpa [matchers, hnamed, hregex] using hm
          cases h
      | false =>
          have hplain := hplain hregex
          by_cases hexact : l.modifier = some .exact
          · rw [matchers_of_exact hnamed hexact, List.mem_singleton] at hm
            exact absurd (hm ▸ hplain) hnot
          · refine ⟨hnamed, hregex, hexact, ?_⟩
            rw [matchers_eq hnamed hregex hexact, List.mem_append, List.mem_singleton] at hm
            rcases hm with hm | rfl
            · split_ifs at hm
              · cases hm
              · exact absurd (List.mem_singleton.mp hm ▸ hplain) hnot
            · have hstem : l.stem.length ≤ (l.stem ++ below).length := by
                rw [String.length_append]
                omega
              rw [accepts_below (isPlain_stem hplain), hlonger _ hstem, Bool.or_false, Bool.or_eq_true,
                String.isEmpty_iff] at h
              refine h.imp_right (startsWith_of_continued ?_)
              rw [Text.endsWith, String.toList_append, List.getLast?_append_of_ne_nil _ (by decide)]
              rfl

end Answers

end Location

namespace Config

/-- The paths of the locations that are no patterns have no characters with a meaning in matchers. -/
def PlainPaths (c : Config) : Prop :=
  ∀ s ∈ c.servers, ∀ l ∈ s.locations, l.isRegex = false → isPlain l.path = true

instance (c : Config) : Decidable c.PlainPaths := inferInstanceAs (Decidable (∀ s ∈ c.servers, ∀ l ∈ s.locations, _))

/-- The code of a middleware answers for the path, by the condition of a location that is no pattern. -/
def AnswersFor (c : Config) (e : Engine) (path : String) : Prop :=
  ∃ s ∈ c.servers, ∃ l ∈ s.locations, l.isNamed = false ∧ l.isRegex = false ∧
    l.answers e Target.middleware.dialect path = true

/-- The middleware is called for the path. -/
def CalledFor (c : Config) (special : String → String → Bool) (path : String) : Prop :=
  ∃ m ∈ c.matchers, accepts special m path = true

variable {c : Config}

theorem mem_matchers {s : Server} (hs : s ∈ c.servers) {l : Location} (hl : l ∈ s.locations) {m : String}
    (hm : m ∈ l.matchers) : m ∈ c.matchers := by
  have hmem : m ∈ (c.servers.flatMap fun s => s.locations.flatMap Location.matchers).eraseDups := by
    rw [List.mem_eraseDups]
    exact List.mem_flatMap.mpr ⟨s, hs, List.mem_flatMap.mpr ⟨l, hl, hm⟩⟩
  unfold matchers
  split
  · next hempty =>
      rw [hempty] at hmem
      cases hmem
  · exact hmem

theorem exists_location_of_matcher {m : String} (hm : m ∈ c.matchers) :
    m = catchAllMatcher ∨ ∃ s ∈ c.servers, ∃ l ∈ s.locations, m ∈ l.matchers := by
  unfold matchers at hm
  split at hm
  · exact Or.inl (List.mem_singleton.mp hm)
  · rw [List.mem_eraseDups] at hm
    obtain ⟨s, hs, hm⟩ := List.mem_flatMap.mp hm
    obtain ⟨l, hl, hm⟩ := List.mem_flatMap.mp hm
    exact Or.inr ⟨s, hs, l, hl, hm⟩

theorem exists_length_lt (c : Config) : ∃ n, ∀ m ∈ c.matchers, m.length < n := by
  refine ⟨(c.matchers.map String.length).max?.getD 0 + 1, fun m hm => Nat.lt_succ_of_le ?_⟩
  exact List.le_max?_getD_of_mem (List.mem_map.mpr ⟨m, hm, rfl⟩)

/-- Whatever an open-ended location answers for is below the path of some location. -/
def OpenEndsEnclosed (c : Config) : Prop :=
  ∀ s ∈ c.servers, ∀ l ∈ s.locations, l.isNamed = false → l.OpenEnded →
    ∃ s' ∈ c.servers, ∃ l' ∈ s'.locations, l'.Encloses l.path

instance (c : Config) : Decidable c.OpenEndsEnclosed :=
  inferInstanceAs (Decidable (∀ s ∈ c.servers, ∀ l ∈ s.locations, _))

end Config

/-- A middleware is called for every path that a location of its code answers for, unless the location is open-ended and
the path continues the location's otherwise than by a slash. It is called for all of them just if each open-ended location
is enclosed by a location. -/
theorem matchers_cover_iff (e : Engine) (c : Config) (hplain : c.PlainPaths) :
    (∀ s ∈ c.servers, ∀ l ∈ s.locations, l.isNamed = false → l.isRegex = false → ∀ special path,
      (l.OpenEnded → path = l.path ∨ Text.startsWith path (l.path ++ "/") = true) →
      l.answers e Target.middleware.dialect path = true → c.CalledFor special path) ∧
    ((∀ special path, c.AnswersFor e path → c.CalledFor special path) ↔ c.OpenEndsEnclosed) := by
  have hcalled : ∀ s ∈ c.servers, ∀ l ∈ s.locations, l.isNamed = false → l.isRegex = false → ∀ special path,
      (l.OpenEnded → path = l.path ∨ Text.startsWith path (l.path ++ "/") = true) →
      l.answers e Target.middleware.dialect path = true → c.CalledFor special path := by
    intro s hs l hl hnamed hregex special path hopen h
    obtain ⟨m, hm, haccepts⟩ := Location.accepted_of_answers hnamed hregex (hplain s hs l hl hregex) hopen h
    exact ⟨m, Config.mem_matchers hs hl hm, haccepts⟩
  refine ⟨hcalled, ?_, ?_⟩
  · intro hcovers s hs l hl hnamed hopen
    -- a path that is longer than all matchers is accepted by none but those for what is below a path
    obtain ⟨n, hn⟩ := c.exists_length_lt
    have hregex : l.isRegex = false := by rw [Location.isRegex, hopen.1]; rfl
    have hanswers : l.answers e Target.middleware.dialect (Location.continued l.path n) = true :=
      hopen.answers_iff.mpr (Location.startsWith_continued l.path n)
    obtain ⟨m, hm, haccepts⟩ := hcovers (fun _ _ => false) _ ⟨s, hs, l, hl, hnamed, hregex, hanswers⟩
    obtain rfl | ⟨s', hs', l', hl', hm'⟩ := Config.exists_location_of_matcher hm
    · cases haccepts
    · exact ⟨s', hs', l', hl', Location.encloses_of_accepted (hplain s' hs' l' hl') hm' (hn m hm) haccepts⟩
  · rintro henclosed special path ⟨s, hs, l, hl, hnamed, hregex, h⟩
    by_cases hopen : l.OpenEnded
    · obtain ⟨s', hs', l', hl', hencloses⟩ := henclosed s hs l hl hnamed hopen
      have hstarts := hopen.answers_iff.mp h
      obtain ⟨m, hm, haccepts⟩ := hencloses.accepted (hplain s' hs' l' hl' hencloses.2.1) hstarts
      exact ⟨m, Config.mem_matchers hs' hl' hm, haccepts⟩
    · exact hcalled s hs l hl hnamed hregex special path (fun h => absurd h hopen) h

/-- An open-ended location, and one for everything. -/
def imagesAndRest : Config where
  servers := [{ locations := [{ path := "/img", modifier := some .priority }, { path := "/" }] }]

theorem matchers_cover_iff_rest :
    imagesAndRest.PlainPaths ∧ ∀ e special path, imagesAndRest.AnswersFor e path → imagesAndRest.CalledFor special path := by
  have hplain : imagesAndRest.PlainPaths := by decide +kernel
  have henclosed : imagesAndRest.OpenEndsEnclosed := by decide +kernel
  exact ⟨hplain, fun e => (matchers_cover_iff e imagesAndRest hplain).2.mpr henclosed⟩

/-- One location, for all paths that start with `/img`. -/
def imagesOnly : Tree :=
  [.block ⟨"server", [], none⟩
    [.block ⟨"location", ["^~", "/img"], none⟩ [.simple ⟨"return", ["200", "x"], none⟩]]]

/-- The code answers for `/imgs`, and is not called for it. -/
theorem continued_path_not_called :
    ∃ c, (Config.build imagesOnly).result = .ok c ∧ c.PlainPaths ∧
      ∀ e special, c.AnswersFor e "/imgs" ∧ ¬ c.CalledFor special "/imgs" := by
  let l : Location :=
    { path := "/img", modifier := some .priority, directives := { answer := some { code := 200, text := some "x" } } }
  let c : Config := { servers := [{ locations := [l] }] }
  refine ⟨c, rfl, by decide +kernel, fun e special => ⟨?_, ?_⟩⟩
  · have hopen : l.OpenEnded := by decide +kernel
    exact ⟨_, List.mem_singleton_self _, l, List.mem_singleton_self _, by decide +kernel, rfl,
      hopen.answers_iff.mpr (by decide +kernel)⟩
  · have hmatchers : c.matchers = ["/img", "/img" ++ below] := by decide +kernel
    have hplain : isPlain "/img" = true := by decide +kernel
    rintro ⟨m, hm, haccepts⟩
    rw [hmatchers, List.mem_pair] at hm
    rcases hm with rfl | rfl
    · rw [accepts_of_isPlain hplain] at haccepts
      exact absurd haccepts (by decide +kernel)
    · rw [accepts_below hplain] at haccepts
      exact absurd haccepts (by decide +kernel)

end EdgeRoutes
