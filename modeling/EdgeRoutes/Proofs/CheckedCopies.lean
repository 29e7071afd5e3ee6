import EdgeRoutes.Pattern.Translation
import EdgeRoutes.Proofs.Results

/-! The copy of a source that the grammar check reads. Two replacements make it, one for the openings of named groups and
one for named references, and neither knows of escapes and bracket classes. So the copy respells exactly the named groups
and the named references of the source as long as nothing in an escape or in a class is taken for one of them. -/

namespace EdgeRoutes.Pattern

open Grammar

/-- A part of a source: an escaped character, a character, a character of a bracket class, the opening of a named group,
or a reference to one. -/
inductive SourceToken where
  | escape (c : Char)
  | char (c : Char)
  | member (c : Char)
  | opening
  | reference (name : List Char)

namespace SourceToken

def text : SourceToken → List Char
  | escape c => ['\\', c]
  | char c | member c => [c]
  | opening => ['(', '?', '<']
  | reference name => '\\' :: 'k' :: '<' :: (name ++ ['>'])

/-- The token in the spelling of the grammar check. -/
def respelled : SourceToken → List Char
  | opening => ['(', '?', 'P', '<']
  | reference name => '(' :: '?' :: 'P' :: '=' :: (name ++ [')'])
  | t => t.text

def isNamed : SourceToken → Bool
  | opening | reference _ => true
  | _ => false

theorem respelled_of_not_isNamed {t : SourceToken} (h : t.isNamed = false) : t.respelled = t.text := by
  cases t with
  | opening | reference => cases h
  | escape | char | member => rfl

end SourceToken

/-- The text starts like a named group. A lookbehind has one of its signs behind the angle bracket. -/
def opensNamedGroup : List Char → Bool
  | '(' :: '?' :: '<' :: cs => !(cs.head? == some '=' || cs.head? == some '!')
  | _ => false

/-- The name of the reference that the text starts with, and what follows it. -/
def namedReference? : List Char → Option (List Char × List Char)
  | '\\' :: 'k' :: '<' :: cs => referenceName? cs
  | _ => none

def startsNamed (cs : List Char) : Bool := opensNamedGroup cs || (namedReference? cs).isSome

theorem referenceName?_eq {cs name rest : List Char} (h : referenceName? cs = some (name, rest)) :
    cs = name ++ '>' :: rest := by
  unfold referenceName? at h
  split at h
  · next c name' rest' hname hrest =>
      cases h
      rw [← hname, ← hrest, List.takeWhile_append_dropWhile]
  · cases h

theorem namedReference?_eq {cs name rest : List Char} (h : namedReference? cs = some (name, rest)) :
    cs = '\\' :: 'k' :: '<' :: (name ++ '>' :: rest) := by
  unfold namedReference? at h
  split at h
  · rw [referenceName?_eq h]
  · cases h

theorem length_of_namedReference? {cs name rest : List Char} (h : namedReference? cs = some (name, rest)) :
    rest.length < cs.length := by
  rw [namedReference?_eq h]
  simp only [List.length_cons, List.length_append]
  omega

theorem exists_of_opensNamedGroup {cs : List Char} (h : opensNamedGroup cs = true) :
    ∃ rest, cs = '(' :: '?' :: '<' :: rest ∧ (rest.head? == some '=' || rest.head? == some '!') = false := by
  unfold opensNamedGroup at h
  split at h
  · exact ⟨_, rfl, by simpa using h⟩
  · cases h

/-- The tokens of a source. A bracket class lasts up to the first `]` that is not escaped. -/
def sourceTokens (inClass : Bool) (cs : List Char) : List SourceToken :=
  match cs with
  | [] => []
  | c :: cs =>
    match _h : namedReference? (c :: cs) with
    | some (name, rest) => .reference name :: sourceTokens inClass rest
    | none =>
      if c = '\\' then
        match cs with
        | [] => [.char c]
        | d :: rest => .escape d :: sourceTokens inClass rest
      else if inClass then .member c :: sourceTokens (c != ']') cs
      else if opensNamedGroup (c :: cs) then .opening :: sourceTokens false (cs.drop 2)
      else .char c :: sourceTokens (c == '[') cs
termination_by cs.length
decreasing_by
  · exact length_of_namedReference? _h
  all_goals
    simp only [List.length_cons, List.length_drop]
    omega

/-- The tokens make up the source. -/
theorem flatMap_text_sourceTokens (inClass : Bool) (cs : List Char) :
    (sourceTokens inClass cs).flatMap SourceToken.text = cs := by
  fun_induction sourceTokens inClass cs with
  | case1 => rfl
  | case2 inClass c cs name rest h ih =>
      rw [List.flatMap_cons, ih, namedReference?_eq h]
      simp [SourceToken.text]
  | case3 => rfl
  | case4 inClass d rest h ih => rw [List.flatMap_cons, ih, SourceToken.text, List.cons_append, List.singleton_append]
  | case5 c cs h hescape ih => rw [List.flatMap_cons, ih, SourceToken.text, List.singleton_append]
  | case6 inClass c cs h hescape hclass hopens ih =>
      obtain ⟨rest, heq, -⟩ := exists_of_opensNamedGroup hopens
      cases heq
      rw [List.flatMap_cons, ih]
      rfl
  | case7 inClass c cs h hescape hclass hopens ih =>
      rw [List.flatMap_cons, ih, SourceToken.text, List.singleton_append]

section Steps

theorem referencesSpelled_cons {c : Char} (hc : c ≠ '\\') (cs : List Char) :
    referencesSpelled (c :: cs) = c :: referencesSpelled cs := by
  rw [referencesSpelled]
  rintro rest rfl
  exact fun _ => hc rfl

theorem namedGroupsSpelled_cons {c : Char} (hc : c ≠ '(') (cs : List Char) :
    namedGroupsSpelled (c :: cs) = c :: namedGroupsSpelled cs := by
  rw [namedGroupsSpelled]
  rintro rest rfl
  exact fun _ => hc rfl

theorem checkedCopy_nil : checkedCopy [] = [] := by
  rw [checkedCopy, namedGroupsSpelled, referencesSpelled]

theorem checkedCopy_cons {c : Char} (hopen : c ≠ '(') (hescape : c ≠ '\\') (cs : List Char) :
    checkedCopy (c :: cs) = c :: checkedCopy cs := by
  rw [checkedCopy, namedGroupsSpelled_cons hopen, referencesSpelled_cons hescape]
  rfl

theorem exists_namedGroupsSpelled_cons (c : Char) (cs : List Char) : ∃ more, namedGroupsSpelled (c :: cs) = c :: more := by
  have hhead : ∀ cs, (namedGroupsSpelled cs).head? = cs.head? := by
    intro cs
    fun_cases namedGroupsSpelled cs <;> rfl
  exact List.head?_eq_some_iff.mp (hhead (c :: cs))

theorem exists_cons_of_namedGroupsSpelled {c : Char} {cs more : List Char} (h : namedGroupsSpelled cs = c :: more)
    (hc : c ≠ '(') : ∃ rest, cs = c :: rest ∧ namedGroupsSpelled rest = more := by
  cases cs with
  | nil => cases h
  | cons d rest =>
      obtain ⟨_, hspelled⟩ := exists_namedGroupsSpelled_cons d rest
      obtain rfl : d = c := (List.cons.inj (hspelled.symm.trans h)).1
      rw [namedGroupsSpelled_cons hc] at h
      exact ⟨rest, rfl, (List.cons.inj h).2⟩

theorem word_namedGroupsSpelled (cs : List Char) :
    (namedGroupsSpelled cs).takeWhile Text.isWordChar = cs.takeWhile Text.isWordChar ∧
      (namedGroupsSpelled cs).dropWhile Text.isWordChar = namedGroupsSpelled (cs.dropWhile Text.isWordChar) := by
  induction cs with
  | nil => exact ⟨rfl, rfl⟩
  | cons c cs ih =>
      by_cases hc : Text.isWordChar c = true
      · have hopen : c ≠ '(' := by
          rintro rfl
          exact absurd hc (by decide)
        rw [namedGroupsSpelled_cons hopen, List.takeWhile_cons_of_pos hc, List.takeWhile_cons_of_pos hc,
          List.dropWhile_cons_of_pos hc, List.dropWhile_cons_of_pos hc, ih.1, ih.2]
        exact ⟨rfl, rfl⟩
      · obtain ⟨more, hmore⟩ := exists_namedGroupsSpelled_cons c cs
        rw [List.takeWhile_cons_of_neg hc, List.dropWhile_cons_of_neg hc, hmore, List.takeWhile_cons_of_neg hc,
          List.dropWhile_cons_of_neg hc]
        exact ⟨rfl, rfl⟩

/-- The opening of a named group stands behind the name of a reference, never in it. -/
theorem referenceName?_namedGroupsSpelled (cs : List Char) : referenceName? (namedGroupsSpelled cs) =
    (referenceName? cs).map fun found => (found.1, namedGroupsSpelled found.2) := by
  obtain ⟨htake, hdrop⟩ := word_namedGroupsSpelled cs
  unfold referenceName?
  rw [htake, hdrop]
  generalize cs.takeWhile Text.isWordChar = name
  generalize cs.dropWhile Text.isWordChar = rest
  cases name with
  | nil => rfl
  | cons c name =>
      cases rest with
      | nil => rfl
      | cons d rest =>
          by_cases hd : d = '>'
          · rw [hd, namedGroupsSpelled_cons (by decide)]
            rfl
          · obtain ⟨more, hmore⟩ := exists_namedGroupsSpelled_cons d rest
            rw [hmore]
            simp [hd]

theorem checkedCopy_of_namedReference? {cs name rest : List Char} (h : namedReference? cs = some (name, rest)) :
    checkedCopy cs = SourceToken.respelled (.reference name) ++ checkedCopy rest := by
  obtain rfl := namedReference?_eq h
  have hname : referenceName? (namedGroupsSpelled (name ++ '>' :: rest)) = some (name, namedGroupsSpelled rest) := by
    rw [referenceName?_namedGroupsSpelled, show referenceName? (name ++ '>' :: rest) = some (name, rest) from h]
    rfl
  have hshorter : (namedGroupsSpelled rest).length < (namedGroupsSpelled (name ++ '>' :: rest)).length := by
    rw [referenceName?_eq hname, List.length_append, List.length_cons]
    omega
  rw [checkedCopy, namedGroupsSpelled_cons (by decide), namedGroupsSpelled_cons (by decide),
    namedGroupsSpelled_cons (by decide), referencesSpelled, hname]
  dsimp only
  rw [if_pos hshorter, String.toList_ofList, SourceToken.respelled, checkedCopy]
  simp

theorem checkedCopy_of_opensNamedGroup {cs : List Char} (h : opensNamedGroup cs = true) :
    checkedCopy cs = SourceToken.respelled .opening ++ checkedCopy (cs.drop 3) := by
  obtain ⟨rest, rfl, hsign⟩ := exists_of_opensNamedGroup h
  rw [checkedCopy, namedGroupsSpelled, hsign, if_neg Bool.false_ne_true, referencesSpelled_cons (by decide),
    referencesSpelled_cons (by decide), referencesSpelled_cons (by decide), referencesSpelled_cons (by decide)]
  rfl

theorem checkedCopy_backslash {cs : List Char} (h : namedReference? ('\\' :: cs) = none) :
    checkedCopy ('\\' :: cs) = '\\' :: checkedCopy cs := by
  rw [checkedCopy, namedGroupsSpelled_cons (by decide), checkedCopy]
  by_cases hangle : ∃ rest, cs = 'k' :: '<' :: rest
  · obtain ⟨rest, rfl⟩ := hangle
    have hname : referenceName? (namedGroupsSpelled rest) = none := by
      rw [referenceName?_namedGroupsSpelled, show referenceName? rest = none from h]
      rfl
    rw [namedGroupsSpelled_cons (by decide), namedGroupsSpelled_cons (by decide), referencesSpelled, hname,
      referencesSpelled_cons (by decide), referencesSpelled_cons (by decide)]
  · rw [referencesSpelled]
    rintro more - hspelled
    obtain ⟨after, rfl, hafter⟩ := exists_cons_of_namedGroupsSpelled hspelled (by decide)
    obtain ⟨rest, rfl, -⟩ := exists_cons_of_namedGroupsSpelled hafter (by decide)
    exact hangle ⟨rest, rfl⟩

theorem checkedCopy_parenthesis {cs : List Char} (h : opensNamedGroup ('(' :: cs) = false) :
    checkedCopy ('(' :: cs) = '(' :: checkedCopy cs := by
  have hspelled : namedGroupsSpelled ('(' :: cs) = '(' :: namedGroupsSpelled cs := by
    by_cases hangle : ∃ rest, cs = '?' :: '<' :: rest
    · obtain ⟨rest, rfl⟩ := hangle
      rw [namedGroupsSpelled, if_pos (by simpa only [opensNamedGroup, Bool.not_eq_false'] using h),
        namedGroupsSpelled_cons (by decide), namedGroupsSpelled_cons (by decide)]
    · rw [namedGroupsSpelled]
      exact fun rest _ hrest => hangle ⟨rest, hrest⟩
  rw [checkedCopy, hspelled, referencesSpelled_cons (by decide), checkedCopy]

/-- Where neither of the two starts, a character is copied. -/
theorem checkedCopy_of_not_startsNamed {c : Char} {cs : List Char} (h : startsNamed (c :: cs) = false) :
    checkedCopy (c :: cs) = c :: checkedCopy cs := by
  obtain ⟨hgroup, hreference⟩ := Bool.or_eq_false_iff.mp h
  by_cases hopen : c = '('
  · rw [hopen] at hgroup ⊢
    exact checkedCopy_parenthesis hgroup
  · by_cases hescape : c = '\\'
    · rw [hescape] at hreference ⊢
      exact checkedCopy_backslash (Option.not_isSome_iff_eq_none.mp (Bool.eq_false_iff.mp hreference))
    · exact checkedCopy_cons hopen hescape cs

end Steps

/-- The end of the token is taken for the start of a named group or of a reference, in front of the given text. -/
def isMisread : SourceToken → List Char → Bool
  | .escape c, cs | .member c, cs => startsNamed (c :: cs)
  | _, _ => false

def hasMisread : List SourceToken → Bool
  | [] => false
  | t :: ts => isMisread t (ts.flatMap SourceToken.text) || hasMisread ts

theorem respelled_sourceTokens_cons {c : Char} (hescape : c ≠ '\\') (hopen : c ≠ '(') (inClass : Bool) (cs : List Char) :
    ∃ inClass', (sourceTokens inClass (c :: cs)).flatMap SourceToken.respelled =
      c :: (sourceTokens inClass' cs).flatMap SourceToken.respelled := by
  rw [sourceTokens]
  split
  · next h => exact absurd (List.cons.inj (namedReference?_eq h)).1 hescape
  · rw [if_neg hescape]
    split_ifs with hclass hgroup
    · exact ⟨_, rfl⟩
    · obtain ⟨rest, heq, -⟩ := exists_of_opensNamedGroup hgroup
      exact absurd (List.cons.inj heq).1 hopen
    · exact ⟨_, rfl⟩

/-- What is misread is spelled in another way in the copy. -/
theorem checkedCopy_ne_of_startsNamed {c : Char} {cs : List Char} (h : startsNamed (c :: cs) = true) (inClass : Bool) :
    checkedCopy (c :: cs) ≠ c :: (sourceTokens inClass cs).flatMap SourceToken.respelled := by
  intro heq
  rcases Bool.or_eq_true_iff.mp h with hgroup | hreference
  · rw [checkedCopy_of_opensNamedGroup hgroup] at heq
    obtain ⟨rest, hall, -⟩ := exists_of_opensNamedGroup hgroup
    cases hall
    obtain ⟨inClass', hmark⟩ := respelled_sourceTokens_cons (c := '?') (by decide) (by decide) inClass ('<' :: rest)
    obtain ⟨_, hangle⟩ := respelled_sourceTokens_cons (c := '<') (by decide) (by decide) inClass' rest
    rw [hmark, hangle] at heq
    cases heq
  · obtain ⟨⟨name, rest⟩, hfound⟩ := Option.isSome_iff_exists.mp hreference
    rw [checkedCopy_of_namedReference? hfound] at heq
    have hescape : c = '\\' := (List.cons.inj (namedReference?_eq hfound)).1
    rw [hescape] at heq
    cases heq

section Run

variable {t : SourceToken} {ts : List SourceToken} {cs rest : List Char}

theorem checkedCopy_eq_iff_of_copied (hcopy : checkedCopy cs = t.respelled ++ checkedCopy rest)
    (hread : isMisread t (ts.flatMap SourceToken.text) = false)
    (ih : checkedCopy rest = ts.flatMap SourceToken.respelled ↔ hasMisread ts = false) :
    checkedCopy cs = (t :: ts).flatMap SourceToken.respelled ↔ hasMisread (t :: ts) = false := by
  rw [hcopy, List.flatMap_cons, List.append_right_inj, ih, hasMisread, hread, Bool.false_or]

theorem checkedCopy_eq_iff_of_misread (hcopy : checkedCopy cs ≠ (t :: ts).flatMap SourceToken.respelled)
    (hread : isMisread t (ts.flatMap SourceToken.text) = true) :
    checkedCopy cs = (t :: ts).flatMap SourceToken.respelled ↔ hasMisread (t :: ts) = false := by
  rw [hasMisread, hread]
  exact iff_of_false hcopy nofun

end Run

/-- The copy respells the tokens of the source, and nothing else, just if no token is misread. -/
theorem checkedCopy_eq_iff (inClass : Bool) (cs : List Char) :
    checkedCopy cs = (sourceTokens inClass cs).flatMap SourceToken.respelled ↔
      hasMisread (sourceTokens inClass cs) = false := by
  fun_induction sourceTokens inClass cs with
  | case1 => exact iff_of_true checkedCopy_nil rfl
  | case2 inClass c cs name rest h ih => exact checkedCopy_eq_iff_of_copied (checkedCopy_of_namedReference? h) rfl ih
  | case3 inClass h => exact iff_of_true ((checkedCopy_backslash h).trans (congrArg _ checkedCopy_nil)) rfl
  | case4 inClass d rest h ih =>
      have hbackslash := checkedCopy_backslash h
      cases hstarts : startsNamed (d :: rest) with
      | true =>
          refine checkedCopy_eq_iff_of_misread ?_ (by rwa [flatMap_text_sourceTokens])
          rw [hbackslash]
          exact fun heq => checkedCopy_ne_of_startsNamed hstarts inClass (List.cons.inj heq).2
      | false =>
          refine checkedCopy_eq_iff_of_copied ?_ (by rwa [flatMap_text_sourceTokens]) ih
          rw [hbackslash, checkedCopy_of_not_startsNamed hstarts]
          rfl
  | case5 c cs h hescape ih =>
      cases hstarts : startsNamed (c :: cs) with
      | true =>
          refine checkedCopy_eq_iff_of_misread (checkedCopy_ne_of_startsNamed hstarts _) ?_
          rwa [flatMap_text_sourceTokens]
      | false =>
          refine checkedCopy_eq_iff_of_copied (checkedCopy_of_not_startsNamed hstarts) ?_ ih
          rwa [flatMap_text_sourceTokens]
  | case6 inClass c cs h hescape hclass hopens ih =>
      exact checkedCopy_eq_iff_of_copied (checkedCopy_of_opensNamedGroup hopens) rfl ih
  | case7 inClass c cs h hescape hclass hopens ih =>
      have hstarts : startsNamed (c :: cs) = false := by
        rw [startsNamed, h, Bool.eq_false_iff.mpr hopens]
        rfl
      exact checkedCopy_eq_iff_of_copied (checkedCopy_of_not_startsNamed hstarts) rfl ih

/-- A parenthesis of a class, with what stands behind it, is taken for the opening of a named group. -/
example : hasMisread (sourceTokens false "a[(?<]".toList) = true := by decide +kernel

/-- The one problem of a source that does not compile is the verdict on its copy. -/
theorem compileProblems_eq (source : List Char) : compileProblems source =
    (rejection? (checkedCopy source)).map fun verdict =>
      (verdict.map fun reason => Problem.doesNotCompile reason.message).toList := by
  unfold compileProblems
  cases rejection? (checkedCopy source) with
  | error fault => rfl
  | ok verdict => cases verdict <;> rfl

/-- A source is copied token by token, with the named groups and the named references in the spelling of the grammar
check, just if no token is misread. Then the verdict on a source that names no group is the one on the source itself. -/
theorem copied_by_tokens (source : List Char) :
    (sourceTokens false source).flatMap SourceToken.text = source ∧
      (checkedCopy source = (sourceTokens false source).flatMap SourceToken.respelled ↔
        hasMisread (sourceTokens false source) = false) ∧
      (hasMisread (sourceTokens false source) = false → (∀ t ∈ sourceTokens false source, t.isNamed = false) →
        compileProblems source = (rejection? source).map fun verdict =>
          (verdict.map fun reason => Problem.doesNotCompile reason.message).toList) := by
  refine ⟨flatMap_text_sourceTokens false source, checkedCopy_eq_iff false source, fun hread hnamed => ?_⟩
  have hcopy : checkedCopy source = source := calc
    checkedCopy source = (sourceTokens false source).flatMap SourceToken.respelled :=
      (checkedCopy_eq_iff false source).mpr hread
    _ = (sourceTokens false source).flatMap SourceToken.text :=
      List.flatMap_congr fun t ht => SourceToken.respelled_of_not_isNamed (hnamed t ht)
    _ = source := flatMap_text_sourceTokens false source
  rw [compileProblems_eq, hcopy]

/-- A name behind an escaped backslash and behind a lookbehind, and a class with a parenthesis. -/
def namingSource : List Char := "(?<y>\\d+)\\\\(?<=a)\\k<y>[(?]".toList

theorem copied_by_tokens_naming :
    checkedCopy namingSource = "(?P<y>\\d+)\\\\(?<=a)(?P=y)[(?]".toList ∧
      compileProblems "\\(?:a)".toList = .ok [.doesNotCompile "unbalanced parenthesis"] := by
  obtain ⟨-, hcopy, -⟩ := copied_by_tokens namingSource
  obtain ⟨-, -, hverdict⟩ := copied_by_tokens "\\(?:a)".toList
  constructor
  · rw [hcopy.mpr (by decide +kernel)]
    decide +kernel
  · have hrejected : rejection? "\\(?:a)".toList = .ok (some .unbalanced) := toOption_eq_some_iff.mp (by decide +kernel)
    rw [hverdict (by decide +kernel) (by decide +kernel), hrejected]
    rfl

/-- Two backslashes, and the text of a reference behind them. -/
def escapedBackslash : List Char := "\\\\k<n>".toList

/-- Behind an escaped backslash the text of a reference is taken for one. A source is rejected that compiles by itself,
and one is let through that does not. -/
theorem escaped_backslash_misread :
    (∀ t ∈ sourceTokens false escapedBackslash, t.isNamed = false) ∧
      checkedCopy escapedBackslash = "\\(?P=n)".toList ∧ rejection? escapedBackslash = .ok none ∧
      compileProblems escapedBackslash = .ok [.doesNotCompile "unbalanced parenthesis"] ∧
      (∀ t ∈ sourceTokens false ('(' :: escapedBackslash), t.isNamed = false) ∧
      rejection? ('(' :: escapedBackslash) = .ok (some .unterminatedGroup) ∧
      compileProblems ('(' :: escapedBackslash) = .ok [] :=
  ⟨by decide +kernel, by decide +kernel, toOption_eq_some_iff.mp (by decide +kernel),
    toOption_eq_some_iff.mp (by decide +kernel), by decide +kernel, toOption_eq_some_iff.mp (by decide +kernel),
    toOption_eq_some_iff.mp (by decide +kernel)⟩

end EdgeRoutes.Pattern
