import EdgeRoutes.Proofs.ConditionReading
import EdgeRoutes.Proofs.LineBreaks
import EdgeRoutes.Proofs.ServerChoice

/-! What the names of a server say about a host. A name with stars is a glob, a name with a leading dot is a domain with
all its subdomains, and any other name is a host; letter case does not matter. The condition that the names put on the
host is true of a host just if one of them covers it: no character of a name is taken for a part of the pattern that the
name is written as. -/

namespace EdgeRoutes

open Js Pattern

namespace Js.Regex

variable {ignoreCase : Bool} {pre mid post : List Char}

/-- Terms in a row match a text that can be cut in two for them. -/
theorem matches_seqs_append {rs ss : List Regex} : (seqs (rs ++ ss)).Matches ignoreCase pre mid post ↔
    ∃ x y, mid = x ++ y ∧ (seqs rs).Matches ignoreCase pre x (y ++ post) ∧
      (seqs ss).Matches ignoreCase (pre ++ x) y post := by
  induction rs generalizing pre mid with
  | nil =>
      constructor
      · intro h
        exact ⟨[], mid, rfl, rfl, by rwa [List.append_nil]⟩
      · rintro ⟨x, y, rfl, rfl, h⟩
        rwa [List.append_nil] at h
  | cons r rs ih =>
      constructor
      · rintro ⟨x, y, rfl, hr, hrest⟩
        obtain ⟨u, v, rfl, hrs, hss⟩ := ih.mp hrest
        refine ⟨x ++ u, v, (List.append_assoc ..).symm, ⟨x, u, rfl, ?_, hrs⟩, ?_⟩
        · rwa [List.append_assoc] at hr
        · rwa [List.append_assoc] at hss
      · rintro ⟨x, y, rfl, ⟨u, v, rfl, hr, hrs⟩, hss⟩
        refine ⟨u, v ++ y, List.append_assoc .., ?_, ih.mpr ⟨v, y, rfl, hrs, ?_⟩⟩
        · rwa [List.append_assoc]
        · rwa [List.append_assoc]

/-- A pattern between anchors matches the whole text. -/
theorem tests_anchored {rs : List Regex} {text : List Char} :
    (seqs (.start :: (rs ++ [.stop]))).Tests ignoreCase text ↔ (seqs rs).Matches ignoreCase [] text [] := by
  constructor
  · rintro ⟨pre, mid, post, rfl, x, y, rfl, ⟨rfl, rfl⟩, h⟩
    obtain ⟨u, v, rfl, hrs, w, z, rfl, ⟨rfl, hpost⟩, rfl⟩ := matches_seqs_append.mp h
    obtain rfl : post = [] := hpost
    simpa using hrs
  · intro h
    refine ⟨[], text, [], by simp, [], text, rfl, ⟨rfl, rfl⟩, matches_seqs_append.mpr ⟨text, [], by simp, ?_, ?_⟩⟩
    · exact h
    · exact ⟨[], [], rfl, ⟨rfl, rfl⟩, rfl⟩

/-- A starred dot matches just the text that stays on one line. -/
theorem matches_anything : (Regex.star .any).Matches ignoreCase pre mid post ↔ ∀ c ∈ mid, endsLine c = false := by
  constructor
  · intro h
    induction h with
    | done => nofun
    | next hfirst _ ih =>
        obtain ⟨d, rfl, hd⟩ := hfirst
        exact List.forall_mem_cons.mpr ⟨hd, ih⟩
  · intro h
    induction mid generalizing pre with
    | nil => exact .done
    | cons c mid ih =>
        obtain ⟨hc, hmid⟩ := List.forall_mem_cons.mp h
        exact .next (x := [c]) ⟨c, rfl, hc⟩ (ih hmid)

end Js.Regex

section LetterCase

theorem toNat_toUpper (c : Char) :
    c.toUpper.toNat = if 97 ≤ c.toNat ∧ c.toNat ≤ 122 then c.toNat - 32 else c.toNat := by
  have hiff : ('a'.val ≤ c.val ∧ c.val ≤ 'z'.val) ↔ 97 ≤ c.toNat ∧ c.toNat ≤ 122 := by
    rw [UInt32.le_iff_toNat_le, UInt32.le_iff_toNat_le]
    rfl
  unfold Char.toUpper
  by_cases h : 'a'.val ≤ c.val ∧ c.val ≤ 'z'.val
  · have hbounds := hiff.mp h
    have hval : c.val.toNat = c.toNat := rfl
    rw [dif_pos h, if_pos hbounds]
    change (c.val + 4294967264).toNat = c.val.toNat - 32
    rw [UInt32.toNat_add]
    change (c.val.toNat + 4294967264) % _ = _
    omega
  · rw [dif_neg h, if_neg (mt hiff.mpr h)]

/-- Two characters have the same capital just if they have the same lower-case form. -/
theorem toUpper_eq_iff {c d : Char} : c.toUpper = d.toUpper ↔ c.toLower = d.toLower := by
  simp only [← Char.toNat_inj, toNat_toUpper, toNat_toLower]
  split_ifs <;> omega

theorem toLower_toLower (c : Char) : c.toLower.toLower = c.toLower := by
  simp only [← Char.toNat_inj, toNat_toLower]
  split_ifs <;> omega

theorem lowerFrom_ascii {cs : List Char} (h : ∀ c ∈ cs, c.toNat < 128) (before : List Char) :
    Text.lowerFrom before cs = cs.map Char.toLower := by
  induction cs generalizing before with
  | nil => rfl
  | cons c cs ih =>
      obtain ⟨hc, hcs⟩ := List.forall_mem_cons.mp h
      have hsigma : c.toNat ≠ 0x3A3 := by omega
      rw [Text.lowerFrom, if_neg hsigma, Text.lowerChar, if_pos hc, ih hcs]
      rfl

theorem toList_lower {s : String} (h : ∀ c ∈ s.toList, c.toNat < 128) :
    (Text.lower s).toList = s.toList.map Char.toLower := by
  rw [Text.lower, String.toList_ofList, lowerFrom_ascii h]

end LetterCase

namespace Host

/-- The glob matches the text: a star stands for any text, and every other character for itself, letter case apart. -/
def Glob : List Char → List Char → Prop
  | [], text => text = []
  | c :: cs, text =>
    if c = '*' then ∃ skipped rest, text = skipped ++ rest ∧ Glob cs rest
    else ∃ d rest, text = d :: rest ∧ c.toLower = d.toLower ∧ Glob cs rest

instance decidableGlob : ∀ cs text, Decidable (Glob cs text)
  | [], text => inferInstanceAs (Decidable (text = []))
  | c :: cs, text =>
    have := decidableGlob cs
    decidable_of_iff (if c = '*' then ∃ rest ∈ text.tails, Glob cs rest
        else text.head?.any (c.toLower == ·.toLower) = true ∧ Glob cs text.tail) <| by
      rw [Glob]
      split_ifs
      · simp only [List.mem_tails]
        constructor
        · rintro ⟨rest, ⟨skipped, rfl⟩, h⟩
          exact ⟨skipped, rest, rfl, h⟩
        · rintro ⟨skipped, rest, rfl, h⟩
          exact ⟨rest, List.suffix_append .., h⟩
      · cases text <;> simp

/-- What a server name says about a host that is written in lower case. -/
def Covers (name host : String) : Prop :=
  if '*' ∈ name.toList then Glob name.toList host.toList
  else if name.toList.head? = some '.' then
    host.toList = name.toList.tail.map Char.toLower ∨ name.toList.map Char.toLower <:+ host.toList
  else host.toList = name.toList.map Char.toLower

instance (name host : String) : Decidable (Covers name host) :=
  inferInstanceAs (Decidable (if '*' ∈ name.toList then Glob name.toList host.toList
    else if name.toList.head? = some '.' then _ ∨ _ else _ = _))

/-- The term that a character of a glob is written as. -/
def globTerm (c : Char) : Regex :=
  if c = '*' then .star .any else .char c

theorem flatMap_ofSegment_globSegments (name : List Char) :
    (globSegments name).flatMap Regex.ofSegment = name.map globTerm := by
  unfold globSegments
  induction name with
  | nil => rfl
  | cons c cs ih =>
      obtain ⟨piece, pieces, hpieces⟩ := List.exists_cons_of_ne_nil (List.splitOn_ne_nil '*' cs)
      rw [List.splitOn_cons_eq_if_modifyHead, List.map_cons, ← ih, hpieces, globTerm]
      by_cases hstar : c = '*'
      · rw [if_pos hstar, if_pos (beq_iff_eq.mpr hstar)]
        rfl
      · rw [if_neg hstar, if_neg (by simpa using hstar)]
        cases pieces with
        | nil => simp [Regex.ofSegment]
        | cons next pieces => simp [Regex.ofSegment]

theorem flatMap_ofSegment_domain (domain : String) :
    [Segment.subdomains, .text domain].flatMap Regex.ofSegment =
      Regex.ofSegment .subdomains ++ domain.toList.map Regex.char := by
  rw [List.flatMap_cons, List.flatMap_singleton]
  rfl

theorem glob_map_toLower {cs text : List Char} : Glob (cs.map Char.toLower) text ↔ Glob cs text := by
  induction cs generalizing text with
  | nil => rfl
  | cons c cs ih =>
      have hstar : c.toLower = '*' ↔ c = '*' := by
        rw [← Char.toNat_inj, ← Char.toNat_inj, toNat_toLower]
        change _ = 42 ↔ _ = 42
        split_ifs <;> omega
      simp only [List.map_cons, Glob, hstar, toLower_toLower, ih]

/-- A name with wildcards, as a pattern, matches the hosts that the wildcards stand for. -/
theorem matches_glob {cs pre mid post : List Char} (h : ∀ c ∈ mid, endsLine c = false) :
    (Regex.seqs (cs.map globTerm)).Matches true pre mid post ↔ Glob cs mid := by
  induction cs generalizing pre mid with
  | nil => rfl
  | cons c cs ih =>
      rw [List.map_cons, Regex.seqs, Regex.Matches, Glob, globTerm]
      by_cases hstar : c = '*'
      · rw [if_pos hstar, if_pos hstar]
        refine exists₂_congr fun x y => and_congr_right fun hmid => ?_
        obtain ⟨hx, hy⟩ := List.forall_mem_append.mp (hmid ▸ h)
        rw [Regex.matches_anything, ih hy]
        exact and_iff_right hx
      · rw [if_neg hstar, if_neg hstar]
        constructor
        · rintro ⟨x, y, rfl, ⟨d, rfl, hd⟩, hcs⟩
          obtain ⟨-, hy⟩ := List.forall_mem_append.mp h
          exact ⟨d, y, rfl, toUpper_eq_iff.mp hd, (ih hy).mp hcs⟩
        · rintro ⟨d, rest, rfl, hd, hglob⟩
          obtain ⟨-, hrest⟩ := List.forall_mem_cons.mp h
          exact ⟨[d], rest, rfl, ⟨d, rfl, toUpper_eq_iff.mpr hd⟩, (ih hrest).mpr hglob⟩

theorem matches_text {cs pre mid post : List Char} :
    (Regex.seqs (cs.map Regex.char)).Matches true pre mid post ↔ cs.map Char.toLower = mid.map Char.toLower := by
  induction cs generalizing pre mid with
  | nil =>
      change mid = [] ↔ [] = mid.map Char.toLower
      rw [@eq_comm _ [], List.map_eq_nil_iff]
  | cons c cs ih =>
      constructor
      · rintro ⟨x, y, rfl, ⟨d, rfl, hd⟩, hcs⟩
        rw [List.map_cons, List.map_append, ih.mp hcs, toUpper_eq_iff.mp hd]
        rfl
      · intro h
        cases mid with
        | nil => cases h
        | cons d mid =>
            rw [List.map_cons, List.map_cons, List.cons.injEq] at h
            exact ⟨[d], mid, rfl, ⟨d, rfl, toUpper_eq_iff.mpr h.1⟩, ih.mpr h.2⟩

theorem matches_subdomains {pre mid post : List Char} (h : ∀ c ∈ mid, endsLine c = false) :
    (Regex.seqs (Regex.ofSegment .subdomains)).Matches true pre mid post ↔ mid = [] ∨ ∃ sub, mid = sub ++ ['.'] := by
  have hdot : ∀ d, Regex.Same true '.' d ↔ d = '.' := by
    intro d
    rw [Regex.Same, if_pos rfl, ← Char.toNat_inj, ← Char.toNat_inj, toNat_toUpper d]
    change 46 = _ ↔ _ = 46
    split_ifs <;> omega
  constructor
  · rintro ⟨x, y, rfl, rfl | ⟨sub, z, rfl, -, u, v, rfl, ⟨d, rfl, hd⟩, rfl⟩, rfl⟩
    · exact Or.inl rfl
    · refine Or.inr ⟨sub, ?_⟩
      rw [(hdot d).mp hd, List.append_nil, List.append_nil]
  · rintro (rfl | ⟨sub, rfl⟩)
    · exact ⟨[], [], rfl, Or.inl rfl, rfl⟩
    · have hsub := (List.forall_mem_append.mp h).1
      exact ⟨sub ++ ['.'], [], (List.append_nil _).symm, Or.inr ⟨sub, ['.'], rfl, Regex.matches_anything.mpr hsub,
        ['.'], [], rfl, ⟨'.', rfl, (hdot '.').mpr rfl⟩, rfl⟩, rfl⟩

/-- A name that begins with a dot stands for its domain and for all below it. -/
theorem matches_domain {domain host : List Char} (hline : ∀ c ∈ host, endsLine c = false)
    (hlower : host.map Char.toLower = host) :
    (Regex.seqs (Regex.ofSegment .subdomains ++ (domain.map Char.toLower).map Regex.char)).Matches true [] host [] ↔
      host = domain.map Char.toLower ∨ ('.' :: domain.map Char.toLower) <:+ host := by
  have hidem : (domain.map Char.toLower).map Char.toLower = domain.map Char.toLower := by
    rw [List.map_map]
    exact List.map_congr_left fun c _ => toLower_toLower c
  rw [Regex.matches_seqs_append]
  constructor
  · rintro ⟨x, y, rfl, hx, hy⟩
    rw [List.map_append] at hlower
    rw [matches_text, hidem, List.append_inj_right' hlower (List.length_map _)] at hy
    rcases (matches_subdomains (List.forall_mem_append.mp hline).1).mp hx with rfl | ⟨sub, rfl⟩
    · exact Or.inl hy.symm
    · rw [hy, List.append_assoc]
      exact Or.inr (List.suffix_append sub _)
  · rintro (rfl | ⟨sub, rfl⟩)
    · exact ⟨[], _, rfl, (matches_subdomains (List.forall_mem_nil _)).mpr (Or.inl rfl), matches_text.mpr rfl⟩
    · refine ⟨sub ++ ['.'], domain.map Char.toLower, by simp, (matches_subdomains ?_).mpr (Or.inr ⟨sub, rfl⟩), ?_⟩
      · intro c hc
        rcases List.mem_append.mp hc with hc | hc
        · exact hline c (List.mem_append_left _ hc)
        · exact List.mem_singleton.mp hc ▸ (by decide)
      · exact matches_text.mpr rfl

/-- The text is ASCII and stays on one line. -/
def Plain (text : String) : Prop := ∀ c ∈ text.toList, c.toNat < 128 ∧ endsLine c = false

instance (text : String) : Decidable (Plain text) := List.decidableBAll _ _

/-- The test is read as an alternative that is true of just the hosts that the name covers. -/
structure ReadAs (name : String) (t : Test) (o : Operand) : Prop where
  read : ∀ rest, readOperand? "hostname" ((t.render "hostname").toList ++ rest) = some (o, rest)
  holds : ∀ host, Plain host → Text.lower host = host → (o.Holds host ↔ Covers name host)

variable {name : String}

theorem Plain.map_toLower {host : String} (hplain : Plain host) (hlower : Text.lower host = host) :
    host.toList.map Char.toLower = host.toList := by
  rw [← toList_lower fun c hc => (hplain c hc).1, hlower]

theorem readAs_glob (hname : Plain name) (hstar : '*' ∈ name.toList) :
    ReadAs name (.matchesSegments (globSegments (Text.lower name).toList))
      (.tests (.seqs (.start :: ((name.toList.map Char.toLower).map globTerm ++ [.stop]))) true) := by
  have hascii : (Text.lower name).toList = name.toList.map Char.toLower := toList_lower fun c hc => (hname c hc).1
  have hline : ∀ s ∈ globSegments (Text.lower name).toList, OneLine s.render :=
    (oneLine_globSegments _).mpr (oneLine_lower.mpr fun c hc => (hname c hc).2)
  constructor
  · intro rest
    rw [readOperand?_segments hline, flatMap_ofSegment_globSegments, hascii]
  · intro host hplain _
    rw [Operand.Holds, Regex.tests_anchored, matches_glob fun c hc => (hplain c hc).2, glob_map_toLower, Covers,
      if_pos hstar]

theorem readAs_domain {domain : List Char} (hname : Plain name) (hstar : '*' ∉ name.toList)
    (hdomain : name.toList = '.' :: domain) :
    ReadAs name (.matchesSegments [.subdomains, .text (Text.lower (String.ofList domain))])
      (.tests (.seqs (.start :: (Regex.ofSegment .subdomains ++ (domain.map Char.toLower).map Regex.char ++ [.stop])))
        true) := by
  have hchars : ∀ c ∈ domain, c.toNat < 128 ∧ endsLine c = false :=
    fun c hc => hname c (hdomain ▸ List.mem_cons_of_mem _ hc)
  have hascii : (Text.lower (String.ofList domain)).toList = domain.map Char.toLower := by
    rw [toList_lower, String.toList_ofList]
    rw [String.toList_ofList]
    exact fun c hc => (hchars c hc).1
  have hline : ∀ s ∈ [Segment.subdomains, .text (Text.lower (String.ofList domain))], OneLine s.render := by
    refine List.forall_mem_cons.mpr ⟨oneLine_literal rfl, List.forall_mem_singleton.mpr ?_⟩
    rw [Segment.render, oneLine_ofList, forall_escapePattern]
    refine oneLine_lower.mpr ?_
    rw [oneLine_ofList]
    exact fun c hc => (hchars c hc).2
  constructor
  · intro rest
    rw [readOperand?_segments hline, flatMap_ofSegment_domain, hascii]
  · intro host hplain hlower
    rw [Operand.Holds, Regex.tests_anchored, matches_domain (fun c hc => (hplain c hc).2) (hplain.map_toLower hlower),
      Covers, if_neg hstar, hdomain, if_pos (by rfl)]
    rfl

theorem readAs_literal (hname : Plain name) (hliteral : IsLiteral name) :
    ReadAs name (.equals (Text.lower name)) (.equals (Text.lower name)) := by
  obtain ⟨-, hdot, hstar⟩ := hliteral
  have hascii : (Text.lower name).toList = name.toList.map Char.toLower := toList_lower fun c hc => (hname c hc).1
  constructor
  · intro rest
    exact readOperand?_equals _
  · intro host _ _
    rw [Operand.Holds, Covers, if_neg hstar, if_neg hdot, ← String.toList_inj, hascii]

/-- A name that is not a regular pattern always has a test. -/
theorem exists_readAs (hname : Plain name) (htilde : name.toList.head? ≠ some '~') (dialect : Dialect) :
    ∃ t o, test dialect name = .ok t ∧ ReadAs name t o := by
  have hpattern : pattern? name = none := by
    rw [Option.eq_none_iff_forall_ne_some]
    intro pattern h
    obtain ⟨cs, hcs, -⟩ := pattern?_eq_some_iff.mp h
    simp [hcs] at htilde
  by_cases hstar : '*' ∈ name.toList
  · refine ⟨_, _, ?_, readAs_glob hname hstar⟩
    rw [test, hpattern, if_pos (List.contains_iff_mem.mpr hstar)]
  · by_cases hdot : name.toList.head? = some '.'
    · obtain ⟨domain, hdomain⟩ := List.head?_eq_some_iff.mp hdot
      refine ⟨_, _, ?_, readAs_domain hname hstar hdomain⟩
      rw [test, hpattern, if_neg (by simpa using hstar), hdomain]
      rfl
    · exact ⟨_, _, test_of_isLiteral ⟨htilde, hdot, hstar⟩ dialect, readAs_literal hname ⟨htilde, hdot, hstar⟩⟩

theorem exists_readAs_all {names : List String} (hnames : ∀ name ∈ names, Plain name ∧ name.toList.head? ≠ some '~')
    (dialect : Dialect) : ∃ tests operands, names.mapM (test dialect) = .ok tests ∧
      List.Forall₂ (fun text o => ∀ rest, readOperand? "hostname" (text.toList ++ rest) = some (o, rest))
        (tests.map (Test.render "hostname")) operands ∧
      ∀ host, Plain host → Text.lower host = host →
        ((∃ o ∈ operands, o.Holds host) ↔ ∃ name ∈ names, Covers name host) := by
  induction names with
  | nil => exact ⟨[], [], rfl, .nil, by simp⟩
  | cons name names ih =>
      obtain ⟨⟨hname, htilde⟩, hnames⟩ := List.forall_mem_cons.mp hnames
      obtain ⟨t, o, ht, ho⟩ := exists_readAs hname htilde dialect
      obtain ⟨tests, operands, htests, hread, hholds⟩ := ih hnames
      refine ⟨t :: tests, o :: operands, ?_, .cons ho.read hread, ?_⟩
      · rw [List.mapM_cons, ht, htests]
        rfl
      · intro host hplain hlower
        rw [List.exists_mem_cons_iff, List.exists_mem_cons_iff, ho.holds host hplain hlower, hholds host hplain hlower]

theorem covers_star (host : String) : Covers "*" host := by
  rw [Covers, if_pos (by decide)]
  exact ⟨host.toList, [], (List.append_nil _).symm, rfl⟩

theorem readAlternatives?_true :
    readAlternatives? "hostname" ((⟨[.constant true], false⟩ : Condition).render "hostname").toList =
      some [.constant true] := by
  refine readAlternatives?_joined (List.cons_ne_nil _ _) (.cons ?_ .nil)
  intro rest
  exact readOperand?_true

/-- The condition that the names of a server put on the host means what the names say: it can be read, and it is true of
just the hosts that one of the names covers. Without names it is true of every host. -/
theorem condition_means_names {names : List String}
    (hnames : ∀ name ∈ names, Plain name ∧ name.toList.head? ≠ some '~') (dialect : Dialect) :
    ∃ c operands, condition names dialect = .ok c ∧
      readAlternatives? "hostname" (c.render "hostname").toList = some operands ∧
      (names = [] → ∀ host, ∃ o ∈ operands, o.Holds host) ∧
      (names ≠ [] → ∀ host, Plain host → Text.lower host = host →
        ((∃ o ∈ operands, o.Holds host) ↔ ∃ name ∈ names, Covers name host)) := by
  unfold condition
  by_cases hall : (names.isEmpty || names.contains "*") = true
  · have htrue : ∀ host, ∃ o ∈ [Operand.constant true], o.Holds host := by
      intro host
      exact ⟨_, List.mem_singleton.mpr rfl, rfl⟩
    refine ⟨_, _, if_pos hall, readAlternatives?_true, fun _ => htrue, fun hne host _ _ => iff_of_true (htrue host) ?_⟩
    rw [Bool.or_eq_true, List.isEmpty_iff, List.contains_iff_mem] at hall
    exact ⟨"*", hall.resolve_left hne, covers_star host⟩
  · obtain ⟨tests, operands, htests, hread, hholds⟩ := exists_readAs_all hnames dialect
    have hne : names ≠ [] := by
      rintro rfl
      exact hall rfl
    have htexts : tests.map (Test.render "hostname") ≠ [] := by
      have hlength := (mapM_eq_ok_iff.mp htests).length_eq
      rintro htexts
      rw [List.map_eq_nil_iff.mp htexts, List.length_nil, List.length_eq_zero_iff] at hlength
      exact hne hlength
    refine ⟨⟨tests, false⟩, operands, ?_, readAlternatives?_joined htexts hread, fun h => absurd h hne, fun _ => hholds⟩
    rw [if_neg hall, htests]
    rfl

/-- Characters with a meaning in patterns stand for themselves, and a domain is not a suffix in the middle of a word. -/
theorem condition_means_names_escaped :
    (∀ name ∈ ["*.Shop$[1]", ".Example.com"], Plain name ∧ name.toList.head? ≠ some '~') ∧
      ∃ c operands, condition ["*.Shop$[1]", ".Example.com"] .ecmascript = .ok c ∧
        readAlternatives? "hostname" (c.render "hostname").toList = some operands ∧
        (∀ host ∈ ["eu.shop$[1]", "example.com", "www.example.com"], ∃ o ∈ operands, o.Holds host) ∧
        ∀ host ∈ ["eu.shop1", "myexample.com", "www.examplexcom"], ¬ ∃ o ∈ operands, o.Holds host := by
  have hnames : ∀ name ∈ ["*.Shop$[1]", ".Example.com"], Plain name ∧ name.toList.head? ≠ some '~' := by decide
  obtain ⟨c, operands, hc, hread, -, hmeans⟩ := condition_means_names hnames .ecmascript
  have hiff := hmeans (List.cons_ne_nil _ _)
  refine ⟨hnames, c, operands, hc, hread, fun host hhost => ?_, fun host hhost => ?_⟩
  · obtain ⟨hplain, hlower, hcovers⟩ : Plain host ∧ Text.lower host = host ∧
        ∃ name ∈ ["*.Shop$[1]", ".Example.com"], Covers name host := by
      revert host
      decide +kernel
    exact (hiff host hplain hlower).mpr hcovers
  · obtain ⟨hplain, hlower, hcovers⟩ : Plain host ∧ Text.lower host = host ∧
        ¬ ∃ name ∈ ["*.Shop$[1]", ".Example.com"], Covers name host := by
      revert host
      decide +kernel
    exact mt (hiff host hplain hlower).mp hcovers

end Host

end EdgeRoutes
