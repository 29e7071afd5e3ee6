import EdgeRoutes.Proofs.ClassReading
import EdgeRoutes.Proofs.Conversions
import Mathlib.Data.List.TakeWhile
import Mathlib.Tactic.SplitIfs

/-! The two readings of an address. The strict one leaves out the blanks around it, and what follows the host starts
with a slash, a question mark or a number sign. The lenient one looks for a slash after the host and leaves nothing out.
For an address that can be read strictly they give the same part after the origin, unless the part does not start with a
slash or a blank follows it. -/

namespace EdgeRoutes

open Http ProxyTarget

namespace Text

theorem dropEndWhile_append (p : Char → Bool) (cs : List Char) :
    dropEndWhile p cs ++ (cs.reverse.takeWhile p).reverse = cs := by
  rw [dropEndWhile, ← List.reverse_append, List.takeWhile_append_dropWhile, List.reverse_reverse]

/-- Trimming takes away characters with the property at both ends, and all there are at the end. -/
theorem exists_trimWhile (p : Char → Bool) (cs : List Char) : ∃ before after,
    cs = before ++ (trimWhile p cs ++ after) ∧ (∀ c ∈ before, p c = true) ∧ (∀ c ∈ after, p c = true) ∧
      ∀ c, (trimWhile p cs).getLast? = some c → p c = false := by
  refine ⟨cs.takeWhile p, ((cs.dropWhile p).reverse.takeWhile p).reverse, ?_, ?_, ?_, ?_⟩
  · rw [trimWhile, dropEndWhile_append, List.takeWhile_append_dropWhile]
  · exact fun c hc => List.mem_takeWhile_imp hc
  · exact fun c hc => List.mem_takeWhile_imp (List.mem_reverse.mp hc)
  · intro c hc
    have hhead := List.head?_dropWhile_not p (cs.dropWhile p).reverse
    rw [trimWhile, dropEndWhile, List.getLast?_reverse] at hc
    rw [hc] at hhead
    exact hhead

theorem after?_eq_none_of_ne {m c : Char} (h : m ≠ c) (ms cs : List Char) : after? (m :: ms) (c :: cs) = none := by
  rw [after?, if_neg h]

/-- A text without the first character of the mark is cut at the mark after it. -/
theorem cut?_append {m : Char} {ms before : List Char} (h : m ∉ before) (rest : List Char) :
    cut? (m :: ms) (before ++ ((m :: ms) ++ rest)) = some (before, rest) := by
  induction before with
  | nil =>
      unfold cut?
      rw [List.nil_append, after?_append]
  | cons c before ih =>
      rw [List.mem_cons, not_or] at h
      rw [List.cons_append, cut?, after?_eq_none_of_ne h.1]
      simp only [ih h.2, Option.map_some]

end Text

/-- No blank stands at the end of the text. -/
def EndsUnblank (text : String) : Prop := ∀ c, text.toList.getLast? = some c → Text.isBlank c = false

instance (text : String) : Decidable (EndsUnblank text) :=
  decidable_of_iff (text.toList.getLast?.any Text.isBlank = false) <| by
    unfold EndsUnblank
    cases text.toList.getLast? <;> simp

namespace Http

/-- A scheme stands before the mark, and has no colon. -/
theorem scheme?_eq_some {cs scheme body : List Char} (h : scheme? cs = some (scheme, body)) :
    cs = scheme ++ ("://".toList ++ body) ∧ ':' ∉ scheme := by
  unfold scheme? at h
  split at h
  · next a b c d rest =>
      split_ifs at h with hhttp
      have hletters : ∀ x ∈ [a, b, c, d], x ≠ ':' := by
        rintro x hx rfl
        have hmem : Char.toLower ':' ∈ [a, b, c, d].map Char.toLower := List.mem_map_of_mem hx
        rw [hhttp] at hmem
        exact absurd hmem (by decide)
      split at h
      · next found hafter =>
          cases h
          refine ⟨?_, fun hmem => hletters _ hmem rfl⟩
          rw [Text.after?_eq_some hafter]
          rfl
      · next hafter =>
          split at h
          · next s rest =>
              split_ifs at h with hs
              obtain ⟨found, hfound, heq⟩ := Option.map_eq_some_iff.mp h
              cases heq
              refine ⟨?_, fun hmem => ?_⟩
              · rw [Text.after?_eq_some hfound]
                rfl
              · rcases List.mem_append.mp (show ':' ∈ [a, b, c, d] ++ [s] from hmem) with hmem | hmem
                · exact hletters _ hmem rfl
                · rw [← List.mem_singleton.mp hmem] at hs
                  exact absurd hs (by decide)
          · cases h
  · cases h

/-- The part after an origin, if there is one. -/
def partOf (rest : List Char) : Option String := if rest.isEmpty then none else some (String.ofList rest)

/-- What follows the authority of an address. -/
def afterAuthority (body : List Char) : List Char := body.dropWhile (!endsAuthority ·)

/-- An address behind a scheme, part by part. -/
theorem parse_of_scheme {url : String} {scheme body : List Char}
    (hscheme : scheme? (Text.trim url).toList = some (scheme, body)) :
    ProxyTarget.parse url =
      if (afterAuthority body).contains '\n' then .error (.upstreamUrl url UrlDefect.notHttp.message)
      else match hostAndPort (body.takeWhile (!endsAuthority ·)) with
        | .error defect => .error (.upstreamUrl url defect.message)
        | .ok (host, port) =>
          (portNumber url (Text.lower (String.ofList scheme)) (String.ofList port)).map fun n =>
            ⟨url, Text.lower (String.ofList scheme), Text.lower (String.ofList host), n,
              partOf (afterAuthority body)⟩ := by
  simp only [ProxyTarget.parse, hscheme]
  by_cases hline : (afterAuthority body).contains '\n' = true
  · rw [if_pos hline]
    exact if_pos hline
  · rw [if_neg hline]
    refine (if_neg hline).trans ?_
    cases hostAndPort (body.takeWhile (!endsAuthority ·)) with
    | error defect => rfl
    | ok found =>
        obtain ⟨host, port⟩ := found
        dsimp only
        by_cases hempty : (String.ofList port).isEmpty = true
        · rw [if_pos hempty, portNumber, if_pos hempty]
          cases standardPort (Text.lower (String.ofList scheme)) <;> rfl
        · rw [if_neg hempty, portNumber, if_neg hempty]
          rcases portOf (String.ofList port) with fault | - | n <;> rfl

/-- An address that can be read strictly, and what is read. -/
theorem parse_eq_ok_iff {url : String} {t : ProxyTarget} :
    ProxyTarget.parse url = .ok t ↔
      ∃ scheme body host port, scheme? (Text.trim url).toList = some (scheme, body) ∧
        '\n' ∉ afterAuthority body ∧ hostAndPort (body.takeWhile (!endsAuthority ·)) = .ok (host, port) ∧
        portNumber url (Text.lower (String.ofList scheme)) (String.ofList port) = .ok t.port ∧
        t = ⟨url, Text.lower (String.ofList scheme), Text.lower (String.ofList host), t.port,
          partOf (afterAuthority body)⟩ := by
  cases hscheme : scheme? (Text.trim url).toList with
  | none => simp [ProxyTarget.parse, hscheme]
  | some found =>
      obtain ⟨scheme, body⟩ := found
      have hline : (afterAuthority body).contains '\n' = true ↔ '\n' ∈ afterAuthority body := List.contains_iff_mem
      rw [parse_of_scheme hscheme]
      constructor
      · intro h
        split_ifs at h with hbroken
        split at h
        · cases h
        · next host port hhost =>
            obtain ⟨n, hport, rfl⟩ := map_eq_ok_iff.mp h
            exact ⟨scheme, body, host, port, rfl, mt hline.mpr hbroken, hhost, hport, rfl⟩
      · rintro ⟨scheme', body', host, port, hfound, hbroken, hhost, hport, ht⟩
        cases hfound
        rw [if_neg (mt hline.mp hbroken), hhost]
        exact map_eq_ok_iff.mpr ⟨t.port, hport, ht.symm⟩

theorem uri_of_parse {url : String} {t : ProxyTarget} (h : ProxyTarget.parse url = .ok t) :
    ∃ scheme body, scheme? (Text.trim url).toList = some (scheme, body) ∧
      t.uri = partOf (afterAuthority body) := by
  obtain ⟨scheme, body, host, port, hscheme, -, -, -, ht⟩ := parse_eq_ok_iff.mp h
  exact ⟨scheme, body, hscheme, congrArg ProxyTarget.uri ht⟩

/-- An address that can be read strictly, with the blanks around it. -/
theorem exists_body_of_parse {url : String} {t : ProxyTarget} (h : ProxyTarget.parse url = .ok t) :
    ∃ before body after, url.toList = before ++ ("://".toList ++ (body ++ after)) ∧ ':' ∉ before ∧
      (∀ c ∈ after, Text.isBlank c = true) ∧ (after = [] ↔ EndsUnblank url) ∧
      t.uri = partOf (afterAuthority body) := by
  obtain ⟨scheme, body, hscheme, huri⟩ := uri_of_parse h
  obtain ⟨before, after, hurl, hbefore, hafter, hlast⟩ := Text.exists_trimWhile Text.isBlank url.toList
  rw [Text.trim, String.toList_ofList] at hscheme
  obtain ⟨htrimmed, hcolon⟩ := scheme?_eq_some hscheme
  refine ⟨before ++ scheme, body, after, ?_, ?_, hafter, ?_, huri⟩
  · conv_lhs => rw [hurl, htrimmed]
    simp only [List.append_assoc]
  · rw [List.mem_append, not_or]
    refine ⟨fun hmem => ?_, hcolon⟩
    exact absurd (hbefore ':' hmem) (by decide)
  · unfold EndsUnblank
    constructor
    · rintro rfl c hc
      rw [hurl, List.append_nil, List.getLast?_append_of_ne_nil] at hc
      · exact hlast c hc
      · rw [htrimmed]
        simp
    · intro hurl'
      by_contra hne
      obtain ⟨c, hc⟩ : ∃ c, after.getLast? = some c := Option.isSome_iff_exists.mp (List.getLast?_isSome.mpr hne)
      have hend : url.toList.getLast? = some c := by
        rw [hurl, ← List.append_assoc, List.getLast?_append_of_ne_nil _ hne, hc]
      have hnot := hurl' c hend
      rw [hafter c (List.mem_of_getLast? hc)] at hnot
      cases hnot

/-- The lenient reading of an address takes the part from the first slash behind the authority on. -/
theorem splitProxyPass_of_append {url : String} {before body after : List Char}
    (hurl : url.toList = before ++ ("://".toList ++ (body ++ after))) (hcolon : ':' ∉ before) :
    (splitProxyPass url).2 = partOf ((afterAuthority body ++ after).dropWhile (· != '/')) := by
  have hcut : Text.cut? "://".toList url.toList = some (before, body ++ after) := by
    rw [hurl]
    exact Text.cut?_append hcolon _
  have hauthority : ∀ c ∈ body.takeWhile (!endsAuthority ·), (c != '/') = true := by
    intro c hc
    have hinside := List.mem_takeWhile_imp hc
    rw [bne_iff_ne]
    rintro rfl
    cases hinside
  have hdrop : (body ++ after).dropWhile (· != '/') = (afterAuthority body ++ after).dropWhile (· != '/') := calc
    (body ++ after).dropWhile (· != '/')
      = (body.takeWhile (!endsAuthority ·) ++ (afterAuthority body ++ after)).dropWhile (· != '/') := by
        rw [← List.append_assoc, afterAuthority, List.takeWhile_append_dropWhile]
    _ = (afterAuthority body ++ after).dropWhile (· != '/') := List.dropWhile_append_of_pos hauthority
  rw [splitProxyPass, hcut, ← hdrop, partOf]
  simp only
  split_ifs <;> rfl

/-- Looking for a slash finds the whole part just if it starts with one and nothing follows it. -/
theorem partOf_dropWhile_eq_iff {rest after : List Char} (hafter : '/' ∉ after) :
    partOf ((rest ++ after).dropWhile (· != '/')) = partOf rest ↔
      ∀ uri, partOf rest = some uri → uri.toList.head? = some '/' ∧ after = [] := by
  cases rest with
  | nil =>
      have hnone : after.dropWhile (· != '/') = [] := by
        refine List.dropWhile_eq_nil_iff.mpr fun c hc => bne_iff_ne.mpr ?_
        rintro rfl
        exact hafter hc
      rw [List.nil_append, hnone]
      exact iff_of_true rfl nofun
  | cons c rest =>
      have hpart : partOf (c :: rest) = some (String.ofList (c :: rest)) := rfl
      have hhead : ∀ uri, partOf (c :: rest) = some uri → uri.toList.head? = some c := by
        rintro uri ⟨⟩
        rw [String.toList_ofList, List.head?_cons]
      by_cases hslash : c = '/'
      · have hkept : ((c :: rest) ++ after).dropWhile (· != '/') = (c :: rest) ++ after := by
          rw [List.cons_append, List.dropWhile_cons, hslash]
          rfl
        have hparts : partOf ((c :: rest) ++ after) = some (String.ofList (c :: rest)) ↔ after = [] := by
          rw [List.cons_append, partOf, List.isEmpty_cons, if_neg Bool.false_ne_true, Option.some.injEq,
            String.ofList_inj, ← List.cons_append, List.append_right_eq_self]
        rw [hkept, hpart, hparts, ← hpart]
        exact ⟨fun hnil uri huri => ⟨hslash ▸ hhead uri huri, hnil⟩, fun hall => (hall _ hpart).2⟩
      · -- a part that is found starts with a slash, unlike this one
        have hfound := List.head?_dropWhile_not (· != '/') ((c :: rest) ++ after)
        refine iff_of_false (fun heq => ?_) fun hall => ?_
        · rw [hpart] at heq
          unfold partOf at heq
          split_ifs at heq
          rw [String.ofList_inj.mp (Option.some.inj heq)] at hfound
          exact absurd (by simpa using hfound) hslash
        · exact hslash (Option.some.inj ((hhead _ hpart).symm.trans (hall _ hpart).1))

/-- The two readings of an address give the same part after the origin just if the part starts with a slash and no blank
follows it. -/
theorem splitProxyPass_eq_iff {url : String} {t : ProxyTarget} (h : ProxyTarget.parse url = .ok t) :
    (splitProxyPass url).2 = t.uri ↔ ∀ uri, t.uri = some uri → uri.toList.head? = some '/' ∧ EndsUnblank url := by
  obtain ⟨before, body, after, hurl, hcolon, hblank, hafter, huri⟩ := exists_body_of_parse h
  have hslash : '/' ∉ after := fun hmem => absurd (hblank '/' hmem) (by decide)
  rw [splitProxyPass_of_append hurl hcolon, huri, partOf_dropWhile_eq_iff hslash, hafter]

end Http

end EdgeRoutes
