import EdgeRoutes.Proofs.LowerCase
import EdgeRoutes.Proofs.UpstreamAddresses

/-! The parts of an address. What the strict reading of an address returns are the parts that the address is written
with, unless it drops text that stands between the bracket of a host and the end of the authority. The origin of an
address that is read again gives the same parts, unless the standard port is left out behind a host with a colon, or
behind a host that ends in a blank. -/

namespace EdgeRoutes

open Number Http ProxyTarget

namespace Text

theorem cutLast?_eq_none_iff {mark : Char} {cs : List Char} : cutLast? mark cs = none ↔ mark ∉ cs := by
  induction cs with
  | nil => simp [cutLast?]
  | cons c cs ih =>
      rw [cutLast?, List.mem_cons, not_or, ← ih]
      cases hcut : cutLast? mark cs with
      | none => simp [eq_comm]
      | some found => simp

/-- The last mark is the one with none after it. -/
theorem cutLast?_eq_some_iff {mark : Char} {cs before after : List Char} :
    cutLast? mark cs = some (before, after) ↔ cs = before ++ mark :: after ∧ mark ∉ after := by
  induction cs generalizing before after with
  | nil => simp [cutLast?]
  | cons c cs ih =>
      rw [cutLast?]
      cases before with
      | nil =>
          cases hcut : cutLast? mark cs with
          | none =>
              have hnot := cutLast?_eq_none_iff.mp hcut
              by_cases hc : c = mark
              · simp only [hc, if_true, Option.some.injEq, Prod.mk.injEq, true_and, List.nil_append, List.cons.injEq]
                exact ⟨fun h => ⟨h, h ▸ hnot⟩, And.left⟩
              · simp [hc]
          | some found =>
              refine iff_of_false (by simp) ?_
              rintro ⟨h, hafter⟩
              cases h
              rw [cutLast?_eq_none_iff.mpr hafter] at hcut
              cases hcut
      | cons b before =>
          rw [List.cons_append, List.cons.injEq, and_assoc, ← ih]
          cases cutLast? mark cs with
          | none =>
              dsimp only
              split_ifs <;> simp
          | some found => simp [Prod.ext_iff, and_assoc]

theorem cut?_singleton_eq_none_iff {mark : Char} {cs : List Char} : cut? [mark] cs = none ↔ mark ∉ cs := by
  induction cs with
  | nil => simp [cut?, after?]
  | cons c cs ih =>
      rw [cut?, after?, List.mem_cons, not_or, ← ih]
      by_cases hc : mark = c <;> simp [hc, after?]

/-- The first mark is the one with none before it. -/
theorem cut?_singleton_eq_some_iff {mark : Char} {cs before after : List Char} :
    cut? [mark] cs = some (before, after) ↔ cs = before ++ mark :: after ∧ mark ∉ before := by
  constructor
  · intro h
    refine ⟨cut?_eq_some h, ?_⟩
    induction cs generalizing before with
    | nil =>
        rw [cut?_singleton_eq_none_iff.mpr List.not_mem_nil] at h
        cases h
    | cons c cs ih =>
        rw [cut?, after?] at h
        by_cases hc : mark = c
        · rw [if_pos hc] at h
          cases h
          exact List.not_mem_nil
        · rw [if_neg hc] at h
          obtain ⟨⟨first, last⟩, hcut, heq⟩ := Option.map_eq_some_iff.mp h
          cases heq
          exact List.not_mem_cons_of_ne_of_not_mem hc (ih hcut)
  · rintro ⟨rfl, hbefore⟩
    exact cut?_append hbefore after

end Text

namespace Http

/-- How an authority is split into a host and the text of a port. A host in brackets ends with its bracket, and what
follows it without a colon is dropped; any other host ends before the last colon. -/
inductive Splits : List Char → List Char → List Char → Prop where
  | bracketed {inside after : List Char} (hinside : ']' ∉ inside) (hafter : after.head? ≠ some ':') :
      Splits ('[' :: (inside ++ ']' :: after)) ('[' :: (inside ++ [']'])) []
  | bracketedPort {inside port : List Char} (hinside : ']' ∉ inside) :
      Splits ('[' :: (inside ++ ']' :: ':' :: port)) ('[' :: (inside ++ [']'])) port
  | port {host port : List Char} (hopen : (host ++ ':' :: port).head? ≠ some '[') (hport : ':' ∉ port) :
      Splits (host ++ ':' :: port) host port
  | plain {host : List Char} (hopen : host.head? ≠ some '[') (hcolon : ':' ∉ host) : Splits host host []

/-- What the splitter of authorities returns is a split of the authority. -/
theorem splits_of_splitAuthority {authority host port : List Char}
    (h : splitAuthority authority = .ok (host, port)) : Splits authority host port := by
  unfold splitAuthority at h
  split at h
  · next cs =>
      split at h
      · cases h
      · next before rest hcut =>
          obtain ⟨hcs, hbefore⟩ := Text.cut?_singleton_eq_some_iff.mp hcut
          cases before with
          | nil => cases hcs
          | cons c inside =>
              cases hcs
              have hinside := fun hmem => hbefore (List.mem_cons_of_mem _ hmem)
              cases h
              split
              · exact Splits.bracketedPort hinside
              · next hrest => exact Splits.bracketed hinside (head?_ne_of_forall hrest)
  · next hopen =>
      have hopen := head?_ne_of_forall hopen
      split at h
      · next found before last hcut =>
          obtain ⟨rfl, hlast⟩ := Text.cutLast?_eq_some_iff.mp hcut
          cases h
          exact Splits.port hopen hlast
      · next hcut =>
          cases h
          exact Splits.plain hopen (Text.cutLast?_eq_none_iff.mp hcut)

/-- Without a bracket in front, the last colon decides. -/
theorem splitAuthority_of_head? {cs : List Char} (hcs : cs.head? ≠ some '[') :
    splitAuthority cs = .ok ((Text.cutLast? ':' cs).getD (cs, [])) := by
  unfold splitAuthority
  split
  · exact absurd rfl hcs
  · cases Text.cutLast? ':' cs <;> rfl

theorem splitAuthority_of_splits {authority host port : List Char} (h : Splits authority host port) :
    splitAuthority authority = .ok (host, port) := by
  have hcut : ∀ {inside after : List Char}, ']' ∉ inside →
      Text.cut? [']'] ('[' :: (inside ++ ']' :: after)) = some ('[' :: inside, after) := fun hinside =>
    Text.cut?_singleton_eq_some_iff.mpr ⟨rfl, List.not_mem_cons_of_ne_of_not_mem (by decide) hinside⟩
  cases h with
  | @bracketed inside after hinside hafter =>
      simp only [splitAuthority, hcut hinside, List.cons_append]
      split
      · exact absurd rfl hafter
      · rfl
  | bracketedPort hinside => simp only [splitAuthority, hcut hinside, List.cons_append]
  | port hopen hport =>
      rw [splitAuthority_of_head? hopen, Text.cutLast?_eq_some_iff.mpr ⟨rfl, hport⟩, Option.getD_some]
  | plain hopen hcolon =>
      rw [splitAuthority_of_head? hopen, Text.cutLast?_eq_none_iff.mpr hcolon, Option.getD_none]

theorem splitAuthority_eq_ok_iff {authority host port : List Char} :
    splitAuthority authority = .ok (host, port) ↔ Splits authority host port :=
  ⟨splits_of_splitAuthority, splitAuthority_of_splits⟩

/-- An authority has a host and a port just if it holds neither a variable nor credentials and splits into parts with a
host. -/
theorem hostAndPort_eq_ok_iff {authority host port : List Char} :
    hostAndPort authority = .ok (host, port) ↔
      authority ≠ [] ∧ '$' ∉ authority ∧ '@' ∉ authority ∧ Splits authority host port ∧ host ≠ [] := by
  have hsteps : hostAndPort authority =
      if authority.isEmpty then .error .noHost
      else if authority.contains '$' then .error .variableHost
      else if authority.contains '@' then .error .credentials
      else (splitAuthority authority).bind fun found =>
        if found.1.isEmpty then .error .noHost else .ok found := by
    unfold hostAndPort
    split_ifs <;> rfl
  rw [hsteps]
  split_ifs with hempty hvariable hcredentials
  · simp [List.isEmpty_iff.mp hempty]
  · simp [List.contains_iff_mem.mp hvariable]
  · simp [List.contains_iff_mem.mp hcredentials]
  · have hvariable := mt List.contains_iff_mem.mpr hvariable
    have hcredentials := mt List.contains_iff_mem.mpr hcredentials
    have hne : authority ≠ [] := by simpa using hempty
    rw [bind_eq_ok_iff]
    simp only [hne, hvariable, hcredentials, ne_eq, not_false_eq_true, true_and, ← splitAuthority_eq_ok_iff]
    constructor
    · rintro ⟨⟨host', port'⟩, hsplit, h⟩
      split_ifs at h with hhost
      cases h
      exact ⟨hsplit, by simpa using hhost⟩
    · rintro ⟨hsplit, hhost⟩
      exact ⟨(host, port), hsplit, by rw [if_neg (by simpa using hhost)]⟩

/-- The text of a port is taken if it is made of digits for a number that fits into two bytes. -/
theorem portOf_eq_some_iff {text : String} {n : Nat} :
    portOf text = .ok (some n) ↔
      Text.allDigits text = true ∧ readNatural text = .ok n ∧ 0 < n ∧ n < 65536 := by
  unfold portOf
  split_ifs with hdigits
  · cases hread : readNatural text with
    | error cause => simp [Except.mapError, bind, Except.bind]
    | ok m =>
        simp only [Except.mapError, bind, Except.bind, pure, Except.pure, Except.ok.injEq, hdigits, true_and]
        split_ifs with hrange
        · simp only [Option.some.injEq]
          constructor
          · rintro rfl
            exact ⟨rfl, hrange⟩
          · exact And.left
        · simp only [false_iff, not_and]
          rintro rfl hpos hlt
          exact hrange ⟨hpos, hlt⟩
  · simp [hdigits]

/-- The text of a port, with the colon before it, denotes the number: the standard one of the scheme if there are no
digits. -/
inductive Denotes (scheme : String) (n : Nat) : String → Prop where
  | missing (h : standardPort scheme = .ok n) : Denotes scheme n ""
  | empty (h : standardPort scheme = .ok n) : Denotes scheme n ":"
  | digits {text : String} (hdigits : Text.allDigits text = true) (h : readNatural text = .ok n) :
      Denotes scheme n (":" ++ text)

theorem portNumber_eq_ok_iff {url scheme text : String} {n : Nat} :
    portNumber url scheme text = .ok n ↔
      text = "" ∧ standardPort scheme = .ok n ∨ text ≠ "" ∧ portOf text = .ok (some n) := by
  unfold portNumber
  by_cases hempty : text = ""
  · simp [hempty]
  · rw [if_neg (by simpa using hempty), bind_eq_ok_iff]
    simp only [hempty, false_and, ne_eq, not_false_eq_true, true_and, false_or]
    constructor
    · rintro ⟨- | m, hport, h⟩
      · cases h
      · cases h
        exact hport
    · intro h
      exact ⟨some n, h, rfl⟩

/-- The authority of an address: what stands behind the scheme, up to the character that ends it. -/
def authorityOf (url : String) : List Char :=
  match scheme? (Text.trim url).toList with
  | some (_, body) => body.takeWhile (!endsAuthority ·)
  | none => []

/-- An address as it is read: the pieces of its text, and what becomes of them. -/
structure ReadAs (url : String) (t : ProxyTarget) (scheme authority rest host port : List Char) : Prop where
  text : (Text.trim url).toList = scheme ++ ("://".toList ++ (authority ++ rest))
  noColon : ':' ∉ scheme
  unended : ∀ c ∈ authority, endsAuthority c = false
  ended : ∀ c, rest.head? = some c → endsAuthority c = true
  line : '\n' ∉ rest
  named : hostAndPort authority = .ok (host, port)
  number : portNumber url t.scheme (String.ofList port) = .ok t.port
  scheme_eq : t.scheme = Text.lower (String.ofList scheme)
  host_eq : t.host = Text.lower (String.ofList host)
  uri_eq : t.uri = partOf rest

theorem exists_readAs {url : String} {t : ProxyTarget} (h : ProxyTarget.parse url = .ok t) :
    ∃ scheme rest host port, ReadAs url t scheme (authorityOf url) rest host port := by
  obtain ⟨scheme, body, host, port, hscheme, hline, hnamed, hnumber, ht⟩ := parse_eq_ok_iff.mp h
  obtain ⟨htext, hcolon⟩ := scheme?_eq_some hscheme
  have hauthority : authorityOf url = body.takeWhile (!endsAuthority ·) := by rw [authorityOf, hscheme]
  have hlow : t.scheme = Text.lower (String.ofList scheme) := by rw [ht]
  rw [hauthority]
  refine ⟨scheme, afterAuthority body, host, port, ?_, hcolon, ?_, ?_, hline, hnamed, by rw [hlow]; exact hnumber, hlow,
    by rw [ht], by rw [ht]⟩
  · rw [afterAuthority, List.takeWhile_append_dropWhile]
    exact htext
  · intro c hc
    simpa using List.mem_takeWhile_imp hc
  · intro c hc
    have hhead := List.head?_dropWhile_not (!endsAuthority ·) body
    rw [show (body.dropWhile (!endsAuthority ·)).head? = some c from hc] at hhead
    simpa using hhead

/-- The address, without the blanks around it, is the parts that were read and nothing else. -/
def Lossless (url : String) (t : ProxyTarget) : Prop :=
  IsStandardScheme t.scheme ∧ ∃ scheme host port : String,
    Text.trim url = scheme ++ "://" ++ host ++ port ++ t.uri.getD "" ∧ Text.lower scheme = t.scheme ∧
      Text.lower host = t.host ∧ Denotes t.scheme t.port port

/-- Nothing but a port follows the bracket that closes the host of the authority. -/
def BracketEnds (authority : List Char) : Prop :=
  ∀ inside after, authority = '[' :: (inside ++ ']' :: after) → ']' ∉ inside → after = [] ∨ after.head? = some ':'

theorem getD_partOf (rest : List Char) : (partOf rest).getD "" = String.ofList rest := by
  cases rest <;> rfl

theorem denotes_of_portNumber {url scheme : String} {port : List Char} {n : Nat}
    (h : portNumber url scheme (String.ofList port) = .ok n) : Denotes scheme n (":" ++ String.ofList port) := by
  rcases portNumber_eq_ok_iff.mp h with ⟨hempty, hstandard⟩ | ⟨-, hport⟩
  · rw [hempty]
    exact Denotes.empty hstandard
  · obtain ⟨hdigits, hread, -⟩ := portOf_eq_some_iff.mp hport
    exact Denotes.digits hdigits hread

theorem head?_of_denotes {scheme : String} {n : Nat} {port : String} (h : Denotes scheme n port) :
    port.toList = [] ∨ port.toList.head? = some ':' := by
  cases h with
  | missing => exact Or.inl rfl
  | empty => exact Or.inr rfl
  | digits =>
      rw [String.toList_append]
      exact Or.inr rfl

/-- A host and the text of a port make up the authority, unless text after a bracket is dropped. -/
theorem exists_portText {url scheme : String} {authority host port : List Char} {n : Nat}
    (h : Splits authority host port) (hnumber : portNumber url scheme (String.ofList port) = .ok n)
    (hends : BracketEnds authority) :
    ∃ text : String, authority = host ++ text.toList ∧ Denotes scheme n text := by
  have hstandard : port = [] → standardPort scheme = .ok n := by
    rintro rfl
    rcases portNumber_eq_ok_iff.mp hnumber with ⟨-, hstandard⟩ | ⟨hne, -⟩
    · exact hstandard
    · exact absurd rfl hne
  have hgiven : (":" ++ String.ofList port).toList = ':' :: port := by
    simp [String.toList_append]
  cases h with
  | @bracketed inside after hinside hafter =>
      obtain rfl := (hends inside after rfl hinside).resolve_right hafter
      exact ⟨"", by simp, Denotes.missing (hstandard rfl)⟩
  | bracketedPort => exact ⟨_, by simp [hgiven], denotes_of_portNumber hnumber⟩
  | port => exact ⟨_, by rw [hgiven], denotes_of_portNumber hnumber⟩
  | plain => exact ⟨"", by simp, Denotes.missing (hstandard rfl)⟩

/-- A piece that starts the authority and reads like the host is the host. -/
theorem eq_host_of_lower {authority host rest piece after : List Char} (hhost : authority = host ++ rest)
    (hpiece : authority = piece ++ after)
    (hlower : Text.lower (String.ofList piece) = Text.lower (String.ofList host)) : piece = host := by
  have hlengths : (Text.lowerFrom [] piece).length = (Text.lowerFrom [] host).length := by
    have hlists := congrArg (fun s : String => s.toList.length) hlower
    simpa only [Text.lower, String.toList_ofList] using hlists
  rcases List.append_eq_append_iff.mp (hhost.symm.trans hpiece) with ⟨more, hmore, -⟩ | ⟨more, hmore, -⟩
  · by_cases hnil : more = []
    · rw [hmore, hnil, List.append_nil]
    · have hlt := Text.length_lowerFrom_lt [] [] host hnil
      rw [hmore] at hlengths
      omega
  · by_cases hnil : more = []
    · rw [hmore, hnil, List.append_nil]
    · have hlt := Text.length_lowerFrom_lt [] [] piece hnil
      rw [hmore] at hlengths
      omega

/-- A host in brackets ends with its bracket. -/
theorem host_of_bracketed {inside after host port : List Char} (hinside : ']' ∉ inside)
    (h : Splits ('[' :: (inside ++ ']' :: after)) host port) : host = '[' :: (inside ++ [']']) := by
  have hcut : Text.cut? [']'] ('[' :: (inside ++ ']' :: after)) = some ('[' :: inside, after) :=
    Text.cut?_singleton_eq_some_iff.mpr ⟨rfl, List.not_mem_cons_of_ne_of_not_mem (by decide) hinside⟩
  have hsplit := splitAuthority_of_splits h
  simp only [splitAuthority, hcut, Except.ok.injEq, Prod.mk.injEq] at hsplit
  exact hsplit.1.symm

theorem noColon_of_isStandardScheme {scheme : String} (h : IsStandardScheme scheme) : ':' ∉ scheme.toList := by
  rcases h with rfl | rfl <;> decide

/-- What follows the scheme of a text is settled by the text. -/
theorem eq_of_scheme {scheme scheme' body body' : List Char} (hcolon : ':' ∉ scheme) (hcolon' : ':' ∉ scheme')
    (h : scheme ++ ("://".toList ++ body) = scheme' ++ ("://".toList ++ body')) : body = body' := by
  have hcut : Text.cut? "://".toList (scheme ++ ("://".toList ++ body)) = some (scheme, body) :=
    Text.cut?_append hcolon body
  have hcut' : Text.cut? "://".toList (scheme' ++ ("://".toList ++ body')) = some (scheme', body') :=
    Text.cut?_append hcolon' body'
  rw [h, hcut'] at hcut
  cases hcut
  rfl

/-- An address is its parts just if the scheme is one of the two that have a standard port and no text after the bracket
of the host is dropped. -/
theorem lossless_iff {url : String} {t : ProxyTarget} {scheme authority rest host port : List Char}
    (h : ReadAs url t scheme authority rest host port) :
    Lossless url t ↔ IsStandardScheme t.scheme ∧ BracketEnds authority := by
  obtain ⟨-, -, -, hsplits, -⟩ := hostAndPort_eq_ok_iff.mp h.named
  have hrest : t.uri.getD "" = String.ofList rest := by rw [h.uri_eq, getD_partOf]
  refine and_congr_right fun hstandard => ⟨?_, fun hends => ?_⟩
  · rintro ⟨scheme', host', port', htext, hscheme, hhost, hport⟩
    have hcolon : ':' ∉ scheme'.toList := by
      rw [← Text.mem_lower_iff (by decide), hscheme]
      exact noColon_of_isStandardScheme hstandard
    have htext' : (Text.trim url).toList =
        scheme'.toList ++ ("://".toList ++ ((host'.toList ++ port'.toList) ++ rest)) := by
      rw [htext, hrest]
      simp only [String.toList_append, String.toList_ofList, List.append_assoc]
    have hafter := eq_of_scheme h.noColon hcolon (h.text.symm.trans htext')
    have hauthority : authority = host'.toList ++ port'.toList := List.append_cancel_right hafter
    intro inside after hbracket hinside
    rw [hbracket] at hsplits
    have hend : authority = host ++ after := by
      rw [hbracket, host_of_bracketed hinside hsplits]
      simp
    have hsame : host'.toList = host := by
      refine eq_host_of_lower hend hauthority ?_
      rw [String.ofList_toList, hhost, h.host_eq]
    rw [hsame, hend] at hauthority
    rw [List.append_cancel_left hauthority]
    exact head?_of_denotes hport
  · obtain ⟨text, hauthority, hport⟩ := exists_portText hsplits h.number hends
    refine ⟨String.ofList scheme, String.ofList host, text, ?_, h.scheme_eq.symm, h.host_eq.symm, hport⟩
    rw [← String.toList_inj, h.text, hrest, hauthority]
    simp [String.toList_append, List.append_assoc]

/-- The origin that is written for the parts, with the part after it, is read as the same parts again. -/
def ReadsBack (t : ProxyTarget) : Prop :=
  ∃ origin t', t.origin = .ok origin ∧ ProxyTarget.parse (origin ++ t.uri.getD "") = .ok t' ∧
    t'.scheme = t.scheme ∧ t'.host = t.host ∧ t'.port = t.port ∧ t'.uri = t.uri

/-- The scheme leaves the port out. -/
def IsStandard (t : ProxyTarget) : Prop := standardPort t.scheme = .ok t.port

/-- What the origin puts behind the host: nothing for the standard port. -/
def portSuffix (t : ProxyTarget) : List Char :=
  if (standardPort t.scheme).toOption = some t.port then [] else ':' :: (toString t.port).toList

theorem portSuffix_of_isStandard {t : ProxyTarget} (h : IsStandard t) : portSuffix t = [] := by
  rw [portSuffix, h]
  exact if_pos rfl

theorem portSuffix_of_not_isStandard {t : ProxyTarget} (h : ¬ IsStandard t) :
    portSuffix t = ':' :: (toString t.port).toList := if_neg (mt toOption_eq_some_iff.mp h)

theorem origin_of_isStandardScheme {t : ProxyTarget} (h : IsStandardScheme t.scheme) :
    ∃ origin, t.origin = .ok origin ∧
      origin.toList = t.scheme.toList ++ ("://".toList ++ (t.host.toList ++ portSuffix t)) := by
  obtain ⟨standard, hstandard⟩ := (needs_standardPort t.scheme).returns.mpr h
  have horigin : t.origin = .ok (if standard == t.port then t.scheme ++ "://" ++ t.host
      else t.scheme ++ "://" ++ t.host ++ ":" ++ toString t.port) := by
    rw [ProxyTarget.origin, hasStandardPort, hstandard]
    rfl
  refine ⟨_, horigin, ?_⟩
  by_cases hport : standard = t.port
  · rw [if_pos (beq_iff_eq.mpr hport), portSuffix_of_isStandard (hstandard.trans (by rw [hport]))]
    simp [String.toList_append, List.append_assoc]
  · have hother : ¬ IsStandard t := fun h => hport (Except.ok.inj (hstandard.symm.trans h))
    rw [if_neg (by simpa using hport), portSuffix_of_not_isStandard hother]
    simp [String.toList_append, List.append_assoc]

theorem isStandardScheme_of_origin {t : ProxyTarget} {origin : String} (h : t.origin = .ok origin) :
    IsStandardScheme t.scheme := by
  refine (needs_standardPort t.scheme).returns.mp ?_
  obtain ⟨b, hb, -⟩ := bind_eq_ok_iff.mp h
  obtain ⟨standard, hstandard, -⟩ := map_eq_ok_iff.mp hb
  exact ⟨standard, hstandard⟩

/-- The number of a port is read from the digits that are written for it. -/
theorem portOf_toString {n : Nat} (hpos : 0 < n) (hlt : n < 65536) : portOf (toString n) = .ok (some n) := by
  have hne : (toString n).toList ≠ [] := by
    rw [toList_toString]
    exact Nat.toDigits_ne_nil
  have hascii : ∀ c ∈ (toString n).toList, c.toNat < 127 := fun c hc => by
    have := isDigit_bounds (isDigit_of_mem_toString hc)
    omega
  have hdecimal : ∀ c ∈ (toString n).toList, (Text.decimalValue? c).isSome = true := by
    intro c hc
    have := hascii c hc
    rw [Text.decimalValue?, if_pos (by omega), if_pos (isDigit_of_mem_toString hc)]
    rfl
  have hlength : (toString n).toList.length ≤ maxDigits := by
    rw [toList_toString]
    exact le_trans ((Nat.length_toDigits_le_iff (by decide) (by decide)).mpr (by omega : n < 10 ^ 5)) (by decide)
  have hplain : (toString n).toList.map plainForm = (toString n).toList := calc
    (toString n).toList.map plainForm = (toString n).toList.map id :=
      List.map_congr_left fun c hc => if_pos (hascii c hc)
    _ = (toString n).toList := List.map_id _
  have hread : readNatural (toString n) = .ok n := by
    rw [readNatural_of_isNumeral hne ⟨hdecimal, hlength⟩, hplain, toList_toString]
    exact congrArg Except.ok Nat.ofDigitChars_ten_toDigits
  exact portOf_eq_some_iff.mpr
    ⟨allDigits_iff.mpr ⟨hne, fun c hc => Text.isDigit_of_decimalValue? (hdecimal c hc)⟩, hread, hpos, hlt⟩

/-- Where the authority ends. -/
theorem authority_append {authority rest : List Char} (hauthority : ∀ c ∈ authority, endsAuthority c = false)
    (hrest : ∀ c, rest.head? = some c → endsAuthority c = true) :
    (authority ++ rest).takeWhile (!endsAuthority ·) = authority ∧ afterAuthority (authority ++ rest) = rest := by
  have hinside : ∀ c ∈ authority, (!endsAuthority c) = true := fun c hc => by rw [hauthority c hc]; rfl
  have hended : rest.takeWhile (!endsAuthority ·) = [] ∧ rest.dropWhile (!endsAuthority ·) = rest := by
    cases rest with
    | nil => exact ⟨rfl, rfl⟩
    | cons c rest =>
        have hc : ¬ (!endsAuthority c) = true := by simp [hrest c rfl]
        exact ⟨List.takeWhile_cons_of_neg hc, List.dropWhile_cons_of_neg hc⟩
  rw [afterAuthority, List.takeWhile_append_of_pos hinside, List.dropWhile_append_of_pos hinside, hended.1, hended.2,
    List.append_nil]
  exact ⟨rfl, rfl⟩

theorem mem_of_splits {authority host port : List Char} (h : Splits authority host port) {c : Char} (hc : c ∈ host) :
    c ∈ authority := by
  cases h with
  | bracketed | bracketedPort =>
      simp only [List.mem_cons, List.mem_append, List.not_mem_nil, or_false] at hc ⊢
      tauto
  | port => exact List.mem_append_left _ hc
  | plain => exact hc

namespace ReadAs

variable {url : String} {t : ProxyTarget} {scheme authority rest host port : List Char}

theorem splits (h : ReadAs url t scheme authority rest host port) : Splits authority host port :=
  (hostAndPort_eq_ok_iff.mp h.named).2.2.2.1

theorem scheme_lower (h : ReadAs url t scheme authority rest host port) : Text.lower t.scheme = t.scheme := by
  rw [h.scheme_eq, Text.lower_lower]

theorem host_lower (h : ReadAs url t scheme authority rest host port) : Text.lower t.host = t.host := by
  rw [h.host_eq, Text.lower_lower]

theorem isLow_of_mem_host (h : ReadAs url t scheme authority rest host port) {c : Char} (hc : c ∈ t.host.toList) :
    Text.IsLow c := by
  rw [h.host_eq] at hc
  exact Text.isLow_of_mem_lower hc

/-- The characters of ASCII in the host that are no letters are in the authority. -/
theorem mem_authority (h : ReadAs url t scheme authority rest host port) {c : Char} (hmark : Text.IsMark c)
    (hc : c ∈ t.host.toList) : c ∈ authority := by
  rw [h.host_eq, Text.mem_lower_iff hmark, String.toList_ofList] at hc
  exact mem_of_splits h.splits hc

theorem unended_host (h : ReadAs url t scheme authority rest host port) :
    ∀ c ∈ t.host.toList, endsAuthority c = false := by
  intro c hc
  by_contra hends
  rw [Bool.not_eq_false] at hends
  have hmark : Text.IsMark c := by
    simp only [endsAuthority, Bool.or_eq_true, beq_iff_eq] at hends
    rcases hends with (rfl | rfl) | rfl <;> decide
  rw [h.unended c (h.mem_authority hmark hc)] at hends
  cases hends

theorem host_ne_nil (h : ReadAs url t scheme authority rest host port) : t.host.toList ≠ [] := by
  obtain ⟨-, -, -, -, hne⟩ := hostAndPort_eq_ok_iff.mp h.named
  have hlt := Text.length_lowerFrom_lt [] [] [] hne
  rw [h.host_eq, Text.lower, String.toList_ofList, String.toList_ofList]
  exact List.ne_nil_of_length_pos hlt

/-- A host that starts with a bracket ends with the only one that closes it. -/
theorem bracketed_or_open (h : ReadAs url t scheme authority rest host port) :
    (∃ inside, t.host.toList = '[' :: (inside ++ [']']) ∧ ']' ∉ inside) ∨ t.host.toList.head? ≠ some '[' := by
  have hlow : t.host.toList = Text.lowerFrom [] host := by
    rw [h.host_eq, Text.lower, String.toList_ofList, String.toList_ofList]
  have hbracket : ∀ {inside : List Char}, host = '[' :: (inside ++ [']']) → ']' ∉ inside →
      ∃ inside, t.host.toList = '[' :: (inside ++ [']']) ∧ ']' ∉ inside := by
    intro inside hhost hinside
    obtain ⟨lows, hlows, hnot⟩ := Text.exists_lowerFrom_concat (by decide : Text.IsMark ']') ['['] hinside
    refine ⟨lows, ?_, hnot⟩
    rw [hlow, hhost, Text.lowerFrom_cons, hlows, Text.lowerAt_of_isLow (Text.isLow_of_isMark (by decide))]
    rfl
  have hother : host.head? ≠ some '[' → t.host.toList.head? ≠ some '[' := by
    rw [hlow]
    exact mt (Text.head?_lowerFrom_iff (by decide)).mp
  obtain ⟨-, -, -, hsplits, hne⟩ := hostAndPort_eq_ok_iff.mp h.named
  cases hsplits with
  | bracketed hinside => exact Or.inl (hbracket rfl hinside)
  | bracketedPort hinside => exact Or.inl (hbracket rfl hinside)
  | port hopen => exact Or.inr (hother (by rwa [List.head?_append_of_ne_nil _ hne] at hopen))
  | plain hopen => exact Or.inr (hother hopen)

end ReadAs

/-- What is written for the parts can be told apart again where the standard port is left out: no colon of the host looks
like one before a port, and no blank ends the text. -/
def StandsAlone (t : ProxyTarget) : Prop :=
  IsStandard t → (':' ∈ t.host.toList → t.host.toList.head? = some '[') ∧ (t.uri = none → EndsUnblank t.host)

theorem mem_portSuffix {t : ProxyTarget} {c : Char} (hc : c ∈ portSuffix t) : c = ':' ∨ c.isDigit = true := by
  unfold portSuffix at hc
  split_ifs at hc
  · cases hc
  · exact (List.mem_cons.mp hc).imp_right isDigit_of_mem_toString

theorem ne_of_isDigit {c : Char} (h : c.isDigit = true) {d : Char} (hd : d.isDigit = false) : c ≠ d := by
  rintro rfl
  rw [hd] at h
  cases h

theorem unended_portSuffix {t : ProxyTarget} : ∀ c ∈ portSuffix t, endsAuthority c = false := by
  intro c hc
  rcases mem_portSuffix hc with rfl | hdigit
  · rfl
  · simp only [endsAuthority, Bool.or_eq_false_iff, beq_eq_false_iff_ne]
    exact ⟨⟨ne_of_isDigit hdigit rfl, ne_of_isDigit hdigit rfl⟩, ne_of_isDigit hdigit rfl⟩

/-- A host with its port is split into the two again. -/
theorem ReadAs.splits_portSuffix {url : String} {t : ProxyTarget} {scheme authority rest host port : List Char}
    (h : ReadAs url t scheme authority rest host port) (halone : StandsAlone t) :
    Splits (t.host.toList ++ portSuffix t) t.host.toList (portSuffix t).tail := by
  by_cases hport : IsStandard t
  · rw [portSuffix_of_isStandard hport, List.append_nil]
    rcases h.bracketed_or_open with ⟨inside, hhost, hinside⟩ | hopen
    · rw [hhost]
      exact Splits.bracketed hinside (by simp)
    · exact Splits.plain hopen fun hcolon => hopen ((halone hport).1 hcolon)
  · rw [portSuffix_of_not_isStandard hport, List.tail_cons]
    rcases h.bracketed_or_open with ⟨inside, hhost, hinside⟩ | hopen
    · rw [hhost, List.cons_append, List.append_assoc]
      exact Splits.bracketedPort hinside
    · refine Splits.port ?_ fun hcolon => ne_of_isDigit (isDigit_of_mem_toString hcolon) rfl rfl
      rwa [List.head?_append_of_ne_nil _ h.host_ne_nil]

theorem ReadAs.portNumber_portSuffix {url : String} {t : ProxyTarget} {scheme authority rest host port : List Char}
    (h : ReadAs url t scheme authority rest host port) (url' : String) :
    portNumber url' t.scheme (String.ofList (portSuffix t).tail) = .ok t.port := by
  by_cases hport : IsStandard t
  · rw [portSuffix_of_isStandard hport]
    exact portNumber_eq_ok_iff.mpr (Or.inl ⟨rfl, hport⟩)
  · rw [portSuffix_of_not_isStandard hport, List.tail_cons, String.ofList_toList]
    rcases portNumber_eq_ok_iff.mp h.number with ⟨-, hstandard⟩ | ⟨-, hgiven⟩
    · exact absurd hstandard hport
    · obtain ⟨-, -, hpos, hlt⟩ := portOf_eq_some_iff.mp hgiven
      refine portNumber_eq_ok_iff.mpr (Or.inr ⟨fun hempty => ?_, portOf_toString hpos hlt⟩)
      have hnil : (toString t.port).toList = [] := by rw [hempty]; rfl
      rw [toList_toString] at hnil
      exact Nat.toDigits_ne_nil hnil

/-- The text that is read back, an origin with the part after it. -/
theorem exists_written {url : String} {t : ProxyTarget} {scheme authority rest host port : List Char}
    (h : ReadAs url t scheme authority rest host port) (hstandard : IsStandardScheme t.scheme) :
    ∃ origin, t.origin = .ok origin ∧ (origin ++ t.uri.getD "").toList =
      t.scheme.toList ++ ("://".toList ++ ((t.host.toList ++ portSuffix t) ++ rest)) := by
  obtain ⟨origin, horigin, htext⟩ := origin_of_isStandardScheme hstandard
  refine ⟨origin, horigin, ?_⟩
  rw [h.uri_eq, getD_partOf, String.toList_append, String.toList_ofList, htext]
  simp only [List.append_assoc]

theorem scheme?_of_isStandardScheme {scheme : String} (h : IsStandardScheme scheme) (body : List Char) :
    scheme? (scheme.toList ++ ("://".toList ++ body)) = some (scheme.toList, body) := by
  rcases h with rfl | rfl <;> rfl

theorem dropWhile_of_head? {p : Char → Bool} {cs : List Char} (h : ∀ c, cs.head? = some c → p c = false) :
    cs.dropWhile p = cs := by
  cases cs with
  | nil => rfl
  | cons c cs => exact List.dropWhile_cons_of_neg (by rw [h c rfl]; decide)

theorem trim_of_unblank {s : String} (hfirst : ∀ c, s.toList.head? = some c → Text.isBlank c = false)
    (hlast : EndsUnblank s) : Text.trim s = s := by
  have hreverse : ∀ c, s.toList.reverse.head? = some c → Text.isBlank c = false := by
    intro c hc
    rw [List.head?_reverse] at hc
    exact hlast c hc
  rw [Text.trim, Text.trimWhile, dropWhile_of_head? hfirst, Text.dropEndWhile, dropWhile_of_head? hreverse,
    List.reverse_reverse, String.ofList_toList]

/-- No blank ends the text without the blanks around it. -/
theorem endsUnblank_trim (s : String) : EndsUnblank (Text.trim s) := by
  obtain ⟨-, -, -, -, -, hlast⟩ := Text.exists_trimWhile Text.isBlank s.toList
  intro c hc
  rw [Text.trim, String.toList_ofList] at hc
  exact hlast c hc

/-- A written origin ends in no blank, so that nothing is trimmed when it is read again. -/
theorem ReadAs.endsUnblank_written {url : String} {t : ProxyTarget} {scheme authority rest host port : List Char}
    (h : ReadAs url t scheme authority rest host port) (halone : StandsAlone t) {written : String}
    (hwritten : (t.host.toList ++ portSuffix t) ++ rest <:+ written.toList) : EndsUnblank written := by
  obtain ⟨before, hbefore⟩ := hwritten
  intro c hc
  rw [← hbefore] at hc
  by_cases hrest : rest = []
  · rw [hrest, List.append_nil] at hc
    by_cases hport : IsStandard t
    · rw [portSuffix_of_isStandard hport, List.append_nil, List.getLast?_append_of_ne_nil _ h.host_ne_nil] at hc
      exact (halone hport).2 (by rw [h.uri_eq, hrest]; rfl) c hc
    · have hne : (toString t.port).toList ≠ [] := by
        rw [toList_toString]
        exact Nat.toDigits_ne_nil
      rw [portSuffix_of_not_isStandard hport, ← List.append_assoc, ← List.singleton_append, ← List.append_assoc,
        List.getLast?_append_of_ne_nil _ hne] at hc
      have hdigit := isDigit_bounds (isDigit_of_mem_toString (List.mem_of_getLast? hc))
      simp [Text.isBlank]
      omega
  · rw [← List.append_assoc, List.getLast?_append_of_ne_nil _ hrest] at hc
    refine endsUnblank_trim url c ?_
    rw [h.text, ← List.append_assoc, ← List.append_assoc, List.getLast?_append_of_ne_nil _ hrest, hc]

/-- An address whose parts stand alone is read back from its origin: nothing that is put between them is taken for a
part. -/
theorem readsBack_of_standsAlone {url : String} {t : ProxyTarget} {scheme authority rest host port : List Char}
    (h : ReadAs url t scheme authority rest host port) (hstandard : IsStandardScheme t.scheme)
    (halone : StandsAlone t) : ReadsBack t := by
  obtain ⟨origin, horigin, hwritten⟩ := exists_written h hstandard
  have hfirst : ∀ c, (origin ++ t.uri.getD "").toList.head? = some c → Text.isBlank c = false := by
    intro c hc
    rw [hwritten] at hc
    rcases hstandard with hscheme | hscheme
    all_goals
      rw [hscheme] at hc
      cases hc
      rfl
  have htrim : Text.trim (origin ++ t.uri.getD "") = origin ++ t.uri.getD "" := by
    refine trim_of_unblank hfirst (h.endsUnblank_written halone ?_)
    rw [hwritten, ← List.append_assoc]
    exact List.suffix_append _ _
  have hauthority : ∀ c ∈ t.host.toList ++ portSuffix t, endsAuthority c = false :=
    List.forall_mem_append.mpr ⟨h.unended_host, unended_portSuffix⟩
  obtain ⟨htake, hdrop⟩ := authority_append hauthority h.ended
  have hplain : ∀ d, Text.IsMark d → d ≠ ':' → d.isDigit = false → d ∉ authority →
      d ∉ t.host.toList ++ portSuffix t := by
    intro d hmark hcolon hdigit hnot
    rw [List.mem_append, not_or]
    refine ⟨fun hmem => hnot (h.mem_authority hmark hmem), fun hmem => ?_⟩
    rcases mem_portSuffix hmem with rfl | hd
    · exact hcolon rfl
    · exact ne_of_isDigit hd hdigit rfl
  obtain ⟨-, hvariable, hcredentials, -, -⟩ := hostAndPort_eq_ok_iff.mp h.named
  refine ⟨origin, ⟨origin ++ t.uri.getD "", t.scheme, t.host, t.port, t.uri⟩, horigin, ?_, rfl, rfl, rfl, rfl⟩
  refine parse_eq_ok_iff.mpr ⟨t.scheme.toList, (t.host.toList ++ portSuffix t) ++ rest, t.host.toList,
    (portSuffix t).tail, ?_, ?_, ?_, ?_, ?_⟩
  · rw [htrim, hwritten, scheme?_of_isStandardScheme hstandard]
  · rw [hdrop]
    exact h.line
  · rw [htake]
    exact hostAndPort_eq_ok_iff.mpr ⟨by simp [h.host_ne_nil],
      hplain '$' (by decide) (by decide) (by decide) hvariable,
      hplain '@' (by decide) (by decide) (by decide) hcredentials, h.splits_portSuffix halone, h.host_ne_nil⟩
  · rw [String.ofList_toList, h.scheme_lower]
    exact h.portNumber_portSuffix _
  · rw [hdrop, String.ofList_toList, String.ofList_toList, h.scheme_lower, h.host_lower, ← h.uri_eq]

theorem prefix_of_splits {authority host port : List Char} (h : Splits authority host port) : host <+: authority := by
  cases h with
  | @bracketed inside after => exact ⟨after, by simp⟩
  | @bracketedPort inside port => exact ⟨':' :: port, by simp⟩
  | port => exact List.prefix_append _ _
  | plain => exact List.prefix_rfl

theorem head?_of_splits {authority host port : List Char} (h : Splits authority host port) (hwhole : authority = host)
    (hcolon : ':' ∈ host) : host.head? = some '[' := by
  cases h with
  | bracketed | bracketedPort => rfl
  | port => exact absurd hwhole (by simp)
  | plain _ hnot => exact absurd hcolon hnot

/-- What is read of a text, with the blanks behind it. -/
theorem ReadAs.exists_blanks {url : String} {t : ProxyTarget} {scheme authority rest host port : List Char}
    (h : ReadAs url t scheme authority rest host port) :
    ∃ before after, url.toList = before ++ ("://".toList ++ (authority ++ (rest ++ after))) ∧ ':' ∉ before ∧
      ∀ c ∈ after, Text.isBlank c = true := by
  obtain ⟨before, after, hurl, hbefore, hafter, -⟩ := Text.exists_trimWhile Text.isBlank url.toList
  have htext := h.text
  rw [Text.trim, String.toList_ofList] at htext
  refine ⟨before ++ scheme, after, ?_, ?_, hafter⟩
  · rw [htext] at hurl
    rw [hurl]
    simp only [List.append_assoc]
  · rw [List.mem_append, not_or]
    exact ⟨fun hmem => absurd (hbefore ':' hmem) (by decide), h.noColon⟩

theorem unended_of_isBlank {c : Char} (h : Text.isBlank c = true) : endsAuthority c = false := by
  by_contra hends
  simp only [Bool.not_eq_false, endsAuthority, Bool.or_eq_true, beq_iff_eq] at hends
  rcases hends with (rfl | rfl) | rfl <;> exact absurd h (by decide)

/-- Reading the origin of an address again gives an authority that is the host alone, if the port is left out. -/
theorem ReadAs.authority_of_written {url written : String} {t t' : ProxyTarget}
    {scheme authority rest host port scheme' authority' rest' host' port' : List Char}
    (h : ReadAs url t scheme authority rest host port) (h' : ReadAs written t' scheme' authority' rest' host' port')
    (hcolon : ':' ∉ t.scheme.toList) (hhost : t'.host = t.host)
    (hwritten : written.toList = t.scheme.toList ++ ("://".toList ++ (t.host.toList ++ rest))) :
    authority' = t.host.toList ∧ host' = t.host.toList ∧ (rest = [] → rest' = []) := by
  obtain ⟨before, after, hurl, hbefore, hafter⟩ := h'.exists_blanks
  have hbody := eq_of_scheme hcolon hbefore (hwritten.symm.trans hurl)
  obtain ⟨htake, -⟩ := authority_append h.unended_host h.ended
  have hauthority : ∃ blanks, t.host.toList = authority' ++ blanks := by
    rw [← htake, hbody]
    by_cases hrest : rest' = []
    · have hunended : ∀ c ∈ authority' ++ after, endsAuthority c = false :=
        List.forall_mem_append.mpr ⟨h'.unended, fun c hc => unended_of_isBlank (hafter c hc)⟩
      have htake' : ((authority' ++ after) ++ []).takeWhile (!endsAuthority ·) = authority' ++ after :=
        (authority_append hunended fun _ hc => by cases hc).1
      rw [List.append_nil] at htake'
      exact ⟨after, by rw [hrest, List.nil_append, htake']⟩
    · have hended : ∀ c, (rest' ++ after).head? = some c → endsAuthority c = true := by
        rw [List.head?_append_of_ne_nil _ hrest]
        exact h'.ended
      exact ⟨[], by rw [(authority_append h'.unended hended).1, List.append_nil]⟩
  obtain ⟨blanks, hblanks⟩ := hauthority
  have hlow : host' = t.host.toList := by
    have hmem : ∀ c ∈ host', Text.IsLow c := fun c hc =>
      h.isLow_of_mem_host (hblanks ▸ List.mem_append_left _ (mem_of_splits h'.splits hc))
    rw [← hhost, h'.host_eq, Text.lower_of_isLow (by rwa [String.toList_ofList]), String.toList_ofList]
  obtain ⟨more, hmore⟩ := prefix_of_splits h'.splits
  rw [hlow] at hmore
  have hsame : authority' = t.host.toList := by
    have hlengths := congrArg List.length hblanks
    rw [← hmore, List.length_append, List.length_append] at hlengths
    rw [← hmore, List.eq_nil_of_length_eq_zero (l := more) (by omega), List.append_nil]
  refine ⟨hsame, hlow, fun hrest => ?_⟩
  rw [hrest, List.append_nil, hsame] at hbody
  exact (List.append_eq_nil_iff.mp (List.self_eq_append_right.mp hbody)).1

/-- The converse: parts that are read back stand alone. -/
theorem standsAlone_of_readsBack {url : String} {t : ProxyTarget} {scheme authority rest host port : List Char}
    (h : ReadAs url t scheme authority rest host port) (hback : ReadsBack t) : StandsAlone t := by
  obtain ⟨origin, t', horigin, hparse, -, hhost, -, -⟩ := hback
  have hstandard := isStandardScheme_of_origin horigin
  obtain ⟨origin', horigin', hwritten⟩ := exists_written h hstandard
  obtain rfl : origin = origin' := Except.ok.inj (horigin.symm.trans horigin')
  obtain ⟨scheme', rest', host', port', h'⟩ := exists_readAs hparse
  intro hport
  rw [portSuffix_of_isStandard hport, List.append_nil] at hwritten
  obtain ⟨hauthority, hsame, hrest'⟩ :=
    h.authority_of_written h' (noColon_of_isStandardScheme hstandard) hhost hwritten
  constructor
  · intro hcolon
    rw [← hsame] at hcolon ⊢
    exact head?_of_splits h'.splits (hauthority.trans hsame.symm) hcolon
  · intro huri c hc
    have hrest : rest = [] := by
      rw [h.uri_eq, partOf] at huri
      split_ifs at huri with hempty
      exact List.isEmpty_iff.mp hempty
    refine endsUnblank_trim (origin ++ t.uri.getD "") c ?_
    rw [h'.text, hrest' hrest, List.append_nil, hauthority, ← List.append_assoc,
      List.getLast?_append_of_ne_nil _ h.host_ne_nil, hc]

/-- Written parts are read back just if the scheme has a standard port and the host stands alone where the port is left
out. -/
theorem readsBack_iff {url : String} {t : ProxyTarget} {scheme authority rest host port : List Char}
    (h : ReadAs url t scheme authority rest host port) :
    ReadsBack t ↔ IsStandardScheme t.scheme ∧ StandsAlone t := by
  constructor
  · intro hback
    obtain ⟨origin, -, horigin, -⟩ := id hback
    exact ⟨isStandardScheme_of_origin horigin, standsAlone_of_readsBack h hback⟩
  · rintro ⟨hstandard, halone⟩
    exact readsBack_of_standsAlone h hstandard halone

/-- An address that can be read strictly is made up of the parts that are read just if its scheme is one of the two with
a standard port and nothing but a port follows the bracket that closes its host. The parts are read again from the
origin and the part after it just if the scheme is such a one and, where the standard port is left out, no colon stands
in a host without brackets and no blank at the end. -/
theorem address_parts_kept_iff {url : String} {t : ProxyTarget} (h : ProxyTarget.parse url = .ok t) :
    (Lossless url t ↔ IsStandardScheme t.scheme ∧ BracketEnds (authorityOf url)) ∧
      (ReadsBack t ↔ IsStandardScheme t.scheme ∧ StandsAlone t) := by
  obtain ⟨scheme, rest, host, port, hread⟩ := exists_readAs h
  exact ⟨lossless_iff hread, readsBack_iff hread⟩

theorem address_parts_kept_iff_upstream :
    ∃ t, ProxyTarget.parse " HTTPS://[FE80::1]:443/v1/" = .ok t ∧ t.host = "[fe80::1]" ∧ t.port = 443 ∧
      Lossless " HTTPS://[FE80::1]:443/v1/" t ∧ ReadsBack t := by
  have hparse : ProxyTarget.parse " HTTPS://[FE80::1]:443/v1/" =
      .ok ⟨" HTTPS://[FE80::1]:443/v1/", "https", "[fe80::1]", 443, some "/v1/"⟩ :=
    toOption_eq_some_iff.mp (by decide +kernel)
  have hauthority : authorityOf " HTTPS://[FE80::1]:443/v1/" = "[FE80::1]:443".toList := by decide +kernel
  have hends : BracketEnds "[FE80::1]:443".toList := by
    intro inside after h hinside
    have hcut : Text.cut? [']'] "[FE80::1]:443".toList = some ('[' :: inside, after) :=
      Text.cut?_singleton_eq_some_iff.mpr ⟨h, List.not_mem_cons_of_ne_of_not_mem (by decide) hinside⟩
    have hfirst : Text.cut? [']'] "[FE80::1]:443".toList = some ("[FE80::1".toList, ":443".toList) := by decide
    rw [hfirst] at hcut
    cases hcut
    exact Or.inr rfl
  obtain ⟨hlossless, hback⟩ := address_parts_kept_iff hparse
  refine ⟨_, hparse, rfl, rfl, hlossless.mpr ⟨Or.inr rfl, hauthority ▸ hends⟩, hback.mpr ⟨Or.inr rfl, fun _ => ?_⟩⟩
  exact ⟨fun _ => by decide, nofun⟩

/-- The text behind the bracket of a host is dropped, and the port with it if its colon is missing; and a host with a
colon that is written without the standard port is read as another host. -/
theorem address_parts_lost :
    (∃ t, ProxyTarget.parse "http://[::1]8080/x" = .ok t ∧ t.host = "[::1]" ∧ t.port = 80 ∧
        ¬ Lossless "http://[::1]8080/x" t) ∧
      ∃ t, ProxyTarget.parse "http://a:81:80" = .ok t ∧ t.host = "a:81" ∧ t.port = 80 ∧ ¬ ReadsBack t := by
  have hdropped : ProxyTarget.parse "http://[::1]8080/x" = .ok ⟨"http://[::1]8080/x", "http", "[::1]", 80, some "/x"⟩ :=
    toOption_eq_some_iff.mp (by decide +kernel)
  have hcolon : ProxyTarget.parse "http://a:81:80" = .ok ⟨"http://a:81:80", "http", "a:81", 80, none⟩ :=
    toOption_eq_some_iff.mp (by decide +kernel)
  refine ⟨⟨_, hdropped, rfl, rfl, fun hlossless => ?_⟩, ⟨_, hcolon, rfl, rfl, fun hback => ?_⟩⟩
  · obtain ⟨scheme, rest, host, port, hread⟩ := exists_readAs hdropped
    have hends := ((lossless_iff hread).mp hlossless).2 "::1".toList "8080".toList (by decide +kernel) (by decide)
    exact absurd hends (by decide)
  · obtain ⟨scheme, rest, host, port, hread⟩ := exists_readAs hcolon
    have halone := ((readsBack_iff hread).mp hback).2 rfl
    exact absurd (halone.1 (by decide)) (by decide)

end Http

end EdgeRoutes
