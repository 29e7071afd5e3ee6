import EdgeRoutes.Model.Address
import EdgeRoutes.Proofs.AddressParts
import EdgeRoutes.Proofs.Tolerance

/-! Splitting addresses. There are two splitters of host and port: one for the addresses of listen directives and of the
members of a group, one for the authority of a proxy address. They agree on all that both take; the first one also takes
a port by itself, and a bracket that is left open. What is split off as a port leads back to the address, with the colon
put between the two parts. -/

namespace EdgeRoutes

open Number Http ProxyTarget Build

theorem head?_ne_of_allDigits {address : String} (h : Text.allDigits address = true) : address.toList.head? ≠ some '[' := by
  intro hhead
  obtain ⟨rest, hrest⟩ := List.head?_eq_some_iff.mp hhead
  rw [Text.allDigits, hrest] at h
  simp [Text.isDigit] at h

/-- The splitter of addresses by way of that of authorities: digits alone are a port, and an address with an open bracket
is all host. -/
theorem splitAddress_eq (address : String) : splitAddress address =
    if Text.allDigits address then (none, address)
    else match splitAuthority address.toList with
      | .ok (host, port) => (some (String.ofList host), String.ofList port)
      | .error _ => (some address, "") := by
  by_cases hopen : address.toList.head? = some '['
  · have hdigits : ¬ Text.allDigits address = true := fun h => head?_ne_of_allDigits h hopen
    obtain ⟨rest, hrest⟩ := List.head?_eq_some_iff.mp hopen
    rw [if_neg hdigits, splitAddress, splitAuthority.eq_def, hrest]
    cases Text.cut? [']'] ('[' :: rest) <;> rfl
  · rw [splitAddress, splitAuthority_of_head? hopen]
    dsimp only
    split
    · next heq => exact absurd (by rw [heq, List.head?_cons]) hopen
    · cases Text.cutLast? ':' address.toList with
      | none => rw [Option.getD_none, String.ofList_toList]
      | some found => rfl

/-- The address is the host and a text of digits for the port, with a colon between them. -/
def Recomposes (address host : String) (port : Nat) : Prop :=
  ∃ digits : String, Text.allDigits digits = true ∧ readNatural digits = .ok port ∧ address = host ++ ":" ++ digits

/-- The address is the host and the port text, with a colon between them. Unless it starts with a bracket, no other colon
follows. -/
def Joins (address host portText : String) : Prop :=
  address = host ++ ":" ++ portText ∧ (address.toList.head? ≠ some '[' → ':' ∉ portText.toList)

theorem joins_of_splits {address : String} {host port : List Char} (h : Splits address.toList host port)
    (hport : port ≠ []) : Joins address (String.ofList host) (String.ofList port) := by
  have hjoined : ∀ {cs : List Char}, cs = host ++ ':' :: port → address.toList = cs →
      address = String.ofList host ++ ":" ++ String.ofList port := by
    intro cs hcs haddress
    apply String.toList_injective
    rw [haddress, hcs]
    simp [String.toList_append]
  generalize hall : address.toList = all at h
  cases h with
  | bracketed | plain => exact absurd rfl hport
  | @bracketedPort inside port hinside => exact ⟨hjoined (by simp) hall, fun hopen => absurd (by rw [hall]; rfl) hopen⟩
  | port hopen hcolon => exact ⟨hjoined rfl hall, fun _ => by rwa [String.toList_ofList]⟩

/-- A port text that is not empty is the whole address, or it was split off behind a colon. -/
theorem joins_of_splitAddress {address portText : String} {host : Option String}
    (h : splitAddress address = (host, portText)) (hport : portText ≠ "") :
    host = none ∧ portText = address ∧ Text.allDigits address = true ∨ ∃ h, host = some h ∧ Joins address h portText := by
  rw [splitAddress_eq] at h
  split_ifs at h with hdigits
  · cases h
    exact Or.inl ⟨rfl, rfl, hdigits⟩
  · cases hsplit : splitAuthority address.toList with
    | error d =>
        rw [hsplit] at h
        cases h
        exact absurd rfl hport
    | ok found =>
        obtain ⟨first, last⟩ := found
        rw [hsplit] at h
        cases h
        refine Or.inr ⟨_, rfl, joins_of_splits (splits_of_splitAuthority hsplit) ?_⟩
        rintro rfl
        exact hport rfl

theorem natural?_eq_some_iff {text : String} {n : Nat} :
    natural? text = .ok (some n) ↔ Text.allDigits text = true ∧ readNatural text = .ok n := by
  unfold natural? natural
  split_ifs with hdigits
  · cases readNatural text <;> simp [Except.mapError, Except.map, hdigits]
  · simp [hdigits]

/-- A host and a port that were split off lead back to the address. -/
theorem recomposes_of_natural? {address host portText : String} {port : Nat}
    (hsplit : splitAddress address = (some host, portText)) (hport : natural? portText = .ok (some port)) :
    Recomposes address host port := by
  obtain ⟨hdigits, hread⟩ := natural?_eq_some_iff.mp hport
  have hne : portText ≠ "" := by
    rintro rfl
    cases hdigits
  rcases joins_of_splitAddress hsplit hne with ⟨hnone, -⟩ | ⟨h, hhost, hjoins⟩
  · cases hnone
  · cases hhost
    exact ⟨portText, hdigits, hread, hjoins.1⟩

theorem recomposes_of_listen {d : Directive} {l : Listen} (h : (Listen.ofDirective d).result = .ok (some l))
    {host : String} {port : Nat} (hhost : l.host = some host) (hport : l.port = some port) :
    ∃ address args, d.args = address :: args ∧ Recomposes address host port := by
  cases hargs : d.args with
  | nil =>
      simp only [Listen.ofDirective, hargs] at h
      cases h
  | cons address args =>
      rcases hsplit : splitAddress address with ⟨first, portText⟩
      simp only [Listen.ofDirective, hargs, hsplit, Logged.result_bind] at h
      obtain ⟨n, hn, h⟩ := bind_eq_ok_iff.mp h
      obtain rfl : args.foldl Listen.addArgument { port := n, host := first } = l := by
        split_ifs at h <;> cases h <;> rfl
      obtain ⟨hportKept, hhostKept⟩ := address_addArguments args { port := n, host := first }
      obtain rfl : n = some port := hportKept.symm.trans hport
      obtain rfl : first = some host := hhostKept.symm.trans hhost
      exact ⟨address, args, rfl, recomposes_of_natural? hsplit hn⟩

/-- With a port, the address of an upstream server is its host, a colon and digits for that port. -/
theorem recomposes_of_ofAddress {address : String} {s : UpstreamServer} (h : UpstreamServer.ofAddress address = .ok s)
    {port : Nat} (hport : s.port = some port) : Recomposes address s.address port := by
  unfold UpstreamServer.ofAddress at h
  split_ifs at h
  · cases h
    cases hport
  · rcases hsplit : splitAddress address with ⟨- | host, portText⟩
    · rw [hsplit] at h
      cases h
      cases hport
    · rw [hsplit] at h
      obtain ⟨n, hn, h⟩ := bind_eq_ok_iff.mp h
      cases n with
      | none =>
          cases h
          cases hport
      | some n =>
          cases h
          cases hport
          exact recomposes_of_natural? hsplit hn

theorem address_of_parameters {s t : UpstreamServer} {line : Option LineMark} {args : List String}
    (h : (s.applyAll line args).result = .ok t) : t.address = s.address ∧ t.port = s.port := by
  induction args generalizing s with
  | nil =>
      cases h
      exact ⟨rfl, rfl⟩
  | cons arg args ih =>
      rw [UpstreamServer.applyAll, Logged.result_bind] at h
      obtain ⟨next, hnext, h⟩ := bind_eq_ok_iff.mp h
      obtain ⟨haddress, hport⟩ := Follows.address_of_parameter hnext
      exact ⟨(ih h).1.trans haddress, (ih h).2.trans hport⟩

theorem recomposes_of_member {d : Directive} {s : UpstreamServer}
    (h : (UpstreamServer.ofDirective d).result = .ok (some s)) {port : Nat} (hport : s.port = some port) :
    ∃ address args, d.args = address :: args ∧ Recomposes address s.address port := by
  cases hargs : d.args with
  | nil =>
      simp only [UpstreamServer.ofDirective, hargs] at h
      cases h
  | cons address args =>
      simp only [UpstreamServer.ofDirective, hargs, Logged.result_bind, Logged.result_liftM] at h
      obtain ⟨first, hfirst, h⟩ := bind_eq_ok_iff.mp h
      obtain ⟨t, ht, h⟩ := bind_eq_ok_iff.mp h
      cases h
      obtain ⟨haddress, hkept⟩ := address_of_parameters ht
      rw [haddress]
      exact ⟨address, args, rfl, recomposes_of_ofAddress hfirst (hkept.symm.trans hport)⟩

/-- The host and the port of a proxy address are what the splitter of addresses makes of its authority. -/
theorem splitAddress_of_parse {url : String} {t : ProxyTarget} (h : ProxyTarget.parse url = .ok t)
    (hdigits : Text.allDigits (String.ofList (authorityOf url)) = false) :
    ∃ host portText, splitAddress (String.ofList (authorityOf url)) = (some host, portText) ∧ t.host = Text.lower host ∧
      (portText = "" → standardPort t.scheme = .ok t.port) ∧ (portText ≠ "" → readNatural portText = .ok t.port) := by
  obtain ⟨scheme, rest, host, port, hread⟩ := exists_readAs h
  have hsplit : splitAddress (String.ofList (authorityOf url)) = (some (String.ofList host), String.ofList port) := by
    rw [splitAddress_eq, hdigits, String.toList_ofList, splitAuthority_of_splits hread.splits]
    rfl
  refine ⟨_, _, hsplit, hread.host_eq, ?_, ?_⟩ <;> intro hport
  · rcases portNumber_eq_ok_iff.mp hread.number with ⟨-, hstandard⟩ | ⟨hne, -⟩
    · exact hstandard
    · exact absurd hport hne
  · rcases portNumber_eq_ok_iff.mp hread.number with ⟨hempty, -⟩ | ⟨-, hgiven⟩
    · exact absurd hempty hport
    · exact (portOf_eq_some_iff.mp hgiven).2.1

/-- The two splitters agree. What is read of a proxy address is what the splitter of addresses makes of its authority,
unless that is a number: the host in lower case, and the number of the port text, or the standard port if there is none.
A port text is the whole of an address of digits, or it stands behind the host and a colon. So a listen directive and a
member of a group that have a host and a port have them from an address that is made up of the two. -/
theorem splitters_agree :
    (∀ url t, ProxyTarget.parse url = .ok t → Text.allDigits (String.ofList (authorityOf url)) = false →
      ∃ host portText, splitAddress (String.ofList (authorityOf url)) = (some host, portText) ∧ t.host = Text.lower host ∧
        (portText = "" → standardPort t.scheme = .ok t.port) ∧ (portText ≠ "" → readNatural portText = .ok t.port)) ∧
      (∀ address host portText, splitAddress address = (host, portText) → portText ≠ "" →
        host = none ∧ portText = address ∧ Text.allDigits address = true ∨
          ∃ h, host = some h ∧ Joins address h portText) ∧
      (∀ d l host port, (Listen.ofDirective d).result = .ok (some l) → l.host = some host → l.port = some port →
        ∃ address args, d.args = address :: args ∧ Recomposes address host port) ∧
      ∀ d s port, (UpstreamServer.ofDirective d).result = .ok (some s) → s.port = some port →
        ∃ address args, d.args = address :: args ∧ Recomposes address s.address port :=
  ⟨fun _ _ h hdigits => splitAddress_of_parse h hdigits, fun _ _ _ h hport => joins_of_splitAddress h hport,
    fun _ _ _ _ h hhost hport => recomposes_of_listen h hhost hport, fun _ _ _ h hport => recomposes_of_member h hport⟩

/-- An address in brackets with two more colons, and digits of another script. -/
theorem splitters_agree_bracketed :
    (∃ t host portText, ProxyTarget.parse "http://[FE80::1]:0443/x" = .ok t ∧ t.host = "[fe80::1]" ∧ t.port = 443 ∧
        splitAddress "[FE80::1]:0443" = (some host, portText) ∧ t.host = Text.lower host ∧
          (portText ≠ "" → readNatural portText = .ok t.port)) ∧
      (∃ l, (Listen.ofDirective ⟨"listen", ["[::]:080", "ssl"], none⟩).result = .ok (some l) ∧
        Recomposes "[::]:080" "[::]" 80 ∧ l.host = some "[::]" ∧ l.port = some 80) ∧
      ∃ s, (UpstreamServer.ofDirective ⟨"server", ["a:b:٨٠", "backup"], none⟩).result = .ok (some s) ∧
        s.address = "a:b" ∧ s.port = some 80 ∧ Recomposes "a:b:٨٠" "a:b" 80 := by
  obtain ⟨hproxy, -, hlisten, hmember⟩ := splitters_agree
  have hparse : ProxyTarget.parse "http://[FE80::1]:0443/x" =
      .ok ⟨"http://[FE80::1]:0443/x", "http", "[fe80::1]", 443, some "/x"⟩ :=
    toOption_eq_some_iff.mp (by decide +kernel)
  have hauthority : String.ofList (authorityOf "http://[FE80::1]:0443/x") = "[FE80::1]:0443" := by decide +kernel
  have hlistened : (Listen.ofDirective ⟨"listen", ["[::]:080", "ssl"], none⟩).result =
      .ok (some { port := some 80, host := some "[::]", ssl := true }) :=
    toOption_eq_some_iff.mp (by decide +kernel)
  have hserved : (UpstreamServer.ofDirective ⟨"server", ["a:b:٨٠", "backup"], none⟩).result =
      .ok (some { address := "a:b", port := some 80, backup := true }) :=
    toOption_eq_some_iff.mp (by decide +kernel)
  obtain ⟨host, portText, hsplit, hhost, -, hport⟩ := hproxy _ _ hparse (by rw [hauthority]; decide +kernel)
  refine ⟨⟨_, host, portText, hparse, rfl, rfl, hauthority ▸ hsplit, hhost, hport⟩, ⟨_, hlistened, ?_, rfl, rfl⟩, _, hserved,
    rfl, rfl, ?_⟩
  · obtain ⟨address, args, hargs, hrecomposes⟩ := hlisten _ _ _ _ hlistened rfl rfl
    cases hargs
    exact hrecomposes
  · obtain ⟨address, args, hargs, hrecomposes⟩ := hmember _ _ _ hserved rfl
    cases hargs
    exact hrecomposes

end EdgeRoutes
