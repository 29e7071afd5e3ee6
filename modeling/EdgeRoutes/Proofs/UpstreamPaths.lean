import EdgeRoutes.Proofs.ForwardingCode
import EdgeRoutes.Proofs.UpstreamAddresses

/-! Which path a location sends to its upstream. Worker and middleware take the part after the origin from the lenient
reading of the address, the others from the strict one; worker and minimal name the prefix that the part replaces, the
others its number of characters. So the targets agree unless the part does not start with a slash, a blank follows the
address, or the prefix has a character of two units. -/

namespace EdgeRoutes

open Js Js.Code Http

/-- The statements that send a request to the upstream of a location. A network has them in a later phase. -/
def upstreamBody (target : Target) (site : Site) : Logged (List Statement) :=
  match target with
  | .edgeHook => originRequestBody site
  | _ => locationBody target site

/-- The part after the origin in the reading of an address that the target uses. -/
def Target.uriOf (url : String) (t : ProxyTarget) : Target → Option String
  | .worker | .middleware => (splitProxyPass url).2
  | .edgeHook | .minimal => t.uri

/-- The number of units that the part replaces. -/
def Target.offsetOf (path : String) : Target → Nat
  | .worker | .minimal => units path.toList
  | .middleware | .edgeHook => path.length

/-- The location sends requests to an upstream that can be read strictly, and nothing else changes their paths. -/
structure Site.Proxies (site : Site) (url : String) (t : ProxyTarget) : Prop where
  plain : site.location.isRegex = false
  answer : site.location.directives.answer = none
  rewrites : site.location.directives.rewritesUri = false
  address : site.location.directives.proxyPass = some url
  parsed : ProxyTarget.parse url = .ok t

namespace Site.Proxies

variable {site : Site} {url : String} {t : ProxyTarget} {target : Target}

theorem uriPart_eq (h : site.Proxies url t) (uri : Option String) :
    site.location.uriPart uri = uri.elim .keep .replace := by
  cases uri with
  | none => rfl
  | some uri =>
      unfold Location.uriPart
      simp only [h.plain, h.rewrites]
      rfl

theorem mount_eq (h : site.Proxies url t) : site.location.mount = site.location.path := by
  unfold Location.mount
  rw [h.plain]
  rfl

theorem resolve_eq (h : site.Proxies url t) : resolve url = .ok (.ok t) := by
  unfold resolve
  rw [h.parsed]

/-- The ending that sends the request on, behind the statements of rules. -/
theorem exists_proxy (h : site.Proxies url t) (htarget : target ≠ .edgeHook) {body : List Statement}
    (hbody : (locationBody target site).result = .ok body) : ∃ headers rules p,
      rewriteStatements target.dialect headers site.location.directives.rewrites = .ok rules ∧
        body = rules ++ [.finish (.proxy p site.route headers)] ∧ p.mount = site.location.path ∧
          p.uri = (target.uriOf url t).elim .keep .replace := by
  obtain ⟨headers, ⟨answer, hanswer, -⟩ | ⟨-, rules, rest, hrules, hparts, hrest⟩⟩ := locationBody_cases hbody
  · cases h.answer.symm.trans hanswer
  · have hproxy := hrest url h.address
    refine ⟨headers, rules, ?_⟩
    cases target with
    | worker | middleware =>
        cases hproxy
        exact ⟨_, hrules, hparts, h.mount_eq, h.uriPart_eq _⟩
    | edgeHook => exact absurd rfl htarget
    | minimal =>
        simp only [proxyStatements, Logged.result_bind, Logged.result_liftM] at hproxy
        obtain ⟨resolved, hresolved, hproxy⟩ := bind_eq_ok_iff.mp hproxy
        obtain rfl : .ok t = resolved := Except.ok.inj (h.resolve_eq.symm.trans hresolved)
        simp only [Logged.result_bind, Logged.result_liftM] at hproxy
        obtain ⟨p, hp, hproxy⟩ := bind_eq_ok_iff.mp hproxy
        obtain ⟨origin, -, hp⟩ := bind_eq_ok_iff.mp hp
        cases hproxy
        cases hp
        exact ⟨_, hrules, hparts, h.mount_eq, h.uriPart_eq _⟩

theorem readCall?_of_rules {headers : Fields String} {rules : List RewriteRule} {statements : List Statement}
    (hrules : rewriteStatements target.dialect headers rules = .ok statements) (comments : Bool) (ending : Ending) :
    readCall? (Statement.codeAll target comments (statements ++ [.finish ending])) =
      readCall? (ending.code target) := by
  unfold readCall?
  rw [field?_of_rules (by decide) hrules, field?_of_rules (by decide) hrules]

/-- What the code for a target does with paths. -/
theorem readForwarding?_eq (h : site.Proxies url t) {body : List Statement}
    (hbody : (upstreamBody target site).result = .ok body) (comments : Bool) :
    readForwarding? target (Statement.codeAll target comments body) =
      some (.ofUri (target.offsetOf site.location.path) (target.uriOf url t)) := by
  cases target with
  | worker =>
      have hlocation : (locationBody .worker site).result = .ok body := hbody
      obtain ⟨headers, rules, p, hrules, rfl, hmount, huri⟩ := h.exists_proxy (by decide) hlocation
      refine (readCall?_of_rules hrules comments _).trans ?_
      rw [← hmount]
      exact readCall?_proxyCall (List.forall_mem_singleton.mpr ⟨lacks_between rfl _ _, lacks_between rfl _ _⟩) huri
  | minimal =>
      have hlocation : (locationBody .minimal site).result = .ok body := hbody
      obtain ⟨headers, rules, p, hrules, rfl, hmount, huri⟩ := h.exists_proxy (by decide) hlocation
      refine (readCall?_of_rules hrules comments _).trans ?_
      rw [← hmount]
      refine readCall?_proxyCall (List.forall_mem_cons.mpr ⟨?_, List.forall_mem_singleton.mpr ?_⟩) huri
      · exact ⟨lacks_between rfl _ _, lacks_between rfl _ _⟩
      · exact ⟨lacks_between rfl _ _, lacks_between rfl _ _⟩
  | middleware =>
      have hlocation : (locationBody .middleware site).result = .ok body := hbody
      obtain ⟨headers, rules, p, hrules, rfl, hmount, huri⟩ := h.exists_proxy (by decide) hlocation
      unfold readForwarding?
      simp only
      rw [field?_of_rules (by decide) hrules, Ending.code, field?_middleware, Option.bind_some, huri, hmount]
      exact readPath?_pathExpression _ _
  | edgeHook =>
      rcases originRequestBody_parts hbody with
        ⟨hnone, -⟩ | ⟨url', hurl, -, ⟨reason, hrefused, -⟩ | ⟨t', timeout, ht, rfl⟩⟩
      · rw [h.address, h.answer] at hnone
        exact absurd ⟨rfl, rfl⟩ hnone
      all_goals obtain rfl : url = url' := Option.some.inj (h.address.symm.trans hurl)
      · cases h.resolve_eq.symm.trans hrefused
      · cases h.resolve_eq.symm.trans ht
        rw [Statement.codeAll, codeAll_singleton, Statement.code, Statement.code, ← h.mount_eq]
        refine readForwarding?_customOrigin _ (h.uriPart_eq _) _ ?_
        exact lacks_commentCode (by decide) comments _

/-- When the targets do the same with paths. -/
theorem forwarding_eq_iff (h : site.Proxies url t) :
    (∀ target other : Target, Forwarding.ofUri (target.offsetOf site.location.path) (target.uriOf url t) =
      .ofUri (other.offsetOf site.location.path) (other.uriOf url t)) ↔
        ∀ uri, t.uri = some uri → uri.toList.head? = some '/' ∧ EndsUnblank url ∧
          ∀ c ∈ site.location.path.toList, c.toNat < 0x10000 := by
  constructor
  · intro hall uri huri
    have hsplit : (splitProxyPass url).2 = t.uri := Forwarding.ofUri_injective _ (hall .worker .minimal)
    have hoffset : units site.location.path.toList = site.location.path.length := by
      have hsame := hall .minimal .edgeHook
      simp only [Target.uriOf, huri, Forwarding.ofUri, Forwarding.replaced.injEq, true_and] at hsame
      exact hsame
    obtain ⟨hslash, hend⟩ := (splitProxyPass_eq_iff h.parsed).mp hsplit uri huri
    rw [← String.length_toList, units_eq_length_iff] at hoffset
    exact ⟨hslash, hend, hoffset⟩
  · intro hall
    have hsplit : (splitProxyPass url).2 = t.uri :=
      (splitProxyPass_eq_iff h.parsed).mpr fun uri huri => ⟨(hall uri huri).1, (hall uri huri).2.1⟩
    have huri : ∀ target : Target, target.uriOf url t = t.uri := by
      intro target
      cases target with
      | worker | middleware => exact hsplit
      | edgeHook | minimal => rfl
    intro target other
    rw [huri, huri]
    cases hpart : t.uri with
    | none => rfl
    | some uri =>
        have hunits : units site.location.path.toList = site.location.path.length := by
          rw [← String.length_toList, units_eq_length_iff]
          exact (hall uri hpart).2.2
        have hoffset : ∀ target : Target, target.offsetOf site.location.path = site.location.path.length := by
          intro target
          cases target with
          | worker | minimal => exact hunits
          | middleware | edgeHook => rfl
        rw [hoffset, hoffset]

end Site.Proxies

/-- The targets do the same with the paths of requests to a location's upstream unless there is a part after the origin
that does not start with a slash or that a blank follows, or the path of the location has a character of two units. They
do the same just if they send the same path for every request. -/
theorem upstream_paths_agree_iff {site : Site} {url : String} {t : ProxyTarget} (h : site.Proxies url t)
    {bodies : Target → List Statement} (hbodies : ∀ target, (upstreamBody target site).result = .ok (bodies target))
    (comments : Bool) : ∃ forwarding : Target → Forwarding,
      (∀ target, readForwarding? target (Statement.codeAll target comments (bodies target)) =
        some (forwarding target)) ∧
      ((∀ target other, forwarding target = forwarding other) ↔
        ∀ uri, t.uri = some uri → uri.toList.head? = some '/' ∧ EndsUnblank url ∧
          ∀ c ∈ site.location.path.toList, c.toNat < 0x10000) ∧
      ((∀ target other expand path, (forwarding target).sent expand path = (forwarding other).sent expand path) ↔
        ∀ target other, forwarding target = forwarding other) := by
  refine ⟨_, fun target => h.readForwarding?_eq (hbodies target) comments, h.forwarding_eq_iff, ?_, ?_⟩
  · intro hsent target other
    exact Forwarding.eq_of_sent (hsent target other)
  · intro hsame target other expand path
    rw [hsame target other]

/-- A location that does nothing but send requests on. -/
def proxying (path url : String) : Site := ⟨⟨1, 1⟩, { path, directives := { proxyPass := some url } }⟩

theorem proxies_proxying (path : String) {url : String} {t : ProxyTarget} (h : ProxyTarget.parse url = .ok t) :
    (proxying path url).Proxies url t := ⟨rfl, rfl, rfl, rfl, h⟩

/-- The address of an upstream under a path of its own. -/
def localhost : ProxyTarget := ⟨"http://localhost/x/", "http", "localhost", 80, some "/x/"⟩

theorem parse_localhost : ProxyTarget.parse "http://localhost/x/" = .ok localhost :=
  toOption_eq_some_iff.mp (by decide +kernel)

theorem exists_bodies_proxying (path : String) : ∃ bodies : Target → List Statement,
    ∀ target, (upstreamBody target (proxying path "http://localhost/x/")).result = .ok (bodies target) := by
  have hresolve := (proxies_proxying path parse_localhost).resolve_eq
  have horigin : localhost.origin = .ok "http://localhost" := toOption_eq_some_iff.mp (by decide +kernel)
  have hbody : ∀ target, ∃ body, (upstreamBody target (proxying path "http://localhost/x/")).result = .ok body := by
    intro target
    cases target with
    | worker | middleware => exact ⟨_, rfl⟩
    | minimal =>
        simp only [upstreamBody, locationBody, proxying, proxyStatements, Logged.result_bind, Logged.result_liftM,
          hresolve]
        simp only [Location.proxyResolved, bind, Except.bind, horigin]
        exact ⟨_, rfl⟩
    | edgeHook =>
        simp only [upstreamBody, originRequestBody, proxying, Logged.result_bind, Logged.result_liftM, hresolve]
        exact ⟨_, rfl⟩
  choose bodies hbodies using hbody
  exact ⟨bodies, hbodies⟩

theorem upstream_paths_agree_iff_plain :
    (proxying "/api/" "http://localhost/x/").Proxies "http://localhost/x/" localhost ∧
      ∃ (bodies : Target → List Statement) (forwarding : Target → Forwarding),
        (∀ target, (upstreamBody target (proxying "/api/" "http://localhost/x/")).result = .ok (bodies target)) ∧
        (∀ target, readForwarding? target (Statement.codeAll target true (bodies target)) = some (forwarding target)) ∧
        ∀ target other, forwarding target = forwarding other := by
  have hproxies := proxies_proxying "/api/" parse_localhost
  obtain ⟨bodies, hbodies⟩ := exists_bodies_proxying "/api/"
  obtain ⟨forwarding, hread, hagree, -⟩ := upstream_paths_agree_iff hproxies hbodies true
  refine ⟨hproxies, bodies, forwarding, hbodies, hread, hagree.mpr ?_⟩
  rintro uri ⟨⟩
  exact ⟨rfl, by decide, units_eq_length_iff.mp rfl⟩

/-- A character of two units in the path of a location: two targets cut off one unit less than the others, so that the
slash at the end of the prefix is sent twice. -/
theorem wide_prefix_cut_short : ∃ bodies : Target → List Statement,
    (∀ target, (upstreamBody target (proxying "/😀/" "http://localhost/x/")).result = .ok (bodies target)) ∧
    (∀ target ∈ [Target.worker, .minimal],
      readForwarding? target (Statement.codeAll target false (bodies target)) = some (.replaced "/x/" 4)) ∧
    (∀ target ∈ [Target.middleware, .edgeHook],
      readForwarding? target (Statement.codeAll target false (bodies target)) = some (.replaced "/x/" 3)) ∧
    ∀ expand, (Forwarding.replaced "/x/" 4).sent expand [0x2F, 0xD83D, 0xDE00, 0x2F, 0x61] = expand "/x/" ++ [0x61] ∧
      (Forwarding.replaced "/x/" 3).sent expand [0x2F, 0xD83D, 0xDE00, 0x2F, 0x61] = expand "/x/" ++ [0x2F, 0x61] := by
  obtain ⟨bodies, hbodies⟩ := exists_bodies_proxying "/😀/"
  have hproxies := proxies_proxying "/😀/" parse_localhost
  refine ⟨bodies, hbodies, ?_, ?_, fun expand => ⟨rfl, rfl⟩⟩
  · intro target htarget
    rw [hproxies.readForwarding?_eq (hbodies target) false]
    revert target
    decide +kernel
  · intro target htarget
    rw [hproxies.readForwarding?_eq (hbodies target) false]
    revert target
    decide +kernel

end EdgeRoutes
