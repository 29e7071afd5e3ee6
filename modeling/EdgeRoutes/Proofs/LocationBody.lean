import EdgeRoutes.Proofs.RouteSearch

/-! The statements of a location. Whatever a location is configured to do, its statements close with one that ends the
request, so a location never lacks a block: the blocks of a server are those of its locations, one for one. -/

namespace EdgeRoutes

def Closes (body : List Statement) : Prop :=
  ∃ before ending, body = before ++ [.finish ending]

theorem Closes.ne_nil {body : List Statement} (h : Closes body) : body ≠ [] := by
  obtain ⟨before, ending, rfl⟩ := h
  simp

theorem Closes.append_left {body : List Statement} (h : Closes body) (before : List Statement) :
    Closes (before ++ body) := by
  obtain ⟨more, ending, rfl⟩ := h
  exact ⟨before ++ more, ending, (List.append_assoc _ _ _).symm⟩

theorem closes_finish (ending : Ending) : Closes [.finish ending] := ⟨[], ending, rfl⟩

theorem closes_degraded (url reason : String) : Closes (degraded url reason) :=
  ⟨[_], _, rfl⟩

theorem closes_forwardStatements (site : Site) (headers : Fields String) :
    Closes (forwardStatements site headers) := closes_finish _

theorem closes_staticStatements (target : Target) (site : Site) (headers : Fields String) :
    Closes (staticStatements target site headers) := by
  cases target with
  | worker => exact ⟨[_], _, rfl⟩
  | middleware => exact (closes_forwardStatements site headers).append_left [_]
  | edgeHook => exact (closes_forwardStatements site headers).append_left [_]
  | minimal => exact closes_finish _

/-- An upstream ends the statements of its location. -/
theorem closes_of_proxyStatements {target : Target} {site : Site} {url : String}
    {headers : Fields String} {body : List Statement}
    (h : (proxyStatements target site url headers).result = .ok body) : Closes body := by
  cases target with
  | minimal =>
      simp only [proxyStatements, Logged.result_bind] at h
      obtain ⟨resolved, -, h⟩ := bind_eq_ok_iff.mp h
      cases resolved with
      | error reason =>
          cases h
          exact closes_degraded url reason
      | ok upstream =>
          simp only [Logged.result_bind] at h
          obtain ⟨proxy, -, h⟩ := bind_eq_ok_iff.mp h
          cases h
          exact closes_finish _
  | worker | middleware | edgeHook =>
      cases h
      exact closes_finish _

/-- Whatever a location does, its statements close with an ending. -/
theorem closes_of_locationBody {target : Target} {site : Site} {body : List Statement}
    (h : (locationBody target site).result = .ok body) : Closes body := by
  simp only [locationBody, Logged.result_bind] at h
  obtain ⟨headers, -, h⟩ := bind_eq_ok_iff.mp h
  split at h
  · cases h
    exact closes_finish _
  · simp only [Logged.result_bind] at h
    obtain ⟨rules, -, h⟩ := bind_eq_ok_iff.mp h
    split at h
    · simp only [Logged.result_bind] at h
      obtain ⟨rest, hrest, h⟩ := bind_eq_ok_iff.mp h
      cases h
      exact (closes_of_proxyStatements hrest).append_left rules
    · cases h
      apply Closes.append_left
      split
      · exact closes_staticStatements target site headers
      · exact closes_forwardStatements site headers

/-- What the statements of a location are: those of a fixed answer, or those of its rules and then those that send the
request to an upstream, to files or on. -/
theorem locationBody_parts {target : Target} {site : Site} {body : List Statement}
    (h : (locationBody target site).result = .ok body) : ∃ headers,
      (∃ answer, site.location.directives.answer = some answer ∧ body = [.finish (answer.ending headers)]) ∨
        site.location.directives.answer = none ∧ ∃ rules rest,
          rewriteStatements target.dialect headers site.location.directives.rewrites = .ok rules ∧ body = rules ++ rest ∧
            ((∃ url, site.location.directives.proxyPass = some url ∧
                (proxyStatements target site url headers).result = .ok rest) ∨
              site.location.directives.proxyPass = none ∧
                rest = if site.location.directives.servesStatic then staticStatements target site headers
                  else forwardStatements site headers) := by
  simp only [locationBody, Logged.result_bind] at h
  obtain ⟨headers, -, h⟩ := bind_eq_ok_iff.mp h
  refine ⟨headers, ?_⟩
  cases hanswer : site.location.directives.answer with
  | some answer =>
      rw [hanswer] at h
      cases h
      exact Or.inl ⟨answer, rfl, rfl⟩
  | none =>
      simp only [hanswer, Logged.result_bind] at h
      obtain ⟨rules, hrules, h⟩ := bind_eq_ok_iff.mp h
      refine Or.inr ⟨rfl, rules, ?_⟩
      cases hproxy : site.location.directives.proxyPass with
      | some url =>
          simp only [hproxy, Logged.result_bind] at h
          obtain ⟨rest, hrest, h⟩ := bind_eq_ok_iff.mp h
          cases h
          exact ⟨rest, hrules, rfl, Or.inl ⟨url, rfl, hrest⟩⟩
      | none =>
          simp only [hproxy] at h
          exact ⟨_, hrules, (Except.ok.inj h).symm, Or.inr ⟨rfl, rfl⟩⟩

theorem locationBody_cases {target : Target} {site : Site} {body : List Statement}
    (h : (locationBody target site).result = .ok body) : ∃ headers,
      (∃ answer, site.location.directives.answer = some answer ∧ body = [.finish (answer.ending headers)]) ∨
        site.location.directives.answer = none ∧ ∃ rules rest,
          rewriteStatements target.dialect headers site.location.directives.rewrites = .ok rules ∧ body = rules ++ rest ∧
            ∀ url, site.location.directives.proxyPass = some url →
              (proxyStatements target site url headers).result = .ok rest := by
  obtain ⟨headers, hanswer | ⟨hnone, rules, rest, hrules, hbody, hrest⟩⟩ := locationBody_parts h
  · exact ⟨headers, Or.inl hanswer⟩
  · refine ⟨headers, Or.inr ⟨hnone, rules, rest, hrules, hbody, fun url hurl => ?_⟩⟩
    rcases hrest with ⟨url', hproxy, hrest⟩ | ⟨hproxy, -⟩
    · obtain rfl : url' = url := Option.some.inj (hproxy.symm.trans hurl)
      exact hrest
    · cases hproxy.symm.trans hurl

/-- What the statements that point a request at its upstream are: none, unless the location proxies; those for an address
that cannot be used; or a comment and the origin. -/
theorem originRequestBody_parts {site : Site} {body : List Statement} (h : (originRequestBody site).result = .ok body) :
    (¬ (site.location.directives.proxyPass.isSome = true ∧ site.location.directives.answer = none) ∧ body = []) ∨
      ∃ url, site.location.directives.proxyPass = some url ∧ site.location.directives.answer = none ∧
        ((∃ reason, resolve url = .ok (.error reason) ∧ body = degraded url reason) ∨
          ∃ upstream timeout, resolve url = .ok (.ok upstream) ∧
            body = [.comment ("proxy_pass " ++ Js.commentText url),
              .finish (.customOrigin {
                target := upstream, readTimeout := timeout
                uri := site.location.uriPart upstream.uri, mount := site.location.mount
                headers := site.location.directives.proxyHeaders })]) := by
  cases hproxy : site.location.directives.proxyPass with
  | none =>
      simp only [originRequestBody, hproxy] at h
      cases h
      exact Or.inl ⟨by simp, rfl⟩
  | some url =>
      cases hanswer : site.location.directives.answer with
      | some answer =>
          simp only [originRequestBody, hproxy, hanswer] at h
          cases h
          exact Or.inl ⟨by simp, rfl⟩
      | none =>
          simp only [originRequestBody, hproxy, hanswer, Logged.result_bind, Logged.result_liftM] at h
          obtain ⟨resolved, hresolve, h⟩ := bind_eq_ok_iff.mp h
          refine Or.inr ⟨url, rfl, rfl, ?_⟩
          cases resolved with
          | error reason =>
              cases h
              exact Or.inl ⟨reason, hresolve, rfl⟩
          | ok upstream =>
              simp only [Logged.result_bind] at h
              obtain ⟨timeout, -, h⟩ := bind_eq_ok_iff.mp h
              exact Or.inr ⟨upstream, timeout, hresolve, (Except.ok.inj h).symm⟩

theorem originRequestBody_cases {site : Site} {body : List Statement} (h : (originRequestBody site).result = .ok body) :
    (¬ (site.location.directives.proxyPass.isSome = true ∧ site.location.directives.answer = none) ∧ body = []) ∨
      ∃ url, site.location.directives.proxyPass = some url ∧ site.location.directives.answer = none ∧
        ((∃ reason, resolve url = .ok (.error reason) ∧ body = degraded url reason) ∨
          ∃ text origin, body = [.comment text, .finish (.customOrigin origin)]) := by
  rcases originRequestBody_parts h with hnone | ⟨url, hproxy, hanswer, hrefused | ⟨upstream, timeout, -, hbody⟩⟩
  · exact Or.inl hnone
  · exact Or.inr ⟨url, hproxy, hanswer, Or.inl hrefused⟩
  · exact Or.inr ⟨url, hproxy, hanswer, Or.inr ⟨_, _, hbody⟩⟩

/-- The locations that a path can reach, in the order in which they are tried. -/
def Server.tried (s : Server) : List Location.Placed :=
  (Location.sorted (Location.place s.locations)).filter (!·.location.isNamed)

/-- The block that a location has in the code for a target. -/
structure BlockOf (target : Target) (index : Nat) (p : Location.Placed) (b : LocationBlock) : Prop where
  route : b.route = ⟨index, p.position⟩
  label : b.label = p.location.label
  condition : p.location.condition target.dialect = .ok b.condition
  body : (locationBody target ⟨⟨index, p.position⟩, p.location⟩).result = .ok b.body

variable {g : Generator} {index : Nat}

theorem blockOf_of_locationBlock {p : Location.Placed} {block : Option LocationBlock}
    (h : (g.locationBlock (locationBody g.target) ⟨index, p.position, p.location⟩).result = .ok block) :
    ∃ b, some b = block ∧ BlockOf g.target index p b := by
  rw [Generator.locationBlock, Logged.result_bind] at h
  obtain ⟨site, hsite, h⟩ := bind_eq_ok_iff.mp h
  obtain rfl := Generator.site_eq_of_ok hsite
  rw [Logged.result_bind] at h
  obtain ⟨body, hbody, h⟩ := bind_eq_ok_iff.mp h
  have hne : body.isEmpty = false := List.isEmpty_eq_false_iff.mpr (closes_of_locationBody hbody).ne_nil
  rw [hne] at h
  obtain ⟨condition, hcondition, h⟩ := bind_eq_ok_iff.mp ((Logged.result_bind _ _).symm.trans h)
  exact ⟨_, Except.ok.inj h, ⟨rfl, rfl, hcondition, hbody⟩⟩

/-- The blocks of a server are the blocks of its locations, one for one and in the order in which they are tried. -/
theorem blockOf_of_locationBlocks {server : Server} {blocks : List LocationBlock}
    (h : (g.locationBlocks (locationBody g.target) index server).result = .ok blocks) :
    List.Forall₂ (BlockOf g.target index) server.tried blocks := by
  have hcandidates : server.candidates index = server.tried.map fun p => ⟨index, p.position, p.location⟩ := rfl
  rw [Generator.locationBlocks, Logged.result_bind] at h
  obtain ⟨found, hfound, h⟩ := bind_eq_ok_iff.mp h
  obtain rfl : found.filterMap id = blocks := Except.ok.inj h
  rw [Logged.result_forEach_eq_ok_iff, hcandidates, List.forall₂_map_left_iff] at hfound
  have hblocks := hfound.imp fun p block hblock => blockOf_of_locationBlock hblock
  simpa using forall₂_filter_filterMap (p := fun _ => true) (by simpa using hblocks)

/-- The servers with a location that a path can reach, with their numbers. -/
def Config.reachable (c : Config) : List (Nat × Server) :=
  c.numbered.filter (!·.2.tried.isEmpty)

/-- The block that a server has in the code for a target. -/
structure ServerBlockOf (target : Target) (s : Nat × Server) (b : ServerBlock) : Prop where
  index : b.index = s.1
  description : b.description = s.2.description
  condition : Host.condition s.2.names target.dialect = .ok b.condition
  locations : List.Forall₂ (BlockOf target s.1) s.2.tried b.locations

theorem serverBlockOf_of_serverBlock {s : Nat × Server} {block : Option ServerBlock}
    (h : (g.serverBlock (locationBody g.target) s.1 s.2).result = .ok block) :
    if !s.2.tried.isEmpty then ∃ b, some b = block ∧ ServerBlockOf g.target s b else none = block := by
  rw [Generator.serverBlock, Logged.result_bind] at h
  obtain ⟨locations, hlocations, h⟩ := bind_eq_ok_iff.mp h
  have hforall := blockOf_of_locationBlocks hlocations
  cases htried : s.2.tried with
  | nil =>
      rw [htried] at hforall
      cases hforall
      exact Except.ok.inj h
  | cons p ps =>
      obtain ⟨b, bs, -, -, rfl⟩ := List.forall₂_cons_left_iff.mp (htried ▸ hforall)
      obtain ⟨condition, hcondition, h⟩ := bind_eq_ok_iff.mp ((Logged.result_bind _ _).symm.trans h)
      exact ⟨_, Except.ok.inj h, ⟨rfl, rfl, hcondition, hforall⟩⟩

/-- The server blocks are those of the servers with a location that a path can reach. -/
theorem serverBlockOf_of_serverBlocks {blocks : List ServerBlock}
    (h : (g.serverBlocks (locationBody g.target)).result = .ok blocks) :
    List.Forall₂ (ServerBlockOf g.target) g.config.reachable blocks := by
  rw [Generator.serverBlocks, Logged.result_bind] at h
  obtain ⟨found, hfound, h⟩ := bind_eq_ok_iff.mp h
  obtain rfl : found.filterMap id = blocks := Except.ok.inj h
  refine forall₂_filter_filterMap ((Logged.result_forEach_eq_ok_iff.mp hfound).imp ?_)
  intro s block hblock
  exact serverBlockOf_of_serverBlock hblock

end EdgeRoutes
