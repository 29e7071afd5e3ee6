import EdgeRoutes.Generate.Source
import EdgeRoutes.Proofs.LocationChoice
import EdgeRoutes.Proofs.PatternConversion

/-! The code of a configuration. A check of the configuration has read its patterns, its times and, for some targets,
its addresses; if it could, then code is written as well. Only two things are read here for the first time: how long
the network waits for an upstream, and the standard port of a scheme that came with another port. -/

namespace EdgeRoutes

open Pattern Http Location

/-- The target needs the parts of an upstream's address. -/
def Target.readsAddresses : Target → Bool
  | .edgeHook | .minimal => true
  | .worker | .middleware => false

/-- The values of a location that its check reads can be read. -/
structure Location.Readable (t : Target) (l : Location) : Prop where
  path : l.isRegex = true → Checks l.path
  rules : ∀ rule ∈ l.directives.rewrites, Checks rule.regex
  expires : ∀ expires, l.directives.expires = some expires → TimeSound (expiresTime expires)
  address : t.readsAddresses = true → ∀ url, l.directives.proxyPass = some url → AddressSound url

/-- The server names that are patterns can be read. -/
def Server.NamesReadable (s : Server) : Prop :=
  ∀ name ∈ s.names, ∀ pattern, Host.pattern? name = some pattern → Checks pattern

/-- The values of a configuration that its check reads can be read. -/
structure Config.Readable (t : Target) (c : Config) : Prop where
  names : ∀ s ∈ c.servers, s.NamesReadable
  locations : ∀ s ∈ c.servers, ∀ l ∈ s.locations, l.Readable t

/-- What the code of a location takes from its upstream can be read: the time to wait for it, and the origin by name. -/
def Location.Emittable (t : Target) (l : Location) : Prop :=
  ∀ url, l.directives.proxyPass = some url → l.directives.answer = none →
    ∀ upstream, resolve url = .ok (.ok upstream) →
      (t = .edgeHook →
        ∀ setting, l.directives.extra.get? "proxy_read_timeout" = some setting → TimeSound setting.display) ∧
      (t = .minimal → IsStandardScheme upstream.scheme)

/-- The code of every location that a path can reach can be written. -/
def Config.Emittable (t : Target) (c : Config) : Prop :=
  ∀ s ∈ c.servers, ∀ l ∈ s.locations, l.isNamed = false → l.Emittable t

theorem Location.emittable_iff {t : Target} {l : Location} {url : String} (hproxy : l.directives.proxyPass = some url)
    (hanswer : l.directives.answer = none) : l.Emittable t ↔ ∀ upstream, resolve url = .ok (.ok upstream) →
      (t = .edgeHook →
        ∀ setting, l.directives.extra.get? "proxy_read_timeout" = some setting → TimeSound setting.display) ∧
      (t = .minimal → IsStandardScheme upstream.scheme) := by
  simp only [Location.Emittable, hproxy, hanswer, Option.some.injEq, forall_eq', true_implies]

theorem Config.forall_numbered {c : Config} {P : Server → Prop} :
    (∀ s ∈ c.numbered, P s.2) ↔ ∀ s ∈ c.servers, P s := by
  have hservers : c.numbered.map Prod.snd = c.servers := by
    rw [numbered, List.map_map]
    exact List.zipIdx_map_fst 1 c.servers
  rw [← hservers, List.forall_mem_map]

theorem Server.forall_candidates {s : Server} {index : Nat} {P : Location → Prop} :
    (∀ h ∈ s.candidates index, P h.location) ↔ ∀ l ∈ s.locations, l.isNamed = false → P l := by
  have hcandidates : s.candidates index = s.tried.map fun p => ⟨index, p.position, p.location⟩ := rfl
  have hlocations : (place s.locations).map Placed.location = s.locations := by
    rw [place, List.map_map]
    exact List.zipIdx_map_fst 1 s.locations
  rw [hcandidates, List.forall_mem_map]
  constructor
  · intro h l hl hnamed
    rw [← hlocations] at hl
    obtain ⟨p, hp, rfl⟩ := List.mem_map.mp hl
    exact h p (s.perm_tried.mem_iff.mpr (List.mem_filter.mpr ⟨hp, by rw [hnamed]; rfl⟩))
  · intro h p hp
    obtain ⟨hplace, hnamed⟩ := List.mem_filter.mp (s.perm_tried.mem_iff.mp hp)
    refine h p.location ?_ (by simpa using hnamed)
    rw [← hlocations]
    exact List.mem_map_of_mem hplace

theorem needs_translation? (l : Location) (dialect : Dialect) :
    Needs (l.translation? dialect) (l.isRegex = true → Checks l.path) := by
  unfold translation?
  split_ifs with hregex
  · exact ((needs_translate l.path dialect _).map some).congr ⟨fun h _ => h, fun h => h hregex⟩
  · exact (Needs.ok none).congr (iff_of_true trivial fun h => absurd h hregex)

theorem needs_condition (l : Location) (dialect : Dialect) :
    Needs (l.condition dialect) (l.isRegex = true → Checks l.path) :=
  (needs_translation? l dialect).bind_ok fun t => by cases t <;> exact .ok _

theorem needs_hostTest (dialect : Dialect) (name : String) :
    Needs (Host.test dialect name) (∀ pattern, Host.pattern? name = some pattern → Checks pattern) := by
  unfold Host.test
  cases Host.pattern? name with
  | some pattern => exact ((needs_translate pattern dialect false).map _).congr (by simp)
  | none => exact (Needs.ok _).congr (by simp)

theorem needs_hostCondition {s : Server} (h : s.NamesReadable) (dialect : Dialect) :
    Needs (Host.condition s.names dialect) True := by
  unfold Host.condition
  split_ifs
  · exact .ok _
  · exact ((Needs.mapM fun name _ => needs_hostTest dialect name).bind_ok fun tests => .ok _).congr (iff_true_intro h)

theorem needs_rewriteStatements (dialect : Dialect) (headers : Fields String) (rules : List RewriteRule) :
    Needs (rewriteStatements dialect headers rules) (∀ rule ∈ rules, Checks rule.regex) := by
  induction rules with
  | nil => exact (Needs.ok []).congr (by simp)
  | cons rule rules ih =>
      rw [rewriteStatements, List.forall_mem_cons]
      refine (needs_translate rule.regex dialect false).bind_const fun t _ => ih.bind_ok fun rest => ?_
      split_ifs <;> exact .ok _

section Statements

variable {t : Target} {site : Site}

/-- What follows an address has to come to an end for an origin only; the lack of one is dealt with. -/
theorem needs_resolved {α : Type} {url : String} {f : Except String ProxyTarget → Except Fault α}
    {P : ProxyTarget → Prop} (haddress : AddressSound url) (hrefused : ∀ reason, Needs (f (.error reason)) True)
    (hfound : ∀ upstream, Needs (f (.ok upstream)) (P upstream)) :
    Needs ((resolve url).bind f) (∀ upstream, resolve url = .ok (.ok upstream) → P upstream) := by
  obtain ⟨found, hresolve⟩ := (needs_resolve url).returns.mpr haddress
  rw [hresolve]
  cases found with
  | error reason => exact (hrefused reason).congr (by simp)
  | ok upstream => exact (hfound upstream).congr (by simp)

theorem needs_proxyStatements {url : String} (headers : Fields String)
    (haddress : t.readsAddresses = true → AddressSound url) :
    Needs (proxyStatements t site url headers).result
      (t = .minimal → ∀ upstream, resolve url = .ok (.ok upstream) → IsStandardScheme upstream.scheme) := by
  cases t with
  | worker | middleware | edgeHook => exact (Needs.ok _).congr (by simp)
  | minimal =>
      simp only [proxyStatements, Logged.result_bind, Logged.result_liftM, true_implies]
      refine needs_resolved (haddress rfl) (fun reason => .ok _) fun upstream => ?_
      simp only [Logged.result_bind]
      exact (needs_proxyResolved site.location upstream).bind_ok fun proxy => .ok _

/-- The statements of a location come to a result unless the minimal runtime cannot read its upstream. -/
theorem needs_locationBody (h : site.location.Readable t) :
    Needs (locationBody t site).result (t = .minimal → site.location.Emittable t) := by
  simp only [locationBody, Logged.result_bind]
  refine ((needs_responseHeaders site.location.directives).bind_const fun headers _ => ?_).congr
    (and_iff_right h.expires)
  cases hanswer : site.location.directives.answer with
  | some answer => exact (Needs.ok _).congr (by simp [Location.Emittable, hanswer])
  | none =>
      simp only [Logged.result_bind]
      refine ((needs_rewriteStatements t.dialect headers _).bind_const fun rules _ => ?_).congr (and_iff_right h.rules)
      cases hproxy : site.location.directives.proxyPass with
      | none => exact (Needs.ok _).congr (by simp [Location.Emittable, hproxy])
      | some url =>
          simp only [Logged.result_bind]
          refine ((needs_proxyStatements headers fun ht => h.address ht url hproxy).bind_ok fun rest => .ok _).congr ?_
          rw [Location.emittable_iff hproxy hanswer]
          constructor
          · rintro hscheme rfl upstream hfound
            refine ⟨fun hedge => ?_, fun _ => hscheme rfl upstream hfound⟩
            cases hedge
          · rintro hemit rfl upstream hfound
            exact (hemit rfl upstream hfound).2 rfl

theorem needs_originRequestBody (h : site.location.Readable .edgeHook) :
    Needs (originRequestBody site).result (site.location.Emittable .edgeHook) := by
  cases hproxy : site.location.directives.proxyPass with
  | none =>
      simp only [originRequestBody, hproxy]
      exact (Needs.ok _).congr (by simp [Location.Emittable, hproxy])
  | some url =>
      cases hanswer : site.location.directives.answer with
      | some answer =>
          simp only [originRequestBody, hproxy, hanswer]
          exact (Needs.ok _).congr (by simp [Location.Emittable, hanswer])
      | none =>
          simp only [originRequestBody, hproxy, hanswer, Logged.result_bind, Logged.result_liftM,
            Location.emittable_iff hproxy hanswer, true_implies, reduceCtorEq, false_implies, and_true]
          refine needs_resolved (h.address rfl url hproxy) (fun reason => .ok _) fun upstream => ?_
          simp only [Logged.result_bind]
          exact (needs_readTimeout site.location.directives).bind_ok fun timeout => .ok _

theorem needs_originResponseBody (h : site.location.Readable t) : Needs (originResponseBody site).result True := by
  simp only [originResponseBody, Logged.result_bind]
  exact ((needs_responseHeaders _).bind_ok fun headers => .ok _).congr (iff_true_intro h.expires)

end Statements

section Blocks

variable {g : Generator} {action : Action} {P : Location → Prop}

theorem needs_locationBlock {h : Held} (hholds : g.config.Holds h)
    (hpath : h.location.isRegex = true → Checks h.location.path)
    (haction : Needs (action h.site).result (P h.location)) :
    Needs (g.locationBlock action h).result (P h.location) := by
  simp only [Generator.locationBlock, Generator.site_of_holds hholds, Logged.result_bind, Logged.result_liftM]
  refine haction.bind_ok fun body => ?_
  split_ifs
  · exact .ok _
  · simp only [Logged.result_bind]
    exact ((needs_condition h.location g.target.dialect).bind_ok fun condition => .ok _).congr (iff_true_intro hpath)

theorem needs_serverBlock {index : Nat} {s : Server} (hnames : s.NamesReadable)
    (hblock : ∀ h ∈ s.candidates index, Needs (g.locationBlock action h).result (P h.location)) :
    Needs (g.serverBlock action index s).result (∀ l ∈ s.locations, l.isNamed = false → P l) := by
  simp only [Generator.serverBlock, Generator.locationBlocks, Logged.result_bind, Logged.result_forEach]
  refine (((Needs.mapM hblock).bind_ok fun blocks => .ok _).bind_ok fun locations => ?_).congr Server.forall_candidates
  split_ifs
  · exact .ok _
  · simp only [Logged.result_bind]
    exact (needs_hostCondition hnames g.target.dialect).bind_ok fun condition => .ok _

/-- The blocks of all servers come to be if each location's statements do. -/
theorem needs_serverBlocks {t : Target} (h : g.config.Readable t)
    (haction : ∀ site, site.location.Readable t → Needs (action site).result (P site.location)) :
    Needs (g.serverBlocks action).result
      (∀ s ∈ g.config.servers, ∀ l ∈ s.locations, l.isNamed = false → P l) := by
  simp only [Generator.serverBlocks, Logged.result_bind, Logged.result_forEach]
  refine ((Needs.mapM fun s hs => ?_).bind_ok fun blocks => .ok _).congr Config.forall_numbered
  have hnames := Config.forall_numbered.mpr h.names s hs
  have hlocations := Config.forall_numbered.mpr h.locations s hs
  have hcandidates : ∀ h ∈ s.2.candidates s.1, h.location.Readable t :=
    Server.forall_candidates.mpr fun l hl _ => hlocations l hl
  exact needs_serverBlock hnames fun h hh =>
    needs_locationBlock (Server.holds_of_mem_candidates hs hh) (hcandidates h hh).path (haction h.site (hcandidates h hh))

/-- The blocks of a later phase come to be if each location's statements do. -/
theorem needs_routeBlocks {t : Target} (h : g.config.Readable t)
    (haction : ∀ site, site.location.Readable t → Needs (action site).result (P site.location)) :
    Needs (g.routeBlocks action).result
      (∀ s ∈ g.config.servers, ∀ l ∈ s.locations, l.isNamed = false → P l) := by
  simp only [Generator.routeBlocks, Logged.result_bind, Logged.result_forEach]
  have hcandidates : ∀ {Q : Location → Prop},
      (∀ h ∈ g.config.numbered.flatMap fun s => s.2.candidates s.1, Q h.location) ↔
        ∀ s ∈ g.config.servers, ∀ l ∈ s.locations, l.isNamed = false → Q l := by
    intro Q
    rw [List.forall_mem_flatMap, ← Config.forall_numbered]
    exact forall₂_congr fun s _ => Server.forall_candidates
  refine ((Needs.mapM fun candidate hmem => ?_).bind_ok fun blocks => .ok _).congr hcandidates
  have hreadable := hcandidates.mpr (fun s hs l hl _ => h.locations s hs l hl) candidate hmem
  obtain ⟨s, hs, hmem⟩ := List.mem_flatMap.mp hmem
  have hroute := Config.routeOf_eq_ok_iff.mpr ⟨rfl, Server.holds_of_mem_candidates hs hmem⟩
  simp only [Generator.routeBlock, Logged.result_bind]
  refine (haction candidate.site hreadable).bind_ok fun body => ?_
  split_ifs
  · exact .ok _
  · simp only [hroute, Logged.result_bind, Logged.result_liftM]
    exact .ok _

end Blocks

/-- Of a configuration that can be read, the code comes to be just if that of each location can be written. -/
theorem needs_sections {g : Generator} (h : g.config.Readable g.target) :
    Needs g.sections.result (g.config.Emittable g.target) := by
  have hblocks : Needs (g.serverBlocks (locationBody g.target)).result
      (∀ s ∈ g.config.servers, ∀ l ∈ s.locations, l.isNamed = false → g.target = .minimal → l.Emittable g.target) :=
    needs_serverBlocks h fun site hsite => needs_locationBody hsite
  obtain ⟨target, config, options⟩ := g
  cases target with
  | worker | middleware =>
      simp only [Generator.sections, Generator.routing, Logged.result_bind]
      exact ((hblocks.bind_ok fun blocks => .ok _).bind_ok fun text => .ok _).congr
        (iff_of_true (fun _ _ _ _ _ => nofun) fun _ _ _ _ _ _ _ _ _ _ => ⟨nofun, nofun⟩)
  | minimal =>
      simp only [Generator.sections, Generator.routing, Logged.result_bind]
      exact ((hblocks.bind_ok fun blocks => .ok _).bind_ok fun text => .ok _).congr (by simp [Config.Emittable])
  | edgeHook =>
      have hrequest : Needs (Generator.routeBlocks ⟨.edgeHook, config, options⟩ originRequestBody).result
          (config.Emittable .edgeHook) := needs_routeBlocks h fun site hsite => needs_originRequestBody hsite
      have hresponse : Needs (Generator.routeBlocks ⟨.edgeHook, config, options⟩ originResponseBody).result
          (∀ s ∈ config.servers, ∀ l ∈ s.locations, l.isNamed = false → True) :=
        needs_routeBlocks (P := fun _ => True) h fun site hsite => needs_originResponseBody hsite
      simp only [Generator.sections, Generator.routing, Generator.routes, Logged.result_bind]
      -- the first phase and the last read nothing that the check has not read before them
      refine ((hblocks.bind_ok fun blocks => .ok _).bind_const fun viewer _ =>
        (hrequest.bind_ok fun blocks => .ok _).bind_ok fun request =>
          ((hresponse.bind_ok fun blocks => .ok _).bind_ok fun response => .ok _).congr (by simp)).congr ?_
      exact and_iff_right fun _ _ _ _ _ => nofun

end EdgeRoutes
