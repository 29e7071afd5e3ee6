import EdgeRoutes.Proofs.Emission
import EdgeRoutes.Proofs.LocationChoice
import EdgeRoutes.Proofs.TargetAgreement
import Mathlib.Data.List.Flatten

/-! The phases of a request in a delivery network. The first phase chooses a location by host and path and sends its route
along; the later phases choose their block by that route. A route is a place in the configuration, so that two locations
that look alike are still told apart, and each phase has at most one block for a route: that of the location there. -/

namespace EdgeRoutes

open Location Js

namespace Config

/-- The routes of chosen locations of each server are distinct if their positions are. -/
theorem nodup_routes_of {c : Config} (chosen : Server → List Placed)
    (hchosen : ∀ s, ((chosen s).map Placed.position).Nodup) :
    (c.numbered.flatMap fun s => (chosen s.2).map fun p => (⟨s.1, p.position⟩ : Route)).Nodup := by
  rw [List.nodup_flatMap]
  constructor
  · intro s _
    have hroutes : ((chosen s.2).map fun p => (⟨s.1, p.position⟩ : Route)) =
        ((chosen s.2).map Placed.position).map (Route.mk s.1) := by
      rw [List.map_map]
      rfl
    rw [hroutes]
    exact (hchosen s.2).map fun i j h => (Route.mk.inj h).2
  · refine (List.pairwise_map.mp c.nodup_numbered).imp fun {s t} hne r hs ht => ?_
    obtain ⟨p, -, rfl⟩ := List.mem_map.mp hs
    obtain ⟨q, -, hq⟩ := List.mem_map.mp ht
    exact hne (Route.mk.inj hq).1.symm

theorem nodup_routes (c : Config) : c.routes.Nodup :=
  nodup_routes_of (fun s => place s.locations) fun s => nodup_place s.locations

end Config

theorem Server.mem_tried {s : Server} {p : Placed} :
    p ∈ s.tried ↔ (∃ j, s.locations[j]? = some p.location ∧ p.position = j + 1) ∧ p.location.isNamed = false := by
  rw [s.perm_tried.mem_iff, addressable, List.mem_filter, mem_place, Bool.not_eq_true']

namespace Config

/-- The routes of the locations of a server that a path can reach, in the order in which they are tried. -/
def triedRoutes (s : Nat × Server) : List Route :=
  s.2.tried.map fun p => ⟨s.1, p.position⟩

theorem nodup_triedRoutes (c : Config) : (c.numbered.flatMap triedRoutes).Nodup := by
  refine nodup_routes_of Server.tried fun s => ?_
  exact (s.perm_tried.map Placed.position).nodup_iff.mpr
    ((nodup_place s.locations).sublist (List.filter_sublist.map _))

theorem nodup_reachable (c : Config) : (c.reachable.flatMap triedRoutes).Nodup := by
  have hnodup := c.nodup_triedRoutes
  rw [List.flatMap_def] at hnodup ⊢
  exact hnodup.sublist (List.filter_sublist.map _).flatten

/-- The locations that a path can reach, server by server, in the order in which they are tried. -/
def sites (c : Config) : List Site :=
  (c.numbered.flatMap fun s => s.2.candidates s.1).map Held.site

theorem sites_eq (c : Config) :
    c.sites = c.numbered.flatMap fun s => s.2.tried.map fun p => ⟨⟨s.1, p.position⟩, p.location⟩ := by
  simp only [sites, Server.candidates, List.map_flatMap, List.map_map]
  rfl

theorem nodup_sites (c : Config) : (c.sites.map Site.route).Nodup := by
  have hroutes : c.sites.map Site.route = c.numbered.flatMap triedRoutes := by
    simp only [sites_eq, List.map_flatMap, List.map_map]
    rfl
  rw [hroutes]
  exact c.nodup_triedRoutes

theorem mem_reachable_of_mem_tried {c : Config} {s : Nat × Server} {p : Placed} (hs : s ∈ c.numbered)
    (hp : p ∈ s.2.tried) : s ∈ c.reachable :=
  List.mem_filter.mpr ⟨hs, by simpa using List.ne_nil_of_mem hp⟩

/-- A server with a location that a path can reach. -/
theorem hasAt_of_mem_tried {c : Config} {s : Nat × Server} {p : Placed} (hs : s ∈ c.numbered) (hp : p ∈ s.2.tried) :
    c.HasAt ⟨s.1, p.position⟩ p.location ∧ p.location.isNamed = false := by
  obtain ⟨i, hi, hindex⟩ := mem_numbered.mp hs
  obtain ⟨⟨j, hl, hposition⟩, hnamed⟩ := Server.mem_tried.mp hp
  exact ⟨⟨i, j, s.2, hi, hl, by rw [hindex, hposition]⟩, hnamed⟩

theorem HasAt.exists_tried {c : Config} {r : Route} {l : Location} (h : c.HasAt r l) (hnamed : l.isNamed = false) :
    ∃ s ∈ c.numbered, ∃ p ∈ s.2.tried, r = ⟨s.1, p.position⟩ ∧ p.location = l := by
  obtain ⟨i, j, server, hi, hl, rfl⟩ := h
  exact ⟨(i + 1, server), mem_numbered.mpr ⟨i, hi, rfl⟩, ⟨j + 1, l⟩, Server.mem_tried.mpr ⟨⟨j, hl, rfl⟩, hnamed⟩,
    rfl, rfl⟩

theorem mem_sites {c : Config} {site : Site} :
    site ∈ c.sites ↔ c.HasAt site.route site.location ∧ site.location.isNamed = false := by
  rw [sites_eq, List.mem_flatMap]
  constructor
  · rintro ⟨s, hs, hsite⟩
    obtain ⟨p, hp, rfl⟩ := List.mem_map.mp hsite
    exact hasAt_of_mem_tried hs hp
  · rintro ⟨hat, hnamed⟩
    obtain ⟨s, hs, p, hp, hroute, hlocation⟩ := hat.exists_tried hnamed
    exact ⟨s, hs, List.mem_map.mpr ⟨p, hp, by rw [← hroute, hlocation]⟩⟩

end Config

/-- The text of a route is that of one location only. -/
theorem Config.HasAt.eq_of_id_eq {c : Config} {r r' : Route} {l l' : Location} (h : c.HasAt r l) (h' : c.HasAt r' l')
    (hid : r.id = r'.id) : r = r' ∧ l = l' := by
  obtain rfl := Route.id_injective hid
  exact ⟨rfl, h.unique h'⟩

/-- The action has statements for the location. -/
def Action.acts (action : Action) (site : Site) : Bool :=
  match (action site).result with
  | .ok body => !body.isEmpty
  | .error _ => false

/-- The block that a location has in a later phase. -/
structure RouteBlockOf (action : Action) (site : Site) (b : RouteBlock) : Prop where
  route : b.route = site.route
  label : b.label = site.location.label
  body : (action site).result = .ok b.body

theorem routeBlockOf_of_routeBlock {g : Generator} {action : Action} {h : Held} {block : Option RouteBlock}
    (hblock : (g.routeBlock action h).result = .ok block) :
    if action.acts h.site then ∃ b, some b = block ∧ RouteBlockOf action h.site b else none = block := by
  rw [Generator.routeBlock, Logged.result_bind] at hblock
  obtain ⟨body, hbody, hblock⟩ := bind_eq_ok_iff.mp hblock
  rw [Action.acts, hbody]
  cases body with
  | nil => exact Except.ok.inj hblock
  | cons s ss =>
      obtain ⟨route, hroute, hblock⟩ := bind_eq_ok_iff.mp ((Logged.result_bind _ _).symm.trans hblock)
      exact ⟨_, Except.ok.inj hblock, ⟨(Config.routeOf_eq_ok_iff.mp hroute).1, rfl, hbody⟩⟩

/-- The blocks of a later phase are those of the locations for which it has statements. -/
theorem routeBlockOf_of_routeBlocks {g : Generator} {action : Action} {blocks : List RouteBlock}
    (h : (g.routeBlocks action).result = .ok blocks) :
    List.Forall₂ (RouteBlockOf action) (g.config.sites.filter action.acts) blocks := by
  rw [Generator.routeBlocks, Logged.result_bind] at h
  obtain ⟨found, hfound, h⟩ := bind_eq_ok_iff.mp h
  obtain rfl : found.filterMap id = blocks := Except.ok.inj h
  refine forall₂_filter_filterMap ?_
  rw [Config.sites, List.forall₂_map_left_iff]
  exact (Logged.result_forEach_eq_ok_iff.mp hfound).imp fun _ _ hblock => routeBlockOf_of_routeBlock hblock

/-- A phase that has its blocks came to a result for every location that a path can reach. -/
theorem exists_body_of_routeBlocks {g : Generator} {action : Action} {blocks : List RouteBlock}
    (h : (g.routeBlocks action).result = .ok blocks) {site : Site} (hsite : site ∈ g.config.sites) :
    ∃ body, (action site).result = .ok body := by
  rw [Generator.routeBlocks, Logged.result_bind] at h
  obtain ⟨found, hfound, -⟩ := bind_eq_ok_iff.mp h
  obtain ⟨candidate, hcandidate, rfl⟩ := List.mem_map.mp hsite
  obtain ⟨block, -, hblock⟩ := exists_right_of_forall₂ (Logged.result_forEach_eq_ok_iff.mp hfound) hcandidate
  rw [Generator.routeBlock, Logged.result_bind] at hblock
  obtain ⟨body, hbody, -⟩ := bind_eq_ok_iff.mp hblock
  exact ⟨body, hbody⟩

/-- What the blocks of a later phase have to do with the configuration: no route has two of them, each carries the
statements of the location at its route, and a location with statements has one. -/
structure PhaseBlocks (c : Config) (action : Action) (blocks : List RouteBlock) : Prop where
  ids : (blocks.map fun b => b.route.id).Nodup
  carries : ∀ b ∈ blocks, ∃ l, c.HasAt b.route l ∧ l.isNamed = false ∧
    (∀ r l', c.HasAt r l' → r.id = b.route.id → r = b.route ∧ l' = l) ∧
    b.label = l.label ∧ (action ⟨b.route, l⟩).result = .ok b.body
  complete : ∀ r l, c.HasAt r l → l.isNamed = false → ∃ body, (action ⟨r, l⟩).result = .ok body ∧
    (body ≠ [] → ∃ b ∈ blocks, b.route = r)

/-- The route blocks of an action have to do with the configuration what a phase should. -/
theorem phaseBlocks_of_routeBlocks {g : Generator} {action : Action} {blocks : List RouteBlock}
    (h : (g.routeBlocks action).result = .ok blocks) : PhaseBlocks g.config action blocks := by
  have hforall := routeBlockOf_of_routeBlocks h
  refine ⟨?_, ?_, ?_⟩
  · have hids : (blocks.map fun b => b.route.id) = ((g.config.sites.filter action.acts).map Site.route).map Route.id := by
      rw [List.map_map]
      exact map_eq_of_forall₂ (fun site b site' hb hsite => by rw [hb.route, ← hsite]; rfl) hforall
        (List.forall₂_same.mpr fun _ _ => rfl)
    rw [hids]
    exact (g.config.nodup_sites.sublist (List.filter_sublist.map _)).map fun _ _ => Route.id_injective
  · intro b hb
    obtain ⟨site, hsite, hblock⟩ := exists_left_of_forall₂ hforall hb
    obtain ⟨hat, hnamed⟩ := Config.mem_sites.mp (List.mem_filter.mp hsite).1
    have hsite : site = ⟨b.route, site.location⟩ := by rw [hblock.route]
    rw [← hblock.route] at hat
    refine ⟨site.location, hat, hnamed, fun r l' hr hid => hr.eq_of_id_eq hat hid, hblock.label, ?_⟩
    rw [← hsite]
    exact hblock.body
  · intro r l hat hnamed
    have hsite : (⟨r, l⟩ : Site) ∈ g.config.sites := Config.mem_sites.mpr ⟨hat, hnamed⟩
    obtain ⟨body, hbody⟩ := exists_body_of_routeBlocks h hsite
    refine ⟨body, hbody, fun hne => ?_⟩
    have hacts : action.acts ⟨r, l⟩ = true := by
      simpa [Action.acts, hbody] using hne
    obtain ⟨b, hb, hblock⟩ := exists_right_of_forall₂ hforall (List.mem_filter.mpr ⟨hsite, hacts⟩)
    exact ⟨b, hb, hblock.route⟩

theorem PhaseBlocks.eq_of_id_eq {c : Config} {action : Action} {blocks : List RouteBlock}
    (h : PhaseBlocks c action blocks) {b b' : RouteBlock} (hb : b ∈ blocks) (hb' : b' ∈ blocks)
    (hid : b.route.id = b'.route.id) : b = b' :=
  List.inj_on_of_nodup_map h.ids hb hb' hid

/-- The code of the statements ends in handing the request on under a route. -/
def HandsOn (comments : Bool) (r : Route) (body : List Statement) : Prop :=
  ∃ before, Statement.codeAll .edgeHook comments body = before ++ Code.flat [forwardStatement r]

theorem codeAll_append (target : Target) (comments : Bool) (xs ys : List Statement) :
    Statement.codeAll target comments (xs ++ ys) =
      Statement.codeAll target comments xs ++ Statement.codeAll target comments ys := by
  induction xs with
  | nil => rfl
  | cons x xs ih => rw [List.cons_append, Statement.codeAll, Statement.codeAll, ih, List.append_assoc]

theorem HandsOn.append_left {comments : Bool} {r : Route} {body : List Statement} (h : HandsOn comments r body)
    (before : List Statement) : HandsOn comments r (before ++ body) := by
  obtain ⟨more, hmore⟩ := h
  refine ⟨Statement.codeAll .edgeHook comments before ++ more, ?_⟩
  rw [codeAll_append, hmore, List.append_assoc]

/-- Without a fixed answer, the statements of a location hand the request on under its own route, whatever else they do
before. -/
theorem handsOn_of_locationBody {site : Site} {body : List Statement} (comments : Bool)
    (h : (locationBody .edgeHook site).result = .ok body) (hanswer : site.location.directives.answer = none) :
    HandsOn comments site.route body := by
  have hforward : ∀ headers, HandsOn comments site.route (forwardStatements site headers) := fun headers => ⟨[], rfl⟩
  simp only [locationBody, hanswer, Logged.result_bind] at h
  obtain ⟨headers, -, h⟩ := bind_eq_ok_iff.mp h
  obtain ⟨rules, -, h⟩ := bind_eq_ok_iff.mp h
  split at h
  · cases h
    exact HandsOn.append_left ⟨[], rfl⟩ rules
  · cases h
    apply HandsOn.append_left
    split
    · exact (hforward headers).append_left [_]
    · exact hforward headers

/-- The blocks of servers have the routes of the locations that a path can reach, in the order in which they are
tried. -/
theorem routes_of_serverBlockOf {t : Target} {servers : List (Nat × Server)} {blocks : List ServerBlock}
    (h : List.Forall₂ (ServerBlockOf t) servers blocks) :
    (blocks.flatMap fun b => b.locations.map LocationBlock.route) = servers.flatMap Config.triedRoutes := by
  have hroutes : (blocks.map fun b => b.locations.map LocationBlock.route) = servers.map Config.triedRoutes :=
    map_eq_of_forall₂ (S := Eq) (fun s b s' hb hs => hs ▸ map_eq_of_forall₂ (S := Eq)
      (fun p block p' hblock hp => hp ▸ hblock.route) hb.locations (List.forall₂_same.mpr fun _ _ => rfl)) h
      (List.forall₂_same.mpr fun _ _ => rfl)
  rw [List.flatMap_def, hroutes, List.flatMap_def]

/-- What the file is filled with: the text of the blocks of each phase. -/
theorem blocks_of_sections {config : Config} {options : Options} {context : Template.Context}
    (h : (Generator.sections ⟨.edgeHook, config, options⟩).result = .ok context) :
    ∃ viewer request response,
      context = [("viewer_request", .text (ServerBlock.text .edgeHook options.comments viewer 1)),
        ("origin_request", .text (RouteBlock.text .edgeHook options.comments request 1)),
        ("origin_response", .text (RouteBlock.text .edgeHook options.comments response 1))] ∧
      (Generator.serverBlocks ⟨.edgeHook, config, options⟩ (locationBody .edgeHook)).result = .ok viewer ∧
      (Generator.routeBlocks ⟨.edgeHook, config, options⟩ originRequestBody).result = .ok request ∧
      (Generator.routeBlocks ⟨.edgeHook, config, options⟩ originResponseBody).result = .ok response := by
  simp only [Generator.sections, Generator.routing, Generator.routes, Logged.result_bind] at h
  obtain ⟨_, htext, h⟩ := bind_eq_ok_iff.mp h
  obtain ⟨viewer, hviewer, rfl⟩ := map_eq_ok_iff.mp htext
  obtain ⟨_, htext, h⟩ := bind_eq_ok_iff.mp h
  obtain ⟨request, hrequest, rfl⟩ := map_eq_ok_iff.mp htext
  obtain ⟨_, htext, h⟩ := bind_eq_ok_iff.mp h
  obtain ⟨response, hresponse, rfl⟩ := map_eq_ok_iff.mp htext
  exact ⟨viewer, request, response, (Except.ok.inj h).symm, hviewer, hrequest, hresponse⟩

theorem originRequestBody_ne_nil {site : Site} {body : List Statement} (h : (originRequestBody site).result = .ok body)
    (hproxy : site.location.directives.proxyPass.isSome = true) (hanswer : site.location.directives.answer = none) :
    body ≠ [] := by
  rcases originRequestBody_cases h with ⟨hnot, -⟩ | ⟨url, -, -, ⟨reason, -, rfl⟩ | ⟨text, origin, rfl⟩⟩
  · exact absurd ⟨hproxy, hanswer⟩ hnot
  · exact (closes_degraded url reason).ne_nil
  · exact List.cons_ne_nil _ _

/-- Two servers; the first one has the same location twice, and one that answers by itself. -/
def twins : Config where
  servers := [
    { locations := [
        { path := "/", directives := { proxyPass := some "http://app" } },
        { path := "/old", directives := { answer := some { code := 301, url := some "/" } } },
        { path := "/", directives := { proxyPass := some "http://app" } }] },
    { names := ["b"], locations := [{ path := "/", directives := { expires := some "1h" } }] }]

theorem twins_readable : twins.Readable .edgeHook := by
  have haddress : AddressSound "http://app" := by
    obtain ⟨found, hfound⟩ := Option.isSome_iff_exists.mp
      (show (resolve "http://app").toOption.isSome = true by decide +kernel)
    exact (needs_resolve _).returns.mp ⟨found, toOption_eq_some_iff.mp hfound⟩
  have htime : Http.TimeSound (Http.expiresTime "1h") := by
    obtain ⟨found, hfound⟩ := Option.isSome_iff_exists.mp
      (show (Http.parseTime (Http.expiresTime "1h")).toOption.isSome = true by decide +kernel)
    exact (Http.needs_parseTime _).returns.mp ⟨found, toOption_eq_some_iff.mp hfound⟩
  constructor
  · simp [twins, Server.NamesReadable, Host.pattern?]
  · simp only [twins, List.mem_cons, List.not_mem_nil, or_false, forall_eq_or_imp, forall_eq]
    refine ⟨⟨?_, ?_, ?_⟩, ?_⟩
    all_goals constructor <;> simp [Location.isRegex, haddress, htime]

theorem twins_emittable : twins.Emittable .edgeHook := by
  simp [Config.Emittable, Location.Emittable, twins, Fields.get?]

end EdgeRoutes
