import EdgeRoutes.Proofs.BlockReading
import EdgeRoutes.Proofs.ForwardingCode
import EdgeRoutes.Proofs.LineBreaks
import EdgeRoutes.Proofs.OriginLines

/-! The phases of a request, read off their lines. The first phase hands a request on under an id; the later phases have
blocks for ids. What is read off the lines of one phase and off those of another comes from one location, the one that
the search gives that id. -/

namespace EdgeRoutes

open Js Js.Code

/-- The id under which the last of some lines hands a request on. -/
def forwardedId? (level : Nat) (lines : List String) : Option String := do
  let text ← lines.getLast?.bind (textAt? level)
  let rest ← Text.after? "return forwardRequest(request, path, rewritten, ".toList text
  let (id, rest) ← readString? rest
  if rest = ");".toList then some id else none

/-- The block of a location in the first phase: its condition, and its statements. Unless the location answers by
itself, they end in handing the request on under the id of the location. -/
structure ViewerBlock (c : Config) (comments : Bool) (h : Held) (block : String × List String) : Prop where
  condition : ∃ condition, h.location.condition .ecmascript = .ok condition ∧ block.1 = condition.render "path"
  statements : ∃ body, (locationBody .edgeHook h.site).result = .ok body ∧
    block.2 = (Statement.codeAll .edgeHook comments body).lines 3
  forwards : h.location.directives.answer = none → ∃ id, c.routeId h = .ok id ∧ forwardedId? 3 block.2 = some id
  answers : h.location.directives.answer ≠ none → forwardedId? 3 block.2 = none

/-- The first phase: a block for each server with a location that a path can reach, and in it one for each such location,
in the order in which they are tried. -/
structure ViewerLines (c : Config) (comments : Bool) (lines : List String)
    (servers : List (String × List (String × List String))) : Prop where
  reads : readNestedBlocks? 1 lines = some servers
  blocks : List.Forall₂ (fun (s : Nat × Server) server =>
    (∃ condition, Host.condition s.2.names .ecmascript = .ok condition ∧ server.1 = condition.render "hostname") ∧
      List.Forall₂ (ViewerBlock c comments) (s.2.candidates s.1) server.2) c.reachable servers

/-- The block of a location in a later phase: the statements of the location, which are read as what it asks of the
phase. -/
structure PhaseBlock (comments : Bool) (action : Action) (asks : Location → PhaseStep → Prop) (h : Held)
    (lines : List String) : Prop where
  statements : ∃ body, (action h.site).result = .ok body ∧ body ≠ [] ∧
    lines = (Statement.codeAll .edgeHook comments body).lines 2
  steps : ∃ step, readPhaseStep? (lines.map unindented) = some step ∧ asks h.location step

/-- A later phase: no id has two blocks, each block is that of the one location with its id, and a location that a path can
reach has a block just if the phase has statements for it. -/
structure PhaseText (c : Config) (comments : Bool) (action : Action) (asks : Location → PhaseStep → Prop) (text : String)
    (blocks : List (String × List String)) : Prop where
  reads : readRouteBlocks? 1 (Text.lineTexts text) = some blocks
  ids : (blocks.map Prod.fst).Nodup
  carries : ∀ b ∈ blocks, ∃ h, c.Has h ∧ h.location.isNamed = false ∧ c.routeId h = .ok b.1 ∧
    (∀ h', c.Has h' → c.routeId h' = .ok b.1 → h' = h) ∧ PhaseBlock comments action asks h b.2
  complete : ∀ h, c.Has h → h.location.isNamed = false → ∃ body, (action h.site).result = .ok body ∧
    (body ≠ [] ↔ ∃ b ∈ blocks, c.routeId h = .ok b.1)

section Later

variable {config : Config} {options : Options} {action : Action} {asks : Location → PhaseStep → Prop}
  {blocks : List RouteBlock}

theorem readRouteBlocks?_text (hblocks : (Generator.routeBlocks ⟨.edgeHook, config, options⟩ action).result = .ok blocks)
    (hbody : ∀ {site body}, (action site).result = .ok body →
      (∀ text ∈ Statement.commentsAll body, OneLine text) ∧ Statement.patternsAll body = []) :
    readRouteBlocks? 1 (Text.lineTexts (RouteBlock.text .edgeHook options.comments blocks 1)) =
      some (blocks.map fun b => (b.route.id, (Statement.codeAll .edgeHook options.comments b.body).lines 2)) := by
  have hread := readRouteBlocks?_routeBlocks .edgeHook options.comments 1 blocks
  rw [RouteBlock.text, lineTexts_render (each_routes hblocks hbody)]
  split_ifs with hnil
  · rw [hnil] at hread
    rw [← hread]
    rfl
  · exact hread

/-- The statements that an action has for locations are read as what these ask for. -/
def ReadsAsAsked (comments : Bool) (action : Action) (asks : Location → PhaseStep → Prop) : Prop :=
  ∀ {site body}, (action site).result = .ok body → body ≠ [] →
    ∃ step, readPhaseStep? (Statement.codeAll .edgeHook comments body).texts = some step ∧ asks site.location step

theorem phaseBlock_of_body (hreads : ReadsAsAsked options.comments action asks) {h : Held} {body : List Statement}
    (hbody : (action h.site).result = .ok body) (hne : body ≠ []) :
    PhaseBlock options.comments action asks h ((Statement.codeAll .edgeHook options.comments body).lines 2) where
  statements := ⟨body, hbody, hne, rfl⟩
  steps := by
    rw [unindented_lines (commented_codeAll .edgeHook options.comments body).flush]
    exact hreads hbody hne

/-- The text of route blocks is that of a later phase. -/
theorem phaseText_of_routeBlocks
    (hblocks : (Generator.routeBlocks ⟨.edgeHook, config, options⟩ action).result = .ok blocks)
    (hbody : ∀ {site body}, (action site).result = .ok body →
      (∀ text ∈ Statement.commentsAll body, OneLine text) ∧ Statement.patternsAll body = [])
    (hreads : ReadsAsAsked options.comments action asks) :
    PhaseText config options.comments action asks (RouteBlock.text .edgeHook options.comments blocks 1)
      (blocks.map fun b => (b.route.id, (Statement.codeAll .edgeHook options.comments b.body).lines 2)) := by
  have hphase := phaseBlocks_of_routeBlocks hblocks
  have hcarries : ∀ b ∈ blocks, ∃ h : Held, config.Has h ∧ h.location.isNamed = false ∧ h.site.route = b.route ∧
      (action h.site).result = .ok b.body ∧ b.body ≠ [] := by
    intro b hb
    obtain ⟨site, hsite, hof⟩ := exists_left_of_forall₂ (routeBlockOf_of_routeBlocks hblocks) hb
    obtain ⟨hmem, hacts⟩ := List.mem_filter.mp hsite
    obtain ⟨hat, hnamed⟩ := Config.mem_sites.mp hmem
    refine ⟨⟨site.route.server, site.route.position, site.location⟩, hat, hnamed, hof.route.symm, hof.body, ?_⟩
    simpa [Action.acts, hof.body] using hacts
  refine ⟨readRouteBlocks?_text hblocks hbody, ?_, ?_, ?_⟩
  · rw [List.map_map]
    exact hphase.ids
  · intro _ hmem
    obtain ⟨b, hb, rfl⟩ := List.mem_map.mp hmem
    obtain ⟨h, hhas, hnamed, hroute, hresult, hne⟩ := hcarries b hb
    have hid : config.routeId h = .ok b.route.id := hroute ▸ hhas.routeId
    exact ⟨h, hhas, hnamed, hid, fun h' hhas' hid' => hhas'.eq_of_routeId hhas hid' hid,
      phaseBlock_of_body hreads hresult hne⟩
  · intro h hhas hnamed
    obtain ⟨body, hresult, hblock⟩ := hphase.complete h.site.route h.location hhas hnamed
    have hresult : (action h.site).result = .ok body := hresult
    refine ⟨body, hresult, fun hne => ?_, ?_⟩
    · obtain ⟨b, hb, hroute⟩ := hblock hne
      exact ⟨_, List.mem_map_of_mem hb, hroute ▸ hhas.routeId⟩
    · rintro ⟨_, hmem, hid⟩
      obtain ⟨b, hb, rfl⟩ := List.mem_map.mp hmem
      obtain ⟨h', hhas', -, hroute, hresult', hne⟩ := hcarries b hb
      obtain rfl := hhas.eq_of_routeId hhas' hid (hroute ▸ hhas'.routeId)
      rw [hresult] at hresult'
      exact Except.ok.inj hresult' ▸ hne

end Later

section First

variable {c : Config} {comments : Bool}

theorem getLast?_lines (code : Code) (text : String) (htext : text ≠ "") (level : Nat) :
    ((code ++ flat [text]).lines level).getLast? = some (spaces (2 * level) ++ text) := by
  rw [lines_append, lines_flat_singleton htext, List.getLast?_concat]

theorem forwardedId?_forward (code : Code) (r : Route) (level : Nat) :
    forwardedId? level ((code ++ flat [forwardStatement r]).lines level) = some r.id := by
  have htext : (forwardStatement r).toList =
      "return forwardRequest(request, path, rewritten, ".toList ++ ((string r.id).toList ++ ");".toList) := by
    unfold forwardStatement
    rw [String.toList_append, String.toList_append]
    exact List.append_assoc _ _ _
  have hne : forwardStatement r ≠ "" := by
    unfold forwardStatement
    exact append_ne_empty (append_ne_empty (by decide) _) _
  rw [forwardedId?, getLast?_lines _ _ hne, Option.bind_some, textAt?_append, htext]
  simp only [Option.bind_eq_bind, Option.bind_some, Text.after?_append, readString?_string, if_true]

/-- A response begins with the name of the helper that makes it. -/
theorem lacks_returnResponse {mark helper : String} (h : clashes mark.toList ("return " ++ helper).toList = true)
    (args : List String) (headers : Fields String) : Lacks mark (returnResponse helper args headers) := by
  obtain ⟨rest, hrest⟩ := exists_returnResponse helper args headers
  rw [hrest]
  exact lacks_of_clashes h _

/-- A response of the location itself hands nothing on. -/
theorem forwardedId?_answer (answer : Return) (headers : Fields String) (comments : Bool) (level : Nat) :
    forwardedId? level ((Statement.codeAll .edgeHook comments [.finish (answer.ending headers)]).lines level) = none := by
  obtain ⟨line, hcode, hne, hlacks⟩ : ∃ line, (answer.ending headers).code .edgeHook = flat [line] ∧ line ≠ "" ∧
      Lacks "return forwardRequest(request, path, rewritten, " line := by
    have hne : ∀ helper args, returnResponse helper args headers ≠ "" := by
      intro helper args
      obtain ⟨rest, hrest⟩ := exists_returnResponse helper args headers
      rw [hrest]
      exact append_ne_empty (append_ne_empty (by decide) _) _
    unfold Return.ending
    split
    · exact ⟨_, rfl, hne _ _, lacks_returnResponse (by decide) _ _⟩
    · exact ⟨_, rfl, hne _ _, lacks_returnResponse (by decide) _ _⟩
  rw [Lacks] at hlacks
  rw [codeAll_singleton, Statement.code, hcode, forwardedId?, lines_flat_singleton hne, List.getLast?_singleton,
    Option.bind_some, textAt?_append]
  simp only [Option.bind_eq_bind, Option.bind_some, hlacks, Option.bind_none]

theorem viewerBlock_of_blockOf {index : Nat} {p : Location.Placed} {b : LocationBlock}
    (h : BlockOf .edgeHook index p b) (hhas : c.Has ⟨index, p.position, p.location⟩) :
    ViewerBlock c comments ⟨index, p.position, p.location⟩
      (b.condition.render "path", (Statement.codeAll .edgeHook comments b.body).lines 3) where
  condition := ⟨b.condition, h.condition, rfl⟩
  statements := ⟨b.body, h.body, rfl⟩
  forwards hanswer := by
    obtain ⟨before, hcode⟩ := handsOn_of_locationBody comments h.body hanswer
    refine ⟨_, hhas.routeId, ?_⟩
    rw [hcode]
    exact forwardedId?_forward before _ 3
  answers hanswer := by
    obtain ⟨answer, hanswer⟩ := Option.ne_none_iff_exists'.mp hanswer
    have hanswer : p.location.directives.answer = some answer := hanswer
    have hbody := h.body
    simp only [locationBody, hanswer, Logged.result_bind] at hbody
    obtain ⟨headers, -, hbody⟩ := bind_eq_ok_iff.mp hbody
    have hbody : b.body = [.finish (answer.ending headers)] := (Except.ok.inj hbody).symm
    simp only [hbody]
    exact forwardedId?_answer answer headers comments 3

theorem viewerLines_of_serverBlocks {config : Config} {options : Options} {blocks : List ServerBlock}
    (h : (Generator.serverBlocks ⟨.edgeHook, config, options⟩ (locationBody .edgeHook)).result = .ok blocks) :
    ViewerLines config options.comments
      ((paragraphs (blocks.map (ServerBlock.code .edgeHook options.comments))).lines 1)
      (blocks.map fun b => (b.condition.render "hostname", b.locations.map fun block =>
        (block.condition.render "path", (Statement.codeAll .edgeHook options.comments block.body).lines 3))) where
  reads := readNestedBlocks?_serverBlocks .edgeHook options.comments 1 blocks
  blocks := by
    have hforall := serverBlockOf_of_serverBlocks (g := ⟨.edgeHook, config, options⟩) h
    rw [List.forall₂_map_right_iff]
    refine ((List.forall₂_and_left (p := (· ∈ config.reachable)) _ _).mpr ⟨fun s hs => hs, hforall⟩).imp ?_
    rintro s b ⟨hs, hof⟩
    refine ⟨⟨b.condition, hof.condition, rfl⟩, ?_⟩
    have hcandidates : s.2.candidates s.1 = s.2.tried.map fun p => ⟨s.1, p.position, p.location⟩ := rfl
    rw [hcandidates, List.forall₂_map_left_iff, List.forall₂_map_right_iff]
    refine ((List.forall₂_and_left (p := (· ∈ s.2.tried)) _ _).mpr ⟨fun p hp => hp, hof.locations⟩).imp ?_
    rintro p block ⟨hp, hblock⟩
    exact viewerBlock_of_blockOf hblock (Config.hasAt_of_mem_tried (List.mem_filter.mp hs).1 hp).1

/-- Each location that a path can reach has a block in the first phase. -/
theorem ViewerLines.exists_block {lines : List String} {servers : List (String × List (String × List String))}
    (h : ViewerLines c comments lines servers) {location : Held} (hhas : c.Has location)
    (hnamed : location.location.isNamed = false) :
    ∃ server ∈ servers, ∃ block ∈ server.2, ViewerBlock c comments location block := by
  obtain ⟨s, hs, p, hp, hroute, hlocation⟩ := hhas.exists_tried hnamed
  obtain ⟨server, hserver, -, hblocks⟩ := exists_right_of_forall₂ h.blocks (Config.mem_reachable_of_mem_tried hs hp)
  have hcandidate : location ∈ s.2.candidates s.1 := by
    obtain ⟨index, position, l⟩ := location
    obtain ⟨rfl, rfl⟩ := Route.mk.inj hroute
    obtain rfl : p.location = l := hlocation
    exact List.mem_map_of_mem hp
  obtain ⟨block, hmem, hblock⟩ := exists_right_of_forall₂ hblocks hcandidate
  exact ⟨server, hserver, block, hmem, hblock⟩

/-- The phases agree on the location of a request. The id of a location is found by searching the configuration for that
very location: it gives the numbers of server and location, no two locations have the same, and a location that is not
held has none. The first phase hands a request on under the id of the location it has chosen. A later phase has at most
one block for an id, which does what the location with that id asks for: it sends the request to the upstream of the
location, or sets the headers of the location on the response. A location that proxies has its block for sending requests
to the upstream, under an id that the first phase hands on. All this is read off the lines that the phases are written
in. -/
theorem phases_agree (config : Config) (options : Options) {context : Template.Context}
    (h : (Generator.sections ⟨.edgeHook, config, options⟩).result = .ok context) :
    (∃ ids, config.held.flatten.mapM config.routeId = .ok ids ∧ ids.Nodup ∧
      ids = (config.servers.zipIdx 1).flatMap fun (server, i) =>
        (server.locations.zipIdx 1).map fun (_, j) => toString i ++ "." ++ toString j) ∧
      (∀ location, ¬ config.Holds location →
        config.routeId location = .error (.foreignLocation location.location.label)) ∧
      ∃ viewer servers request requests response responses,
        context.get? "viewer_request" = some (.text (Text.joined "\n" viewer)) ∧
          context.get? "origin_request" = some (.text request) ∧
          context.get? "origin_response" = some (.text response) ∧
          ViewerLines config options.comments viewer servers ∧
          PhaseText config options.comments originRequestBody Location.Requests request requests ∧
          PhaseText config options.comments originResponseBody Location.Responds response responses ∧
          ∀ location, config.Has location → location.location.isNamed = false →
            location.location.directives.proxyPass.isSome = true → location.location.directives.answer = none →
            ∃ id, config.routeId location = .ok id ∧ (requests.map Prod.fst).count id = 1 ∧
              ∃ server ∈ servers, ∃ block ∈ server.2, forwardedId? 3 block.2 = some id := by
  obtain ⟨viewer, request, response, rfl, hviewer, hrequest, hresponse⟩ := blocks_of_sections h
  have hservers := viewerLines_of_serverBlocks hviewer
  have hrequests := phaseText_of_routeBlocks hrequest
    (fun hbody => ⟨oneLine_comments_originRequestBody hbody, patterns_of_originRequestBody hbody⟩)
    fun hbody hne => readPhaseStep?_requests hbody hne options.comments
  have hresponses := phaseText_of_routeBlocks hresponse
    (fun hbody => ⟨oneLine_comments_originResponseBody hbody, patterns_of_originResponseBody hbody⟩)
    fun hbody hne => readPhaseStep?_responds hbody hne options.comments
  refine ⟨⟨_, config.mapM_routeId, config.nodup_routes.map fun _ _ => Route.id_injective, ?_⟩,
    fun _ => Config.routeId_of_not_holds, _, _, _, _, _, _, rfl, rfl, rfl, hservers, hrequests, hresponses, ?_⟩
  · simp only [Config.routes, Config.numbered, Location.place, List.map_flatMap, List.flatMap_map, List.map_map]
    rfl
  · intro location hhas hnamed hproxy hanswer
    refine ⟨_, hhas.routeId, ?_, ?_⟩
    · obtain ⟨body, hbody, hblock⟩ := hrequests.complete location hhas hnamed
      obtain ⟨b, hb, hid⟩ := hblock.mp (originRequestBody_ne_nil hbody hproxy hanswer)
      rw [Except.ok.inj (hhas.routeId.symm.trans hid)]
      exact List.count_eq_one_of_mem hrequests.ids (List.mem_map_of_mem hb)
    · obtain ⟨server, hserver, block, hmem, hblock⟩ := hservers.exists_block hhas hnamed
      obtain ⟨id, hid, hforwards⟩ := hblock.forwards hanswer
      exact ⟨server, hserver, block, hmem, Except.ok.inj (hid.symm.trans hhas.routeId) ▸ hforwards⟩

/-- Locations that are the same in every respect have a block each. -/
theorem phases_agree_twins :
    ∃ context, (Generator.sections ⟨.edgeHook, twins, {}⟩).result = .ok context ∧
      ∃ request requests, context.get? "origin_request" = some (.text request) ∧
        PhaseText twins true originRequestBody Location.Requests request requests ∧
        (requests.map Prod.fst).count "1.1" = 1 ∧ (requests.map Prod.fst).count "1.3" = 1 := by
  obtain ⟨context, h⟩ := (needs_sections (g := ⟨.edgeHook, twins, {}⟩) twins_readable).returns.mpr twins_emittable
  obtain ⟨-, -, _, _, request, requests, _, _, -, hrequest, -, -, hrequests, -, hproxied⟩ := phases_agree twins {} h
  obtain ⟨first, hfirst, hfirstcount, -⟩ :=
    hproxied ⟨1, 1, { path := "/", directives := { proxyPass := some "http://app" } }⟩
      ⟨0, 0, _, rfl, rfl, rfl⟩ (by decide +kernel) rfl rfl
  obtain ⟨third, hthird, hthirdcount, -⟩ :=
    hproxied ⟨1, 3, { path := "/", directives := { proxyPass := some "http://app" } }⟩
      ⟨0, 2, _, rfl, rfl, rfl⟩ (by decide +kernel) rfl rfl
  rw [(Config.routeId_eq_ok_iff.mp hfirst).1] at hfirstcount
  rw [(Config.routeId_eq_ok_iff.mp hthird).1] at hthirdcount
  exact ⟨context, h, request, requests, hrequest, hrequests, hfirstcount, hthirdcount⟩

end First

end EdgeRoutes
