import EdgeRoutes.Model.Build
import EdgeRoutes.Proofs.Findings
import EdgeRoutes.Proofs.OrderedMaps
import EdgeRoutes.Proofs.RoutePhases

/-! How generation ends. The check reads the values of a configuration and may refuse it; then code is written and put
into the file of the target, which never fails by itself. So a source comes out, or a refusal, or some value could not
be converted. -/

namespace EdgeRoutes

open Pattern Http

namespace Template

/-- The values under these names have members to visit. -/
def HoldsLists (names : List String) (context : Context) : Prop :=
  ∀ name ∈ names, ∀ value, context.get? name = some value → value.members?.isSome = true

theorem HoldsLists.put {names : List String} {context : Context} (h : HoldsLists names context) {item : String}
    (hitem : item ∉ names) (value : Data) : HoldsLists names (Fields.put context item value) := by
  intro name hname found hfound
  have hne : item ≠ name := fun heq => hitem (heq ▸ hname)
  rw [Fields.get?_put, if_neg hne] at hfound
  exact h name hname found hfound

theorem HoldsLists.needs_members {names : List String} {context : Context} (h : HoldsLists names context)
    {name : String} (hname : name ∈ names) : Needs (members context name) True := by
  unfold members
  cases hvalue : context.get? name with
  | none => exact .ok []
  | some value =>
      obtain ⟨items, hitems⟩ := Option.isSome_iff_exists.mp (h name hname value hvalue)
      simp only [hitems]
      exact .ok items

mutual

/-- The part visits the members of values under these names only, and gives none of the names to a member. -/
def Piece.visitsOnly (names : List String) : Piece → Bool
  | .text _ | .newline | .lines _ | .value _ | .comment _ => true
  | .literals name => names.contains name
  | .whenSet _ body otherwise => Piece.allVisitOnly names body && Piece.allVisitOnly names otherwise
  | .forEach item name body => names.contains name && !names.contains item && Piece.allVisitOnly names body

/-- Each of the parts visits the members of values under these names only. -/
def Piece.allVisitOnly (names : List String) : List Piece → Bool
  | [] => true
  | p :: ps => p.visitsOnly names && Piece.allVisitOnly names ps

end

mutual

theorem needs_fill {names : List String} {context : Context} (h : HoldsLists names context) :
    (p : Piece) → p.visitsOnly names = true → Needs (p.fill context) True
  | .text _, _ | .newline, _ | .lines _, _ | .value _, _ | .comment _, _ => .ok _
  | .literals name, hvisits => by
      rw [Piece.fill]
      split_ifs
      · exact (h.needs_members (List.contains_iff_mem.mp hvisits)).bind_ok fun items => .ok _
      · exact .ok ""
  | .whenSet name body otherwise, hvisits => by
      rw [Piece.visitsOnly, Bool.and_eq_true] at hvisits
      rw [Piece.fill]
      split_ifs
      · exact needs_fillAll h body hvisits.1
      · exact needs_fillAll h otherwise hvisits.2
  | .forEach item name body, hvisits => by
      rw [Piece.visitsOnly, Bool.and_eq_true, Bool.and_eq_true, Bool.not_eq_true'] at hvisits
      obtain ⟨⟨hname, hitem⟩, hbody⟩ := hvisits
      have hnew : item ∉ names := fun hmem => by simp [hmem] at hitem
      rw [Piece.fill]
      refine (h.needs_members (List.contains_iff_mem.mp hname)).bind_ok fun items => ?_
      have htexts : Needs (items.mapM fun value => Piece.fillAll (Fields.put context item value) body)
          (∀ value ∈ items, True) := Needs.mapM fun value _ => needs_fillAll (h.put hnew value) body hbody
      exact (htexts.bind_ok fun texts => .ok _).congr (by simp)

theorem needs_fillAll {names : List String} {context : Context} (h : HoldsLists names context) :
    (ps : List Piece) → Piece.allVisitOnly names ps = true → Needs (Piece.fillAll context ps) True
  | [], _ => .ok ""
  | p :: ps, hvisits => by
      rw [Piece.allVisitOnly, Bool.and_eq_true] at hvisits
      rw [Piece.fillAll]
      exact (needs_fill h p hvisits.1).bind_ok fun first => (needs_fillAll h ps hvisits.2).bind_ok fun rest => .ok _

end

end Template

/-- The names of the values whose members the files visit. -/
def visitedNames : List String := ["warnings", "matchers"]

/-- Each target has its template file. -/
theorem Target.named_templatePath (t : Target) : Template.named t.templatePath = .ok t.template := by
  cases t <;> rfl

theorem Target.render_templatePath (t : Target) (context : Template.Context) :
    Template.render t.templatePath context = Template.Piece.fillAll context t.template := by
  rw [Template.render, t.named_templatePath]
  rfl

theorem template_visits (t : Target) : Template.Piece.allVisitOnly visitedNames t.template = true := by
  cases t <;> decide +kernel

/-- The routing code goes under names of its own, apart from the warnings. -/
theorem holdsLists_of_sections {g : Generator} {sections : Template.Context} (h : g.sections.result = .ok sections)
    (v : Validation) : Template.HoldsLists visitedNames (Fields.update (g.preamble v) sections) := by
  have hsections : sections.keys.Nodup ∧ sections.get? "warnings" = none ∧
      ∀ value, sections.get? "matchers" = some value → value.members?.isSome = true := by
    obtain ⟨target, config, options⟩ := g
    cases target with
    | edgeHook =>
        obtain ⟨viewer, request, response, rfl, -, -, -⟩ := blocks_of_sections h
        simp [Fields.keys, Fields.get?]
    | worker | minimal =>
        simp only [Generator.sections, Logged.result_bind] at h
        obtain ⟨text, -, h⟩ := bind_eq_ok_iff.mp h
        cases h
        simp [Fields.keys, Fields.get?]
    | middleware =>
        simp only [Generator.sections, Logged.result_bind] at h
        obtain ⟨text, -, h⟩ := bind_eq_ok_iff.mp h
        cases h
        simp [Fields.keys, Fields.get?, Data.texts, Data.members?]
  obtain ⟨hnodup, hwarnings, hmatchers⟩ := hsections
  intro name hname value hvalue
  rw [Fields.get?_update _ hnodup] at hvalue
  rcases List.mem_cons.mp hname with rfl | hname
  · rw [hwarnings] at hvalue
    cases hvalue
    rfl
  · obtain rfl := List.mem_singleton.mp hname
    have hpreamble : (g.preamble v).get? "matchers" = none := by simp [Generator.preamble, Fields.get?]
    rw [hpreamble, Option.or_none] at hvalue
    exact hmatchers value hvalue

section Outcome

/-- Without errors the routing code goes into the file of the target, whose lines are then indented as asked for. -/
theorem Generator.result_generate (g : Generator) : g.generate.result =
    g.findings.bind fun v =>
      if v.valid then
        g.sections.result.bind fun sections =>
          (Template.Piece.fillAll (Fields.update (g.preamble v) sections) g.target.template).bind fun text =>
            Js.reindent text g.options.indent "  "
      else .error (.refused g.target.name v.errors v.warnings) := by
  simp only [Generator.generate, Generator.validate, Target.render_templatePath, Logged.result_bind]
  cases g.findings with
  | error fault => rfl
  | ok v =>
      change Logged.result (if (!v.valid) = true then _ else _) = if v.valid = true then _ else _
      cases v.valid with
      | false => rfl
      | true =>
          simp only [Bool.not_true, Bool.false_eq_true, if_false, if_true, Logged.result_bind, Logged.result_liftM]
          refine congrArg (Except.bind g.sections.result) (funext fun sections => ?_)
          cases Template.Piece.fillAll _ g.target.template with
          | error fault => rfl
          | ok text =>
              simp only [Except.bind]
              cases Js.reindent text g.options.indent "  " <;> rfl

theorem needs_reindent (text indent : String) : Needs (Js.reindent text indent "  ") True := by
  unfold Js.reindent
  split_ifs with hsame hempty
  · exact .ok _
  · cases hempty
  · exact .ok _

/-- What is not refused comes to a source just if its code can be written. -/
theorem Generator.needs_generate {g : Generator} {v : Validation} (hv : g.findings = .ok v) (hvalid : v.valid = true) :
    Needs g.generate.result (g.config.Emittable g.target) := by
  have hreadable := (needs_findings g).returns.mp ⟨v, hv⟩
  have hresult : g.generate.result = g.sections.result.bind fun sections =>
      (Template.Piece.fillAll (Fields.update (g.preamble v) sections) g.target.template).bind fun text =>
        Js.reindent text g.options.indent "  " := by
    rw [g.result_generate, hv]
    exact if_pos hvalid
  rw [hresult]
  refine ((needs_sections hreadable).bind_const fun sections hsections => ?_).congr (and_iff_left trivial)
  have hfile := Template.needs_fillAll (holdsLists_of_sections hsections v) g.target.template (template_visits g.target)
  exact hfile.bind_ok fun text => needs_reindent text g.options.indent

theorem Generator.generate_of_errors {g : Generator} {v : Validation} (hv : g.findings = .ok v)
    (hvalid : v.valid = false) : g.generate.result = .error (.refused g.target.name v.errors v.warnings) := by
  rw [g.result_generate, hv]
  exact if_neg (by simp [hvalid])

variable {t : Target} {c : Config}

theorem generate_of_unreadable (h : ¬ c.Readable t) :
    ∃ fault, (Generator.generate ⟨t, c, {}⟩).result = .error fault ∧ fault.isConversion = true := by
  have hneeds := needs_findings ⟨t, c, {}⟩
  rw [Generator.result_generate]
  cases hfindings : Generator.findings ⟨t, c, {}⟩ with
  | ok v => exact absurd (hneeds.returns.mp ⟨v, hfindings⟩) h
  | error fault => exact ⟨fault, rfl, hneeds.faults fault hfindings⟩

theorem valid_iff_admitted {v : Validation} (h : Generator.findings ⟨t, c, {}⟩ = .ok v) :
    v.valid = true ↔ c.Admitted t := by
  rw [Validation.valid, List.isEmpty_iff, errors_of_findings h, errors_eq_nil_iff]

theorem generate_of_not_admitted (h : c.Readable t) (hnot : ¬ c.Admitted t) :
    ∃ warnings, (Generator.generate ⟨t, c, {}⟩).result = .error (.refused t.name (c.errors t) warnings) := by
  obtain ⟨v, hv⟩ := (needs_findings ⟨t, c, {}⟩).returns.mpr h
  have hvalid : v.valid = false := Bool.eq_false_iff.mpr (mt (valid_iff_admitted hv).mp hnot)
  refine ⟨v.warnings, ?_⟩
  rw [Generator.generate_of_errors hv hvalid, errors_of_findings hv]

theorem needs_generate (h : c.Readable t) (hadmitted : c.Admitted t) :
    Needs (Generator.generate ⟨t, c, {}⟩).result (c.Emittable t) := by
  obtain ⟨v, hv⟩ := (needs_findings ⟨t, c, {}⟩).returns.mpr h
  exact Generator.needs_generate hv ((valid_iff_admitted hv).mpr hadmitted)

end Outcome

/-- Values that look wrong and are yet no failed conversions. -/
structure OddValuesSpared : Prop where
  pattern : ∀ pattern, ShortCounts (checkedText pattern) → ¬ Grammar.Reader.HasFlags (checkedText pattern) →
    Checks pattern
  time : ∀ value : String, ∀ char ∈ value.toList, ¬ IsTimeChar char → char ≠ '-' ∧ char ≠ '+' → TimeSound value
  address : ∀ url, (∀ scheme port, addressParts? url = some (scheme, port) → port ≠ "" ∧ Text.allDigits port = false) →
    AddressSound url ∧ ∃ reason, resolve url = .ok (.error reason)

theorem refused_of_odd_port {url : String}
    (h : ∀ scheme port, addressParts? url = some (scheme, port) → port ≠ "" ∧ Text.allDigits port = false) :
    ∃ reason, resolve url = .ok (.error reason) := by
  cases hparts : addressParts? url with
  | none =>
      obtain ⟨reason, hparse⟩ := parse_of_no_parts hparts
      exact ⟨reason, by rw [resolve, hparse]⟩
  | some parts =>
      obtain ⟨scheme, port⟩ := parts
      obtain ⟨hne, hdigits⟩ := h scheme port hparts
      obtain ⟨host, uri, hparse⟩ := parse_of_parts hparts
      have hport : ProxyTarget.portOf port = .ok none := by
        rw [ProxyTarget.portOf, hdigits]
        rfl
      rw [portNumber, if_neg (by simpa using hne), hport] at hparse
      exact ⟨_, by rw [resolve, hparse]; rfl⟩

theorem oddValuesSpared : OddValuesSpared where
  pattern _ hcounts hflags := checks_of_short hcounts hflags
  time _ _ hmem hother hsign := timeSound_of_mem hmem hother hsign
  address url h := by
    obtain ⟨reason, hreason⟩ := refused_of_odd_port h
    exact ⟨(needs_resolve url).returns.mp ⟨_, hreason⟩, reason, hreason⟩

section Blocks

variable {t : Target} {c c' : Config} {l : Location}

/-- The place and the location decide on the block. -/
theorem BlockOf.unique {index : Nat} {p : Location.Placed} {b b' : LocationBlock} (h : BlockOf t index p b)
    (h' : BlockOf t index p b') : b = b' := by
  obtain ⟨route, label, condition, body⟩ := b
  obtain ⟨route', label', condition', body'⟩ := b'
  obtain rfl : route = route' := h.route.trans h'.route.symm
  obtain rfl : label = label' := h.label.trans h'.label.symm
  obtain rfl : condition = condition' := Except.ok.inj (h.condition.symm.trans h'.condition)
  obtain rfl : body = body' := Except.ok.inj (h.body.symm.trans h'.body)
  rfl

theorem blockOf_of_mem {blocks : List ServerBlock}
    (h : (Generator.serverBlocks ⟨t, c, {}⟩ (locationBody t)).result = .ok blocks) {block : LocationBlock}
    (hblock : block ∈ blocks.flatMap ServerBlock.locations) (hat : c.HasAt block.route l) :
    BlockOf t block.route.server ⟨block.route.position, l⟩ block := by
  obtain ⟨b, hb, hblock⟩ := List.mem_flatMap.mp hblock
  obtain ⟨s, hs, hserver⟩ := exists_left_of_forall₂ (serverBlockOf_of_serverBlocks h) hb
  obtain ⟨p, hp, hof⟩ := exists_left_of_forall₂ hserver.locations hblock
  obtain ⟨hat', -⟩ := Config.hasAt_of_mem_tried (List.mem_filter.mp hs).1 hp
  rw [← hof.route] at hat'
  obtain rfl := hat.unique hat'
  rw [hof.route]
  exact hof

/-- A location has the same block in all configurations that have it at the same place. -/
theorem block_of_location {blocks blocks' : List ServerBlock}
    (h : (Generator.serverBlocks ⟨t, c, {}⟩ (locationBody t)).result = .ok blocks)
    (h' : (Generator.serverBlocks ⟨t, c', {}⟩ (locationBody t)).result = .ok blocks') {block block' : LocationBlock}
    (hblock : block ∈ blocks.flatMap ServerBlock.locations) (hblock' : block' ∈ blocks'.flatMap ServerBlock.locations)
    (hroute : block.route = block'.route) (hat : c.HasAt block.route l) (hat' : c'.HasAt block.route l) :
    block = block' := by
  have hof := blockOf_of_mem h hblock hat
  rw [hroute] at hof hat'
  exact hof.unique (blockOf_of_mem h' hblock' hat')

theorem routeBlock_of_location {action : Action} {blocks blocks' : List RouteBlock}
    (h : (Generator.routeBlocks ⟨t, c, {}⟩ action).result = .ok blocks)
    (h' : (Generator.routeBlocks ⟨t, c', {}⟩ action).result = .ok blocks') {b b' : RouteBlock}
    (hb : b ∈ blocks) (hb' : b' ∈ blocks') (hroute : b.route = b'.route) (hat : c.HasAt b.route l)
    (hat' : c'.HasAt b.route l) : b = b' := by
  obtain ⟨m, hm, -, -, hlabel, hbody⟩ := (phaseBlocks_of_routeBlocks h).carries b hb
  obtain ⟨m', hm', -, -, hlabel', hbody'⟩ := (phaseBlocks_of_routeBlocks h').carries b' hb'
  obtain rfl := hat.unique hm
  rw [← hroute] at hm' hbody'
  obtain rfl := hat'.unique hm'
  obtain ⟨route, label, body⟩ := b
  obtain ⟨route', label', body'⟩ := b'
  obtain rfl : route = route' := hroute
  obtain rfl : label = label' := hlabel.trans hlabel'.symm
  obtain rfl : body = body' := Except.ok.inj (hbody.symm.trans hbody')
  rfl

end Blocks

/-- An address that names no origin harms its own location only: where the address is read, the statements of the
location end in an answer with an error; and the blocks of a location are the same whatever other locations there
are. -/
structure DegradesAlone (t : Target) : Prop where
  request : ∀ (site : Site) (url reason : String), site.location.directives.proxyPass = some url →
    site.location.directives.answer = none → resolve url = .ok (.error reason) →
    (originRequestBody site).result = .ok (degraded url reason)
  minimal : ∀ (site : Site) (url reason : String) (body : List Statement),
    site.location.directives.proxyPass = some url → site.location.directives.answer = none →
    resolve url = .ok (.error reason) → (locationBody .minimal site).result = .ok body →
    ∃ rules, body = rules ++ degraded url reason
  blocks : ∀ (c c' : Config) (blocks blocks' : List ServerBlock),
    (Generator.serverBlocks ⟨t, c, {}⟩ (locationBody t)).result = .ok blocks →
    (Generator.serverBlocks ⟨t, c', {}⟩ (locationBody t)).result = .ok blocks' →
    ∀ block ∈ blocks.flatMap ServerBlock.locations, ∀ block' ∈ blocks'.flatMap ServerBlock.locations, ∀ l,
      block.route = block'.route → c.HasAt block.route l → c'.HasAt block.route l → block = block'
  requests : ∀ (c c' : Config) (blocks blocks' : List RouteBlock),
    (Generator.routeBlocks ⟨t, c, {}⟩ originRequestBody).result = .ok blocks →
    (Generator.routeBlocks ⟨t, c', {}⟩ originRequestBody).result = .ok blocks' →
    ∀ b ∈ blocks, ∀ b' ∈ blocks', ∀ l,
      b.route = b'.route → c.HasAt b.route l → c'.HasAt b.route l → b = b'

theorem degradesAlone (t : Target) : DegradesAlone t where
  request site url reason hproxy hanswer hrefused := by
    simp only [originRequestBody, hproxy, hanswer, hrefused, Logged.result_bind]
    rfl
  minimal site url reason body hproxy hanswer hrefused hbody := by
    simp only [locationBody, hproxy, hanswer, proxyStatements, Logged.result_bind] at hbody
    obtain ⟨headers, -, hbody⟩ := bind_eq_ok_iff.mp hbody
    obtain ⟨rules, -, hbody⟩ := bind_eq_ok_iff.mp hbody
    rw [hrefused] at hbody
    cases hbody
    exact ⟨rules, rfl⟩
  blocks _ _ _ _ h h' _ hblock _ hblock' _ hroute hat hat' := block_of_location h h' hblock hblock' hroute hat hat'
  requests _ _ _ _ h h' _ hb _ hb' _ hroute hat hat' := routeBlock_of_location h h' hb hb' hroute hat hat'

/-- Generation ends in one of three ways. It returns a source just if the values of the configuration can be read, the
target can do what they ask for, and the code can be written; it refuses just what can be read and not be done; and if
it stops otherwise, then a number, a time, an address or a pattern could not be converted. -/
theorem generation_ends (t : Target) (c : Config) :
    ((∃ source, (Generator.generate ⟨t, c, {}⟩).result = .ok source) ↔
      c.Readable t ∧ c.Admitted t ∧ c.Emittable t) ∧
    ((∃ warnings, (Generator.generate ⟨t, c, {}⟩).result = .error (.refused t.name (c.errors t) warnings)) ↔
      c.Readable t ∧ ¬ c.Admitted t) ∧
    (∀ fault, (Generator.generate ⟨t, c, {}⟩).result = .error fault →
      (∃ warnings, fault = .refused t.name (c.errors t) warnings) ∨ fault.isConversion = true) ∧
    OddValuesSpared ∧ DegradesAlone t := by
  rw [← and_assoc, ← and_assoc]
  refine ⟨?_, oddValuesSpared, degradesAlone t⟩
  by_cases hreadable : c.Readable t
  · by_cases hadmitted : c.Admitted t
    · have hneeds := needs_generate hreadable hadmitted
      refine ⟨⟨?_, ?_⟩, fun fault hfault => Or.inr (hneeds.faults fault hfault)⟩
      · rw [hneeds.returns]
        exact ⟨fun h => ⟨hreadable, hadmitted, h⟩, fun h => h.2.2⟩
      · refine iff_of_false ?_ fun h => h.2 hadmitted
        rintro ⟨warnings, hresult⟩
        -- a refusal is no failed conversion, and nothing else fails here
        cases hneeds.faults _ hresult
    · obtain ⟨warnings, hresult⟩ := generate_of_not_admitted hreadable hadmitted
      simp only [hresult]
      refine ⟨⟨iff_of_false (fun ⟨_, h⟩ => by cases h) fun h => hadmitted h.2.1,
        iff_of_true ⟨warnings, rfl⟩ ⟨hreadable, hadmitted⟩⟩, ?_⟩
      rintro fault h
      cases h
      exact Or.inl ⟨warnings, rfl⟩
  · obtain ⟨fault, hresult, hconversion⟩ := generate_of_unreadable hreadable
    simp only [hresult]
    refine ⟨⟨iff_of_false (fun ⟨_, h⟩ => by cases h) fun h => hreadable h.1,
      iff_of_false ?_ fun h => hreadable h.1⟩, ?_⟩
    · rintro ⟨warnings, h⟩
      cases h
      cases hconversion
    · rintro fault h
      cases h
      exact Or.inr hconversion

/-- A configuration that nothing is wrong with has a source. -/
theorem generation_ends_twins : ∃ source, (Generator.generate ⟨.edgeHook, twins, {}⟩).result = .ok source := by
  have hadmitted : twins.Admitted .edgeHook := by
    simp only [twins, Config.Admitted, Target.Admits, Directives.NoProcess]
    decide +kernel
  exact (generation_ends .edgeHook twins).1.mpr ⟨twins_readable, hadmitted, twins_emittable⟩

/-- A location whose upstream has a port written with a superscript. -/
def superscriptAddress : Tree :=
  [.block ⟨"server", [], none⟩
    [.block ⟨"location", ["/"], none⟩ [.simple ⟨"proxy_pass", ["http://h:²"], none⟩]]]

/-- A port that is a digit and yet no numeral ends generation, instead of its location only. -/
theorem superscript_address_stops_generation :
    ∃ c, (Config.build superscriptAddress).result = .ok c ∧
      (¬ ∃ source, (Generator.generate ⟨.edgeHook, c, {}⟩).result = .ok source) ∧
      ¬ ∃ errors warnings, (Generator.generate ⟨.edgeHook, c, {}⟩).result =
        .error (.refused "edge-hook" errors warnings) := by
  have haddress : ¬ AddressSound "http://h:²" := by
    intro hsound
    obtain ⟨hdigits, hnumeral⟩ := Number.superscript_not_numeral
    exact hnumeral ((hsound "http" "²" (by decide +kernel)).1 hdigits)
  let l : Location := { path := "/", directives := { proxyPass := some "http://h:²" } }
  refine ⟨{ servers := [{ locations := [l] }] }, rfl, ?_⟩
  have hunreadable : ¬ Config.Readable .edgeHook { servers := [{ locations := [l] }] } := fun h =>
    haddress ((h.locations _ (List.mem_singleton_self _) l (List.mem_singleton_self _)).address rfl _ rfl)
  obtain ⟨fault, hresult, hconversion⟩ := generate_of_unreadable hunreadable
  rw [hresult]
  constructor
  · rintro ⟨source, h⟩
    cases h
  · rintro ⟨errors, warnings, h⟩
    cases h
    cases hconversion

end EdgeRoutes
