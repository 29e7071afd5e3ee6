import EdgeRoutes.Model.Build
import EdgeRoutes.Proofs.RoutePhases

/-! Which locations the routing code covers. A location has one block or none, and what decides is the first character of
its path: the code takes every path that starts with `@` for a name. Only a location without a modifier has a name,
though; a pattern may start with that character too, and then the requests for it are lost. -/

namespace EdgeRoutes

open Location

/-- The location has a name in place of a path, and is reached from inside only. -/
def Location.HasName (l : Location) : Prop :=
  l.modifier = none ∧ Text.startsWith l.path "@" = true

/-- The number of blocks that the routing code has for a route. -/
def blockCount (blocks : List ServerBlock) (r : Route) : Nat :=
  (blocks.flatMap fun b => b.locations.map LocationBlock.route).count r

section Blocks

variable {c : Config} {t : Target} {blocks : List ServerBlock} {r : Route} {l : Location}

/-- A location has one block, unless its path starts like a name. -/
theorem blockCount_eq (h : List.Forall₂ (ServerBlockOf t) c.reachable blocks) (hat : c.HasAt r l) :
    blockCount blocks r = if Text.startsWith l.path "@" then 0 else 1 := by
  rw [blockCount, routes_of_serverBlockOf h]
  split_ifs with hname
  · rw [List.count_eq_zero]
    intro hmem
    obtain ⟨s, hs, hroute⟩ := List.mem_flatMap.mp hmem
    obtain ⟨p, hp, rfl⟩ := List.mem_map.mp hroute
    obtain ⟨hat', hnamed⟩ := Config.hasAt_of_mem_tried (List.mem_filter.mp hs).1 hp
    obtain rfl := hat.unique hat'
    rw [isNamed, hname] at hnamed
    cases hnamed
  · have hnamed : l.isNamed = false := Bool.eq_false_iff.mpr hname
    obtain ⟨s, hs, p, hp, rfl, rfl⟩ := hat.exists_tried hnamed
    have hroute : (⟨s.1, p.position⟩ : Route) ∈ Config.triedRoutes s := List.mem_map.mpr ⟨p, hp, rfl⟩
    exact List.count_eq_one_of_mem c.nodup_reachable
      (List.mem_flatMap.mpr ⟨s, Config.mem_reachable_of_mem_tried hs hp, hroute⟩)

/-- Every block stands in the block of its server, and has the condition and the statements of a location there. -/
theorem exists_location_of_block (h : List.Forall₂ (ServerBlockOf t) c.reachable blocks) {b : ServerBlock} (hb : b ∈ blocks)
    {block : LocationBlock} (hblock : block ∈ b.locations) :
    ∃ l, c.HasAt block.route l ∧ BlockOf t b.index ⟨block.route.position, l⟩ block := by
  obtain ⟨s, hs, hserver⟩ := exists_left_of_forall₂ h hb
  obtain ⟨p, hp, hof⟩ := exists_left_of_forall₂ hserver.locations hblock
  obtain ⟨hat, -⟩ := Config.hasAt_of_mem_tried (List.mem_filter.mp hs).1 hp
  have hroute := hof.route
  refine ⟨p.location, by rwa [hroute], ?_⟩
  rw [hserver.index, hroute]
  exact hof

end Blocks

/-- The routing code has one block for each location, and that of no other, unless the path of the location starts with
`@`; then it has none. So all locations that a request can be meant for have one just if no location with a modifier has
such a path. -/
theorem routed_iff_no_pattern_named (config : Config) (options : Options) (t : Target) {context : Template.Context}
    (h : (Generator.sections ⟨t, config, options⟩).result = .ok context) :
    ∃ blocks : List ServerBlock,
      context.get? t.routingKey = some (.text (ServerBlock.text t options.comments blocks 1)) ∧
        (∀ b ∈ blocks, ∀ block ∈ b.locations,
          ∃ l, config.HasAt block.route l ∧ BlockOf t b.index ⟨block.route.position, l⟩ block) ∧
        (∀ r l, config.HasAt r l → blockCount blocks r = if Text.startsWith l.path "@" then 0 else 1) ∧
        ((∀ r l, config.HasAt r l → ¬ l.HasName → blockCount blocks r = 1) ↔
          ∀ r l, config.HasAt r l → l.modifier ≠ none → Text.startsWith l.path "@" = false) := by
  obtain ⟨blocks, hblocks, htext⟩ := serverBlocks_of_sections h
  have hforall := serverBlockOf_of_serverBlocks hblocks
  have hcount : ∀ r l, config.HasAt r l → blockCount blocks r = if Text.startsWith l.path "@" then 0 else 1 :=
    fun r l hat => blockCount_eq hforall hat
  refine ⟨blocks, htext, fun b hb block hblock => exists_location_of_block hforall hb hblock, hcount, ?_, ?_⟩
  · intro hone r l hat hmodifier
    have hcounted := hone r l hat fun hname => hmodifier hname.1
    rw [hcount r l hat] at hcounted
    by_contra hstart
    rw [if_pos (Bool.eq_true_of_not_eq_false hstart)] at hcounted
    cases hcounted
  · intro hpaths r l hat hname
    rw [hcount r l hat]
    refine if_neg fun hstart => ?_
    by_cases hmodifier : l.modifier = none
    · exact hname ⟨hmodifier, hstart⟩
    · rw [hpaths r l hat hmodifier] at hstart
      cases hstart

/-- Of two locations that are the same in every respect, each has its own block. -/
theorem routed_iff_no_pattern_named_twins :
    ∃ context blocks,
      (Generator.sections ⟨.edgeHook, twins, {}⟩).result = .ok context ∧
        context.get? "viewer_request" = some (.text (ServerBlock.text .edgeHook true blocks 1)) ∧
        blockCount blocks ⟨1, 1⟩ = 1 ∧ blockCount blocks ⟨1, 3⟩ = 1 := by
  obtain ⟨context, h⟩ := (needs_sections (g := ⟨.edgeHook, twins, {}⟩) twins_readable).returns.mpr twins_emittable
  obtain ⟨blocks, htext, -, hcount, -⟩ := routed_iff_no_pattern_named twins {} .edgeHook h
  have hfirst := hcount ⟨1, 1⟩ _ ⟨0, 0, _, rfl, rfl, rfl⟩
  have hthird := hcount ⟨1, 3⟩ _ ⟨0, 2, _, rfl, rfl, rfl⟩
  exact ⟨context, blocks, h, htext, hfirst, hthird⟩

/-- A location for images of double size, which have `@2x` in their names. -/
def doubleSize : Tree :=
  [.block ⟨"server", [], none⟩
    [.block ⟨"location", ["~", "@2x\\.png$"], none⟩ [.simple ⟨"root", ["/srv"], none⟩]]]

/-- The location has a modifier, and yet no target has routing code for it. -/
theorem pattern_taken_for_name :
    ∃ c l, (Config.build doubleSize).result = .ok c ∧ c.HasAt ⟨1, 1⟩ l ∧ l.modifier = some .regex ∧
      ∀ t : Target, ∃ context, (Generator.sections ⟨t, c, {}⟩).result = .ok context ∧
        context.get? t.routingKey = some (.text "") := by
  let l : Location := { path := "@2x\\.png$", modifier := some .regex, directives := { root := some "/srv" } }
  let c : Config := { servers := [{ locations := [l] }] }
  refine ⟨c, l, rfl, ⟨0, 0, _, rfl, rfl, rfl⟩, rfl, fun t => ?_⟩
  have hreachable : c.reachable = [] := List.isEmpty_iff.mp (by decide +kernel)
  have hsections : (Generator.sections ⟨t, c, {}⟩).result.toOption.isSome = true := by
    cases t <;> decide +kernel
  obtain ⟨context, hcontext⟩ := Option.isSome_iff_exists.mp hsections
  rw [toOption_eq_some_iff] at hcontext
  obtain ⟨blocks, hblocks, htext⟩ := serverBlocks_of_sections hcontext
  have hforall := serverBlockOf_of_serverBlocks hblocks
  rw [hreachable, List.forall₂_nil_left_iff] at hforall
  rw [hforall] at htext
  exact ⟨context, hcontext, htext⟩

end EdgeRoutes
