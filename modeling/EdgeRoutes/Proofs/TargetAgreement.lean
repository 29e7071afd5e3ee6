import EdgeRoutes.Generate.Source
import EdgeRoutes.Proofs.LocationBody
import EdgeRoutes.Proofs.PatternReading

/-! All targets route alike. The engine of a target shows in the notes on a pattern only, never in a condition, and no
target leaves a location without statements. So the code of two targets has the same blocks behind the same
conditions, and differs only in what the statements of the locations say. -/

namespace EdgeRoutes

open Pattern Js

/-- Apart from the notes, a translation is the same for every engine. -/
theorem map_translate_eq {α : Type} {f : Translation → α} (hf : ∀ t notes, f { t with notes } = f t)
    (pattern : String) (d d' : Dialect) (ignoreCase : Bool) :
    (translate pattern d ignoreCase).map f = (translate pattern d' ignoreCase).map f := by
  rw [translate_eq, translate_eq]
  cases foundProblems (pieces (leadingIgnoreCase pattern.toList).2) with
  | error fault => rfl
  | ok problems =>
      refine congrArg Except.ok ?_
      rw [← hf _ (if d' = .minimal then notesOf (pieces (leadingIgnoreCase pattern.toList).2) else [])]

theorem Location.condition_eq (l : Location) (d d' : Dialect) : l.condition d = l.condition d' := by
  have htranslate := map_translate_eq (f := fun t => (⟨[t.test], false⟩ : Condition)) (fun _ _ => rfl) l.path d d'
    (l.modifier == some .regexIgnoreCase)
  unfold condition translation?
  by_cases hregex : l.isRegex = true
  · rw [if_pos hregex, if_pos hregex]
    cases h : translate l.path d (l.modifier == some .regexIgnoreCase) <;>
      cases h' : translate l.path d' (l.modifier == some .regexIgnoreCase) <;>
      rw [h, h'] at htranslate <;> exact htranslate
  · rw [if_neg hregex, if_neg hregex]

theorem Host.test_eq (name : String) (d d' : Dialect) : Host.test d name = Host.test d' name := by
  unfold Host.test
  split
  · exact map_translate_eq (fun _ _ => rfl) _ d d' false
  · rfl

theorem Host.condition_eq (names : List String) (d d' : Dialect) :
    Host.condition names d = Host.condition names d' := by
  have htest : Host.test d = Host.test d' := funext fun name => Host.test_eq name d d'
  unfold Host.condition
  rw [htest]

/-- The block without its statements. -/
def LocationBlock.emptied (b : LocationBlock) : LocationBlock := { b with body := [] }

/-- The block with the blocks of its locations, but without their statements. -/
def ServerBlock.emptied (b : ServerBlock) : ServerBlock :=
  { b with locations := b.locations.map LocationBlock.emptied }

theorem BlockOf.emptied_eq {t u : Target} {index : Nat} {p : Location.Placed} {b c : LocationBlock}
    (hb : BlockOf t index p b) (hc : BlockOf u index p c) : b.emptied = c.emptied := by
  obtain ⟨route, label, condition, body⟩ := b
  obtain ⟨route', label', condition', body'⟩ := c
  obtain rfl : route = route' := hb.route.trans hc.route.symm
  obtain rfl : label = label' := hb.label.trans hc.label.symm
  have hcondition := p.location.condition_eq t.dialect u.dialect
  rw [hb.condition, hc.condition] at hcondition
  obtain rfl : condition = condition' := Except.ok.inj hcondition
  rfl

theorem ServerBlockOf.emptied_eq {t u : Target} {s : Nat × Server} {b c : ServerBlock}
    (hb : ServerBlockOf t s b) (hc : ServerBlockOf u s c) : b.emptied = c.emptied := by
  obtain ⟨index, description, condition, locations⟩ := b
  obtain ⟨index', description', condition', locations'⟩ := c
  obtain rfl : index = index' := hb.index.trans hc.index.symm
  obtain rfl : description = description' := hb.description.trans hc.description.symm
  have hcondition := Host.condition_eq s.2.names t.dialect u.dialect
  rw [hb.condition, hc.condition] at hcondition
  obtain rfl : condition = condition' := Except.ok.inj hcondition
  have hlocations := map_eq_of_forall₂ (fun _ _ _ hb hc => hb.emptied_eq hc) hb.locations hc.locations
  simp only [ServerBlock.emptied, hlocations]

/-- The lines around the statements of locations: those that open and close blocks, and the comments before them. -/
def Js.Code.outer (depth : Nat) (code : Code) : Code := code.filter (·.depth < depth)

namespace Js.Code

theorem outer_append (depth : Nat) (a b : Code) : outer depth (a ++ b) = outer depth a ++ outer depth b :=
  List.filter_append a b

theorem outer_flat (depth : Nat) (lines : List String) : outer (depth + 1) (flat lines) = flat lines := by
  rw [outer, List.filter_eq_self]
  intro line hline
  obtain ⟨text, -, rfl⟩ := List.mem_map.mp hline
  exact decide_eq_true (Nat.succ_pos depth)

theorem outer_nested (depth : Nat) (code : Code) : outer (depth + 1) (nested code) = nested (outer depth code) := by
  rw [outer, nested, List.filter_map, outer, nested]
  congr 1
  refine List.filter_congr fun line _ => ?_
  simp

theorem outer_zero (code : Code) : outer 0 code = [] := by
  simp [outer]

theorem outer_block (depth : Nat) (opening closing : String) (body : Code) :
    outer (depth + 1) (block opening body closing) = block opening (outer depth body) closing := by
  simp only [block, outer_append, outer_flat, outer_nested]

theorem outer_flatMap {α : Type} (depth : Nat) (f : α → Code) (as : List α) :
    outer depth (as.flatMap f) = as.flatMap fun a => outer depth (f a) :=
  List.filter_flatMap

end Js.Code

open Js.Code

theorem outer_commentCode (depth : Nat) (comments : Bool) (text : String) :
    outer (depth + 1) (commentCode comments text) = commentCode comments text := by
  cases comments with
  | false => rfl
  | true => exact outer_flat depth _

/-- Around its statements, the code of a location is the same for every target. -/
theorem outer_locationBlock_code (t u : Target) (comments : Bool) (b : LocationBlock) :
    outer 1 (b.code t comments) = b.emptied.code u comments := by
  rw [LocationBlock.code, outer_append, outer_append, outer_commentCode, guarded, outer_block, outer_zero]
  have hnever : outer 1 (if b.condition.isNever then
      commentCode comments "regex could not be translated; this location never matches" else []) =
      if b.condition.isNever then
        commentCode comments "regex could not be translated; this location never matches" else [] := by
    split_ifs
    · exact outer_commentCode 0 comments _
    · rfl
  rw [hnever]
  rfl

theorem outer_serverBlock_code (t u : Target) (comments : Bool) (b : ServerBlock) :
    outer 2 (b.code t comments) = b.emptied.code u comments := by
  rw [ServerBlock.code, outer_append, outer_commentCode, guarded, outer_block, outer_flatMap]
  simp only [outer_locationBlock_code t u]
  rw [← List.flatMap_map]
  rfl

theorem outer_paragraphs (depth : Nat) (codes : List Code) :
    outer (depth + 1) (paragraphs codes) = paragraphs (codes.map (outer (depth + 1))) := by
  induction codes with
  | nil => rfl
  | cons code codes ih =>
      cases codes with
      | nil => simp [paragraphs]
      | cons next codes =>
          simp only [paragraphs, List.intersperse_cons_cons, List.flatten_cons, outer_append, outer_flat,
            List.map_cons] at ih ⊢
          rw [ih]

/-- Around the statements of the locations, the code is that of the blocks without statements. -/
theorem outer_code (t u : Target) (comments : Bool) (blocks : List ServerBlock) :
    outer 2 (paragraphs (blocks.map (ServerBlock.code t comments))) =
      paragraphs ((blocks.map ServerBlock.emptied).map (ServerBlock.code u comments)) := by
  rw [outer_paragraphs, List.map_map, List.map_map]
  congr 2
  exact funext (outer_serverBlock_code t u comments)

/-- The place of the routing code among what the file of a target is filled with. -/
def Target.routingKey : Target → String
  | .edgeHook => "viewer_request"
  | _ => "routing"

/-- The routing text of a file is that of server blocks. -/
theorem serverBlocks_of_sections {g : Generator} {context : Template.Context} (h : g.sections.result = .ok context) :
    ∃ blocks, (g.serverBlocks (locationBody g.target)).result = .ok blocks ∧
      context.get? g.target.routingKey =
        some (.text (ServerBlock.text g.target g.options.comments blocks 1)) := by
  obtain ⟨target, config, options⟩ := g
  cases target with
  | worker | minimal | middleware =>
      simp only [Generator.sections, Generator.routing, Logged.result_bind] at h
      obtain ⟨text, htext, h⟩ := bind_eq_ok_iff.mp h
      obtain ⟨blocks, hblocks, htext⟩ := bind_eq_ok_iff.mp htext
      cases htext
      cases h
      exact ⟨blocks, hblocks, rfl⟩
  | edgeHook =>
      simp only [Generator.sections, Generator.routing, Logged.result_bind] at h
      obtain ⟨text, htext, h⟩ := bind_eq_ok_iff.mp h
      obtain ⟨blocks, hblocks, htext⟩ := bind_eq_ok_iff.mp htext
      obtain ⟨request, -, h⟩ := bind_eq_ok_iff.mp h
      obtain ⟨response, -, h⟩ := bind_eq_ok_iff.mp h
      cases htext
      cases h
      exact ⟨blocks, hblocks, rfl⟩

/-- The routing code of two targets has the same blocks: those of the servers and locations that can be reached, in the
same order and behind the same conditions, letter for letter. What an engine can read does not matter, because patterns
have the same source, flags and problems for all of them. -/
theorem targets_route_alike (config : Config) (options : Options) (t u : Target) {ct cu : Template.Context}
    (ht : (Generator.sections ⟨t, config, options⟩).result = .ok ct)
    (hu : (Generator.sections ⟨u, config, options⟩).result = .ok cu) :
    (∃ bt bu : List ServerBlock,
      ct.get? t.routingKey = some (.text (ServerBlock.text t options.comments bt 1)) ∧
        cu.get? u.routingKey = some (.text (ServerBlock.text u options.comments bu 1)) ∧
        List.Forall₂ (ServerBlockOf t) config.reachable bt ∧ List.Forall₂ (ServerBlockOf u) config.reachable bu ∧
        bt.map ServerBlock.emptied = bu.map ServerBlock.emptied ∧
        outer 2 (paragraphs (bt.map (ServerBlock.code t options.comments))) =
          outer 2 (paragraphs (bu.map (ServerBlock.code u options.comments)))) ∧
      ∀ (pattern : String) (ignoreCase : Bool) (d d' : Dialect),
        (translate pattern d ignoreCase).map (fun r => (r.source, r.flags, r.problems)) =
          (translate pattern d' ignoreCase).map (fun r => (r.source, r.flags, r.problems)) := by
  obtain ⟨bt, hbt, httext⟩ := serverBlocks_of_sections ht
  obtain ⟨bu, hbu, hutext⟩ := serverBlocks_of_sections hu
  have htblocks := serverBlockOf_of_serverBlocks hbt
  have hublocks := serverBlockOf_of_serverBlocks hbu
  have hemptied := map_eq_of_forall₂ (fun _ _ _ hb hc => hb.emptied_eq hc) htblocks hublocks
  refine ⟨⟨bt, bu, httext, hutext, htblocks, hublocks, hemptied, ?_⟩, fun pattern ignoreCase d d' => ?_⟩
  · rw [outer_code t t, outer_code u t, hemptied]
  · exact map_translate_eq (fun _ _ => rfl) pattern d d' ignoreCase

/-- Two servers, with patterns for a host name, a path and a rewrite rule. -/
def patterned : Config where
  servers := [
    { names := ["~^www\\."]
      locations := [
        { path := "\\.php$", modifier := some .regex, directives := { proxyPass := some "http://app" } }] },
    { locations := [
        { path := "/"
          directives := { root := some "/srv", rewrites := [{ regex := "^/a", replacement := "/b" }] } }] }]

theorem targets_route_alike_patterned :
    ∃ (ct cu : Template.Context) (bt bu : List ServerBlock),
      (Generator.sections ⟨.worker, patterned, {}⟩).result = .ok ct ∧
        (Generator.sections ⟨.minimal, patterned, {}⟩).result = .ok cu ∧
        ct.get? "routing" = some (.text (ServerBlock.text .worker true bt 1)) ∧
        cu.get? "routing" = some (.text (ServerBlock.text .minimal true bu 1)) ∧
        bt.map ServerBlock.emptied = bu.map ServerBlock.emptied ∧ bt.length = 2 := by
  obtain ⟨ct, ht⟩ := Option.isSome_iff_exists.mp
    (show (Generator.sections ⟨.worker, patterned, {}⟩).result.toOption.isSome = true by decide +kernel)
  obtain ⟨cu, hu⟩ := Option.isSome_iff_exists.mp
    (show (Generator.sections ⟨.minimal, patterned, {}⟩).result.toOption.isSome = true by decide +kernel)
  rw [toOption_eq_some_iff] at ht hu
  obtain ⟨⟨bt, bu, httext, hutext, hblocks, -, hemptied, -⟩, -⟩ :=
    targets_route_alike patterned {} .worker .minimal ht hu
  have hlength : patterned.reachable.length = 2 := by decide +kernel
  exact ⟨ct, cu, bt, bu, ht, hu, httext, hutext, hemptied, hblocks.length_eq.symm.trans hlength⟩

end EdgeRoutes
