import EdgeRoutes.Proofs.Degradation
import EdgeRoutes.Proofs.Numerals

/-! Notes on patterns that small embedded engines may not run. The check of a configuration goes through the patterns of
locations, of rules and of server names, each with a loop of its own. What it writes down for a location begins with
the place of that location, which tells the findings about locations from all others. -/

namespace EdgeRoutes

open Pattern Http

def Noted (v : Validation) (place : String) (note : Note) : Prop :=
  place ++ ": " ++ note.message ∈ v.warnings

section Locations

variable {g : Generator} {v : Validation} (h : g.findings = .ok v) {r : Route} {l : Location}
  (hat : g.config.HasAt r l) {t : Translation} {note : Note} (hnote : note ∈ t.notes)

include h hat hnote

theorem noted_path (ht : l.translation? g.target.dialect = .ok (some t)) : Noted v (r.place l.label) note :=
  pathWarnings_of_findings h hat ht (List.mem_append_right _ (List.mem_map.mpr ⟨note, hnote, rfl⟩))

theorem noted_rule {rule : RewriteRule} (hrule : rule ∈ l.directives.rewrites)
    (ht : translate rule.regex g.target.dialect false = .ok t) :
    Noted v (r.place l.label ++ ": rewrite " ++ rule.regex) note :=
  ruleWarnings_of_findings h hat hrule ht (List.mem_append_right _ (List.mem_map.mpr ⟨note, hnote, rfl⟩))

end Locations

section Places

theorem forall_mem_warnIf {P : String → Prop} {text : String} (h : P text) (b : Bool) : ∀ w ∈ warnIf b text, P w := by
  cases b with
  | false => exact List.forall_mem_nil P
  | true => exact List.forall_mem_singleton.mpr h

def AllBegin (label : String) (texts : List String) : Prop :=
  ∀ text ∈ texts, Text.startsWith text label = true

variable {label : String}

theorem startsWith_self (text : String) : Text.startsWith text text = true :=
  Text.startsWith_iff.mpr (List.prefix_refl _)

theorem startsWith_append_of {text : String} (h : Text.startsWith text label = true) (rest : String) :
    Text.startsWith (text ++ rest) label = true := by
  rw [Text.startsWith_iff] at h ⊢
  rw [String.toList_append]
  exact h.trans (List.prefix_append _ _)

theorem allBegin_nil : AllBegin label [] := List.forall_mem_nil _

theorem allBegin_append {a b : List String} (ha : AllBegin label a) (hb : AllBegin label b) :
    AllBegin label (a ++ b) :=
  List.forall_mem_append.mpr ⟨ha, hb⟩

theorem allBegin_map {α : Type} {f : α → String} (hf : ∀ a, Text.startsWith (f a) label = true) (as : List α) :
    AllBegin label (as.map f) :=
  List.forall_mem_map.mpr fun a _ => hf a

theorem allBegin_warnIf (b : Bool) {text : String} (h : Text.startsWith text label = true) :
    AllBegin label (warnIf b text) :=
  forall_mem_warnIf h b

theorem startsWith_label (a : String) : Text.startsWith (label ++ a) label = true :=
  startsWith_append_of (startsWith_self label) a

theorem startsWith_label₂ (a b : String) : Text.startsWith (label ++ a ++ b) label = true :=
  startsWith_append_of (startsWith_label a) b

theorem startsWith_label₃ (a b c : String) : Text.startsWith (label ++ a ++ b ++ c) label = true :=
  startsWith_append_of (startsWith_label₂ a b) c

variable {l : Location} {dialect : Dialect} {warnings : List String}

theorem allBegin_patternWarnings (h : l.patternWarnings label dialect = .ok warnings) : AllBegin label warnings := by
  obtain ⟨translation, -, h⟩ := bind_eq_ok_iff.mp h
  cases translation with
  | none =>
      cases h
      exact allBegin_nil
  | some t =>
      cases h
      exact allBegin_append (allBegin_map (fun _ => startsWith_label₃ _ _ _) _)
        (allBegin_map (fun _ => startsWith_label₂ _ _) _)

theorem allBegin_ruleWarnings {rule : RewriteRule} (h : Location.ruleWarnings label dialect rule = .ok warnings) :
    AllBegin label warnings := by
  obtain ⟨t, -, h⟩ := bind_eq_ok_iff.mp h
  cases h
  refine allBegin_append (allBegin_map (fun p => ?_) _) (allBegin_map (fun note => ?_) _)
  · exact startsWith_append_of (startsWith_append_of (startsWith_append_of (startsWith_label₂ _ _) _) _) _
  · exact startsWith_append_of (startsWith_label₃ _ _ _) _

theorem allBegin_proxyWarnings (url : String) (c : Config) : AllBegin label (l.proxyWarnings label url c) := by
  unfold Location.proxyWarnings
  obtain ⟨origin, uri⟩ := splitProxyPass url
  refine allBegin_append (allBegin_warnIf _ ?_) ?_
  · exact startsWith_append_of (startsWith_append_of (startsWith_label₃ _ _ _) _) _
  · split_ifs
    · exact allBegin_nil
    · exact List.forall_mem_singleton.mpr (startsWith_label _)
    · exact allBegin_warnIf _ (startsWith_label₂ _ _)

theorem allBegin_expiresWarnings (h : l.expiresWarnings label = .ok warnings) : AllBegin label warnings := by
  unfold Location.expiresWarnings at h
  cases hexpires : l.directives.expires with
  | none =>
      rw [hexpires] at h
      cases h
      exact allBegin_nil
  | some expires =>
      rw [hexpires] at h
      obtain ⟨convertible, -, h⟩ := bind_eq_ok_iff.mp h
      cases h
      exact allBegin_warnIf _ (startsWith_label₃ _ _ _)

/-- The warnings about a location begin with its label. -/
theorem allBegin_locationWarnings {c : Config} (h : l.warnings label c dialect = .ok warnings) :
    AllBegin label warnings := by
  obtain ⟨pattern, hpattern, h⟩ := bind_eq_ok_iff.mp h
  obtain ⟨rules, hrules, h⟩ := bind_eq_ok_iff.mp h
  obtain ⟨expires, hexpires, h⟩ := bind_eq_ok_iff.mp h
  cases h
  have hflat : AllBegin label rules.flatten := by
    intro w hw
    obtain ⟨found, hfound, hw⟩ := List.mem_flatten.mp hw
    obtain ⟨rule, -, hrule⟩ := exists_left_of_forall₂ (mapM_eq_ok_iff.mp hrules) hfound
    exact allBegin_ruleWarnings hrule w hw
  have hproxy : AllBegin label (l.directives.proxyPass.elim [] fun url => l.proxyWarnings label url c) := by
    cases l.directives.proxyPass with
    | none => exact allBegin_nil
    | some url => exact allBegin_proxyWarnings url c
  exact allBegin_append (allBegin_append (allBegin_append (allBegin_append (allBegin_warnIf _ (startsWith_label _))
    (allBegin_patternWarnings hpattern)) hflat) hproxy) (allBegin_expiresWarnings hexpires)

theorem allBegin_targetProxyWarnings {t : Target} {url : String} (h : t.proxyWarnings label url = .ok warnings) :
    AllBegin label warnings := by
  have hstrict : ∀ {limit}, Target.strictProxyWarnings label limit url = .ok warnings → AllBegin label warnings := by
    intro limit h
    unfold Target.strictProxyWarnings at h
    obtain ⟨found, -, h⟩ := bind_eq_ok_iff.mp h
    cases h
    refine List.forall_mem_cons.mpr ⟨startsWith_label₂ _ _, ?_⟩
    cases found with
    | error reason => exact List.forall_mem_singleton.mpr (startsWith_label₃ _ _ _)
    | ok upstream => exact allBegin_nil
  cases t with
  | worker =>
      cases h
      exact allBegin_nil
  | middleware =>
      obtain rfl : Target.middlewareProxyWarnings label url = warnings := Except.ok.inj h
      unfold Target.middlewareProxyWarnings
      obtain ⟨origin, uri⟩ := splitProxyPass url
      refine iteInduction (motive := AllBegin label) (fun _ => ?_) fun _ => ?_
      · exact List.forall_mem_singleton.mpr (startsWith_label₃ _ _ _)
      · exact allBegin_warnIf _ (startsWith_label₃ _ _ _)
  | edgeHook => exact hstrict h
  | minimal => exact hstrict h

theorem allBegin_locationFindings {t : Target} {found : Validation} (h : t.locationFindings label l = .ok found) :
    AllBegin label found.warnings := by
  have hown : AllBegin label (warnIf l.directives.servesStatic (label ++ ": " ++ t.staticWarning) ++
      warnIf (t == .worker && l.directives.expires.isSome)
        (label ++ ": expires is emitted as Cache-Control; edge cache rules are preferred")) :=
    allBegin_append (allBegin_warnIf _ (startsWith_label₂ _ _)) (allBegin_warnIf _ (startsWith_label _))
  unfold Target.locationFindings at h
  cases hurl : l.directives.proxyPass with
  | none =>
      simp only [hurl] at h
      cases h
      exact allBegin_append hown allBegin_nil
  | some url =>
      simp only [hurl] at h
      obtain ⟨proxy, hproxy, h⟩ := bind_eq_ok_iff.mp h
      cases h
      exact allBegin_append hown (allBegin_targetProxyWarnings hproxy)

end Places

section Endings

/-- What every note ends with. -/
def caveat : String := " may not be supported by the minimal runtime"

theorem caveat_suffix (note : Note) : caveat.toList <:+ note.message.toList := by
  cases note <;> decide +kernel

theorem caveat_suffix_append (text : String) (note : Note) : caveat.toList <:+ (text ++ note.message).toList := by
  rw [String.toList_append]
  exact (caveat_suffix note).trans (List.suffix_append _ _)

/-- The text does not end as a note does. -/
def Unnoted (text : String) : Prop := ¬ caveat.toList <:+ text.toList

theorem unnoted_append {ending : String} (h : ¬ (caveat.toList <:+ ending.toList ∨ ending.toList <:+ caveat.toList))
    (text : String) : Unnoted (text ++ ending) := by
  intro hcaveat
  rw [String.toList_append] at hcaveat
  exact h (List.suffix_or_suffix_of_suffix hcaveat (List.suffix_append _ _))

theorem unnoted_noServers : Unnoted "Configuration has no server blocks; generated code matches no routes" := by
  unfold Unnoted
  decide +kernel

theorem unnoted_serverWarnings {s : Server} {index : Nat} {dialect : Dialect} {warnings : List String}
    (h : s.warnings index dialect = .ok warnings) : ∀ w ∈ warnings, Unnoted w := by
  obtain ⟨problems, -, h⟩ := bind_eq_ok_iff.mp h
  obtain rfl := Except.ok.inj h
  have hlisten : Unnoted ("Server " ++ toString index ++ " has no listen directive") :=
    unnoted_append (by decide +kernel) _
  refine List.forall_mem_append.mpr ⟨List.forall_mem_append.mpr ⟨forall_mem_warnIf hlisten _, ?_⟩, ?_⟩
  · exact List.forall_mem_map.mpr fun _ _ => unnoted_append (by decide +kernel) _
  · exact List.forall_mem_map.mpr fun _ _ => unnoted_append (by decide +kernel) _

theorem unnoted_sslWarning (t : Target) (text : String) : Unnoted (text ++ t.sslWarning) := by
  cases t <;> exact unnoted_append (by decide +kernel) text

end Endings

/-- A finding that ends as a note does is about a location, and begins with the label of that location. -/
theorem exists_labelled_of_caveat {g : Generator} {v : Validation} (h : g.findings = .ok v) {w : String}
    (hw : w ∈ v.warnings) (hcaveat : caveat.toList <:+ w.toList) :
    ∃ x ∈ g.config.labelled, Text.startsWith w x.1 = true := by
  obtain ⟨structural, hstructural, h⟩ := bind_eq_ok_iff.mp h
  obtain ⟨specific, hspecific, h⟩ := bind_eq_ok_iff.mp h
  cases h
  rcases List.mem_append.mp hw with hw | hw
  · obtain ⟨servers, hservers, hstructural⟩ := bind_eq_ok_iff.mp hstructural
    obtain ⟨locations, hlocations, hstructural⟩ := bind_eq_ok_iff.mp hstructural
    cases hstructural
    rcases List.mem_append.mp hw with hw | hw
    · rcases List.mem_append.mp hw with hw | hw
      · exact absurd hcaveat (forall_mem_warnIf unnoted_noServers _ w hw)
      · obtain ⟨warnings, hmem, hw⟩ := List.mem_flatten.mp hw
        obtain ⟨s, -, hs⟩ := exists_left_of_forall₂ (mapM_eq_ok_iff.mp hservers) hmem
        exact absurd hcaveat (unnoted_serverWarnings hs w hw)
    · obtain ⟨warnings, hmem, hw⟩ := List.mem_flatten.mp hw
      obtain ⟨x, hx, hwarnings⟩ := exists_left_of_forall₂ (mapM_eq_ok_iff.mp hlocations) hmem
      exact ⟨x, hx, allBegin_locationWarnings hwarnings w hw⟩
  · obtain ⟨locations, hlocations, hspecific⟩ := bind_eq_ok_iff.mp hspecific
    cases hspecific
    rcases List.mem_append.mp hw with hw | hw
    · obtain ⟨s, -, rfl⟩ := List.mem_map.mp hw
      exact absurd hcaveat (unnoted_sslWarning g.target _)
    · obtain ⟨found, hfound, hw⟩ := List.mem_flatMap.mp hw
      obtain ⟨x, hx, hfindings⟩ := exists_left_of_forall₂ (mapM_eq_ok_iff.mp hlocations) hfound
      exact ⟨x, hx, allBegin_locationFindings hfindings w hw⟩

theorem dropWhile_toString (n : Nat) (rest : List Char) :
    ((toString n).toList ++ ',' :: rest).dropWhile Char.isDigit = ',' :: rest := by
  rw [List.dropWhile_append_of_pos fun c hc => isDigit_of_mem_toString hc, List.dropWhile_cons_of_neg (by decide)]

/-- No text begins as a finding about a name and as a finding about a location. -/
theorem places_apart {w : String} {m n : Nat}
    (hname : Text.startsWith w ("Server " ++ toString m ++ ", server_name ") = true)
    (hlocation : Text.startsWith w ("Server " ++ toString n ++ ", location ") = true) : False := by
  obtain ⟨rest, hrest⟩ := Text.startsWith_iff.mp hname
  obtain ⟨rest', hrest'⟩ := Text.startsWith_iff.mp hlocation
  have hmark : ", server_name ".toList = ',' :: ' ' :: 's' :: "erver_name ".toList := rfl
  have hmark' : ", location ".toList = ',' :: ' ' :: 'l' :: "ocation ".toList := rfl
  rw [← hrest'] at hrest
  simp only [String.toList_append, List.append_assoc, hmark, hmark', List.cons_append] at hrest
  have hafter := congrArg (List.dropWhile Char.isDigit) (List.append_cancel_left hrest)
  rw [dropWhile_toString, dropWhile_toString] at hafter
  cases hafter

/-- No finding about a name of a server ends as a note does. -/
theorem unnoted_of_name {g : Generator} {v : Validation} (h : g.findings = .ok v) {w : String} (hw : w ∈ v.warnings)
    {index : Nat} (hname : Text.startsWith w ("Server " ++ toString index ++ ", server_name ") = true) : Unnoted w := by
  intro hcaveat
  obtain ⟨x, hx, hbegins⟩ := exists_labelled_of_caveat h hw hcaveat
  obtain ⟨s, -, hx⟩ := List.mem_flatMap.mp hx
  obtain ⟨l, -, rfl⟩ := List.mem_map.mp hx
  have hlocation : Text.startsWith w ("Server " ++ toString s.1 ++ ", location ") = true := by
    rw [Text.startsWith_iff] at hbegins ⊢
    rw [String.toList_append] at hbegins
    exact (List.prefix_append _ _).trans hbegins
  exact places_apart hname hlocation

/-- A pattern that can be used and that a location with a block is configured with, as its own or for a rule, at the
place that findings give it. -/
inductive TestsPaths (g : Generator) (blocks : List ServerBlock) : String → Translation → Prop
  | location {b : ServerBlock} (hb : b ∈ blocks) {block : LocationBlock} (hblock : block ∈ b.locations) {l : Location}
      (hat : g.config.HasAt block.route l) {t : Translation} (ht : l.translation? g.target.dialect = .ok (some t))
      (hsupported : t.supported = true) : TestsPaths g blocks (block.route.place block.label) t
  | rule {b : ServerBlock} (hb : b ∈ blocks) {block : LocationBlock} (hblock : block ∈ b.locations) {l : Location}
      (hat : g.config.HasAt block.route l) {rule : RewriteRule} (hrule : rule ∈ l.directives.rewrites) {t : Translation}
      (ht : translate rule.regex g.target.dialect false = .ok t) (hsupported : t.supported = true) :
      TestsPaths g blocks (block.route.place block.label ++ ": rewrite " ++ rule.regex) t

/-- A pattern that can be used and that the condition of a server block tests hosts with, for a name of the server, at
the place that findings give to names. -/
inductive TestsHosts (g : Generator) (blocks : List ServerBlock) : String → Translation → Prop
  | intro {b : ServerBlock} (hb : b ∈ blocks) {s : Server} (hs : (b.index, s) ∈ g.config.numbered) {k : Nat}
      {name pattern : String} (hname : s.names[k]? = some name) (hpattern : Host.pattern? name = some pattern)
      {t : Translation} (ht : translate pattern g.target.dialect false = .ok t) (hsupported : t.supported = true)
      (htest : b.condition.tests[k]? = some t.test) :
      TestsHosts g blocks ("Server " ++ toString b.index ++ ", server_name " ++ name) t

theorem label_of_serverBlocks {g : Generator} {blocks : List ServerBlock}
    (h : (g.serverBlocks (locationBody g.target)).result = .ok blocks) {b : ServerBlock} (hb : b ∈ blocks)
    {block : LocationBlock} (hblock : block ∈ b.locations) {l : Location} (hat : g.config.HasAt block.route l) :
    block.label = l.label := by
  obtain ⟨s, hs, hserver⟩ := exists_left_of_forall₂ (serverBlockOf_of_serverBlocks h) hb
  obtain ⟨p, hp, hof⟩ := exists_left_of_forall₂ hserver.locations hblock
  obtain ⟨hplaced, -⟩ := Config.hasAt_of_mem_tried (List.mem_filter.mp hs).1 hp
  rw [← hof.route] at hplaced
  rw [hat.unique hplaced, hof.label]

theorem noted_of_testsPaths {g : Generator} {v : Validation} {blocks : List ServerBlock} (h : g.findings = .ok v)
    (hblocks : (g.serverBlocks (locationBody g.target)).result = .ok blocks) {place : String} {t : Translation}
    (hpattern : TestsPaths g blocks place t) {note : Note} (hnote : note ∈ t.notes) : Noted v place note := by
  cases hpattern with
  | location hb hblock hat ht =>
      rw [label_of_serverBlocks hblocks hb hblock hat]
      exact noted_path h hat hnote ht
  | rule hb hblock hat hrule ht =>
      rw [label_of_serverBlocks hblocks hb hblock hat]
      exact noted_rule h hat hnote hrule ht

theorem not_noted_of_testsHosts {g : Generator} {v : Validation} {blocks : List ServerBlock} (h : g.findings = .ok v)
    {place : String} {t : Translation} (hpattern : TestsHosts g blocks place t) (note : Note) : ¬ Noted v place note := by
  obtain ⟨hb, hs, hname, -, -, -, -⟩ := hpattern
  intro hnoted
  exact unnoted_of_name h hnoted (startsWith_label₃ _ _ _) (caveat_suffix_append _ note)

/-- The findings have every note on the patterns that the routing code tests paths with, and none on those that it tests
hosts with: nothing that is found about the name of a server ends as a note does. So all notes are told just if there
is none on the pattern of a name. -/
theorem notes_told_iff (g : Generator) {v : Validation} {context : Template.Context}
    (hvalidate : g.validate.result = .ok v) (hsections : g.sections.result = .ok context) :
    ∃ blocks, (g.serverBlocks (locationBody g.target)).result = .ok blocks ∧
      context.get? g.target.routingKey = some (.text (ServerBlock.text g.target g.options.comments blocks 1)) ∧
      (∀ place t, TestsPaths g blocks place t → ∀ note ∈ t.notes, Noted v place note) ∧
      (∀ w ∈ v.warnings, ∀ index : Nat, Text.startsWith w ("Server " ++ toString index ++ ", server_name ") = true →
        ∀ note : Note, ¬ note.message.toList <:+ w.toList) ∧
      ((∀ place t, TestsPaths g blocks place t ∨ TestsHosts g blocks place t → ∀ note ∈ t.notes, Noted v place note) ↔
        ∀ place t, TestsHosts g blocks place t → t.notes = []) := by
  have h := findings_of_validate hvalidate
  obtain ⟨blocks, hblocks, htext⟩ := serverBlocks_of_sections hsections
  refine ⟨blocks, hblocks, htext, fun place t ht note hnote => noted_of_testsPaths h hblocks ht hnote, ?_, ?_, ?_⟩
  · intro w hw index hname note hnote
    exact unnoted_of_name h hw hname ((caveat_suffix note).trans hnote)
  · intro hall place t ht
    refine List.eq_nil_iff_forall_not_mem.mpr fun note hnote => ?_
    exact not_noted_of_testsHosts h ht note (hall place t (Or.inr ht) note hnote)
  · rintro hnone place t (ht | ht) note hnote
    · exact noted_of_testsPaths h hblocks ht hnote
    · rw [hnone place t ht] at hnote
      cases hnote

/-- A location with a named group in its pattern, and with a lookbehind in that of its rule. -/
def notingLocation : Location where
  path := "(?<n>b)"
  modifier := some .regex
  directives := { rewrites := [{ regex := "(?<=a)b", replacement := "/y" }] }

/-- A server with a named group in the pattern of its name. -/
def notingServer : Server where
  names := ["~^(?<sub>a)$"]
  locations := [notingLocation]

def noting : Config where
  servers := [notingServer]

/-- The pattern of that name, as it is used. -/
def notingName : Translation := ⟨"^(?<sub>a)$", "^(?<sub>a)$", false, [], [.namedGroup]⟩

theorem validate_noting : (Generator.validate ⟨.minimal, noting, {}⟩).result = .ok ⟨[], [
    "Server 1 has no listen directive",
    "Server 1, location ~ (?<n>b): named groups may not be supported by the minimal runtime",
    "Server 1, location ~ (?<n>b): rewrite (?<=a)b: lookbehind may not be supported by the minimal runtime"]⟩ :=
  toOption_eq_some_iff.mp (by decide +kernel)

/-- The code for that has one block for the server, which tests hosts with the pattern of its name, and in it one for the
location. -/
theorem blocks_of_noting {blocks : List ServerBlock}
    (h : (Generator.serverBlocks ⟨.minimal, noting, {}⟩ (locationBody .minimal)).result = .ok blocks) :
    ∃ b block, blocks = [b] ∧ b.locations = [block] ∧ b.index = 1 ∧ b.condition.tests = [notingName.test] ∧
      block.route = ⟨1, 1⟩ ∧ block.label = "~ (?<n>b)" := by
  have hserver := eq_of_map_toOption h (b := [(1, [notingName.test])])
    (f := List.map fun b => (b.index, b.condition.tests)) (by decide +kernel)
  have hlocation := eq_of_map_toOption h (b := [((⟨1, 1⟩ : Route), "~ (?<n>b)")])
    (f := List.flatMap fun b => b.locations.map fun block => (block.route, block.label)) (by decide +kernel)
  obtain ⟨b, rfl, hb⟩ := List.map_eq_singleton_iff.mp hserver
  rw [List.flatMap_singleton] at hlocation
  obtain ⟨block, hblock, hlocation⟩ := List.map_eq_singleton_iff.mp hlocation
  simp only [Prod.mk.injEq] at hb hlocation
  exact ⟨b, block, rfl, hblock, hb.1, hb.2, hlocation⟩

theorem notes_told_iff_noting : ∃ v context, (Generator.validate ⟨.minimal, noting, {}⟩).result = .ok v ∧
    (Generator.sections ⟨.minimal, noting, {}⟩).result = .ok context ∧
    "Server 1, location ~ (?<n>b): rewrite (?<=a)b: lookbehind may not be supported by the minimal runtime" ∈
      v.warnings := by
  obtain ⟨context, hcontext⟩ : ∃ context, (Generator.sections ⟨.minimal, noting, {}⟩).result = .ok context :=
    exists_eq_ok (by decide +kernel)
  obtain ⟨blocks, hblocks, -, htold, -, -⟩ := notes_told_iff _ validate_noting hcontext
  obtain ⟨b, block, rfl, hblock, -, -, hroute, hlabel⟩ := blocks_of_noting hblocks
  have hrule : translate "(?<=a)b" .minimal false = .ok ⟨"(?<=a)b", "(?<=a)b", false, [], [.lookbehind]⟩ :=
    translate_of_parts (by decide +kernel)
  have hat : noting.HasAt block.route notingLocation := hroute ▸ ⟨0, 0, _, rfl, rfl, rfl⟩
  have hnoted := htold _ _ (.rule (List.mem_singleton_self b) (hblock ▸ List.mem_singleton_self block) hat
    (List.mem_singleton_self _) hrule rfl) .lookbehind (List.mem_singleton_self _)
  rw [hroute, hlabel] at hnoted
  exact ⟨_, context, validate_noting, hcontext, hnoted⟩

/-- The routing code tests hosts with a named group, and the findings do not say so. -/
theorem name_note_untold : ∃ v blocks, (Generator.validate ⟨.minimal, noting, {}⟩).result = .ok v ∧
    (Generator.serverBlocks ⟨.minimal, noting, {}⟩ (locationBody .minimal)).result = .ok blocks ∧
    TestsHosts ⟨.minimal, noting, {}⟩ blocks "Server 1, server_name ~^(?<sub>a)$" notingName ∧
    Note.namedGroup ∈ notingName.notes ∧ ¬ Noted v "Server 1, server_name ~^(?<sub>a)$" .namedGroup := by
  obtain ⟨blocks, hblocks⟩ : ∃ blocks,
      (Generator.serverBlocks ⟨.minimal, noting, {}⟩ (locationBody .minimal)).result = .ok blocks :=
    exists_eq_ok (by decide +kernel)
  obtain ⟨b, block, rfl, -, hindex, htests, -, -⟩ := blocks_of_noting hblocks
  have hname : translate "^(?<sub>a)$" .minimal false = .ok notingName := translate_of_parts (by decide +kernel)
  have hserver : (b.index, notingServer) ∈ noting.numbered := hindex ▸ List.mem_singleton_self _
  have htest : b.condition.tests[0]? = some notingName.test := by
    rw [htests]
    rfl
  have hhosts := TestsHosts.intro (g := ⟨.minimal, noting, {}⟩) (List.mem_singleton_self b) hserver rfl rfl hname rfl htest
  rw [hindex] at hhosts
  exact ⟨_, [b], validate_noting, hblocks, hhosts, List.mem_singleton_self _,
    not_noted_of_testsHosts (findings_of_validate validate_noting) hhosts .namedGroup⟩

end EdgeRoutes
