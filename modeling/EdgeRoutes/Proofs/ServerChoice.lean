import EdgeRoutes.Model.Build
import EdgeRoutes.Proofs.RequestRouting

/-! Which server answers a request. The routing code tries the servers in the order of their declaration, and that order
alone decides: a server is passed over if its names do not fit the host, but also if it has no location for the path. So
a server that lists the host loses to an earlier one with a pattern, and a request for which a server has no location goes
on to the next server for the same host. -/

namespace EdgeRoutes

open Pattern

namespace Host

/-- The name is that of one host. All others are patterns for many: with wildcards, for a domain, or regular. -/
def IsLiteral (name : String) : Prop :=
  name.toList.head? ≠ some '~' ∧ name.toList.head? ≠ some '.' ∧ '*' ∉ name.toList

instance (name : String) : Decidable (IsLiteral name) :=
  inferInstanceAs (Decidable (_ ∧ _ ∧ _))

def fits (e : Engine) (dialect : Dialect) (host name : String) : Bool :=
  name == "*" ||
    match test dialect name with
    | .ok t => t.holds e host
    | .error _ => false

theorem test_of_isLiteral {name : String} (h : IsLiteral name) (dialect : Dialect) :
    test dialect name = .ok (.equals (Text.lower name)) := by
  obtain ⟨htilde, hdot, hstar⟩ := h
  have hpattern : pattern? name = none := by
    unfold pattern?
    split
    · next cs hname => simp [hname] at htilde
    · rfl
  have hcontains : name.toList.contains '*' = false := by simpa using hstar
  simp only [test, hpattern, hcontains, Bool.false_eq_true, if_false]
  split
  · next domain hname => simp [hname] at hdot
  · rfl

theorem fits_of_isLiteral {name : String} (h : IsLiteral name) (e : Engine) (dialect : Dialect) (host : String) :
    fits e dialect host name = (host == Text.lower name) := by
  have hstar : (name == "*") = false := by
    rw [beq_eq_false_iff_ne]
    rintro rfl
    exact h.2.2 (by decide)
  rw [fits, test_of_isLiteral h, hstar, Bool.false_or]
  rfl

/-- Unless one of them is a lone star, the names fit a host just if one of their tests succeeds. -/
theorem any_tests_eq {names : List String} {tests : List Test} {dialect : Dialect}
    (h : List.Forall₂ (fun name t => test dialect name = .ok t) names tests) (hstar : "*" ∉ names) (e : Engine)
    (host : String) : tests.any (Test.holds e host) = names.any (fits e dialect host) := by
  induction h with
  | nil => rfl
  | @cons name t names tests ht _ ih =>
      rw [List.mem_cons, not_or] at hstar
      have hfits : fits e dialect host name = t.holds e host := by
        rw [fits, ht, beq_eq_false_iff_ne.mpr (Ne.symm hstar.1), Bool.false_or]
      rw [List.any_cons, List.any_cons, ih hstar.2, hfits]

end Host

open Host

namespace Server

/-- One of the names of the server is the host itself. Names are compared in lower case. -/
def Lists (host : String) (s : Server) : Prop :=
  ∃ name ∈ s.names, IsLiteral name ∧ Text.lower name = host

instance (host : String) (s : Server) : Decidable (s.Lists host) :=
  inferInstanceAs (Decidable (∃ name ∈ s.names, _))

/-- Names of the server fit the host, and all that do are patterns. -/
structure FitsByPattern (e : Engine) (dialect : Dialect) (host : String) (s : Server) : Prop where
  fits : ∃ name ∈ s.names, fits e dialect host name = true
  patterns : ∀ name ∈ s.names, Host.fits e dialect host name = true → ¬ IsLiteral name

variable {e : Engine} {dialect : Dialect} {host : String} {s : Server}

theorem FitsByPattern.not_lists (h : s.FitsByPattern e dialect host) : ¬ s.Lists host := by
  rintro ⟨name, hname, hliteral, rfl⟩
  refine h.patterns name hname ?_ hliteral
  rw [fits_of_isLiteral hliteral, beq_self_eq_true]

theorem FitsByPattern.exists_pattern (h : s.FitsByPattern e dialect host) : ∃ name ∈ s.names, ¬ IsLiteral name := by
  obtain ⟨name, hname, hfits⟩ := h.fits
  exact ⟨name, hname, h.patterns name hname hfits⟩

/-- A server answers for the hosts that its names fit, and for all hosts if it has no name. -/
theorem answers_eq_fits {c : Condition} (hcondition : Host.condition s.names dialect = .ok c) :
    s.answers e dialect host = (s.names.isEmpty || s.names.any (Host.fits e dialect host)) := by
  rw [answers, hcondition]
  rw [Host.condition] at hcondition
  split_ifs at hcondition with hall
  · cases hcondition
    rcases Bool.or_eq_true_iff.mp hall with hempty | hstar
    · rw [hempty]
      rfl
    · have hany : s.names.any (Host.fits e dialect host) = true :=
        List.any_eq_true.mpr ⟨"*", List.contains_iff_mem.mp hstar, rfl⟩
      rw [hany, Bool.or_true]
      rfl
  · obtain ⟨tests, htests, h'⟩ := bind_eq_ok_iff.mp hcondition
    obtain rfl := Except.ok.inj h'
    rw [Bool.not_eq_true, Bool.or_eq_false_iff] at hall
    rw [hall.1, Bool.false_or]
    have hstar : "*" ∉ s.names := fun hmem => by simp [hmem] at hall
    exact any_tests_eq (mapM_eq_ok_iff.mp htests) hstar e host

/-- A server answers for the hosts that it lists. -/
theorem answers_of_lists {c : Condition} (hcondition : Host.condition s.names dialect = .ok c) (h : s.Lists host) :
    s.answers e dialect host = true := by
  obtain ⟨name, hname, hliteral, rfl⟩ := h
  have hfits : Host.fits e dialect (Text.lower name) name = true := by
    rw [fits_of_isLiteral hliteral, beq_self_eq_true]
  rw [answers_eq_fits hcondition, List.any_eq_true.mpr ⟨name, hname, hfits⟩, Bool.or_true]

end Server

namespace Config

variable {c : Config} {e : Engine} {dialect : Dialect} {host path : String} {s s' : Nat × Server}

theorem pairwise_numbered (c : Config) : c.numbered.Pairwise fun s s' => s.1 < s'.1 := by
  rw [← List.pairwise_map, map_fst_numbered]
  exact List.pairwise_lt_range'

theorem eq_of_number_eq (hs : s ∈ c.numbered) (hs' : s' ∈ c.numbered) (h : s.1 = s'.1) : s = s' :=
  List.inj_on_of_nodup_map c.nodup_numbered hs hs' h

theorem mem_serving : s ∈ c.serving e dialect host path ↔
    s ∈ c.numbered ∧ s.2.answers e dialect host = true ∧ s.2.serves e dialect path = true := by
  rw [serving, List.mem_filter, Bool.and_eq_true]

/-- The first of the servers that serve a request was declared before the others. -/
theorem le_of_head?_serving (hs : (c.serving e dialect host path).head? = some s)
    (hs' : s' ∈ c.serving e dialect host path) : s.1 ≤ s'.1 := by
  obtain ⟨rest, hserving⟩ := List.head?_eq_some_iff.mp hs
  have hpairwise : (c.serving e dialect host path).Pairwise fun s s' => s.1 < s'.1 := c.pairwise_numbered.filter _
  rw [hserving] at hs' hpairwise
  rcases List.mem_cons.mp hs' with rfl | hs'
  · exact Nat.le_refl _
  · exact Nat.le_of_lt ((List.pairwise_cons.mp hpairwise).1 s' hs')

end Config

namespace Routed

variable {c : Config} {t : Target} {e : Engine} {host path : String} {passage : Passage}

/-- The blocks that are entered belong to the first server that serves the request, and to no other. -/
theorem forall_entered_iff (h : Routed c t e host path passage) (P : Nat × Server → Prop) :
    (∀ r ∈ passage.entered, ∀ s ∈ c.numbered, s.1 = r.server → P s) ↔
      ∀ s, (c.serving e t.dialect host path).head? = some s → P s := by
  constructor
  · intro hentered s hs
    obtain ⟨position, hposition⟩ := (h.taken s hs).entered
    have hmem : (⟨s.1, position⟩ : Route) ∈ passage.entered := by rw [hposition]; exact List.mem_singleton_self _
    exact hentered _ hmem s (Config.mem_serving.mp (List.mem_of_head? hs)).1 rfl
  · intro hfirst r hr s hs hnumber
    cases hhead : (c.serving e t.dialect host path).head? with
    | none =>
        rw [h.left (List.head?_eq_none_iff.mp hhead)] at hr
        cases hr
    | some s' =>
        obtain ⟨position, hposition⟩ := (h.taken s' hhead).entered
        rw [hposition] at hr
        obtain rfl := List.mem_singleton.mp hr
        obtain rfl := Config.eq_of_number_eq hs (Config.mem_serving.mp (List.mem_of_head? hhead)).1 hnumber
        exact hfirst s hhead

end Routed

/-- A server that lists the host comes before servers with patterns: if there is one for the request, no block of a
server whose names only fit the host as patterns is entered. -/
def PrefersLiteral (c : Config) (t : Target) (e : Engine) (host path : String) (passage : Passage) : Prop :=
  (∃ s ∈ c.numbered, s.2.Lists host ∧ s.2.serves e t.dialect path = true) →
    ∀ r ∈ passage.entered, ∀ s ∈ c.numbered, s.1 = r.server → ¬ s.2.FitsByPattern e t.dialect host

/-- The order of declaration decides between servers of the same rank only: the server whose block is entered has the
highest rank of all that serve the request, and was declared first among those. -/
def PrefersRank (rank : Server → Nat) (c : Config) (t : Target) (e : Engine) (host path : String) (passage : Passage) :
    Prop :=
  ∀ r ∈ passage.entered, ∀ s ∈ c.numbered, s.1 = r.server → ∀ s' ∈ c.serving e t.dialect host path,
    rank s'.2 ≤ rank s.2 ∧ (rank s'.2 = rank s.2 → s.1 ≤ s'.1)

/-- No server with a pattern among its names was declared before a server with the name of a host. -/
def Config.PatternsLast (c : Config) : Prop :=
  ∀ s ∈ c.numbered, ∀ s' ∈ c.numbered, s.1 < s'.1 → (∃ name ∈ s.2.names, ¬ IsLiteral name) →
    ∀ name ∈ s'.2.names, ¬ IsLiteral name

instance (c : Config) : Decidable c.PatternsLast :=
  inferInstanceAs (Decidable (∀ s ∈ c.numbered, ∀ s' ∈ c.numbered, _))

/-- Where patterns are declared last, the first server for a request is not one of them if some server lists the host. -/
theorem not_fitsByPattern_of_patternsLast {c : Config} {t : Target} {e : Engine} {host path : String}
    {blocks : List ServerBlock} (hblocks : List.Forall₂ (ServerBlockOf t) c.reachable blocks) (hlast : c.PatternsLast)
    {s s' : Nat × Server} (hs : (c.serving e t.dialect host path).head? = some s) (hs' : s' ∈ c.numbered)
    (hlists : s'.2.Lists host) (hserves : s'.2.serves e t.dialect path = true) :
    ¬ s.2.FitsByPattern e t.dialect host := by
  intro hpattern
  have hmem := (Config.mem_serving.mp (List.mem_of_head? hs)).1
  have hserving : s' ∈ c.serving e t.dialect host path := by
    obtain ⟨p, hp, -⟩ := List.any_eq_true.mp hserves
    obtain ⟨b, -, hof⟩ := exists_right_of_forall₂ hblocks (Config.mem_reachable_of_mem_tried hs' hp)
    exact Config.mem_serving.mpr ⟨hs', Server.answers_of_lists hof.condition hlists, hserves⟩
  have hne : s.1 ≠ s'.1 := by
    intro hnumber
    obtain rfl := Config.eq_of_number_eq hmem hs' hnumber
    exact hpattern.not_lists hlists
  have hlt : s.1 < s'.1 := Nat.lt_of_le_of_ne (Config.le_of_head?_serving hs hserving) hne
  obtain ⟨name, hname, hliteral, -⟩ := hlists
  exact hlast s hmem s' hs' hlt hpattern.exists_pattern name hname hliteral

/-- The first server, in the order of declaration, that answers for the host and has a location for the path takes a
request. So a server that lists the host prevails over servers with patterns just if none of these is that first one, and
more specific servers prevail by any measure just if the first one is among the most specific. Declaring the servers with
patterns last makes sure of the former. -/
theorem literal_name_wins_iff (config : Config) (options : Options) (t : Target) {context : Template.Context}
    (h : (Generator.sections ⟨t, config, options⟩).result = .ok context) (e : Engine) (host path : String) :
    ∃ blocks : List ServerBlock,
      context.get? t.routingKey = some (.text (ServerBlock.text t options.comments blocks 1)) ∧
        Routed config t e host path (ServerBlock.runAll e host blocks (.ofPath path false)) ∧
        (PrefersLiteral config t e host path (ServerBlock.runAll e host blocks (.ofPath path false)) ↔
          ((∃ s ∈ config.numbered, s.2.Lists host ∧ s.2.serves e t.dialect path = true) →
            ∀ s, (config.serving e t.dialect host path).head? = some s → ¬ s.2.FitsByPattern e t.dialect host)) ∧
        (∀ rank, PrefersRank rank config t e host path (ServerBlock.runAll e host blocks (.ofPath path false)) ↔
          ∀ s, (config.serving e t.dialect host path).head? = some s →
            ∀ s' ∈ config.serving e t.dialect host path, rank s'.2 ≤ rank s.2) ∧
        (config.PatternsLast →
          PrefersLiteral config t e host path (ServerBlock.runAll e host blocks (.ofPath path false))) := by
  obtain ⟨blocks, hblocks, htext⟩ := serverBlocks_of_sections h
  have hforall := serverBlockOf_of_serverBlocks hblocks
  have hrouted := routed_of_serverBlocks hforall e host path
  have hliteral := imp_congr_right fun (_ : ∃ s ∈ config.numbered, s.2.Lists host ∧ s.2.serves e t.dialect path = true) =>
    hrouted.forall_entered_iff fun s => ¬ s.2.FitsByPattern e t.dialect host
  refine ⟨blocks, htext, hrouted, hliteral, fun rank => ?_, fun hlast => hliteral.mpr ?_⟩
  · rw [PrefersRank, hrouted.forall_entered_iff]
    constructor
    · exact fun hrank s hs s' hs' => (hrank s hs s' hs').1
    · exact fun hrank s hs s' hs' => ⟨hrank s hs s' hs', fun _ => Config.le_of_head?_serving hs hs'⟩
  · rintro ⟨s', hs', hlists, hserves⟩ s hs
    exact not_fitsByPattern_of_patternsLast hforall hlast hs hs' hlists hserves

/-- The declaration of a server with one name and one location. -/
def siteNode (name path : String) : Node :=
  .block ⟨"server", [], none⟩
    [.simple ⟨"server_name", [name], none⟩,
      .block ⟨"location", [path], none⟩ [.simple ⟨"root", ["/srv"], none⟩]]

/-- What is built from it. -/
def site (name path : String) : Server where
  names := [name]
  locations := [{ path, directives := { root := some "/srv" } }]

/-- Patterns as far as the servers below need them: one name is for all hosts under `example.com`. -/
def underExample : Engine where
  matchesPattern source _ value :=
    source == "^.*\\.example\\.com$" && ".example.com".toList.isSuffixOf value.toList
  substitute _ path := path
  expand _ text := text

/-- With the pattern declared last, the server that lists the host takes the request. -/
theorem literal_name_wins_iff_pattern_last :
    ∃ context blocks,
      (Generator.sections ⟨.worker, { servers := [site "www.example.com" "/", site "*.example.com" "/"] }, {}⟩).result =
          .ok context ∧
        context.get? "routing" = some (.text (ServerBlock.text .worker true blocks 1)) ∧
        PrefersLiteral { servers := [site "www.example.com" "/", site "*.example.com" "/"] } .worker underExample
          "www.example.com" "/" (ServerBlock.runAll underExample "www.example.com" blocks (.ofPath "/" false)) := by
  obtain ⟨context, hcontext⟩ := Option.isSome_iff_exists.mp
    (show (Generator.sections ⟨.worker, { servers := [site "www.example.com" "/", site "*.example.com" "/"] },
      {}⟩).result.toOption.isSome = true by decide +kernel)
  rw [toOption_eq_some_iff] at hcontext
  obtain ⟨blocks, htext, -, -, -, hlast⟩ := literal_name_wins_iff _ _ _ hcontext underExample "www.example.com" "/"
  exact ⟨context, blocks, hcontext, htext, hlast (by decide +kernel)⟩

/-- A run that can be computed is one of the blocks in the routing code. -/
theorem exists_blocks_of_entered (c : Config) (t : Target) (e : Engine) (host path : String) {routes : List Route}
    (hsections : (Generator.sections ⟨t, c, {}⟩).result.toOption.isSome = true)
    (hentered : ((Generator.serverBlocks ⟨t, c, {}⟩ (locationBody t)).result.toOption.map fun blocks =>
      (ServerBlock.runAll e host blocks (.ofPath path false)).entered) = some routes) :
    ∃ context blocks, (Generator.sections ⟨t, c, {}⟩).result = .ok context ∧
      context.get? t.routingKey = some (.text (ServerBlock.text t true blocks 1)) ∧
      (ServerBlock.runAll e host blocks (.ofPath path false)).entered = routes := by
  obtain ⟨context, hcontext⟩ := Option.isSome_iff_exists.mp hsections
  rw [toOption_eq_some_iff] at hcontext
  obtain ⟨blocks, hblocks, htext⟩ := serverBlocks_of_sections hcontext
  rw [hblocks] at hentered
  exact ⟨context, blocks, hcontext, htext, Option.some.inj hentered⟩

/-- With the pattern declared first, on every target its server takes the request, though the other one lists the host
and has a location for the path. -/
theorem earlier_pattern_wins :
    ∃ c, (Config.build [siteNode "*.example.com" "/", siteNode "www.example.com" "/"]).result = .ok c ∧
      ∀ t : Target, ∃ context blocks, (Generator.sections ⟨t, c, {}⟩).result = .ok context ∧
        context.get? t.routingKey = some (.text (ServerBlock.text t true blocks 1)) ∧
        (ServerBlock.runAll underExample "www.example.com" blocks (.ofPath "/" false)).entered = [⟨1, 1⟩] ∧
        ¬ PrefersLiteral c t underExample "www.example.com" "/"
            (ServerBlock.runAll underExample "www.example.com" blocks (.ofPath "/" false)) := by
  let c : Config := { servers := [site "*.example.com" "/", site "www.example.com" "/"] }
  refine ⟨c, rfl, fun t => ?_⟩
  have hsections : (Generator.sections ⟨t, c, {}⟩).result.toOption.isSome = true := by cases t <;> decide +kernel
  have hentered : ((Generator.serverBlocks ⟨t, c, {}⟩ (locationBody t)).result.toOption.map fun blocks =>
      (ServerBlock.runAll underExample "www.example.com" blocks (.ofPath "/" false)).entered) = some [⟨1, 1⟩] := by
    cases t <;> decide +kernel
  obtain ⟨context, blocks, hcontext, htext, hentered⟩ := exists_blocks_of_entered c t _ _ _ hsections hentered
  refine ⟨context, blocks, hcontext, htext, hentered, fun hprefers => ?_⟩
  have hlisted : ∃ s ∈ c.numbered, s.2.Lists "www.example.com" ∧ s.2.serves underExample t.dialect "/" = true := by
    cases t <;> decide +kernel
  have hpattern : (site "*.example.com" "/").FitsByPattern underExample t.dialect "www.example.com" := by
    refine ⟨⟨"*.example.com", List.mem_cons_self, rfl⟩, fun name hname _ => ?_⟩
    rw [List.mem_singleton.mp hname]
    decide
  have hspared := hprefers hlisted
  rw [hentered] at hspared
  exact hspared ⟨1, 1⟩ List.mem_cons_self (1, site "*.example.com" "/") List.mem_cons_self rfl hpattern

namespace Config

/-- The server that a host belongs to: the first with a block in the routing code whose names fit the host. -/
def owner? (c : Config) (e : Engine) (dialect : Dialect) (host : String) : Option (Nat × Server) :=
  c.reachable.find? (·.2.answers e dialect host)

/-- If the owner of the host has a location for the path, no server before it serves the request. -/
theorem head?_serving_of_owner? {c : Config} {e : Engine} {dialect : Dialect} {host path : String} {s : Nat × Server}
    (hs : c.owner? e dialect host = some s) (hserves : s.2.serves e dialect path = true) :
    (c.serving e dialect host path).head? = some s := by
  obtain ⟨hanswers, before, after, hsplit, hbefore⟩ := List.find?_eq_some_iff_append.mp hs
  rw [serving_eq, List.head?_filter, List.find?_eq_some_iff_append]
  refine ⟨by rw [hanswers, hserves]; rfl, before, after, hsplit, fun s' hs' => ?_⟩
  have hnot := hbefore s' hs'
  rw [Bool.not_eq_true'] at hnot ⊢
  rw [hnot, Bool.false_and]

end Config

/-- Only the server that the host belongs to answers: a block that is entered is one of its locations, and a request for
which it has no location is left to the code after all blocks. -/
structure Isolated (c : Config) (t : Target) (e : Engine) (host path : String) (passage : Passage) : Prop where
  belongs : ∀ s, c.owner? e t.dialect host = some s → ∀ r ∈ passage.entered, r.server = s.1
  fallback : ∀ s, c.owner? e t.dialect host = some s → s.2.serves e t.dialect path = false →
    passage = .idle (.ofPath path false)

theorem isolated_iff_of_routed {c : Config} {t : Target} {e : Engine} {host path : String} {passage : Passage}
    (h : Routed c t e host path passage) :
    Isolated c t e host path passage ↔
      ∀ s, c.owner? e t.dialect host = some s → s.2.serves e t.dialect path = false →
        c.serving e t.dialect host path = [] := by
  constructor
  · intro hisolated s hs hserves
    by_contra hne
    obtain ⟨s', rest, hserving⟩ := List.exists_cons_of_ne_nil hne
    obtain ⟨position, hentered⟩ := (h.taken s' (by rw [hserving]; rfl)).entered
    rw [hisolated.fallback s hs hserves] at hentered
    cases hentered
  · intro hunserved
    refine ⟨fun s hs r hr => ?_, fun s hs hserves => h.left (hunserved s hs hserves)⟩
    cases hserves : s.2.serves e t.dialect path with
    | true =>
        obtain ⟨position, hentered⟩ := (h.taken s (Config.head?_serving_of_owner? hs hserves)).entered
        rw [hentered] at hr
        rw [List.mem_singleton.mp hr]
    | false =>
        rw [h.left (hunserved s hs hserves)] at hr
        cases hr

/-- A request is kept to the server that its host belongs to just if that server has a location for the path or no
other server that answers for the host has one. Where a single server answers for the host, it always is. -/
theorem isolated_iff_unserved (config : Config) (options : Options) (t : Target) {context : Template.Context}
    (h : (Generator.sections ⟨t, config, options⟩).result = .ok context) (e : Engine) (host path : String) :
    ∃ blocks : List ServerBlock,
      context.get? t.routingKey = some (.text (ServerBlock.text t options.comments blocks 1)) ∧
        Routed config t e host path (ServerBlock.runAll e host blocks (.ofPath path false)) ∧
        (Isolated config t e host path (ServerBlock.runAll e host blocks (.ofPath path false)) ↔
          ∀ s, config.owner? e t.dialect host = some s → s.2.serves e t.dialect path = false →
            config.serving e t.dialect host path = []) ∧
        ((∀ s ∈ config.reachable, ∀ s' ∈ config.reachable, s.2.answers e t.dialect host = true →
            s'.2.answers e t.dialect host = true → s = s') →
          Isolated config t e host path (ServerBlock.runAll e host blocks (.ofPath path false))) := by
  obtain ⟨blocks, hblocks, htext⟩ := serverBlocks_of_sections h
  have hrouted := routed_of_serverBlocks (serverBlockOf_of_serverBlocks hblocks) e host path
  have hisolated := isolated_iff_of_routed hrouted
  refine ⟨blocks, htext, hrouted, hisolated, fun hsingle => hisolated.mpr fun s hs hserves => ?_⟩
  rw [Config.serving_eq, List.filter_eq_nil_iff]
  intro s' hs' hserving
  obtain ⟨hanswers, hserves'⟩ := Bool.and_eq_true_iff.mp hserving
  obtain rfl := hsingle s (List.mem_of_find?_eq_some hs) s' hs' (by simpa using List.find?_some hs) hanswers
  rw [hserves] at hserves'
  cases hserves'

/-- A request for which the owner of its host has no location is left to the code after all blocks. -/
theorem isolated_iff_unserved_other_host :
    ∃ context blocks,
      (Generator.sections ⟨.worker, { servers := [site "a.example.com" "/api/", site "b.example.com" "/"] }, {}⟩).result =
          .ok context ∧
        context.get? "routing" = some (.text (ServerBlock.text .worker true blocks 1)) ∧
        ServerBlock.runAll underExample "a.example.com" blocks (.ofPath "/x" false) = .idle (.ofPath "/x" false) := by
  let c : Config := { servers := [site "a.example.com" "/api/", site "b.example.com" "/"] }
  obtain ⟨context, hcontext⟩ := Option.isSome_iff_exists.mp
    (show (Generator.sections ⟨.worker, c, {}⟩).result.toOption.isSome = true by decide +kernel)
  rw [toOption_eq_some_iff] at hcontext
  obtain ⟨blocks, htext, -, hisolated, -⟩ := isolated_iff_unserved _ _ _ hcontext underExample "a.example.com" "/x"
  have hreachable : c.reachable = c.numbered := List.filter_eq_self.mpr (by decide +kernel)
  have howner : c.owner? underExample .ecmascript "a.example.com" = some (1, site "a.example.com" "/api/") := by
    rw [Config.owner?, hreachable]
    exact List.find?_cons_of_pos (by decide +kernel)
  have hserving : c.serving underExample .ecmascript "a.example.com" "/x" = [] := List.isEmpty_iff.mp (by decide +kernel)
  have hfallback := (hisolated.mpr fun _ _ _ => hserving).fallback _ howner (by decide +kernel)
  exact ⟨context, blocks, hcontext, htext, hfallback⟩

/-- Of two servers for the same host, the second gets the requests for which the first has no location. -/
theorem later_server_takes_over :
    ∃ c, (Config.build [siteNode "a.example.com" "/api/", siteNode "a.example.com" "/"]).result = .ok c ∧
      ∀ t : Target, ∃ context blocks, (Generator.sections ⟨t, c, {}⟩).result = .ok context ∧
        context.get? t.routingKey = some (.text (ServerBlock.text t true blocks 1)) ∧
        (ServerBlock.runAll underExample "a.example.com" blocks (.ofPath "/x" false)).entered = [⟨2, 1⟩] ∧
        ¬ Isolated c t underExample "a.example.com" "/x"
            (ServerBlock.runAll underExample "a.example.com" blocks (.ofPath "/x" false)) := by
  let c : Config := { servers := [site "a.example.com" "/api/", site "a.example.com" "/"] }
  refine ⟨c, rfl, fun t => ?_⟩
  have hsections : (Generator.sections ⟨t, c, {}⟩).result.toOption.isSome = true := by cases t <;> decide +kernel
  have hentered : ((Generator.serverBlocks ⟨t, c, {}⟩ (locationBody t)).result.toOption.map fun blocks =>
      (ServerBlock.runAll underExample "a.example.com" blocks (.ofPath "/x" false)).entered) = some [⟨2, 1⟩] := by
    cases t <;> decide +kernel
  obtain ⟨context, blocks, hcontext, htext, hentered⟩ := exists_blocks_of_entered c t _ _ _ hsections hentered
  refine ⟨context, blocks, hcontext, htext, hentered, fun hisolated => ?_⟩
  have hreachable : c.reachable = c.numbered := List.filter_eq_self.mpr (by decide +kernel)
  have howner : c.owner? underExample t.dialect "a.example.com" = some (1, site "a.example.com" "/api/") := by
    rw [Config.owner?, hreachable]
    exact List.find?_cons_of_pos (by cases t <;> decide +kernel)
  have hbelongs := hisolated.belongs _ howner
  rw [hentered] at hbelongs
  cases hbelongs ⟨2, 1⟩ List.mem_cons_self

end EdgeRoutes
