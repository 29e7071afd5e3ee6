import EdgeRoutes.Proofs.Emission

/-! The findings about a configuration. The check goes through every server and every location, the named ones included,
and comes to findings just if their values can be read. Which errors it finds depends on no value: only on the
directives that a location has. -/

namespace EdgeRoutes

open Pattern Http

theorem Config.forall_labelled {c : Config} {P : Location → Prop} :
    (∀ x ∈ c.labelled, P x.2) ↔ ∀ s ∈ c.servers, ∀ l ∈ s.locations, P l := by
  rw [labelled, List.forall_mem_flatMap, ← forall_numbered]
  exact forall₂_congr fun s _ => List.forall_mem_map

theorem findings_of_validate {g : Generator} {v : Validation} (h : g.validate.result = .ok v) : g.findings = .ok v := by
  simp only [Generator.validate, Logged.result_bind, Logged.result_liftM] at h
  obtain ⟨found, hfound, h⟩ := bind_eq_ok_iff.mp h
  obtain ⟨-, -, h⟩ := bind_eq_ok_iff.mp h
  cases h
  exact hfound

section Warnings

variable (label : String) (dialect : Dialect)

theorem needs_nameProblems (name : String) :
    Needs (Host.nameProblems dialect name) (∀ pattern, Host.pattern? name = some pattern → Checks pattern) := by
  unfold Host.nameProblems
  cases Host.pattern? name with
  | none => exact (Needs.ok _).congr (by simp)
  | some pattern => exact ((needs_translate pattern dialect false).bind_ok fun t => .ok _).congr (by simp)

theorem needs_serverWarnings (s : Server) (index : Nat) : Needs (s.warnings index dialect) s.NamesReadable :=
  ((Needs.mapM fun name _ => needs_nameProblems dialect name).bind_ok fun _ => .ok _).bind_ok fun _ => .ok _

theorem needs_patternWarnings (l : Location) :
    Needs (l.patternWarnings label dialect) (l.isRegex = true → Checks l.path) :=
  (needs_translation? l dialect).bind_ok fun t => by cases t <;> exact .ok _

theorem needs_ruleWarnings (rule : RewriteRule) :
    Needs (Location.ruleWarnings label dialect rule) (Checks rule.regex) :=
  (needs_translate rule.regex dialect false).bind_ok fun _ => .ok _

theorem needs_expiresWarnings (l : Location) : Needs (l.expiresWarnings label)
    (∀ expires, l.directives.expires = some expires → TimeSound (expiresTime expires)) := by
  unfold Location.expiresWarnings
  cases l.directives.expires with
  | none => exact (Needs.ok _).congr (by simp)
  | some expires => exact ((needs_expiresConvertible expires).bind_ok fun convertible => .ok _).congr (by simp)

theorem needs_locationWarnings (l : Location) (c : Config) : Needs (l.warnings label c dialect)
    ((l.isRegex = true → Checks l.path) ∧ (∀ rule ∈ l.directives.rewrites, Checks rule.regex) ∧
      ∀ expires, l.directives.expires = some expires → TimeSound (expiresTime expires)) :=
  (needs_patternWarnings label dialect l).bind_const fun _ _ =>
    (Needs.mapM fun rule _ => needs_ruleWarnings label dialect rule).bind_const fun _ _ =>
      (needs_expiresWarnings label l).bind_ok fun _ => .ok _

theorem needs_structureWarnings (c : Config) : Needs (c.structureWarnings dialect)
    ((∀ s ∈ c.servers, s.NamesReadable) ∧ ∀ s ∈ c.servers, ∀ l ∈ s.locations,
      (l.isRegex = true → Checks l.path) ∧ (∀ rule ∈ l.directives.rewrites, Checks rule.regex) ∧
        ∀ expires, l.directives.expires = some expires → TimeSound (expiresTime expires)) := by
  rw [← Config.forall_numbered, ← Config.forall_labelled]
  exact (Needs.mapM fun s _ => needs_serverWarnings dialect s.2 s.1).bind_const fun servers _ =>
    (Needs.mapM fun x _ => needs_locationWarnings x.1 dialect x.2 c).bind_ok fun locations => .ok _

end Warnings

section Errors

variable {t : Target}

theorem needs_strictProxyWarnings (label limit url : String) :
    Needs (Target.strictProxyWarnings label limit url) (AddressSound url) := by
  unfold Target.strictProxyWarnings
  exact (needs_resolve url).bind_ok fun found => .ok _

theorem needs_proxyWarnings (label url : String) :
    Needs (t.proxyWarnings label url) (t.readsAddresses = true → AddressSound url) := by
  cases t with
  | worker | middleware => exact (Needs.ok _).congr (iff_of_true trivial nofun)
  | edgeHook | minimal => exact (needs_strictProxyWarnings label _ url).congr ⟨fun h _ => h, fun h => h rfl⟩

theorem needs_locationFindings (label : String) (l : Location) : Needs (t.locationFindings label l)
    (t.readsAddresses = true → ∀ url, l.directives.proxyPass = some url → AddressSound url) := by
  cases hproxy : l.directives.proxyPass with
  | none =>
      simp only [Target.locationFindings, hproxy]
      exact (Needs.ok _).congr (by simp)
  | some url =>
      simp only [Target.locationFindings, hproxy]
      exact ((needs_proxyWarnings label url).bind_ok fun proxy => .ok _).congr (by simp)

theorem needs_targetFindings (c : Config) : Needs (t.findings c) (∀ s ∈ c.servers, ∀ l ∈ s.locations,
    t.readsAddresses = true → ∀ url, l.directives.proxyPass = some url → AddressSound url) := by
  rw [← Config.forall_labelled]
  exact (Needs.mapM fun x _ => needs_locationFindings x.1 x.2).bind_ok fun locations => .ok _

/-- The check of a configuration comes to findings just if the values it reads can be read. -/
theorem needs_findings (g : Generator) : Needs g.findings (g.config.Readable g.target) := by
  have hneeds : Needs g.findings _ := (needs_structureWarnings g.target.dialect g.config).bind_const fun structural _ =>
    (needs_targetFindings (t := g.target) g.config).bind_ok fun specific => .ok _
  apply hneeds.congr
  constructor
  · rintro ⟨⟨hnames, hvalues⟩, haddresses⟩
    refine ⟨hnames, fun s hs l hl => ?_⟩
    obtain ⟨hpath, hrules, hexpires⟩ := hvalues s hs l hl
    exact ⟨hpath, hrules, hexpires, haddresses s hs l hl⟩
  · rintro ⟨hnames, hlocations⟩
    refine ⟨⟨hnames, fun s hs l hl => ?_⟩, fun s hs l hl => (hlocations s hs l hl).address⟩
    exact ⟨(hlocations s hs l hl).path, (hlocations s hs l hl).rules, (hlocations s hs l hl).expires⟩

/-- The errors of a target about a configuration. -/
def Config.errors (t : Target) (c : Config) : List String :=
  c.labelled.flatMap fun x => t.locationErrors x.1 x.2.directives

theorem errors_of_locationFindings {label : String} {l : Location} {v : Validation}
    (h : t.locationFindings label l = .ok v) : v.errors = t.locationErrors label l.directives := by
  cases hproxy : l.directives.proxyPass with
  | none =>
      simp only [Target.locationFindings, hproxy] at h
      cases h
      rfl
  | some url =>
      simp only [Target.locationFindings, hproxy] at h
      obtain ⟨proxy, -, hv⟩ := bind_eq_ok_iff.mp h
      cases hv
      rfl

theorem errors_of_targetFindings {c : Config} {v : Validation} (h : t.findings c = .ok v) : v.errors = c.errors t := by
  obtain ⟨locations, hlocations, hv⟩ := bind_eq_ok_iff.mp h
  cases hv
  have herrors : locations.map Validation.errors = c.labelled.map fun x => t.locationErrors x.1 x.2.directives := by
    refine map_eq_of_forall₂ (S := Eq) (fun x found x' hfound hx => ?_) (mapM_eq_ok_iff.mp hlocations)
      (List.forall₂_same.mpr fun _ _ => rfl)
    rw [← hx]
    exact errors_of_locationFindings hfound
  simp only [Validation.append, Validation.join, List.nil_append, Config.errors, List.flatMap_def, herrors]

theorem errors_of_findings {g : Generator} {v : Validation} (h : g.findings = .ok v) :
    v.errors = g.config.errors g.target := by
  obtain ⟨structural, -, h⟩ := bind_eq_ok_iff.mp h
  obtain ⟨specific, hspecific, hv⟩ := bind_eq_ok_iff.mp h
  have herrors := errors_of_targetFindings hspecific
  cases hv
  exact herrors

/-- The location hands no request to a local process. -/
def Directives.NoProcess (d : Directives) : Prop :=
  ∀ name ∈ Target.processDirectives, d.has name = false

/-- What a target can do for the directives of a location: without a machine of its own it reaches no process, and
without files it tries none. -/
def Target.Admits : Target → Directives → Prop
  | .worker, _ | .middleware, _ => True
  | .edgeHook, d => d.NoProcess
  | .minimal, d => d.NoProcess ∧ d.tryFiles = []

def Config.Admitted (t : Target) (c : Config) : Prop :=
  ∀ s ∈ c.servers, ∀ l ∈ s.locations, t.Admits l.directives

theorem locationErrors_eq_nil_iff (label : String) (d : Directives) :
    t.locationErrors label d = [] ↔ t.Admits d := by
  cases t with
  | worker | middleware => exact iff_of_true rfl trivial
  | edgeHook =>
      simp [Target.locationErrors, Target.processError?, Target.Admits, Directives.NoProcess, warnIf]
  | minimal =>
      simp [Target.locationErrors, Target.processError?, Target.Admits, Directives.NoProcess, warnIf]

theorem errors_eq_nil_iff (c : Config) : c.errors t = [] ↔ c.Admitted t := by
  rw [Config.errors, List.flatMap_eq_nil_iff, Config.Admitted, ← Config.forall_labelled]
  exact forall₂_congr fun x _ => locationErrors_eq_nil_iff x.1 x.2.directives

end Errors

end EdgeRoutes
