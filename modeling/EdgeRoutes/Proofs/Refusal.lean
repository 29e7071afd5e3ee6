import EdgeRoutes.Proofs.Building
import EdgeRoutes.Proofs.Flattening
import EdgeRoutes.Proofs.Generation

/-! Refusals. What a target has against a configuration can be read off the directive tree: each location is asked, in
the order of the text, for the directives that stand directly in its block, and every one that the target cannot do is
an error. A configuration is refused just if there is an error, and the refusal carries all findings. -/

namespace EdgeRoutes

open Build Location

namespace Node

mutual

/-- The contents of the server blocks that the node stands for. -/
def serverBodies : Node → List (List Node)
  | .simple _ => []
  | .block head body =>
    if head.name == "http" then serverBodiesAll body
    else if head.name == "server" then [body]
    else []

/-- The contents of the server blocks of a tree, in the order of the text, `http` blocks being transparent. -/
def serverBodiesAll : List Node → List (List Node)
  | [] => []
  | n :: ns => n.serverBodies ++ serverBodiesAll ns

end

/-- The directives of a name that stand directly in the block of the node and have no block of their own. -/
def given (n : Node) (name : String) : List Directive :=
  (n.children.filter fun child => !child.isBlock && child.name == name).map head

/-- Files are tried if the last directive that says which names some. -/
def triesFiles (n : Node) : Bool :=
  (n.given "try_files").getLast?.any (!·.args.isEmpty)

/-- The location as findings call it. -/
def label (n : Node) : String :=
  (target? n.args).elim "" fun (modifier, path) => Location.label { modifier, path }

/-- What is wrong with the node of a location on a target. -/
def objections (t : Target) (n : Node) : List String :=
  let process (reason : String) :=
    (["fastcgi_pass", "uwsgi_pass", "scgi_pass"].filter fun name => !(n.given name).isEmpty).map fun name =>
      name ++ " is not supported; " ++ reason
  match t with
  | .worker | .middleware => []
  | .edgeHook => process "the edge cannot hand requests to a local process"
  | .minimal =>
    process "the runtime cannot reach a local process" ++
      if n.triesFiles then ["try_files needs filesystem access, which the runtime does not have"] else []

/-- The errors of a target about a tree: server by server, and location by location with the outer ones first. -/
def errorsAll (t : Target) (tree : List Node) : List String :=
  ((serverBodiesAll tree).zipIdx 1).flatMap fun (body, index) =>
    (preorderAll 0 body).flatMap fun (_, n) =>
      (n.objections t).map fun text => "Server " ++ toString index ++ ", location " ++ n.label ++ ": " ++ text

end Node

open Node

section Reading

variable {ds ds' : Directives} {d : Directive}

namespace Directives

theorem effect_of_keep (h : (ds.keep d).result = .ok ds') :
    ds'.tryFiles = ds.tryFiles ∧ ∃ value, ds'.extra = ds.extra.put d.name value := by
  simp only [keep, Logged.result_bind] at h
  obtain ⟨value, -, h⟩ := bind_eq_ok_iff.mp h
  cases h
  exact ⟨rfl, value, rfl⟩

/-- What a directive does to the files that a location tries and to its settings. One that names a process becomes a
setting. -/
theorem effect_of_apply (h : (ds.apply d).result = .ok ds') :
    ds'.tryFiles = (if d.name = "try_files" then d.args else ds.tryFiles) ∧
      (ds'.extra = ds.extra ∧ d.name ∉ Target.processDirectives ∨ ∃ value, ds'.extra = ds.extra.put d.name value) := by
  unfold apply at h
  split at h
  case h_13 =>
    -- no directive with a field of its own, and so a setting
    obtain ⟨hfiles, hextra⟩ := effect_of_keep h
    rw [if_neg (by assumption), hfiles]
    exact ⟨rfl, Or.inr hextra⟩
  all_goals
    rename_i hname
    rw [hname]
  case h_5 | h_6 | h_7 | h_8 =>
    cases h
    exact ⟨rfl, Or.inl ⟨rfl, by decide⟩⟩
  case h_10 =>
    -- a `return` without a code becomes a setting, under a name that is none of a process
    rw [Logged.result_bind] at h
    obtain ⟨answer, -, h⟩ := bind_eq_ok_iff.mp h
    cases answer with
    | some answer =>
        cases h
        exact ⟨rfl, Or.inl ⟨rfl, by decide⟩⟩
    | none =>
        obtain ⟨hfiles, hextra⟩ := effect_of_keep h
        rw [hname] at hextra
        exact ⟨hfiles, Or.inr hextra⟩
  all_goals
    rw [Logged.result_bind] at h
    obtain ⟨value, -, h⟩ := bind_eq_ok_iff.mp h
    cases h
    exact ⟨rfl, Or.inl ⟨rfl, by decide⟩⟩

theorem has_process (ds : Directives) {name : String} (hname : name ∈ Target.processDirectives) :
    ds.has name = ds.extra.has name := by
  simp only [Target.processDirectives, List.mem_cons, List.not_mem_nil, or_false] at hname
  rcases hname with rfl | rfl | rfl <;> rfl

theorem has_of_apply (h : (ds.apply d).result = .ok ds') {name : String} (hname : name ∈ Target.processDirectives) :
    ds'.has name = (ds.has name || d.name == name) := by
  rw [has_process ds hname, has_process ds' hname]
  obtain ⟨hextra, hother⟩ | ⟨value, hextra⟩ := (effect_of_apply h).2
  · have hne : d.name ≠ name := fun heq => hother (heq ▸ hname)
    rw [hextra, beq_eq_false_iff_ne.mpr hne, Bool.or_false]
  · rw [hextra, Fields.has_put]

theorem has_of_readAll {given : List Directive} (h : ds.readAll given = .ok ds') {name : String}
    (hname : name ∈ Target.processDirectives) : ds'.has name = (ds.has name || given.any (·.name == name)) := by
  induction given generalizing ds with
  | nil =>
      cases h
      exact (Bool.or_false _).symm
  | cons d given ih =>
      obtain ⟨read, hread, h⟩ := bind_eq_ok_iff.mp h
      rw [ih h, has_of_apply hread hname, List.any_cons, Bool.or_assoc]

/-- The last directive that says which files are tried is the one that counts. -/
theorem tryFiles_of_readAll {given : List Directive} (h : ds.readAll given = .ok ds') :
    ds'.tryFiles = ((given.filter (·.name == "try_files")).getLast?.map Directive.args).getD ds.tryFiles := by
  induction given generalizing ds with
  | nil =>
      cases h
      rfl
  | cons d given ih =>
      obtain ⟨read, hread, h⟩ := bind_eq_ok_iff.mp h
      rw [ih h, (effect_of_apply hread).1]
      by_cases hname : d.name = "try_files"
      · rw [if_pos hname, List.filter_cons_of_pos (by simpa using hname), List.getLast?_cons]
        cases (given.filter (·.name == "try_files")).getLast? <;> rfl
      · rw [if_neg hname, List.filter_cons_of_neg (by simpa using hname)]

end Directives

end Reading

section Nodes

namespace Node

theorem filter_ownDirectives (n : Node) {name : String} (hname : name ≠ "location") :
    (ownDirectives n.children).filter (·.name == name) = n.given name := by
  rw [ownDirectives, given, List.filter_map, List.filter_filter]
  refine congrArg (List.map head) (List.filter_congr fun child _ => ?_)
  by_cases h : child.head.name = name
  · simp [Node.name, h, hname]
  · simp [Node.name, beq_eq_false_iff_ne.mpr h]

theorem label_of_convertedFrom {n : Node} {l : Location} (h : ConvertedFrom n l) : n.label = l.label := by
  rw [label, target?_eq_some_iff.mpr h.heading]
  rfl

theorem has_of_convertedFrom {n : Node} {l : Location} (h : ConvertedFrom n l) {name : String}
    (hname : name ∈ Target.processDirectives) : l.directives.has name = !(n.given name).isEmpty := by
  have hlocation : name ≠ "location" := by
    rintro rfl
    exact absurd hname (by decide)
  have hempty : ({} : Directives).has name = false := ({} : Directives).has_process hname
  rw [Directives.has_of_readAll h.directives hname, hempty, Bool.false_or, ← filter_ownDirectives n hlocation,
    Bool.eq_iff_iff]
  simp

theorem tryFiles_of_convertedFrom {n : Node} {l : Location} (h : ConvertedFrom n l) :
    (!l.directives.tryFiles.isEmpty) = n.triesFiles := by
  rw [Directives.tryFiles_of_readAll h.directives, filter_ownDirectives n (by decide), triesFiles]
  cases (n.given "try_files").getLast? <;> rfl

/-- The errors about a location are what is wrong with its node. -/
theorem locationErrors_of_convertedFrom (t : Target) (name : String) {n : Node} {l : Location} (h : ConvertedFrom n l) :
    t.locationErrors name l.directives = (n.objections t).map fun text => name ++ ": " ++ text := by
  have hprocess : ∀ reason : String,
      (Target.processDirectives.filter l.directives.has).map (fun d => name ++ ": " ++ d ++ " is not supported; " ++ reason) =
        ((Target.processDirectives.filter fun d => !(n.given d).isEmpty).map fun d =>
          d ++ " is not supported; " ++ reason).map fun text => name ++ ": " ++ text := by
    intro reason
    rw [List.filter_congr fun d hd => has_of_convertedFrom h hd, List.map_map]
    refine List.map_congr_left fun d _ => ?_
    simp only [Function.comp_apply, String.append_assoc]
  cases t with
  | worker | middleware => rfl
  | edgeHook => exact (List.append_nil _).trans (hprocess _)
  | minimal =>
      have htext : ": try_files needs filesystem access, which the runtime does not have" =
          ": " ++ "try_files needs filesystem access, which the runtime does not have" := by decide +kernel
      refine (congrArg₂ (· ++ ·) (hprocess _) ?_).trans (List.map_append ..).symm
      rw [tryFiles_of_convertedFrom h, htext, ← String.append_assoc]
      cases n.triesFiles <;> rfl

end Node

end Nodes

section Trees

/-- The server takes its locations from the contents of this block. -/
def Server.TakenFrom (body : List Node) (s : Server) : Prop :=
  List.Forall₂ (fun x l => ConvertedFrom x.2 l) (preorderAll 0 body) s.locations

theorem Server.takenFrom_of_ofBlock {head : Directive} {body : List Node} {s : Server}
    (h : (ofBlock head body).result = .ok s) : TakenFrom body s := by
  obtain ⟨added, hlocations, hadded⟩ := locations_of_applyAll 0 h
  rw [TakenFrom, hlocations]
  exact hadded

namespace Parts

mutual

/-- The built servers are taken from the server blocks of the tree, in order. -/
theorem servers_of_ofNode (n : Node) {p : Parts} (h : (ofNode n).result = .ok p) :
    List.Forall₂ Server.TakenFrom n.serverBodies p.servers := by
  cases n with
  | simple d =>
      simp only [ofNode, Logged.result_bind] at h
      obtain ⟨value, -, h⟩ := bind_eq_ok_iff.mp h
      cases h
      exact List.Forall₂.nil
  | block d body =>
      rw [ofNode] at h
      rw [serverBodies]
      split_ifs at h ⊢ with hhttp hserver
      · exact servers_of_ofNodes body h
      · obtain ⟨server, hserver, h⟩ := bind_eq_ok_iff.mp ((Logged.result_bind _ _).symm.trans h)
        cases h
        exact List.Forall₂.cons (Server.takenFrom_of_ofBlock hserver) List.Forall₂.nil
      · obtain ⟨upstream, -, h⟩ := bind_eq_ok_iff.mp ((Logged.result_bind _ _).symm.trans h)
        cases h
        exact List.Forall₂.nil
      · obtain ⟨globals, -, h⟩ := bind_eq_ok_iff.mp ((Logged.result_bind _ _).symm.trans h)
        cases h
        exact List.Forall₂.nil
      · cases h
        exact List.Forall₂.nil

/-- The servers of a configuration are those of the server blocks of its tree, in order. -/
theorem servers_of_ofNodes (ns : List Node) {p : Parts} (h : (ofNodes ns).result = .ok p) :
    List.Forall₂ Server.TakenFrom (serverBodiesAll ns) p.servers := by
  cases ns with
  | nil =>
      cases h
      exact List.Forall₂.nil
  | cons n ns =>
      simp only [ofNodes, Logged.result_bind] at h
      obtain ⟨q, hq, h⟩ := bind_eq_ok_iff.mp h
      obtain ⟨r, hr, h⟩ := bind_eq_ok_iff.mp h
      cases h
      exact List.rel_append (servers_of_ofNode n hq) (servers_of_ofNodes ns hr)

end

end Parts

theorem Config.servers_of_build {tree : Tree} {c : Config} (h : (build tree).result = .ok c) :
    List.Forall₂ Server.TakenFrom (serverBodiesAll tree) c.servers := by
  rw [result_build] at h
  obtain ⟨parts, hparts, rfl⟩ := map_eq_ok_iff.mp h
  exact Parts.servers_of_ofNodes tree hparts

/-- The errors about a configuration can be read off its tree. -/
theorem errors_of_build (t : Target) {tree : Tree} {c : Config} (h : (Config.build tree).result = .ok c) :
    c.errors t = errorsAll t tree := by
  simp only [Config.errors, Config.labelled, Config.numbered, List.flatMap_map, List.flatMap_assoc]
  symm
  refine flatMap_eq_of_forall₂ ?_ (forall₂_zipIdx (Config.servers_of_build h) 1)
  rintro ⟨body, _⟩ ⟨s, index⟩ ⟨htaken, rfl⟩
  refine flatMap_eq_of_forall₂ (fun x l hl => ?_) htaken
  rw [locationErrors_of_convertedFrom t _ hl, ← label_of_convertedFrom hl]

end Trees

/-- The errors that the check of a configuration finds are those that its tree gives away: for every location, in the
order of the text, one for each directive directly in its block that the target cannot do. The target refuses the
configuration just if there is one, and the refusal carries all errors and warnings of the check and nothing else. -/
theorem refused_iff_errors (t : Target) (options : Options) (tree : Tree) {c : Config} {v : Validation}
    (hbuild : (Config.build tree).result = .ok c) (hvalidate : (Generator.validate ⟨t, c, options⟩).result = .ok v) :
    v.errors = errorsAll t tree ∧
      ((∃ name errors warnings, (Generator.generate ⟨t, c, options⟩).result = .error (.refused name errors warnings)) ↔
        v.errors ≠ []) ∧
      ∀ name errors warnings, (Generator.generate ⟨t, c, options⟩).result = .error (.refused name errors warnings) →
        name = t.name ∧ errors = v.errors ∧ warnings = v.warnings := by
  have hv := findings_of_validate hvalidate
  refine ⟨(errors_of_findings hv).trans (errors_of_build t hbuild), ?_⟩
  cases hvalid : v.valid with
  | true =>
      have hnot : ∀ name errors warnings,
          (Generator.generate ⟨t, c, options⟩).result ≠ .error (.refused name errors warnings) := by
        intro name errors warnings hresult
        -- whatever else fails is a failed conversion, and a refusal is none
        cases (Generator.needs_generate hv hvalid).faults _ hresult
      have hempty : v.errors = [] := List.isEmpty_iff.mp hvalid
      refine ⟨iff_of_false ?_ (not_not_intro hempty), ?_⟩
      · rintro ⟨name, errors, warnings, hresult⟩
        exact hnot name errors warnings hresult
      · intro name errors warnings hresult
        exact absurd hresult (hnot name errors warnings)
  | false =>
      have hne : v.errors ≠ [] := fun hempty => by simp [Validation.valid, hempty] at hvalid
      rw [Generator.generate_of_errors hv hvalid]
      refine ⟨iff_of_true ⟨_, _, _, rfl⟩ hne, ?_⟩
      rintro name errors warnings hresult
      cases hresult
      exact ⟨rfl, rfl, rfl⟩

/-- Two servers, one in an `http` block. Its inner location names a process twice, and once more with a block; the outer
one ends up trying no files. -/
def processTree : Tree :=
  [.block ⟨"http", [], none⟩
    [.block ⟨"server", [], none⟩
      [.block ⟨"location", ["/"], none⟩
        [.simple ⟨"try_files", ["$uri", "=404"], none⟩,
          .block ⟨"location", ["^~", "/cgi/"], none⟩
            [.simple ⟨"fastcgi_pass", ["unix:/run/a"], none⟩,
              .block ⟨"uwsgi_pass", ["b"], none⟩ [],
              .simple ⟨"fastcgi_pass", ["9000"], none⟩],
          .simple ⟨"try_files", [], none⟩]]],
    .block ⟨"server", [], none⟩
      [.block ⟨"location", ["=", "/app"], none⟩
        [.simple ⟨"try_files", ["/app.html"], none⟩, .simple ⟨"scgi_pass", [], none⟩]]]

theorem refused_iff_errors_processes :
    ∃ c v, (Config.build processTree).result = .ok c ∧
      (Generator.validate ⟨.minimal, c, {}⟩).result = .ok v ∧
      v.errors =
        ["Server 1, location ^~ /cgi/: fastcgi_pass is not supported; the runtime cannot reach a local process",
          "Server 2, location = /app: scgi_pass is not supported; the runtime cannot reach a local process",
          "Server 2, location = /app: try_files needs filesystem access, which the runtime does not have"] ∧
      (Generator.generate ⟨.minimal, c, {}⟩).result = .error (.refused "minimal" v.errors v.warnings) := by
  obtain ⟨c, hbuild, v, hvalidate⟩ : ∃ c, (Config.build processTree).result = .ok c ∧
      ∃ v, (Generator.validate ⟨.minimal, c, {}⟩).result = .ok v := ⟨_, rfl, _, rfl⟩
  obtain ⟨herrors, hrefused, hcarries⟩ := refused_iff_errors .minimal {} processTree hbuild hvalidate
  have htexts : errorsAll .minimal processTree =
      ["Server 1, location ^~ /cgi/: fastcgi_pass is not supported; the runtime cannot reach a local process",
        "Server 2, location = /app: scgi_pass is not supported; the runtime cannot reach a local process",
        "Server 2, location = /app: try_files needs filesystem access, which the runtime does not have"] := by
    decide +kernel
  obtain ⟨name, errors, warnings, hresult⟩ := hrefused.mpr (by simp [herrors, htexts])
  obtain ⟨rfl, rfl, rfl⟩ := hcarries name errors warnings hresult
  exact ⟨c, v, hbuild, hvalidate, herrors.trans htexts, hresult⟩

end EdgeRoutes
