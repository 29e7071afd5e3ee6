import EdgeRoutes.Proofs.CommandRuns
import EdgeRoutes.Proofs.PageFiles
import EdgeRoutes.Proofs.PatternConversion

/-! Settings as data. What a settings file gives is completed from the defaults and the environment; the completed
settings, written out as data, give themselves. They hold nothing that JSON cannot, if the data did not, so settings
that were saved are found again when they are loaded. For files in YAML that rests on the library for YAML, of which it
is only taken that it reads what it has written. -/

namespace EdgeRoutes

open Files Number

namespace Settings

variable {level : Option String} {s : Settings} {d : Data}

/-- The indentation that a value gives, if there is one. -/
def indentOf (value : Option Data) : Except Fault Int :=
  match value with
  | some d => d.toInteger
  | none => .ok 2

/-- How each of the settings is found: the indentation has to be a number and the targets have to be listable, and every
other value is taken as it is, as true or false, or as a text. -/
structure Given (d : Data) (level : Option String) (s : Settings) : Prop where
  indentSize : indentOf ((part d "generation").get? "indent_size") = .ok s.options.indentSize
  comments : s.options.comments = (((part d "generation").get? "emit_comments").map Data.truthy).getD true
  level : s.level = (level.filter (· != "")).getD ((((part d "logging").get? "level").map Data.display).getD "INFO")
  logsToFile : s.logsToFile = (((part d "logging").get? "enable_file_logging").map Data.truthy).getD false
  logFile : s.logFile = ((part d "logging").get? "log_file").getD (.text "edgeconf.log")
  directory : s.directory = ((part d "output").get? "directory").getD (.text "./edge-configs")
  targets : ∃ named, targetsOf ((part d "output").get? "targets") = .ok named ∧
    s.targets = if named.isEmpty then Target.all.map Target.name else named

theorem ofData_eq (d : Data) (level : Option String) : ofData d level =
    (indentOf ((part d "generation").get? "indent_size")).bind fun indentSize =>
      (targetsOf ((part d "output").get? "targets")).bind fun named => .ok
        { options := ⟨indentSize, (((part d "generation").get? "emit_comments").map Data.truthy).getD true⟩
          level := (level.filter (· != "")).getD ((((part d "logging").get? "level").map Data.display).getD "INFO")
          logsToFile := (((part d "logging").get? "enable_file_logging").map Data.truthy).getD false
          logFile := ((part d "logging").get? "log_file").getD (.text "edgeconf.log")
          directory := ((part d "output").get? "directory").getD (.text "./edge-configs")
          targets := if named.isEmpty then Target.all.map Target.name else named } := by
  dsimp only [ofData]
  cases level.filter (· != "") <;> cases (part d "generation").get? "indent_size" <;> rfl

theorem ofData_eq_ok_iff : ofData d level = .ok s ↔ Given d level s := by
  rw [ofData_eq]
  simp only [bind_eq_ok_iff]
  constructor
  · rintro ⟨_, hindent, named, htargets, hs⟩
    cases hs
    exact ⟨hindent, rfl, rfl, rfl, rfl, rfl, named, htargets, rfl⟩
  · obtain ⟨⟨indentSize, comments⟩, inEffect, logsToFile, logFile, directory, targets⟩ := s
    rintro ⟨hindent, rfl, rfl, rfl, rfl, rfl, named, htargets, rfl⟩
    exact ⟨_, hindent, named, htargets, rfl⟩

theorem Given.targets_ne_nil (h : Given d level s) : s.targets ≠ [] := by
  obtain ⟨named, -, htargets⟩ := h.targets
  rw [htargets]
  split_ifs with hnamed
  · decide
  · simpa using hnamed

/-- Texts are listed as they are. -/
theorem targetsOf_texts {targets : List String} (h : targets ≠ []) :
    targetsOf (some (.texts targets)) = .ok targets := by
  have htruthy : (Data.texts targets).truthy = true := by
    rw [Data.texts, Data.truthy, List.isEmpty_map, Bool.not_eq_true', List.isEmpty_eq_false_iff]
    exact h
  have hmembers : (Data.texts targets).members? = some (targets.map Data.text) := rfl
  have hdisplay : (targets.map Data.text).map Data.display = targets := by
    rw [List.map_map]
    exact List.map_id'' (fun t => rfl) targets
  simp only [targetsOf, htruthy, hmembers, hdisplay, Bool.not_true, Bool.false_eq_true, if_false]

/-- Completed settings are complete: nothing of them is left to the defaults, and what the environment asks for is in
them. -/
theorem Given.toData (h : Given d level s) : Given s.toData level s where
  indentSize := rfl
  comments := rfl
  level := by
    have hlogging : ((part s.toData "logging").get? "level").map Data.display = some s.level := rfl
    rw [hlogging, Option.getD_some]
    cases hasked : level.filter (· != "") with
    | none => rfl
    | some asked => exact h.level.trans (by rw [hasked]; rfl)
  logsToFile := rfl
  logFile := rfl
  directory := rfl
  targets := by
    refine ⟨s.targets, targetsOf_texts h.targets_ne_nil, ?_⟩
    rw [if_neg]
    simpa using h.targets_ne_nil

theorem ofData_toData (h : ofData d level = .ok s) : ofData s.toData level = .ok s :=
  ofData_eq_ok_iff.mpr (ofData_eq_ok_iff.mp h).toData

end Settings

section Plain

variable {d : Data}

theorem Json.IsPlain.get? (h : Json.IsPlain d) {name : String} {e : Data} (hget : d.get? name = some e) :
    Json.IsPlain e := by
  cases h with
  | scalar hv => cases hget
  | list hitems => cases hget
  | @map entries hnames hentries =>
      obtain ⟨e', hfound, rfl⟩ := Option.map_eq_some_iff.mp hget
      obtain ⟨entry, hentry, rfl⟩ := List.mem_map.mp (List.mem_of_find?_eq_some hfound)
      exact hentries entry hentry

/-- What is read from a part of plain data is plain. -/
theorem Json.IsPlain.part (h : Json.IsPlain d) {place name : String} {e : Data}
    (hget : (Settings.part d place).get? name = some e) : Json.IsPlain e := by
  unfold Settings.part at hget
  split at hget
  · next entries hplace => exact (h.get? hplace).get? hget
  · cases hget

theorem digits_of_digitRun {afterMark : Bool} {cs ds rest : List Char}
    (h : digitRun afterMark cs = some (ds, rest)) : ∀ c ∈ ds, c.isDigit = true := by
  fun_induction digitRun afterMark cs generalizing ds with
  | case1 => cases h
  | case2 =>
      cases h
      nofun
  | case3 afterMark c cs hc ih =>
      obtain ⟨⟨more, rest'⟩, hmore, heq⟩ := Option.map_eq_some_iff.mp h
      cases heq
      exact List.forall_mem_cons.mpr ⟨hc, ih hmore⟩
  | case4 => cases h
  | case5 _ _ _ _ ih => exact ih h
  | case6 =>
      cases h
      nofun

theorem ofDigits_lt {ds : List Char} (h : ∀ c ∈ ds, c.isDigit = true) : ofDigits ds < 10 ^ ds.length := by
  have hlt := Pattern.foldl_digits_lt ds 0 h
  rwa [Nat.zero_add, Nat.one_mul] at hlt

theorem length_toDigits_le {n k : Nat} (hk : k ≤ maxDigits) (hn : n < 10 ^ k) :
    (Nat.toDigits 10 n).length ≤ maxDigits := by
  have hpos : 0 < maxDigits := by decide
  exact (Nat.length_toDigits_le_iff (by decide) hpos).mpr (hn.trans_le (Nat.pow_le_pow_right (by decide) hk))

/-- A whole number that is read from a text has no more digits than are converted. -/
theorem length_toDigits_of_readInteger {text : String} {n : Int} (h : readInteger text = .ok n) :
    (Nat.toDigits 10 n.natAbs).length ≤ maxDigits := by
  unfold readInteger at h
  dsimp only at h
  split at h
  · cases h
  · next ds rest hrun =>
      rcases Nat.lt_or_ge maxDigits ds.length with hlong | hshort
      · rw [if_pos hlong] at h
        cases h
      rw [if_neg hshort.not_gt] at h
      by_cases hrest : rest.isEmpty = true
      · rw [if_pos hrest] at h
        have hn : n.natAbs = ofDigits ds := by
          have heq := Except.ok.inj h
          clear h
          split_ifs at heq <;> omega
        rw [hn]
        exact length_toDigits_le hshort (ofDigits_lt (digits_of_digitRun hrun))
      · rw [if_neg hrest] at h
        cases h

/-- The whole part of a number of 64 bits is far from the longest number that is converted. -/
theorem floor_lt {x : Magnitude} (hx : x.Fits) : x.floor < 10 ^ maxDigits := by
  have hexp : 53 + x.exp.toNat ≤ maxDigits := by
    have hle : x.exp ≤ 971 := hx.exp_le
    rw [maxDigits]
    omega
  calc x.floor ≤ scaleUp 2 x.mant x.exp := Nat.div_le_self _ _
    _ = x.mant * 2 ^ x.exp.toNat := rfl
    _ < 2 ^ 53 * 2 ^ x.exp.toNat := Nat.mul_lt_mul_of_pos_right hx.mant_lt (Nat.two_pow_pos _)
    _ = 2 ^ (53 + x.exp.toNat) := (Nat.pow_add _ _ _).symm
    _ ≤ 10 ^ (53 + x.exp.toNat) := Nat.pow_le_pow_left (by decide) _
    _ ≤ 10 ^ maxDigits := Nat.pow_le_pow_right (by decide) hexp

/-- The whole number that plain data stands for is plain. -/
theorem plain_toInteger (hd : Json.IsPlain d) {n : Int} (h : d.toInteger = .ok n) : Json.Plain (.int n) := by
  cases hd with
  | @scalar v hv =>
      cases v with
      | null => cases h
      | bool b =>
          rw [Json.Plain]
          cases b <;> cases h <;> decide
      | int m =>
          cases h
          exact hv
      | float x =>
          cases x with
          | nan => cases h
          | infinite => cases h
          | finite negative x =>
              have hn : n.natAbs = x.floor := by
                have heq : (if negative then -(x.floor : Int) else x.floor) = n := Except.ok.inj h
                split_ifs at heq <;> omega
              rw [Json.Plain, hn]
              exact length_toDigits_le le_rfl (floor_lt hv)
      | text s =>
          have hread : readInteger s = .ok n := by
            have hmapped : (readInteger s).mapError Fault.integer = .ok n := h
            cases hinteger : readInteger s <;> rw [hinteger] at hmapped <;> cases hmapped
            rfl
          exact length_toDigits_of_readInteger hread
  | list => cases h
  | map => cases h

/-- Settings that plain data gives are plain as data. -/
theorem Settings.isPlain_toData {level : Option String} {s : Settings} (hd : Json.IsPlain d)
    (h : Settings.ofData d level = .ok s) : Json.IsPlain s.toData := by
  have hgiven := Settings.ofData_eq_ok_iff.mp h
  have hscalar (v : Scalar) (hv : Json.Plain v) : Json.IsPlain (.scalar v) := .scalar hv
  have hindent : Json.IsPlain (.int s.options.indentSize) := by
    have hsize := hgiven.indentSize
    cases hgiven' : (Settings.part d "generation").get? "indent_size" with
    | none =>
        rw [hgiven'] at hsize
        rw [← Except.ok.inj hsize]
        exact hscalar _ (by rw [Json.Plain]; decide)
    | some e =>
        rw [hgiven'] at hsize
        exact hscalar _ (plain_toInteger (hd.part hgiven') hsize)
  have hkept {place name : String} {otherwise : Data} (hother : Json.IsPlain otherwise) :
      Json.IsPlain (((Settings.part d place).get? name).getD otherwise) := by
    cases hentry : (Settings.part d place).get? name with
    | none => exact hother
    | some e => exact hd.part hentry
  have hlog : Json.IsPlain s.logFile := hgiven.logFile ▸ hkept (hscalar _ trivial)
  have hdirectory : Json.IsPlain s.directory := hgiven.directory ▸ hkept (hscalar _ trivial)
  have htargets : Json.IsPlain (.texts s.targets) := by
    refine .list fun d hd => ?_
    obtain ⟨name, -, rfl⟩ := List.mem_map.mp hd
    exact hscalar _ trivial
  have hnames {names : List String} (hnodup : names.Nodup) {entries : Fields Data} (hkeys : entries.keys = names) :
      entries.keys.Nodup := hkeys ▸ hnodup
  refine .map (@hnames ["generation", "logging", "output"] (by decide) _ rfl) ?_
  simp only [Settings.entries, List.forall_mem_cons]
  refine ⟨.map (@hnames ["indent_size", "emit_comments"] (by decide) _ rfl) ?_,
    .map (@hnames ["level", "enable_file_logging", "log_file"] (by decide) _ rfl) ?_,
    .map (@hnames ["directory", "targets"] (by decide) _ rfl) ?_, nofun⟩ <;>
    simp only [List.forall_mem_cons]
  · exact ⟨hindent, hscalar _ trivial, nofun⟩
  · exact ⟨hscalar _ trivial, hscalar _ trivial, hlog, nofun⟩
  · exact ⟨hdirectory, htargets, nofun⟩

/-- What a library for YAML says of itself: a map of plain data is read from the text that it writes for it, and that
text is on lines. -/
structure YamlLibrary.KeepsPlain (yaml : YamlLibrary) : Prop where
  load_dump : ∀ entries, Json.IsPlain (.map entries) → yaml.load (yaml.dump entries) = .ok (.map entries)
  onLines_dump : ∀ entries, Json.IsPlain (.map entries) → Json.OnLines (yaml.dump entries).toList

/-- The text of plain settings is read as the settings. -/
theorem parseSettings_settingsText {yaml : YamlLibrary} {s : Settings} {p : Files.Path}
    (hyaml : isYamlPath p = true → yaml.KeepsPlain) (hplain : Json.IsPlain s.toData) :
    parseSettings yaml p (Files.encode (settingsText yaml p s)) = .ok s.toData := by
  have hdecode {text : String} (htext : Json.OnLines text.toList) : Files.decode (Files.encode text) = .ok text := by
    have hread := Files.decode_encode htext
    rwa [String.ofList_toList] at hread
  cases hformat : isYamlPath p with
  | true =>
      have hkeeps := hyaml hformat
      rw [settingsText, hformat, if_pos rfl, parseSettings, hdecode (hkeeps.onLines_dump _ hplain)]
      simp only [hformat, if_true]
      exact hkeeps.load_dump _ hplain
  | false =>
      rw [settingsText, hformat, if_neg Bool.false_ne_true, parseSettings, hdecode (Json.onLines_page hplain 0)]
      simp only [hformat, Bool.false_eq_true, if_false, Json.read_page hplain]
      rfl

end Plain

section Saving

variable {w w' : World} {setup : LogSetup} {s : Settings} {p : Path} {yaml : YamlLibrary}

/-- No request changes the environment. -/
theorem World.environment_serve (w : World) (r : Request) : (w.serve r).2.environment = w.environment := by
  have hcommit (changed : Except FileError FileSystem) : (w.commit changed).2.environment = w.environment := by
    cases changed <;> rfl
  cases r with
  | write p bytes => exact hcommit _
  | append p bytes => exact hcommit _
  | makeDirectory p => exact hcommit _
  | _ => rfl

theorem Script.environment_run {α : Type} (script : Script α) (w : World) :
    (script.run w).2.environment = w.environment := by
  induction script generalizing w with
  | done a => rfl
  | ask r next ih => exact (ih _ _).trans (w.environment_serve r)

theorem World.ChangesTo.locate {S D : Set Path} {text : String} (h : w.ChangesTo S D text w')
    (hlocate : w.files.locate p = .ok (w.files.placeOf p)) : w'.files.locate p = .ok (w'.files.placeOf p) := by
  have hway := (FileSystem.locate_eq_ok_iff.mp hlocate).2
  refine FileSystem.locate_eq_ok_iff.mpr ⟨rfl, fun q hq hne => ?_⟩
  rw [h.placeOf]
  exact h.kept _ (hway q hq hne)

/-- A file with these bytes is found at the path. -/
structure World.Holds (w : World) (p : Path) (bytes : Bytes) : Prop where
  located : w.files.locate p = .ok (w.files.placeOf p)
  file : w.files.file? (w.files.placeOf p) = some bytes

theorem World.Holds.lookup {bytes : Bytes} (h : w.Holds p bytes) : w.files.lookup p = some (.file bytes) := by
  rw [FileSystem.lookup, h.located]
  exact FileSystem.file?_eq_some_iff.mp h.file

theorem World.Holds.read {bytes : Bytes} (h : w.Holds p bytes) : w.files.read p = .ok bytes := by
  simp only [FileSystem.read, h.located, bind, Except.bind, FileSystem.file?_eq_some_iff.mp h.file, Except.mapError]

theorem reportSettings_changesTo (setup : LogSetup) (level : Level) (message : String) (w : World) :
    w.ChangesTo setup.files ∅ "" ((reportSettings setup level message).run w).2 :=
  Script.changesTo_run (setup.asks_write _) w

theorem exec_write (p : Path) (bytes : Bytes) (w : World) : Run.exec (Run.ofFile (Script.request (.write p bytes))) w =
    ((w.commit (w.files.write p bytes)).1.mapError Fault.file, (w.commit (w.files.write p bytes)).2) :=
  Run.exec_ofFile _ w

/-- Saving that succeeds leaves the text of the settings in the file, unless that is where events are logged. -/
theorem holds_of_saveSettings {loaded : LoadedSettings} {file : Option String}
    (hpath : ((file.filter (· != "")).map Path.ofString <|> loaded.file) = some p)
    (hapart : ∀ l ∈ setup.files, w.files.placeOf p ≠ w.files.placeOf l)
    (hsave : Run.exec (saveSettings setup loaded file yaml) w = (.ok (), w')) :
    w'.Holds p (encode (settingsText yaml p loaded.settings)) ∧ w'.environment = w.environment := by
  have henvironment : w'.environment = w.environment := by
    have hrun := Script.environment_run (ExceptT.run (saveSettings setup loaded file yaml)) w
    rwa [show Script.run (ExceptT.run (saveSettings setup loaded file yaml)) w = _ from hsave] at hrun
  refine ⟨?_, henvironment⟩
  unfold saveSettings at hsave
  dsimp only at hsave
  rw [hpath] at hsave
  dsimp only at hsave
  cases hwrite : w.files.write p (encode (settingsText yaml p loaded.settings)) with
  | error e =>
      rw [Run.exec_bind, exec_write, hwrite] at hsave
      cases hsave
  | ok fs =>
      have hexec : Run.exec (Run.ofFile (Script.request (.write p (encode (settingsText yaml p loaded.settings))))) w =
          (.ok (), { w with files := fs }) := by
        rw [exec_write, hwrite]
        rfl
      rw [Run.exec_bind_of_ok hexec, Run.exec_lift] at hsave
      cases hsave
      have hbefore := w.changesTo_modify hwrite
      have hafter := reportSettings_changesTo setup .info ("Configuration saved to " ++ p.text) { w with files := fs }
      obtain ⟨hlocate, hfree, rfl⟩ := FileSystem.modify_eq_ok_iff.mp hwrite
      refine ⟨hafter.locate (hbefore.locate hlocate), ?_⟩
      rw [hafter.placeOf, hafter.files _ fun l hl => ?_]
      · exact FileSystem.file?_eq_some_iff.mpr (FileSystem.entry?_put_self hfree _)
      · exact hapart l hl

/-- Settings are loaded from a file whose data gives them. -/
theorem exec_loadSettings {file : String} {bytes : Bytes} {entries : List (Scalar × Data)} (hfile : file ≠ "")
    (hholds : w.Holds (Path.ofString file) bytes)
    (hparse : parseSettings yaml (Path.ofString file) bytes = .ok (.map entries))
    (hgives : Settings.ofData (.map entries) (w.environment.get? LogSetup.levelVariable) = .ok s) :
    ∃ w', Run.exec (loadSettings setup (some file) yaml) w = (.ok ⟨some (Path.ofString file), s⟩, w') := by
  have hpath : (settingsPath (some file)).run w = (some (Path.ofString file), w) := by
    have hfilter : (some file).filter (· != "") = some file := by simpa using hfile
    rw [settingsPath, hfilter]
    rfl
  have hread : ∃ w₁, (readSettings yaml setup (Path.ofString file)).run w = (.map entries, w₁) ∧
      w₁.environment = w.environment := by
    refine ⟨((readSettings yaml setup (Path.ofString file)).run w).2, Prod.ext ?_ rfl, Script.environment_run _ w⟩
    unfold readSettings
    simp only [Script.run_bind, Script.run_request, World.serve, hholds.lookup, Option.isSome_some, Bool.not_true,
      Bool.false_eq_true, if_false, hholds.read, hparse]
    rfl
  obtain ⟨w₁, hread, henvironment⟩ := hread
  refine ⟨w₁, ?_⟩
  unfold loadSettings
  rw [Run.exec_bind, Run.exec_lift, hpath]
  dsimp only
  rw [Run.exec_bind, Run.exec_lift, hread]
  dsimp only
  have hlevel : (Script.environmentValue LogSetup.levelVariable).run w₁ =
      (w.environment.get? LogSetup.levelVariable, w₁) := by
    rw [← henvironment]
    rfl
  rw [Run.exec_bind, Run.exec_lift, hlevel]
  dsimp only
  rw [hgives]
  rfl

/-- The settings were saved in a file, apart from the file that events are logged to. -/
structure Settings.SavedTo (s : Settings) (yaml : YamlLibrary) (p : Path) (setup : LogSetup) (w w' : World) : Prop where
  apart : ∀ l ∈ setup.files, w.files.placeOf p ≠ w.files.placeOf l
  saved : ∃ (source : Option Path) (file : Option String),
    ((file.filter (· != "")).map Path.ofString <|> source) = some p ∧
      Run.exec (saveSettings setup ⟨source, s⟩ file yaml) w = (.ok (), w')

/-- Completing settings a second time changes nothing, and neither does saving and loading them. A file in YAML needs a
library that keeps plain data. -/
theorem settings_kept {d : Data} {level : Option String} {s : Settings} (h : Settings.ofData d level = .ok s) :
    Settings.ofData s.toData level = .ok s ∧
      ∀ (yaml : YamlLibrary) (p : Path) (setup setup' : LogSetup) (file : String) (w w' : World), Json.IsPlain d →
        (isYamlPath p = true → yaml.KeepsPlain) → s.SavedTo yaml p setup w w' →
        w.environment.get? LogSetup.levelVariable = level → file ≠ "" → Path.ofString file = p →
        ∃ w'', Run.exec (loadSettings setup' (some file) yaml) w' = (.ok ⟨some p, s⟩, w'') := by
  have hagain := Settings.ofData_toData h
  refine ⟨hagain, ?_⟩
  rintro yaml _ setup setup' file w w' hplain hyaml ⟨hapart, source, named, hpath, hsave⟩ hlevel hfile rfl
  have hparse := parseSettings_settingsText hyaml (Settings.isPlain_toData hplain h)
  obtain ⟨hholds, henvironment⟩ := holds_of_saveSettings hpath hapart hsave
  have hgives : Settings.ofData s.toData (w'.environment.get? LogSetup.levelVariable) = .ok s := by
    rw [henvironment, hlevel]
    exact hagain
  exact exec_loadSettings hfile hholds hparse hgives

/-- Shared settings are loaded once: whoever asks for them again gets the same, and nothing is read. -/
theorem SharedSettings.get_again {shared shared' : SharedSettings} {loaded : LoadedSettings}
    (h : Run.exec (shared.get setup yaml) w = (.ok (loaded, shared'), w')) (setup' : LogSetup) (yaml' : YamlLibrary)
    (later : World) : Run.exec (shared'.get setup' yaml') later = (.ok (loaded, shared'), later) := by
  have hcurrent : shared'.current = some loaded := by
    unfold SharedSettings.get at h
    cases hshared : shared.current with
    | some s =>
        rw [hshared] at h
        cases h
        exact hshared
    | none =>
        rw [hshared] at h
        dsimp only at h
        rw [Run.exec_bind] at h
        cases hload : Run.exec (loadSettings setup none yaml) w with
        | mk outcome w₁ =>
            rw [hload] at h
            cases outcome <;> cases h
            rfl
  rw [SharedSettings.get, hcurrent]
  rfl

/-- Settings that hold no value of the usual kind. -/
def unusualSettings : Data := .object
  [("generation", .object [("indent_size", .bool true), ("emit_comments", .text "")]),
    ("logging", .object [("level", .int 7), ("log_file", .list [.null])]),
    ("output", .object [("targets", .text "ab")])]

theorem isPlain_unusualSettings : Json.IsPlain unusualSettings := by
  have hscalar (v : Scalar) (hv : Json.Plain v) : Json.IsPlain (.scalar v) := .scalar hv
  have hnull : Json.IsPlain (.list [.null]) := .list (List.forall_mem_singleton.mpr (hscalar _ trivial))
  refine .map (by decide) ?_
  simp only [List.forall_mem_cons]
  refine ⟨.map (by decide) ?_, .map (by decide) ?_, .map (by decide) ?_, nofun⟩ <;>
    simp only [List.forall_mem_cons]
  · exact ⟨hscalar _ trivial, hscalar _ trivial, nofun⟩
  · exact ⟨hscalar _ (by rw [Json.Plain]; decide), hnull, nofun⟩
  · exact ⟨hscalar _ trivial, nofun⟩

/-- Surroundings with an empty level in the environment and no files. -/
def emptyWorld : World where
  environment := [(LogSetup.levelVariable, "")]
  files := { working := ["w"] }
  clock := "noon"

/-- The same settings, completed, as a library for YAML lays them out. -/
def unusualPage : String :=
  Text.joined "\n"
    ["generation:", "  indent_size: 1", "  emit_comments: false", "logging:", "  level: '7'",
      "  enable_file_logging: false", "  log_file:", "  - null", "output:", "  directory: ./edge-configs", "  targets:",
      "  - a", "  - b", ""]

/-- A library that knows how one map is laid out in YAML. Every other text is taken for JSON, which is YAML as well. -/
def YamlLibrary.knowing (known page : String) : YamlLibrary where
  load text := (Json.read (if text = page then known else text)).mapError jsonFailure
  dump entries := if Json.page 0 (.map entries) = known then page else Json.page 0 (.map entries)

theorem Json.head?_page_map (depth : Nat) (entries : List (Scalar × Data)) :
    (Json.page depth (.map entries)).toList.head? = some '\x7b' := by
  cases entries with
  | nil => rw [Json.page]; rfl
  | cons e es =>
      rw [Json.page, String.toList_append, String.toList_append, String.toList_append]
      · rfl
      · exact List.cons_ne_nil _ _

/-- Such a library keeps plain data: the page it knows is read back, and every other text is JSON. -/
theorem YamlLibrary.keepsPlain_knowing {known page : String} (hlines : Json.OnLines page.toList)
    (hpage : page.toList.head? ≠ some '\x7b') : (YamlLibrary.knowing known page).KeepsPlain where
  load_dump entries hplain := by
    have hread : (Json.read (Json.page 0 (.map entries))).mapError jsonFailure = .ok (.map entries) := by
      rw [Json.read_page hplain]
      rfl
    have hother : Json.page 0 (.map entries) ≠ page := by
      rintro rfl
      exact hpage (Json.head?_page_map 0 entries)
    unfold knowing
    dsimp only
    by_cases hknown : Json.page 0 (.map entries) = known
    · rw [if_pos hknown, if_pos rfl, ← hknown, hread]
    · rw [if_neg hknown, if_neg hother, hread]
  onLines_dump entries hplain := by
    unfold knowing
    dsimp only
    split_ifs
    · exact hlines
    · exact Json.onLines_page hplain 0

theorem YamlLibrary.dump_knowing (entries : List (Scalar × Data)) (page : String) :
    (YamlLibrary.knowing (Json.page 0 (.map entries)) page).dump entries = page := if_pos rfl

theorem onLines_unusualPage : Json.OnLines unusualPage.toList := by
  have hall : (unusualPage.toList.all fun c => c == '\n' || (decide (32 ≤ c.toNat) && decide (c.toNat < 127))) = true := by
    decide +kernel
  intro c hc
  simpa using List.all_eq_true.mp hall c hc

theorem exists_exec_saveSettings (yaml : YamlLibrary) (s : Settings) (file : String)
    (hfile : file = "kept.json" ∨ file = "kept.yaml") :
    ∃ w', Run.exec (saveSettings { weight := 20 } ⟨none, s⟩ (some file) yaml) emptyWorld = (.ok (), w') := by
  obtain rfl | rfl := hfile
  · exact ⟨_, Prod.ext rfl rfl⟩
  · exact ⟨_, Prod.ext rfl rfl⟩

theorem settings_kept_unusual : ∃ s, Settings.ofData unusualSettings (some "") = .ok s ∧
    s.options = ⟨1, false⟩ ∧ s.level = "7" ∧ s.targets = ["a", "b"] ∧
    Settings.ofData s.toData (some "") = .ok s ∧
    ∃ yaml : YamlLibrary, yaml.KeepsPlain ∧ settingsText yaml (Path.ofString "kept.yaml") s = unusualPage ∧
      ∀ file ∈ ["kept.json", "kept.yaml"], ∃ w' w'',
        Run.exec (saveSettings { weight := 20 } ⟨none, s⟩ (some file) yaml) emptyWorld = (.ok (), w') ∧
        Run.exec (loadSettings { weight := 20 } (some ("./" ++ file)) yaml) w' =
          (.ok ⟨some (Path.ofString file), s⟩, w'') := by
  obtain ⟨s, hs, hoptions, hshown, htargets⟩ : ∃ s, Settings.ofData unusualSettings (some "") = .ok s ∧
      s.options = ⟨1, false⟩ ∧ s.level = "7" ∧ s.targets = ["a", "b"] := ⟨_, rfl, rfl, rfl, rfl⟩
  obtain ⟨hagain, hload⟩ := settings_kept hs
  have hkeeps : (YamlLibrary.knowing (Json.page 0 s.toData) unusualPage).KeepsPlain :=
    YamlLibrary.keepsPlain_knowing onLines_unusualPage (by decide +kernel)
  have htext : settingsText (YamlLibrary.knowing (Json.page 0 s.toData) unusualPage) (Path.ofString "kept.yaml") s =
      unusualPage := by
    have hyaml : isYamlPath (Path.ofString "kept.yaml") = true := by decide +kernel
    rw [settingsText, hyaml, if_pos rfl]
    exact YamlLibrary.dump_knowing _ unusualPage
  refine ⟨s, hs, hoptions, hshown, htargets, hagain, _, hkeeps, htext, fun file hfile => ?_⟩
  have hlevel : emptyWorld.environment.get? LogSetup.levelVariable = some "" := by
    rw [emptyWorld, Fields.get?_cons, if_pos rfl]
  have hfiles : ∀ file ∈ ["kept.json", "kept.yaml"], file ≠ "" ∧ Path.ofString ("./" ++ file) = Path.ofString file := by
    decide +kernel
  obtain ⟨hnamed, hsame⟩ := hfiles file hfile
  obtain ⟨w', hsave⟩ := exists_exec_saveSettings (YamlLibrary.knowing (Json.page 0 s.toData) unusualPage) s file
    (by simpa using hfile)
  have hsaved : s.SavedTo (YamlLibrary.knowing (Json.page 0 s.toData) unusualPage) (Path.ofString file)
      { weight := 20 } emptyWorld w' := by
    refine ⟨nofun, none, some file, ?_, hsave⟩
    have hfilter : (some file).filter (· != "") = some file := by simpa using hnamed
    rw [hfilter]
    rfl
  have hdotted : "./" ++ file ≠ "" := by simp
  obtain ⟨w'', hloaded⟩ := hload _ (Path.ofString file) { weight := 20 } { weight := 20 } ("./" ++ file) emptyWorld w'
    isPlain_unusualSettings (fun _ => hkeeps) hsaved hlevel hdotted hsame
  exact ⟨w', w'', hsave, hloaded⟩

end Saving

end EdgeRoutes
