import EdgeRoutes.Model.Build
import EdgeRoutes.Proofs.Numerals

/-! What building a configuration comes to, told by an account that is kept of its directives: the texts that are
converted to numbers, and the warnings. -/

namespace EdgeRoutes

open Build Number

theorem Build.warningTexts_append (xs ys : List Event) :
    warningTexts (xs ++ ys) = warningTexts xs ++ warningTexts ys := by
  simp only [warningTexts, List.filter_append, List.map_append]

/-- The configuration with the given contributions. -/
def Config.ofParts (parts : Parts) (warnings : List String) : Config :=
  { servers := parts.servers, upstreams := parts.upstreams, globals := parts.globals, warnings }

theorem Config.result_build (tree : Tree) :
    (build tree).result =
      (Parts.ofNodes tree).result.map fun parts => ofParts parts (warningTexts (Parts.ofNodes tree).events) := by
  simp only [build, debug, Logged.result_bind, Logged.result_report]
  cases (Parts.ofNodes tree).result <;> rfl

/-- Converts the texts that are made of digits, in order. -/
def convertAll : List String → Except Fault Unit
  | [] => .ok ()
  | text :: texts => (natural? text).bind fun _ => convertAll texts

theorem convertAll_append (xs ys : List String) :
    convertAll (xs ++ ys) = (convertAll xs).bind fun _ => convertAll ys := by
  induction xs with
  | nil => rfl
  | cons x xs ih =>
      rw [List.cons_append, convertAll, ih, convertAll]
      cases natural? x <;> rfl

theorem natural?_of_not_digits {text : String} (h : Text.allDigits text = false) : natural? text = .ok none := by
  rw [natural?, h]
  rfl

/-- The conversion has a number just for texts of digits. -/
theorem isNone_of_natural? {text : String} {n : Option Nat} (h : natural? text = .ok n) :
    n.isNone = !Text.allDigits text := by
  cases hdigits : Text.allDigits text with
  | false =>
      rw [natural?_of_not_digits hdigits] at h
      cases h
      rfl
  | true =>
      rw [natural?, if_pos hdigits] at h
      obtain ⟨k, -, rfl⟩ := map_eq_ok_iff.mp h
      rfl

theorem natural?_ok_iff (text : String) :
    (∃ n, natural? text = .ok n) ↔ (Text.allDigits text = true → IsNumeral text) := by
  cases hdigits : Text.allDigits text with
  | false => simp [natural?_of_not_digits hdigits]
  | true =>
      rw [← readNatural_ok_iff hdigits, natural?, if_pos hdigits, natural]
      cases readNatural text <;> simp [Except.map, Except.mapError]

theorem convertAll_ok_iff (texts : List String) :
    convertAll texts = .ok () ↔ ∀ text ∈ texts, Text.allDigits text = true → IsNumeral text := by
  induction texts with
  | nil => simp [convertAll]
  | cons text texts ih =>
      rw [convertAll, bind_eq_ok_iff, List.forall_mem_cons, ← ih, ← natural?_ok_iff]
      exact ⟨fun ⟨n, hn, h⟩ => ⟨⟨n, hn⟩, h⟩, fun ⟨⟨n, hn⟩, h⟩ => ⟨n, hn, h⟩⟩

/-- Conversion stops at a text of digits that is no numeral, and says why. -/
theorem convertAll_error {texts : List String} {fault : Fault} (h : convertAll texts = .error fault) :
    ∃ text ∈ texts, Text.allDigits text = true ∧ ¬ IsNumeral text ∧
      ∃ cause, readNatural text = .error cause ∧ fault = .integer cause := by
  induction texts with
  | nil => cases h
  | cons text texts ih =>
      cases hdigits : Text.allDigits text with
      | false =>
          rw [convertAll, natural?_of_not_digits hdigits] at h
          obtain ⟨text', htext', hfault⟩ := ih h
          exact ⟨text', List.mem_cons_of_mem _ htext', hfault⟩
      | true =>
          cases hread : readNatural text with
          | ok n =>
              rw [convertAll, natural?, if_pos hdigits, natural, hread] at h
              obtain ⟨text', htext', hfault⟩ := ih h
              exact ⟨text', List.mem_cons_of_mem _ htext', hfault⟩
          | error cause =>
              rw [convertAll, natural?, if_pos hdigits, natural, hread] at h
              refine ⟨text, List.mem_cons_self, hdigits, ?_, cause, hread, (Except.error.inj h).symm⟩
              rw [← readNatural_ok_iff hdigits, hread]
              rintro ⟨n, hn⟩
              cases hn

/-- What directives ask of the builder: the texts that are converted if they are made of digits, and the warnings. -/
structure Account where
  texts : List String := []
  warnings : List String := []

namespace Account

protected def append (a b : Account) : Account := ⟨a.texts ++ b.texts, a.warnings ++ b.warnings⟩

instance : Append Account := ⟨Account.append⟩

@[simp] theorem append_nil (a : Account) : a ++ ({} : Account) = a := by
  obtain ⟨texts, warnings⟩ := a
  exact congrArg₂ Account.mk (List.append_nil texts) (List.append_nil warnings)

def number (text : String) : Account := { texts := [text] }

def warning (message : String) (line : Option LineMark) : Account := { warnings := [message ++ LineMark.remark line] }

/-- A lone argument may be a number. -/
def ofArgs : List String → Account
  | [value] => number value
  | _ => {}

def ofListen (d : Directive) : Account :=
  match d.args with
  | [] => warning "'listen' without an address" d.line
  | address :: _ =>
    let port := (splitAddress address).2
    number port ++
      if Text.allDigits port then {}
      else warning ("'listen " ++ address ++ "' has no numeric port; port left unset") d.line

/-- The first argument of a return directive is a code, unless it is an address that stands alone. -/
def ofReturn (d : Directive) : Account :=
  match d.args with
  | [] => warning "'return' without a status code" d.line
  | first :: args =>
    number first ++
      if Text.allDigits first || (args.isEmpty && isAbsoluteUrl first) then {}
      else warning ("'return " ++ first ++ "' has no numeric status code; kept as passthrough") d.line

def ofRewrite (d : Directive) : Account :=
  match d.args with
  | _ :: _ :: flags =>
    { warnings := (flags.filter fun flag => (RewriteFlag.ofToken? flag).isNone).map fun flag =>
        "Unknown rewrite flag '" ++ flag ++ "' ignored" ++ LineMark.remark d.line }
  | _ => warning "'rewrite' needs a regex and a replacement" d.line

def ofHeader (d : Directive) : Account :=
  if d.args.length < 2 then warning ("'" ++ d.name ++ "' needs a name and a value") d.line else {}

def ofFirst (d : Directive) : Account :=
  if d.args.isEmpty then warning ("'" ++ d.name ++ "' without a value") d.line else {}

/-- A directive of a location. -/
def ofDirective (d : Directive) : Account :=
  match d.name with
  | "proxy_pass" | "root" | "alias" | "expires" => ofFirst d
  | "index" | "try_files" | "allow" | "deny" => {}
  | "rewrite" => ofRewrite d
  | "return" => ofReturn d
  | "add_header" | "proxy_set_header" => ofHeader d
  | _ => ofArgs d.args

/-- The head of a location without a path. -/
def ofNoPath (d : Directive) : Account :=
  match d.args with
  | [] => warning "'location' without a path skipped" d.line
  | first :: _ => warning ("'location " ++ first ++ "' without a path skipped") d.line

mutual

def ofLocation : Node → Account
  | .simple head => if (Location.target? head.args).isNone then ofNoPath head else {}
  | .block head body =>
    match Location.target? head.args with
    | none => ofNoPath head
    | some (_, path) => ofInside path body

/-- What stands inside the location at `path`. -/
def ofInside (path : String) : List Node → Account
  | [] => {}
  | child :: rest =>
    (if child.name == "location" then ofLocation child
    else if child.isBlock then
      warning ("Unsupported '" ++ child.name ++ "' block in location " ++ path ++ " skipped") child.line
    else ofDirective child.head) ++ ofInside path rest

end

/-- A directive of a server. -/
def ofServerChild (child : Node) : Account :=
  let d := child.head
  if d.name == "listen" then ofListen d
  else if d.name == "server_name" then {}
  else if d.name == "location" then ofLocation child
  else if Tls.directiveNames.contains d.name then ofFirst d
  else if child.isBlock then warning ("Unsupported '" ++ d.name ++ "' block in server skipped") d.line
  else ofArgs d.args

/-- A parameter of a group member. -/
def ofParameter (address : String) (line : Option LineMark) (arg : String) : Account :=
  let (key, value) := UpstreamServer.parameter arg
  if key == "weight" || key == "max_fails" then
    number value ++
      if Text.allDigits value then {}
      else warning ("upstream server " ++ address ++ ": '" ++ arg ++ "' is not numeric") line
  else {}

/-- The parts of a member's address: what is shown as its address, and the text of its port. -/
def memberParts (address : String) : String × String :=
  if Text.startsWith address "unix:" then (address, "")
  else
    match splitAddress address with
    | (none, _) => (address, "")
    | (some host, port) => (if Text.allDigits port then host else address, port)

def joinAll {α : Type} (f : α → Account) : List α → Account
  | [] => {}
  | a :: as => f a ++ joinAll f as

/-- A member of an upstream group. -/
def ofMember (d : Directive) : Account :=
  match d.args with
  | [] => warning "upstream 'server' without an address" d.line
  | address :: args =>
    number (memberParts address).2 ++ joinAll (ofParameter (memberParts address).1 d.line) args

/-- A directive of an upstream group. -/
def ofUpstreamChild (child : Node) : Account :=
  let d := child.head
  if d.name == "server" then ofMember d
  else if (Balancing.ofDirective? d.name).isNone && child.isBlock then
    warning ("Unsupported '" ++ d.name ++ "' block in upstream skipped") d.line
  else ofArgs d.args

mutual

def ofNode : Node → Account
  | .simple d => ofArgs d.args
  | .block d body =>
    if d.name == "http" then ofNodes body
    else if d.name == "server" then joinAll ofServerChild body
    else if d.name == "upstream" then
      if d.args.isEmpty then warning "'upstream' without a name skipped" d.line else joinAll ofUpstreamChild body
    else if d.name == "events" then joinAll (fun n => if n.isBlock then {} else ofArgs n.args) body
    else {}

def ofNodes : List Node → Account
  | [] => {}
  | n :: ns => ofNode n ++ ofNodes ns

end

end Account

/-- The computation converts the texts of the account and gives its warnings. -/
structure Follows {α : Type} (x : Logged α) (a : Account) : Prop where
  converts : x.result.map (fun _ => ()) = convertAll a.texts
  warns : ∀ v, x.result = .ok v → warningTexts x.events = a.warnings

namespace Follows

variable {α β : Type}

theorem pure (v : α) : Follows (Pure.pure v) {} := ⟨rfl, fun _ _ => rfl⟩

/-- The account of two steps is the accounts of the steps, in order. -/
theorem bind {x : Logged α} {f : α → Logged β} {a b : Account} (hx : Follows x a)
    (hf : ∀ v, x.result = .ok v → Follows (f v) b) : Follows (x >>= f) (a ++ b) := by
  have hconverts : convertAll (a ++ b).texts = (convertAll a.texts).bind fun _ => convertAll b.texts :=
    convertAll_append a.texts b.texts
  cases hresult : x.result with
  | error fault =>
      rw [Logged.bind_of_result_error hresult]
      refine ⟨?_, fun v hv => by cases hv⟩
      rw [hconverts, ← hx.converts, hresult]
      rfl
  | ok v =>
      have hv := hf v hresult
      rw [Logged.bind_of_result_ok hresult]
      refine ⟨?_, fun w hw => ?_⟩
      · rw [hconverts, ← hx.converts, hresult]
        exact hv.converts
      · rw [warningTexts_append, hx.warns v hresult, hv.warns w hw]
        rfl

theorem map {x : Logged α} {a : Account} (hx : Follows x a) (f : α → β) :
    Follows (x >>= fun v => Pure.pure (f v)) a := by
  have h := hx.bind fun v _ => pure (f v)
  rwa [Account.append_nil] at h

theorem warn (message : String) (line : Option LineMark) : Follows (Build.warn message line) (.warning message line) :=
  ⟨rfl, fun _ _ => rfl⟩

theorem warn_then {x : Logged α} {a : Account} (message : String) (line : Option LineMark) (hx : Follows x a) :
    Follows (Build.warn message line >>= fun _ => x) (.warning message line ++ a) :=
  (warn message line).bind fun _ _ => hx

theorem warn_pure (message : String) (line : Option LineMark) (v : α) :
    Follows (Build.warn message line >>= fun _ => Pure.pure v) (.warning message line) :=
  (warn message line).map fun _ => v

theorem number (text : String) : Follows (liftM (natural? text) : Logged (Option Nat)) (.number text) := by
  refine ⟨?_, fun _ _ => rfl⟩
  rw [Logged.result_liftM, Account.number, convertAll]
  cases natural? text <;> rfl

/-- Where only texts that are not made of digits would be converted, nothing is. -/
theorem of_result_ok {x : Logged α} {v : α} (hresult : x.result = .ok v) {a : Account} (htexts : convertAll a.texts = .ok ())
    (hwarns : warningTexts x.events = a.warnings) : Follows x a :=
  ⟨by rw [hresult, htexts]; rfl, fun _ _ => hwarns⟩

theorem settingOfArgs (args : List String) :
    Follows (liftM (Setting.ofArgs args) : Logged Setting) (.ofArgs args) := by
  unfold Setting.ofArgs
  split
  · exact pure _
  · exact of_result_ok rfl rfl rfl
  · exact of_result_ok rfl rfl rfl
  · next value _ _ =>
      have h := (number value).map fun n => n.elim (Setting.text value) fun n => Setting.number n
      refine ⟨?_, fun _ _ => rfl⟩
      rw [Account.ofArgs, ← h.converts]
      simp only [Logged.result_liftM, Logged.result_bind]
      rcases natural? value with fault | (- | n) <;> rfl
  · next hne =>
      have hmany : Account.ofArgs args = {} := by
        unfold Account.ofArgs
        split
        · exact absurd rfl (hne _)
        · rfl
      rw [hmany]
      exact of_result_ok rfl rfl rfl

theorem listen (d : Directive) : Follows (Listen.ofDirective d) (.ofListen d) := by
  obtain ⟨name, args, line⟩ := d
  cases args with
  | nil => exact warn_pure _ _ _
  | cons address args =>
      rcases hsplit : splitAddress address with ⟨host, text⟩
      simp only [Listen.ofDirective, Account.ofListen, hsplit]
      refine (number text).bind fun port hport => ?_
      have hnone := isNone_of_natural? hport
      cases hdigits : Text.allDigits text with
      | true =>
          rw [hdigits] at hnone
          simp only [hnone]
          exact pure _
      | false =>
          rw [hdigits] at hnone
          simp only [hnone]
          exact warn_pure _ _ _

theorem keep (ds : Directives) (d : Directive) : Follows (ds.keep d) (.ofArgs d.args) :=
  (settingOfArgs d.args).map _

theorem firstArgument (d : Directive) : Follows (EdgeRoutes.firstArgument d) (.ofFirst d) := by
  obtain ⟨name, args, line⟩ := d
  cases args with
  | nil => exact warn_pure _ _ _
  | cons value args => exact pure _

theorem header (headers : Fields String) (d : Directive) : Follows (applyHeader headers d) (.ofHeader d) := by
  obtain ⟨name, args, line⟩ := d
  rcases args with - | ⟨first, - | ⟨value, values⟩⟩
  · exact warn_pure _ _ _
  · exact warn_pure _ _ _
  · rw [Account.ofHeader, if_neg (by simp)]
    exact pure _

theorem knownFlags (line : Option LineMark) (args : List String) :
    Follows (RewriteRule.knownFlags line args)
      { warnings := (args.filter fun flag => (RewriteFlag.ofToken? flag).isNone).map fun flag =>
          "Unknown rewrite flag '" ++ flag ++ "' ignored" ++ LineMark.remark line } := by
  induction args with
  | nil => exact pure _
  | cons arg args ih =>
      rw [RewriteRule.knownFlags, List.filter_cons]
      cases RewriteFlag.ofToken? arg with
      | some flag => exact ih.map _
      | none => exact warn_then _ _ ih

theorem rewriteRule (d : Directive) : Follows (RewriteRule.ofDirective d) (.ofRewrite d) := by
  obtain ⟨name, args, line⟩ := d
  rcases args with - | ⟨regex, - | ⟨replacement, flags⟩⟩
  · exact warn_pure _ _ _
  · exact warn_pure _ _ _
  · exact (knownFlags line flags).map _

theorem answer (d : Directive) : Follows (Return.ofDirective d) (.ofReturn d) := by
  obtain ⟨name, args, line⟩ := d
  cases args with
  | nil => exact warn_pure _ _ _
  | cons first args =>
      simp only [Return.ofDirective, Account.ofReturn]
      refine (number first).bind fun code hcode => ?_
      have hnone := isNone_of_natural? hcode
      cases code with
      | some code =>
          have hdigits : Text.allDigits first = true := by simpa using hnone
          rw [hdigits]
          exact pure _
      | none =>
          have hdigits : Text.allDigits first = false := by simpa using hnone
          simp only [hdigits, Bool.false_or]
          split_ifs
          · exact pure _
          · exact warn_pure _ _ _

/-- A return directive without a code starts with a text that is not made of digits, if with any. -/
theorem not_digits_of_answer {d : Directive} (h : (Return.ofDirective d).result = .ok none) {first : String}
    {args : List String} (hargs : d.args = first :: args) : Text.allDigits first = false := by
  simp only [Return.ofDirective, hargs, Logged.result_bind, Logged.result_liftM] at h
  obtain ⟨code, hcode, h⟩ := bind_eq_ok_iff.mp h
  cases code with
  | some code => cases h
  | none => simpa using isNone_of_natural? hcode

/-- A malformed return directive is kept, which converts nothing. -/
theorem keep_of_answer (ds : Directives) {d : Directive} (h : (Return.ofDirective d).result = .ok none) :
    Follows (ds.keep d) {} := by
  have hkeep := keep ds d
  unfold Account.ofArgs at hkeep
  split at hkeep
  · next value hargs =>
      refine ⟨hkeep.converts.trans ?_, hkeep.warns⟩
      change convertAll [value] = .ok ()
      rw [convertAll, natural?_of_not_digits (not_digits_of_answer h hargs)]
      rfl
  · exact hkeep

theorem apply_return (ds : Directives) {d : Directive} (hname : d.name = "return") :
    Follows (ds.apply d) (.ofReturn d) := by
  rw [Directives.apply, hname, ← Account.append_nil (.ofReturn d)]
  refine (answer d).bind fun found hfound => ?_
  cases found with
  | some found => exact pure _
  | none => exact keep_of_answer ds hfound

/-- What a directive does to the settings of a location is reported as the account of the directive says. -/
theorem apply (ds : Directives) (d : Directive) : Follows (ds.apply d) (.ofDirective d) := by
  by_cases hreturn : d.name = "return"
  · have h := apply_return ds hreturn
    rwa [Account.ofDirective, hreturn]
  · unfold Directives.apply
    split
    case h_13 =>
      have hother : Account.ofDirective d = .ofArgs d.args := by
        unfold Account.ofDirective
        split <;> first | rfl | contradiction
      rw [hother]
      exact keep ds d
    all_goals
      rename_i hname
      rw [Account.ofDirective, hname]
    iterate 4 exact (firstArgument d).map _
    iterate 4 exact pure _
    · exact (rewriteRule d).map _
    · contradiction
    · exact (header ds.addHeaders d).map _
    · exact (header ds.proxyHeaders d).map _

theorem noPath (d : Directive) : Follows (Location.warnNoPath d) (.ofNoPath d) := by
  obtain ⟨name, args, line⟩ := d
  cases args with
  | nil => exact warn _ _
  | cons first args => exact warn _ _

mutual

theorem location (n : Node) : Follows (Location.ofNode n) (.ofLocation n) := by
  cases n with
  | simple head =>
      rw [Location.ofNode, Account.ofLocation]
      cases Location.target? head.args with
      | none => exact (noPath head).map _
      | some target => exact pure _
  | block head body =>
      rw [Location.ofNode, Account.ofLocation]
      cases Location.target? head.args with
      | none => exact (noPath head).map _
      | some target => exact (inside target.2 {} body).map _

theorem inside (path : String) (read : Directives) (body : List Node) :
    Follows (Location.inside path read body) (.ofInside path body) := by
  cases body with
  | nil => exact pure _
  | cons child rest =>
      rw [Location.inside, Account.ofInside]
      split_ifs
      · exact (location child).bind fun nested _ => (inside path read rest).map _
      · exact warn_then _ _ (inside path read rest)
      · exact (apply read child.head).bind fun read _ => inside path read rest

end

theorem serverChild (s : Server) (child : Node) : Follows (s.apply child) (.ofServerChild child) := by
  simp only [Server.apply, Account.ofServerChild]
  split_ifs
  · exact (listen child.head).map _
  · exact pure _
  · exact (location child).map _
  · next hempty =>
      rw [Account.ofFirst, if_pos hempty]
      exact warn_pure _ _ _
  · next hempty =>
      rw [Account.ofFirst, if_neg hempty]
      exact pure _
  · exact warn_pure _ _ _
  · exact (settingOfArgs child.head.args).map _

theorem server (s : Server) (body : List Node) : Follows (s.applyAll body) (.joinAll Account.ofServerChild body) := by
  induction body generalizing s with
  | nil => exact pure _
  | cons child rest ih => exact (serverChild s child).bind fun s _ => ih s

theorem numeric (s : UpstreamServer) (line : Option LineMark) (arg value : String) :
    Follows (s.numeric line arg value) (.number value ++
      if Text.allDigits value then {}
      else .warning ("upstream server " ++ s.address ++ ": '" ++ arg ++ "' is not numeric") line) := by
  refine (number value).bind fun n hn => ?_
  have hnone := isNone_of_natural? hn
  cases n with
  | some n =>
      rw [if_pos (by simpa using hnone)]
      exact pure _
  | none =>
      rw [if_neg (by simpa using hnone)]
      exact warn_pure _ _ _

theorem parameter (s : UpstreamServer) (line : Option LineMark) (arg : String) :
    Follows (s.apply line arg) (.ofParameter s.address line arg) := by
  rcases hparameter : UpstreamServer.parameter arg with ⟨key, value⟩
  simp only [UpstreamServer.apply, Account.ofParameter, hparameter]
  by_cases hweight : key = "weight"
  · simp only [hweight]
    exact (numeric s line arg value).map _
  · by_cases hfails : key = "max_fails"
    · simp only [hfails]
      exact (numeric s line arg value).map _
    · simp only [beq_eq_false_iff_ne.mpr hweight, beq_eq_false_iff_ne.mpr hfails, Bool.or_false,
        Bool.false_eq_true, if_false]
      split_ifs
      · exact pure _
      · exact pure _
      · exact pure _
      · exact of_result_ok rfl rfl rfl

/-- A parameter of an upstream server leaves its address as it is. -/
theorem address_of_parameter {s t : UpstreamServer} {line : Option LineMark} {arg : String}
    (h : (s.apply line arg).result = .ok t) : t.address = s.address ∧ t.port = s.port := by
  rcases hparameter : UpstreamServer.parameter arg with ⟨key, value⟩
  simp only [UpstreamServer.apply, hparameter] at h
  split_ifs at h
  · cases h
    exact ⟨rfl, rfl⟩
  · cases h
    exact ⟨rfl, rfl⟩
  · obtain ⟨n, -, h⟩ := bind_eq_ok_iff.mp ((Logged.result_bind _ _).symm.trans h)
    cases h
    exact ⟨rfl, rfl⟩
  · obtain ⟨n, -, h⟩ := bind_eq_ok_iff.mp ((Logged.result_bind _ _).symm.trans h)
    cases h
    exact ⟨rfl, rfl⟩
  · cases h
    exact ⟨rfl, rfl⟩
  · cases h
    exact ⟨rfl, rfl⟩

theorem parameters (s : UpstreamServer) (line : Option LineMark) (args : List String) :
    Follows (s.applyAll line args) (.joinAll (.ofParameter s.address line) args) := by
  induction args generalizing s with
  | nil => exact pure _
  | cons arg args ih =>
      refine (parameter s line arg).bind fun t ht => ?_
      rw [← (address_of_parameter ht).1]
      exact ih t

/-- The address of a member is split, or kept whole if its port is no text of digits. -/
theorem ofAddress_eq (address : String) :
    UpstreamServer.ofAddress address =
      (natural? (Account.memberParts address).2).map fun port => { address := (Account.memberParts address).1, port } := by
  unfold UpstreamServer.ofAddress Account.memberParts
  split_ifs
  · rfl
  · rcases splitAddress address with ⟨- | host, port⟩
    · rfl
    · cases hdigits : Text.allDigits port with
      | false =>
          simp only [natural?_of_not_digits hdigits, hdigits]
          rfl
      | true =>
          simp only [natural?, hdigits]
          cases natural port <;> rfl

theorem memberAddress (address : String) :
    Follows (liftM (UpstreamServer.ofAddress address) : Logged UpstreamServer)
      (.number (Account.memberParts address).2) := by
  have h := number (Account.memberParts address).2
  refine ⟨Eq.trans ?_ h.converts, fun _ _ => rfl⟩
  rw [Logged.result_liftM, Logged.result_liftM, ofAddress_eq]
  cases natural? (Account.memberParts address).2 <;> rfl

theorem address_of_member {address : String} {s : UpstreamServer} (h : UpstreamServer.ofAddress address = .ok s) :
    s.address = (Account.memberParts address).1 := by
  rw [ofAddress_eq] at h
  obtain ⟨port, -, rfl⟩ := map_eq_ok_iff.mp h
  rfl

theorem member (d : Directive) : Follows (UpstreamServer.ofDirective d) (.ofMember d) := by
  obtain ⟨name, args, line⟩ := d
  cases args with
  | nil => exact warn_pure _ _ _
  | cons address args =>
      refine (memberAddress address).bind fun s hs => ?_
      rw [← address_of_member hs]
      exact (parameters s line args).map _

theorem upstreamChild (u : Upstream) (child : Node) : Follows (u.apply child) (.ofUpstreamChild child) := by
  simp only [Upstream.apply, Account.ofUpstreamChild]
  cases Balancing.ofDirective? child.head.name with
  | none =>
      simp only [Option.isNone_none, Bool.true_and]
      split_ifs
      · exact (member child.head).map _
      · exact warn_pure _ _ _
      · exact (settingOfArgs child.head.args).map _
  | some method =>
      simp only [Option.isNone_some, Bool.false_and, Bool.false_eq_true, if_false]
      split_ifs with _ hempty
      · exact (member child.head).map _
      · rw [List.isEmpty_iff.mp hempty]
        exact pure _
      · exact (settingOfArgs child.head.args).map _

theorem upstream (u : Upstream) (body : List Node) :
    Follows (u.applyAll body) (.joinAll Account.ofUpstreamChild body) := by
  induction body generalizing u with
  | nil => exact pure _
  | cons child rest ih => exact (upstreamChild u child).bind fun u _ => ih u

theorem settings (body : List Node) :
    Follows (Parts.settings body) (.joinAll (fun n => if n.isBlock then {} else .ofArgs n.args) body) := by
  induction body with
  | nil => exact pure _
  | cons n body ih =>
      cases n with
      | block head inner => exact ih
      | simple d => exact (settingOfArgs d.args).bind fun value _ => ih.map _

mutual

theorem node (n : Node) : Follows (Parts.ofNode n) (.ofNode n) := by
  cases n with
  | simple d => exact (settingOfArgs d.args).map _
  | block d body =>
      rw [Parts.ofNode, Account.ofNode]
      split_ifs
      · exact nodes body
      · exact (server _ body).map _
      · next hempty => 
          rw [Upstream.ofBlock, List.isEmpty_iff.mp hempty]
          exact (warn_pure _ _ _).map _
      · next hempty =>
          obtain ⟨name, names, hargs⟩ := List.exists_cons_of_ne_nil (mt List.isEmpty_iff.mpr hempty)
          rw [Upstream.ofBlock, hargs]
          exact ((upstream _ body).map _).map _
      · exact (settings body).map _
      · exact of_result_ok rfl rfl rfl

theorem nodes (ns : List Node) : Follows (Parts.ofNodes ns) (.ofNodes ns) := by
  cases ns with
  | nil => exact pure _
  | cons n ns => exact (node n).bind fun p _ => (nodes ns).map _

end

end Follows

end EdgeRoutes
