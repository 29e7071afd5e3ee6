import EdgeRoutes.Directive.Load
import EdgeRoutes.Log.Conversion
import EdgeRoutes.Log.Logged
import EdgeRoutes.Model.Address
import EdgeRoutes.Model.Basic
import EdgeRoutes.Text.LowerCase

/-! Building the configuration model from a directive tree. The `http` block is transparent: servers and upstream
groups count wherever they stand in it. Directives with odd values are reported and left out. -/

namespace EdgeRoutes

open Number

namespace Build

/-- Where events about building come from. -/
def source : String := "edgeconf.model.builder"

/-- Reports a directive that cannot be taken over as it is. -/
def warn (message : String) (line : Option LineMark) : Logged Unit :=
  .recorded [Event.anomaly source message line]

def debug (message : String) : Logged Unit :=
  .report source .debug message

def warningTexts (events : List Event) : List String :=
  (events.filter (·.level == .warning)).map (·.message)

/-- The number that a text of digits denotes. -/
def natural (digits : String) : Except Fault Nat :=
  (readNatural digits).mapError .integer

/-- The number that a text denotes if it is made of digits. -/
def natural? (text : String) : Except Fault (Option Nat) :=
  if Text.allDigits text then (natural text).map some else .ok none

end Build

open Build

/-- The setting that the arguments of a directive give. No argument means a bare flag. -/
def Setting.ofArgs : List String → Except Fault Setting
  | [] => .ok (.flag true)
  | ["on"] => .ok (.flag true)
  | ["off"] => .ok (.flag false)
  | [value] => do
    match ← natural? value with
    | some n => return .number n
    | none => return .text value
  | values => .ok (.list values)

/-- A flag of a listen directive, or an option that is only kept. -/
def Listen.addArgument (l : Listen) (arg : String) : Listen :=
  match arg with
  | "ssl" => { l with ssl := true }
  | "http2" => { l with http2 := true }
  | "default_server" | "default" => { l with defaultServer := true }
  | arg => { l with options := l.options ++ [arg] }

def Listen.ofDirective (d : Directive) : Logged (Option Listen) :=
  match d.args with
  | [] => do
    warn "'listen' without an address" d.line
    return none
  | address :: args => do
    let (host, portText) := splitAddress address
    let port ← natural? portText
    if port.isNone then
      warn ("'listen " ++ address ++ "' has no numeric port; port left unset") d.line
    return some (args.foldl Listen.addArgument { port, host })

/-- Takes over a directive about certificates or protocols. -/
def Tls.apply (t : Tls) (d : Directive) : Tls :=
  match d.name, d.args with
  | "ssl_certificate", value :: _ => { t with certificate := some value }
  | "ssl_certificate_key", value :: _ => { t with certificateKey := some value }
  | "ssl_protocols", values => { t with protocols := values }
  | "ssl_ciphers", value :: _ => { t with ciphers := some value }
  | "ssl_prefer_server_ciphers", value :: _ => { t with preferServerCiphers := some (value == "on") }
  | _, _ => t

def Tls.directiveNames : List String :=
  ["ssl_certificate", "ssl_certificate_key", "ssl_protocols", "ssl_ciphers",
   "ssl_prefer_server_ciphers"]

def RewriteRule.knownFlags (line : Option LineMark) : List String → Logged (List RewriteFlag)
  | [] => pure []
  | arg :: args =>
    match RewriteFlag.ofToken? arg with
    | some flag => do
      let flags ← knownFlags line args
      return flag :: flags
    | none => do
      warn ("Unknown rewrite flag '" ++ arg ++ "' ignored") line
      knownFlags line args

def RewriteRule.ofDirective (d : Directive) : Logged (Option RewriteRule) :=
  match d.args with
  | regex :: replacement :: args => do
    let flags ← knownFlags d.line args
    return some { regex, replacement, flags }
  | _ => do
    warn "'rewrite' needs a regex and a replacement" d.line
    return none

/-- A return directive: a code with an address or a body, or an address alone. -/
def Return.ofDirective (d : Directive) : Logged (Option Return) :=
  match d.args with
  | [] => do
    warn "'return' without a status code" d.line
    return none
  | first :: args => do
    match ← natural? first with
    | some code =>
      let rest := Text.joined " " args
      let rest := if rest.isEmpty then none else some rest
      return some (if isRedirectCode code then { code, url := rest } else { code, text := rest })
    | none =>
      if args.isEmpty && isAbsoluteUrl first then return some { code := 302, url := some first }
      warn ("'return " ++ first ++ "' has no numeric status code; kept as passthrough") d.line
      return none

/-- Header names are compared in lower case. -/
def sameHeader (a b : String) : Bool :=
  Text.lower a == Text.lower b

/-- Puts a header at the end, in place of any of the same name. -/
def putHeader (headers : Fields String) (name value : String) : Fields String :=
  headers.filter (!sameHeader ·.1 name) ++ [(name, value)]

/-- The value of a header directive. A last word `always` of `add_header` is no part of it. -/
def headerValue (directive : String) (values : List String) : String :=
  let values :=
    if directive == "add_header" && 1 < values.length && values.getLast? == some "always" then
      values.dropLast
    else values
  Text.joined " " values

/-- Takes over a header directive. -/
def applyHeader (headers : Fields String) (d : Directive) : Logged (Fields String) :=
  match d.args with
  | name :: value :: values => return putHeader headers name (headerValue d.name (value :: values))
  | _ => do
    warn ("'" ++ d.name ++ "' needs a name and a value") d.line
    return headers

def firstArgument (d : Directive) : Logged (Option String) :=
  match d.args with
  | [] => do
    warn ("'" ++ d.name ++ "' without a value") d.line
    return none
  | value :: _ => return some value

namespace Directives

def keep (ds : Directives) (d : Directive) : Logged Directives := do
  let value ← Setting.ofArgs d.args
  return { ds with extra := ds.extra.put d.name value }

/-- Takes over a directive of a location. -/
def apply (ds : Directives) (d : Directive) : Logged Directives :=
  match d.name with
  | "proxy_pass" => do
    let value ← firstArgument d
    return { ds with proxyPass := value.orElse fun _ => ds.proxyPass }
  | "root" => do
    let value ← firstArgument d
    return { ds with root := value.orElse fun _ => ds.root }
  | "alias" => do
    let value ← firstArgument d
    return { ds with aliasPath := value.orElse fun _ => ds.aliasPath }
  | "expires" => do
    let value ← firstArgument d
    return { ds with expires := (value.map fun _ => Text.joined " " d.args).orElse fun _ => ds.expires }
  | "index" => return { ds with index := d.args }
  | "try_files" => return { ds with tryFiles := d.args }
  | "allow" => return { ds with allow := ds.allow ++ d.args }
  | "deny" => return { ds with deny := ds.deny ++ d.args }
  | "rewrite" => do
    let rule ← RewriteRule.ofDirective d
    return { ds with rewrites := ds.rewrites ++ rule.toList }
  | "return" => do
    match ← Return.ofDirective d with
    | some answer => return { ds with answer := some answer }
    | none => ds.keep d
  | "add_header" => do
    let headers ← applyHeader ds.addHeaders d
    return { ds with addHeaders := headers }
  | "proxy_set_header" => do
    let headers ← applyHeader ds.proxyHeaders d
    return { ds with proxyHeaders := headers }
  | _ => ds.keep d

end Directives

namespace Location

/-- The modifier and path that the arguments of a location give. -/
def target? : List String → Option (Option Modifier × String)
  | [] => none
  | first :: args =>
    match Modifier.ofToken? first with
    | none => some (none, first)
    | some m => args.head?.map fun path => (some m, path)

/-- Reports a location without a path. -/
def warnNoPath (d : Directive) : Logged Unit :=
  match d.args with
  | [] => warn "'location' without a path skipped" d.line
  | first :: _ => warn ("'location " ++ first ++ "' without a path skipped") d.line

mutual

/-- A location and those nested in it, the outer one first. -/
def ofNode : Node → Logged (List Location)
  | .simple head =>
    match target? head.args with
    | none => do
      warnNoPath head
      return []
    | some (modifier, path) => return [{ path, modifier, line := head.line }]
  | .block head body =>
    match target? head.args with
    | none => do
      warnNoPath head
      return []
    | some (modifier, path) => do
      let (directives, nested) ← inside path {} body
      return { path, modifier, directives, line := head.line } :: nested

/-- What stands inside the location at `path`: its own directives, put into those already read, and the
locations nested in it. -/
def inside (path : String) (read : Directives) : List Node → Logged (Directives × List Location)
  | [] => return (read, [])
  | child :: rest =>
    if child.name == "location" then do
      let nested ← ofNode child
      let (directives, more) ← inside path read rest
      return (directives, nested ++ more)
    else if child.isBlock then do
      warn ("Unsupported '" ++ child.name ++ "' block in location " ++ path ++ " skipped") child.line
      inside path read rest
    else do
      let read ← read.apply child.head
      inside path read rest

end

end Location

namespace Server

/-- Takes over a directive of a server. -/
def apply (s : Server) (child : Node) : Logged Server :=
  let d := child.head
  if d.name == "listen" then do
    let listen ← Listen.ofDirective d
    return { s with listen := s.listen ++ listen.toList }
  else if d.name == "server_name" then
    return { s with names := s.names ++ d.args }
  else if d.name == "location" then do
    let locations ← Location.ofNode child
    return { s with locations := s.locations ++ locations }
  else if Tls.directiveNames.contains d.name then
    if d.args.isEmpty then do
      warn ("'" ++ d.name ++ "' without a value") d.line
      return s
    else return { s with tls := some ((s.tls.getD {}).apply d) }
  else if child.isBlock then do
    warn ("Unsupported '" ++ d.name ++ "' block in server skipped") d.line
    return s
  else do
    let value ← Setting.ofArgs d.args
    return { s with extra := s.extra.put d.name value }

/-- Takes over directives in order. -/
def applyAll (s : Server) : List Node → Logged Server
  | [] => return s
  | child :: rest => do
    let s ← s.apply child
    s.applyAll rest

def ofBlock (head : Directive) (body : List Node) : Logged Server :=
  applyAll { line := head.line } body

end Server

namespace UpstreamServer

/-- A parameter of a group member is written `key` or `key=value`. -/
def parameter (arg : String) : String × String :=
  match Text.cut? ['='] arg.toList with
  | some (key, value) => (String.ofList key, String.ofList value)
  | none => (arg, "")

/-- The number that a parameter gives; anything else is reported. -/
def numeric (s : UpstreamServer) (line : Option LineMark) (arg value : String) :
    Logged (Option Nat) := do
  match ← natural? value with
  | some n => return some n
  | none =>
    warn ("upstream server " ++ s.address ++ ": '" ++ arg ++ "' is not numeric") line
    return none

/-- Takes over a parameter. -/
def apply (line : Option LineMark) (s : UpstreamServer) (arg : String) : Logged UpstreamServer :=
  let (key, value) := parameter arg
  if key == "backup" && value.isEmpty then return { s with backup := true }
  else if key == "down" && value.isEmpty then return { s with down := true }
  else if key == "weight" then do
    let n ← s.numeric line arg value
    return { s with weight := n.orElse fun _ => s.weight }
  else if key == "max_fails" then do
    let n ← s.numeric line arg value
    return { s with maxFails := n.orElse fun _ => s.maxFails }
  else if key == "fail_timeout" && !value.isEmpty then
    return { s with failTimeout := some value }
  else do
    debug ("upstream server " ++ s.address ++ ": parameter '" ++ arg ++ "' not modeled")
    return s

/-- Takes over parameters in order. -/
def applyAll (line : Option LineMark) (s : UpstreamServer) : List String → Logged UpstreamServer
  | [] => return s
  | arg :: rest => do
    let s ← s.apply line arg
    s.applyAll line rest

/-- The address of a group member. Socket paths are not split. -/
def ofAddress (address : String) : Except Fault UpstreamServer :=
  if Text.startsWith address "unix:" then .ok { address }
  else
    match splitAddress address with
    | (none, _) => .ok { address }
    | (some host, portText) => do
      match ← natural? portText with
      | some port => return { address := host, port := some port }
      | none => return { address }

/-- A member of an upstream group. -/
def ofDirective (d : Directive) : Logged (Option UpstreamServer) :=
  match d.args with
  | [] => do
    warn "upstream 'server' without an address" d.line
    return none
  | address :: args => do
    let s ← ofAddress address
    let s ← s.applyAll d.line args
    return some s

end UpstreamServer

namespace Upstream

/-- Takes over a directive of an upstream group. -/
def apply (u : Upstream) (child : Node) : Logged Upstream :=
  let d := child.head
  if d.name == "server" then do
    let server ← UpstreamServer.ofDirective d
    return { u with servers := u.servers ++ server.toList }
  else
    match Balancing.ofDirective? d.name with
    | some method =>
      if d.args.isEmpty then return { u with method }
      else do
        let value ← Setting.ofArgs d.args
        return { u with method, extra := u.extra.put d.name value }
    | none =>
      if child.isBlock then do
        warn ("Unsupported '" ++ d.name ++ "' block in upstream skipped") d.line
        return u
      else do
        let value ← Setting.ofArgs d.args
        return { u with extra := u.extra.put d.name value }

/-- Takes over directives in order. -/
def applyAll (u : Upstream) : List Node → Logged Upstream
  | [] => return u
  | child :: rest => do
    let u ← u.apply child
    u.applyAll rest

def ofBlock (head : Directive) (body : List Node) : Logged (Option Upstream) :=
  match head.args with
  | [] => do
    warn "'upstream' without a name skipped" head.line
    return none
  | name :: _ => do
    let u ← applyAll { name } body
    return some u

end Upstream

/-- What directives at the top level contribute to a configuration. -/
structure Parts where
  servers : List Server := []
  upstreams : List Upstream := []
  globals : Fields Setting := []

namespace Parts

/-- The contributions of two runs of directives; settings of the later one win. -/
def append (p q : Parts) : Parts :=
  { servers := p.servers ++ q.servers
    upstreams := p.upstreams ++ q.upstreams
    globals := p.globals.update q.globals }

/-- The settings that plain directives give, in order. -/
def settings : List Node → Logged (Fields Setting)
  | [] => return []
  | .block _ _ :: rest => settings rest
  | .simple d :: rest => do
    let value ← Setting.ofArgs d.args
    let more ← settings rest
    return Fields.update [(d.name, value)] more

mutual

/-- The contribution of one directive at the top level. -/
def ofNode : Node → Logged Parts
  | .simple d => do
    let value ← Setting.ofArgs d.args
    return { globals := [(d.name, value)] }
  | .block d body =>
    if d.name == "http" then ofNodes body
    else if d.name == "server" then do
      let server ← Server.ofBlock d body
      return { servers := [server] }
    else if d.name == "upstream" then do
      let upstream ← Upstream.ofBlock d body
      return { upstreams := upstream.toList }
    else if d.name == "events" then do
      let globals ← settings body
      return { globals }
    else do
      let line := match d.line with
        | some line => line.display
        | none => "None"
      debug ("Skipping '" ++ d.name ++ "' block at line " ++ line)
      return {}

/-- The contributions of a run of directives. -/
def ofNodes : List Node → Logged Parts
  | [] => return {}
  | n :: ns => do
    let p ← ofNode n
    let q ← ofNodes ns
    return p.append q

end

end Parts

/-- Builds the configuration model from a tree. -/
def Config.build (tree : Tree) : Logged Config :=
  let collected := Parts.ofNodes tree
  let warnings := warningTexts collected.events
  do
    debug ("Building configuration from " ++ toString (Node.walkAll tree).length ++ " directive(s)")
    let parts ← collected
    .report source .info
      ("Built configuration: " ++ toString parts.servers.length ++ " server(s), " ++
        toString parts.upstreams.length ++ " upstream(s), " ++ toString warnings.length ++
        " warning(s)")
    return { servers := parts.servers, upstreams := parts.upstreams, globals := parts.globals, warnings }

/-- Loads a tree from data and builds the model from it. -/
def Config.ofData (data : Data) : Logged Config := do
  let tree ← Tree.load data
  build tree

/-- Builds the model from a source. A list of nodes is taken as it is, and all else is loaded first. -/
def Config.ofSource (source : Tree.Source) : Logged Config := do
  let tree ← match source.nodes? with
    | some nodes => pure nodes
    | none => source.load
  build tree

end EdgeRoutes
