import EdgeRoutes.Generate.Blocks

/-! Validation: what the code for a target cannot do, or does in another way. All findings are collected. -/

namespace EdgeRoutes

open Http Pattern

/-- The findings about a configuration. An error rules the target out. -/
structure Validation where
  errors : List String := []
  warnings : List String := []
  deriving DecidableEq

namespace Validation

def valid (v : Validation) : Bool := v.errors.isEmpty

/-- The findings of both, in order. -/
def append (a b : Validation) : Validation :=
  ⟨a.errors ++ b.errors, a.warnings ++ b.warnings⟩

/-- All findings, in order. -/
def join (vs : List Validation) : Validation :=
  ⟨vs.flatMap errors, vs.flatMap warnings⟩

end Validation

/-- The locations of a configuration, each with the name that findings give it. -/
def Config.labelled (c : Config) : List (String × Location) :=
  c.numbered.flatMap fun (index, server) => server.locations.map fun l =>
    ("Server " ++ toString index ++ ", location " ++ l.label, l)

def warnIf (b : Bool) (text : String) : List String :=
  if b then [text] else []

/-- Warnings about the addresses and names of a server. -/
def Server.warnings (s : Server) (index : Nat) (dialect : Dialect) :
    Except Fault (List String) := do
  let name := "Server " ++ toString index
  let problems ← Host.problems s.names dialect
  return warnIf s.listen.isEmpty (name ++ " has no listen directive") ++
    (s.listen.filter (·.port.isNone)).map (fun _ =>
      name ++ " has a listen directive without a numeric port") ++
    problems.map fun problem => name ++ ", " ++ problem ++ "; that name never matches"

namespace Location

def patternWarnings (l : Location) (label : String) (dialect : Dialect) :
    Except Fault (List String) := do
  match ← l.translation? dialect with
  | none => return []
  | some t =>
    return t.problems.map (fun p =>
        label ++ ": regex not translatable (" ++ p.message ++ "); location never matches") ++
      t.notes.map fun note => label ++ ": " ++ note.message

/-- Warnings about the pattern of a rewrite rule. -/
def ruleWarnings (label : String) (dialect : Dialect) (rule : RewriteRule) :
    Except Fault (List String) := do
  let t ← translate rule.regex dialect false
  let name := label ++ ": rewrite " ++ rule.regex
  return t.problems.map (fun p =>
      name ++ " not translatable (" ++ p.message ++ "); rule skipped") ++
    t.notes.map fun note => name ++ ": " ++ note.message

/-- Warnings about the address of a location's upstream. -/
def proxyWarnings (l : Location) (label url : String) (config : Config) : List String :=
  let (origin, uri) := splitProxyPass url
  let host := authority origin
  warnIf (config.upstream? host).isSome
      (label ++ ": proxy_pass targets upstream '" ++ host ++
        "'; load balancing is not generated, requests go to '" ++ host ++ "' as a hostname") ++
    if uri.isNone then []
    else if l.isRegex then [label ++ ": proxy_pass URI part is ignored in a regex location"]
    else
      warnIf l.directives.rewritesUri
        (label ++ ": proxy_pass URI part is ignored when a rewrite changes the URI; " ++
          "the rewritten URI is sent unchanged")

/-- Warnings about the caching rule of a location. -/
def expiresWarnings (l : Location) (label : String) : Except Fault (List String) := do
  match l.directives.expires with
  | none => return []
  | some expires =>
    let convertible ← expiresConvertible expires
    return warnIf (!convertible)
      (label ++ ": expires '" ++ expires ++ "' cannot be converted to Cache-Control")

/-- Warnings about a location that do not depend on the target. -/
def warnings (l : Location) (label : String) (config : Config) (dialect : Dialect) :
    Except Fault (List String) := do
  let pattern ← l.patternWarnings label dialect
  let rules ← l.directives.rewrites.mapM (ruleWarnings label dialect)
  let expires ← l.expiresWarnings label
  return warnIf l.isNamed (label ++ " is a named location and is not reachable by path") ++
    pattern ++ rules.flatten ++
    (l.directives.proxyPass.elim [] fun url => l.proxyWarnings label url config) ++ expires

end Location

/-- Warnings about the structure of a configuration. -/
def Config.structureWarnings (c : Config) (dialect : Dialect) : Except Fault (List String) := do
  let servers ← c.numbered.mapM fun (index, server) => server.warnings index dialect
  let locations ← c.labelled.mapM fun (label, l) => l.warnings label c dialect
  return warnIf c.servers.isEmpty
      "Configuration has no server blocks; generated code matches no routes" ++
    servers.flatten ++ locations.flatten

namespace Target

/-- What becomes of the certificates of a server. -/
def sslWarning : Target → String
  | .worker => "SSL certificates are managed by the platform, not in worker code"
  | .middleware => "SSL is terminated by the hosting platform"
  | .edgeHook => "SSL is managed by the CDN distribution, not by the hook"
  | .minimal => "SSL must be terminated by the embedding host"

/-- What becomes of a location backed by files. -/
def staticWarning : Target → String
  | .worker => "static file serving needs a platform asset store; emitting a 501 placeholder"
  | .middleware => "static files are served from the public directory, not by middleware"
  | .edgeHook => "static files must come from the distribution's storage origin"
  | .minimal => "no filesystem access; static files return a 501 placeholder"

/-- The directives that hand a request to a local process. -/
def processDirectives : List String := ["fastcgi_pass", "uwsgi_pass", "scgi_pass"]

/-- Why the target cannot hand a request to a local process. -/
def processError? : Target → Option String
  | .edgeHook => some "the edge cannot hand requests to a local process"
  | .minimal => some "the runtime cannot reach a local process"
  | _ => none

/-- The hosts that a middleware reaches by itself. -/
def localHosts : List String := ["localhost", "127.0.0.1", "[::1]", "0.0.0.0"]

/-- The origin is on the machine that runs the code. -/
def isLocal (origin : String) : Bool :=
  let authority := (authority origin).toList
  let host := match Text.cutLast? ':' authority with
    | some (host, _) => if authority.getLast? == some ']' then authority else host
    | none => authority
  localHosts.contains (Text.lower (String.ofList host))

/-- What a middleware makes of an upstream. -/
def middlewareProxyWarnings (label url : String) : List String :=
  let (origin, _) := splitProxyPass url
  let scheme := Text.lower origin
  if !(Text.startsWith scheme "http://" || Text.startsWith scheme "https://") then
    [label ++ ": proxy_pass '" ++ url ++ "' is not an http(s) URL"]
  else
    warnIf (!isLocal origin)
      (label ++ ": middleware cannot proxy to '" ++ origin ++ "'; degrades to a rewrite to that URL")

/-- Warnings about an upstream whose origin must be known beforehand. -/
def strictProxyWarnings (label limit url : String) : Except Fault (List String) := do
  let found ← resolve url
  return (label ++ ": " ++ limit) ::
    match found with
    | .error reason => [label ++ ": " ++ reason ++ " in proxy_pass; location will respond 502"]
    | .ok _ => []

/-- Warnings of the target about an upstream. -/
def proxyWarnings (t : Target) (label url : String) : Except Fault (List String) :=
  match t with
  | .worker => .ok []
  | .middleware => .ok (middlewareProxyWarnings label url)
  | .edgeHook =>
    strictProxyWarnings label "proxied responses are subject to the edge response size limits" url
  | .minimal =>
    strictProxyWarnings label
      "proxying buffers through platform.fetch; keep responses small for the memory budget" url

def locationErrors (t : Target) (label : String) (d : Directives) : List String :=
  match t.processError? with
  | none => []
  | some reason =>
    (processDirectives.filter d.has).map (fun name =>
      label ++ ": " ++ name ++ " is not supported; " ++ reason) ++
    warnIf (t == .minimal && !d.tryFiles.isEmpty)
      (label ++ ": try_files needs filesystem access, which the runtime does not have")

def locationFindings (t : Target) (label : String) (l : Location) : Except Fault Validation := do
  let d := l.directives
  let proxy ← match d.proxyPass with
    | some url => t.proxyWarnings label url
    | none => pure []
  return {
    errors := t.locationErrors label d
    warnings := warnIf d.servesStatic (label ++ ": " ++ t.staticWarning) ++
      warnIf (t == .worker && d.expires.isSome)
        (label ++ ": expires is emitted as Cache-Control; edge cache rules are preferred") ++
      proxy }

/-- The findings of the target about a configuration. -/
def findings (t : Target) (c : Config) : Except Fault Validation := do
  let ssl := (c.numbered.filter (·.2.usesSsl)).map fun (index, _) =>
    "Server " ++ toString index ++ ": " ++ t.sslWarning
  let locations ← c.labelled.mapM fun (label, l) => t.locationFindings label l
  return Validation.append ⟨[], ssl⟩ (Validation.join locations)

end Target

namespace Generator

/-- All findings about the configuration. -/
def findings (g : Generator) : Except Fault Validation := do
  let structural ← g.config.structureWarnings g.target.dialect
  let specific ← g.target.findings g.config
  return Validation.append ⟨[], structural⟩ specific

/-- Checks whether the configuration can be expressed on the target. -/
def validate (g : Generator) : Logged Validation := do
  let v ← g.findings
  Logged.recorded (Event.findings g.target.eventSource g.target.name v.errors v.warnings)
  return v

end Generator

end EdgeRoutes
