import EdgeRoutes.Data.Basic
import EdgeRoutes.Directive.Basic

/-! The configuration model: servers with their locations, and upstream groups. Directives that the converter
understands have fields of their own; every other one is kept as a setting under its name. -/

namespace EdgeRoutes

/-- How the path of a location is compared with a request. -/
inductive Modifier where
  | exact
  | regex
  | regexIgnoreCase
  | priority
  deriving DecidableEq

namespace Modifier

def token : Modifier → String
  | .exact => "="
  | .regex => "~"
  | .regexIgnoreCase => "~*"
  | .priority => "^~"

def ofToken? (s : String) : Option Modifier :=
  [Modifier.exact, .regex, .regexIgnoreCase, .priority].find? (·.token == s)

def isRegex : Modifier → Bool
  | .regex | .regexIgnoreCase => true
  | _ => false

end Modifier

/-- A directive kept as it is: a flag, a number, a text or several texts. -/
inductive Setting where
  | flag (b : Bool)
  | number (n : Nat)
  | text (s : String)
  | list (ss : List String)
  deriving DecidableEq

/-- The setting as messages write it. -/
def Setting.display : Setting → String
  | .flag b => (Scalar.bool b).display
  | .number n => toString n
  | .text s => s
  | .list ss => "(" ++ Text.joined ", " (ss.map Text.quoted) ++ ")"

/-- An address that a server listens on. The port is missing when it is not a number. -/
structure Listen where
  port : Option Nat
  host : Option String
  ssl : Bool := false
  http2 : Bool := false
  defaultServer : Bool := false
  options : List String := []
  deriving DecidableEq

/-- Certificates and protocols of a server. -/
structure Tls where
  certificate : Option String := none
  certificateKey : Option String := none
  protocols : List String := []
  ciphers : Option String := none
  preferServerCiphers : Option Bool := none
  deriving DecidableEq

/-- What a rewrite rule does after it has matched. -/
inductive RewriteFlag where
  | last
  | break
  | redirect
  | permanent
  deriving DecidableEq

namespace RewriteFlag

def token : RewriteFlag → String
  | .last => "last"
  | .break => "break"
  | .redirect => "redirect"
  | .permanent => "permanent"

def ofToken? (s : String) : Option RewriteFlag :=
  [RewriteFlag.last, .break, .redirect, .permanent].find? (·.token == s)

/-- The flag turns the rule into a redirect. -/
def redirects : RewriteFlag → Bool
  | .redirect | .permanent => true
  | _ => false

/-- The flag ends the list of rules. -/
def stops : RewriteFlag → Bool
  | .last | .break => true
  | _ => false

end RewriteFlag

/-- The text is an absolute address or starts with the scheme variable. -/
def isAbsoluteUrl (s : String) : Bool :=
  Text.startsWith s "http://" || Text.startsWith s "https://" || Text.startsWith s "$scheme"

/-- A rule that replaces the path of a request. -/
structure RewriteRule where
  regex : String
  replacement : String
  flags : List RewriteFlag := []
  deriving DecidableEq

namespace RewriteRule

/-- The rule answers with a redirect: by a flag, or because the replacement is an absolute address. -/
def isRedirect (r : RewriteRule) : Bool :=
  r.flags.any RewriteFlag.redirects || isAbsoluteUrl r.replacement

/-- The status of the redirect. -/
def statusCode (r : RewriteRule) : Nat :=
  if r.flags.contains .permanent then 301 else 302

/-- A match of the rule ends the list of rules. -/
def isFinal (r : RewriteRule) : Bool :=
  r.flags.any RewriteFlag.stops

end RewriteRule

def isRedirectCode (code : Int) : Bool :=
  300 ≤ code && code < 400

/-- A fixed answer: redirects carry an address, other codes an optional body. -/
structure Return where
  code : Nat
  url : Option String := none
  text : Option String := none
  deriving DecidableEq

def Return.isRedirect (r : Return) : Bool :=
  isRedirectCode r.code

/-- The directives of a location. -/
structure Directives where
  proxyPass : Option String := none
  root : Option String := none
  aliasPath : Option String := none
  index : List String := []
  tryFiles : List String := []
  rewrites : List RewriteRule := []
  answer : Option Return := none
  addHeaders : Fields String := []
  proxyHeaders : Fields String := []
  expires : Option String := none
  allow : List String := []
  deny : List String := []
  extra : Fields Setting := []

namespace Directives

/-- The location is backed by files. -/
def servesStatic (d : Directives) : Bool :=
  d.root.isSome || d.aliasPath.isSome

/-- Some rule changes the path instead of redirecting. -/
def rewritesUri (d : Directives) : Bool :=
  d.rewrites.any (!·.isRedirect)

def has (d : Directives) (name : String) : Bool :=
  match name with
  | "return" | "return_" => d.answer.isSome
  | "proxy_pass" => d.proxyPass.isSome
  | "root" => d.root.isSome
  | "alias" => d.aliasPath.isSome
  | "index" => !d.index.isEmpty
  | "try_files" => !d.tryFiles.isEmpty
  | "rewrite" => !d.rewrites.isEmpty
  | "add_header" => !d.addHeaders.isEmpty
  | "proxy_set_header" => !d.proxyHeaders.isEmpty
  | "expires" => d.expires.isSome
  | "allow" => !d.allow.isEmpty
  | "deny" => !d.deny.isEmpty
  | name => d.extra.has name

end Directives

/-- A location: the paths it answers for and what it does. -/
structure Location where
  path : String
  modifier : Option Modifier := none
  directives : Directives := {}
  line : Option LineMark := none

namespace Location

/-- The path is a pattern. -/
def isRegex (l : Location) : Bool :=
  l.modifier.any Modifier.isRegex

/-- A named location is reached from inside only. -/
def isNamed (l : Location) : Bool :=
  Text.startsWith l.path "@"

/-- The location as its directive writes it. -/
def label (l : Location) : String :=
  match l.modifier with
  | none => l.path
  | some m => m.token ++ " " ++ l.path

end Location

/-- A server: the names and addresses it answers for, and its locations. -/
structure Server where
  listen : List Listen := []
  names : List String := []
  locations : List Location := []
  tls : Option Tls := none
  extra : Fields Setting := []
  line : Option LineMark := none

/-- The certificates of the server are its own business: it has some, or listens for encrypted requests. -/
def Server.usesSsl (s : Server) : Bool :=
  s.tls.isSome || s.listen.any (·.ssl)

/-- How requests are spread over an upstream group. -/
inductive Balancing where
  | roundRobin
  | leastConn
  | ipHash
  | hash
  | random
  deriving DecidableEq

namespace Balancing

def token : Balancing → String
  | .roundRobin => "round_robin"
  | .leastConn => "least_conn"
  | .ipHash => "ip_hash"
  | .hash => "hash"
  | .random => "random"

/-- The method that a directive of this name asks for. -/
def ofDirective? (name : String) : Option Balancing :=
  [Balancing.leastConn, .ipHash, .hash, .random].find? (·.token == name)

end Balancing

/-- A member of an upstream group. -/
structure UpstreamServer where
  address : String
  port : Option Nat := none
  weight : Option Nat := none
  maxFails : Option Nat := none
  failTimeout : Option String := none
  backup : Bool := false
  down : Bool := false
  deriving DecidableEq

/-- A named group of servers. -/
structure Upstream where
  name : String
  servers : List UpstreamServer := []
  method : Balancing := .roundRobin
  extra : Fields Setting := []

/-- A configuration, with the warnings that came up while it was built. -/
structure Config where
  servers : List Server := []
  upstreams : List Upstream := []
  globals : Fields Setting := []
  warnings : List String := []

/-- The first upstream group of this name. -/
def Config.upstream? (c : Config) (name : String) : Option Upstream :=
  c.upstreams.find? (·.name == name)

end EdgeRoutes
