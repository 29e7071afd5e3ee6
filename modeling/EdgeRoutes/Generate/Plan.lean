import EdgeRoutes.Http.Headers
import EdgeRoutes.Log.Conversion
import EdgeRoutes.Log.Logged
import EdgeRoutes.Program.Statement
import EdgeRoutes.Routing.Host
import EdgeRoutes.Routing.Path
import EdgeRoutes.Target

/-! From locations to statements. What a location does is decided in a fixed order: a `return` comes before everything
else; then rewrite rules run, and after them the request is proxied, served from files, or handed on. -/

namespace EdgeRoutes

open Http Pattern

/-- A location together with its place in the configuration. -/
structure Site where
  route : Route
  location : Location

/-- Reads an address strictly; one that names no origin gives the reason. -/
def resolve (url : String) : Except Fault (Except String ProxyTarget) :=
  match ProxyTarget.parse url with
  | .ok target => .ok (.ok target)
  | .error (.upstreamUrl _ reason) => .ok (.error reason)
  | .error fault => .error fault

/-- The part of an origin after the scheme. -/
def authority (origin : String) : String :=
  match Text.cut? "://".toList origin.toList with
  | some (_, rest) => String.ofList rest
  | none => origin

namespace Location

/-- What takes the place of the location's path in requests to its upstream. -/
def uriPart (l : Location) (uri : Option String) : UriPart :=
  match uri with
  | none => .keep
  | some uri =>
    if l.isRegex then .keep
    else if l.directives.rewritesUri then .replaceUnlessRewritten uri
    else .replace uri

/-- The part of a request's path that the location matches. -/
def mount (l : Location) : String :=
  if l.isRegex then "" else l.path

/-- The proxy request of an address that is split leniently. -/
def proxyAsWritten (l : Location) (url : String) : Proxy :=
  let (origin, uri) := splitProxyPass url
  { origin, host := authority origin, uri := l.uriPart uri, mount := l.mount
    headers := l.directives.proxyHeaders }

/-- The proxy request of an address that is split strictly. -/
def proxyResolved (l : Location) (target : ProxyTarget) : Except Fault Proxy := do
  let origin ← target.origin
  return { origin, host := target.host, uri := l.uriPart target.uri, mount := l.mount
           headers := l.directives.proxyHeaders }

end Location

def Return.ending (r : Return) (headers : Fields String) : Ending :=
  match r.isRedirect, r.url with
  | true, some url => .redirect (.url url) r.code headers
  | _, _ => .respond r.code (r.text.elim .none .template) headers

/-- The statements of rewrite rules. A rule whose pattern is unusable is left out. A rule that ends the list when it
matches takes the rules after it into its second branch. -/
def rewriteStatements (dialect : Dialect) (headers : Fields String) :
    List RewriteRule → Except Fault (List Statement)
  | [] => .ok []
  | rule :: rules => do
    let t ← translate rule.regex dialect false
    let rest ← rewriteStatements dialect headers rules
    if !t.supported then
      let text := "rewrite " ++ Js.commentText rule.regex ++ " skipped: regex not translatable"
      return .comment text :: rest
    let pattern : PathPattern := ⟨t.source, t.ignoreCase⟩
    let s : Substitution := ⟨pattern, rule.replacement⟩
    if rule.isRedirect then
      return .branch pattern [.finish (.redirect (.replaced s) rule.statusCode headers)] none :: rest
    if rule.isFinal && !rules.isEmpty then
      return [.branch pattern [.rewrite s] (some rest)]
    return .branch pattern [.rewrite s] none :: rest

/-- Reports that a location answers with an error because its upstream cannot be reached. -/
def reportDegraded (target : Target) (path reason : String) : Logged Unit :=
  Logged.recorded [Event.degraded target.eventSource target.name path reason]

/-- The statements for a location whose upstream cannot be reached. -/
def degraded (url reason : String) : List Statement :=
  [.comment ("proxy_pass " ++ Js.commentText url ++ ": " ++ Js.commentText reason),
    .finish (.respond 502 .none [])]

/-- The statements that send a request to the upstream at an address. Only the minimal runtime needs the parts of the
origin here. -/
def proxyStatements (target : Target) (site : Site) (url : String) (headers : Fields String) :
    Logged (List Statement) :=
  match target with
  | .minimal => do
    match ← resolve url with
    | .error reason =>
      reportDegraded target site.location.path reason
      return degraded url reason
    | .ok upstream =>
      let proxy ← site.location.proxyResolved upstream
      return [.finish (.proxy proxy site.route headers)]
  | _ => return [.finish (.proxy (site.location.proxyAsWritten url) site.route headers)]

/-- The statements for a request that falls through to whatever comes next. -/
def forwardStatements (site : Site) (headers : Fields String) : List Statement :=
  [.finish (.forward site.location.directives.rewritesUri site.route headers)]

/-- The statements for a location backed by files, which no target can serve by itself. -/
def staticStatements (target : Target) (site : Site) (headers : Fields String) : List Statement :=
  let d := site.location.directives
  match target with
  | .worker =>
    let source := (d.root <|> d.aliasPath).getD ""
    [.comment ("Static files from " ++ Js.commentText source ++ " need Workers Sites, Pages or R2"),
      .finish (.respond 501 (.fixed "Static file serving not implemented") headers)]
  | .middleware =>
    .comment "Static files are served from the public directory" :: forwardStatements site headers
  | .edgeHook =>
    .comment "Static files are served by the distribution's storage origin" ::
      forwardStatements site headers
  | .minimal => [.finish (.respond 501 (.fixed "Static file serving not available") headers)]

def locationBody (target : Target) (site : Site) : Logged (List Statement) := do
  let d := site.location.directives
  let headers ← responseHeaders d
  match d.answer with
  | some answer => return [.finish (answer.ending headers)]
  | none =>
    let rules ← rewriteStatements target.dialect headers d.rewrites
    match d.proxyPass with
    | some url =>
      let rest ← proxyStatements target site url headers
      return rules ++ rest
    | none =>
      return rules ++
        if d.servesStatic then staticStatements target site headers
        else forwardStatements site headers

/-- The seconds that the network waits for an upstream: the configured time, within bounds. -/
def readTimeout (d : Directives) : Except Fault Int := do
  match d.extra.get? "proxy_read_timeout" with
  | none => return 30
  | some setting =>
    match ← parseTime setting.display with
    | none => return 30
    | some seconds => return if seconds < 1 then 30 else min seconds 60

/-- The statements that point a request at the upstream of its location. Only a location that proxies has any. -/
def originRequestBody (site : Site) : Logged (List Statement) := do
  let d := site.location.directives
  match d.proxyPass, d.answer with
  | some url, none =>
    match ← resolve url with
    | .error reason =>
      reportDegraded .edgeHook site.location.path reason
      return degraded url reason
    | .ok upstream =>
      let timeout ← readTimeout d
      return [.comment ("proxy_pass " ++ Js.commentText url),
        .finish (.customOrigin {
          target := upstream, readTimeout := timeout
          uri := site.location.uriPart upstream.uri, mount := site.location.mount
          headers := d.proxyHeaders })]
  | _, _ => return []

/-- The statements that set the headers of a location on the response of its upstream. -/
def originResponseBody (site : Site) : Logged (List Statement) := do
  let headers ← responseHeaders site.location.directives
  return if headers.isEmpty then [] else [.finish (.passResponse headers)]

end EdgeRoutes
