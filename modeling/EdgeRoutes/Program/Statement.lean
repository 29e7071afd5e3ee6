import EdgeRoutes.Data.Fields
import EdgeRoutes.Http.Upstream
import EdgeRoutes.Model.Basic
import EdgeRoutes.Routing.Condition

/-! The statements of emitted code. They say what a location does with a request, apart from the syntax in which
a target writes it. -/

namespace EdgeRoutes

/-- The place of a location in the configuration: its server and its position there, both counted from one. -/
structure Route where
  server : Nat
  position : Nat
  deriving DecidableEq

/-- The text that carries a route from one phase of a request to the next. -/
def Route.id (r : Route) : String :=
  toString r.server ++ "." ++ toString r.position

/-- A pattern that is known to be usable. -/
structure PathPattern where
  source : String
  ignoreCase : Bool
  deriving DecidableEq

/-- The path with the first match of a pattern replaced. -/
structure Substitution where
  pattern : PathPattern
  replacement : String
  deriving DecidableEq

/-- Where a redirect leads. -/
inductive Destination where
  | url (text : String)
  | replaced (s : Substitution)
  deriving DecidableEq

/-- The body of an answer. -/
inductive Body where
  | none
  /-- Text of the configuration, in which variables are filled in. -/
  | template (text : String)
  /-- Text of the converter. -/
  | fixed (text : String)
  deriving DecidableEq

/-- What takes the place of the matched part of the path when a request goes to an upstream. -/
inductive UriPart where
  /-- The path goes on as it is. -/
  | keep
  | replace (uri : String)
  /-- The part is replaced as long as no rule has changed the path. -/
  | replaceUnlessRewritten (uri : String)
  deriving DecidableEq

/-- A request to an upstream. -/
structure Proxy where
  origin : String
  host : String
  uri : UriPart
  /-- The part of the path that the location matches; a pattern matches no fixed part. -/
  mount : String
  headers : Fields String

/-- The upstream that a content delivery network is told to use. -/
structure CustomOrigin where
  target : Http.ProxyTarget
  readTimeout : Int
  uri : UriPart
  mount : String
  headers : Fields String

/-- How the code of a location ends. Every ending returns from the handler. The headers are set on the
response. -/
inductive Ending where
  | redirect (destination : Destination) (code : Nat) (headers : Fields String)
  | respond (code : Nat) (body : Body) (headers : Fields String)
  /-- The upstream answers. -/
  | proxy (proxy : Proxy) (route : Route) (headers : Fields String)
  /-- Whatever handles requests next answers; `rewrites` says that a rule may have changed the path. -/
  | forward (rewrites : Bool) (route : Route) (headers : Fields String)
  /-- The network is told which upstream answers. -/
  | customOrigin (origin : CustomOrigin)
  /-- The response of the upstream goes on. -/
  | passResponse (headers : Fields String)

inductive Statement where
  | comment (text : String)
  /-- The path becomes what the substitution gives, and the request counts as rewritten. -/
  | rewrite (s : Substitution)
  /-- One of two lists of statements, by whether the path matches; the second one may be missing. -/
  | branch (pattern : PathPattern) (body : List Statement) (otherwise : Option (List Statement))
  | finish (ending : Ending)

/-- The statements for the requests that a condition on the path selects. -/
structure LocationBlock where
  route : Route
  label : String
  condition : Condition
  body : List Statement

/-- The locations of a server, behind a condition on the host name. -/
structure ServerBlock where
  index : Nat
  description : String
  condition : Condition
  locations : List LocationBlock

/-- The statements for the requests that carry a route. -/
structure RouteBlock where
  route : Route
  label : String
  body : List Statement

end EdgeRoutes
