import EdgeRoutes.Generate.Plan
import EdgeRoutes.Program.Print

/-! The blocks of emitted code: one for each server, with one for each of its locations, in the order in which they are
tried. Named locations have none, and a location without statements has none. -/

namespace EdgeRoutes

/-- What turns a configuration into code for a target. -/
structure Generator where
  target : Target
  config : Config
  options : Options := {}

/-- Servers with their numbers, counted from one. -/
def Config.numbered (c : Config) : List (Nat × Server) :=
  (c.servers.zipIdx 1).map fun (server, index) => (index, server)

/-- The routes of all locations in the order of their declaration. -/
def Config.routes (c : Config) : List Route :=
  c.numbered.flatMap fun (index, server) =>
    (Location.place server.locations).map fun p => ⟨index, p.position⟩

/-- A location as the one thing that a configuration holds, by a server and a position in it. Another location may say
the same, but it is held elsewhere. A location that no configuration holds has the server zero. -/
structure Held where
  server : Nat
  position : Nat
  location : Location

namespace Held

/-- The two are one and the same location, not just alike. -/
def isSame (a b : Held) : Bool :=
  a.server == b.server && a.position == b.position

/-- The location with a route that says where it is held. -/
def site (h : Held) : Site := ⟨⟨h.server, h.position⟩, h.location⟩

end Held

def Server.held (s : Server) (index : Nat) : List Held :=
  (Location.place s.locations).map fun p => ⟨index, p.position, p.location⟩

/-- The locations of a server in the order in which they are tried, named ones left out. -/
def Server.candidates (s : Server) (index : Nat) : List Held :=
  ((Location.sorted (Location.place s.locations)).filter (!·.location.isNamed)).map fun p =>
    ⟨index, p.position, p.location⟩

/-- The locations of a configuration, server by server. -/
def Config.held (c : Config) : List (List Held) :=
  c.numbered.map fun (index, server) => server.held index

/-- Searches the servers, and each one's locations, for one location, and counts both from one. -/
def Held.routeIn? (h : Held) (servers : List (List Held)) : Option Route :=
  (servers.zipIdx 1).findSome? fun (held, server) =>
    (held.zipIdx 1).findSome? fun (candidate, position) =>
      if candidate.isSame h then some ⟨server, position⟩ else none

/-- The route of a location. Only a location of the configuration has one. -/
def Config.routeOf (c : Config) (h : Held) : Except Fault Route :=
  match h.routeIn? c.held with
  | some route => .ok route
  | none => .error (.foreignLocation h.location.label)

/-- The text of a location's route. -/
def Config.routeId (c : Config) (h : Held) : Except Fault String :=
  (c.routeOf h).map Route.id

/-- The names and ports of a server, for a comment. -/
def Server.description (s : Server) : String :=
  let names := Text.joined " " s.names
  let ports := Text.joined ", " (s.listen.filterMap fun l => l.port.map toString)
  Js.truncate (if names.isEmpty then "*" else names) 80 "..." ++
    (if ports.isEmpty then "" else " (listen " ++ ports ++ ")")

/-- What a location does in one phase of a request. -/
abbrev Action := Site → Logged (List Statement)

namespace Generator

def report (g : Generator) (level : Level) (message : String) : Logged Unit :=
  Logged.report g.target.eventSource level message

/-- The location with its route. Only code for a delivery network names routes, where a request goes on to another phase;
there the route is searched for. -/
def site (g : Generator) (h : Held) : Except Fault Site :=
  match g.target, h.location.directives.answer with
  | .edgeHook, none => (g.config.routeOf h).map fun route => ⟨route, h.location⟩
  | _, _ => .ok h.site

/-- The block of a location, if it has statements. -/
def locationBlock (g : Generator) (action : Action) (h : Held) :
    Logged (Option LocationBlock) := do
  let site ← g.site h
  let body ← action site
  if body.isEmpty then return none
  let condition ← site.location.condition g.target.dialect
  g.report .debug ("[" ++ g.target.name ++ "] location " ++ site.location.label ++ ": " ++
    condition.render "path")
  return some { route := site.route, label := site.location.label, condition, body }

/-- The blocks of the locations of a server, in the order in which they are tried. -/
def locationBlocks (g : Generator) (action : Action) (index : Nat) (server : Server) :
    Logged (List LocationBlock) := do
  let blocks ← Logged.forEach (g.locationBlock action) (server.candidates index)
  return blocks.filterMap id

/-- The block of a server, if one of its locations has a block. -/
def serverBlock (g : Generator) (action : Action) (index : Nat) (server : Server) :
    Logged (Option ServerBlock) := do
  let locations ← g.locationBlocks action index server
  if locations.isEmpty then return none
  let condition ← Host.condition server.names g.target.dialect
  return some { index, description := server.description, condition, locations }

/-- The blocks of all servers. -/
def serverBlocks (g : Generator) (action : Action) : Logged (List ServerBlock) := do
  let blocks ← Logged.forEach (fun (index, server) => g.serverBlock action index server)
    g.config.numbered
  return blocks.filterMap id

/-- The block of a location that is chosen by its route. -/
def routeBlock (g : Generator) (action : Action) (h : Held) : Logged (Option RouteBlock) := do
  let body ← action h.site
  if body.isEmpty then return none
  let route ← g.config.routeOf h
  return some { route, label := h.location.label, body }

/-- The blocks of all locations, each chosen by its route. -/
def routeBlocks (g : Generator) (action : Action) : Logged (List RouteBlock) := do
  let candidates := g.config.numbered.flatMap fun (index, server) => server.candidates index
  let blocks ← Logged.forEach (g.routeBlock action) candidates
  return blocks.filterMap id

def routing (g : Generator) (action : Action) (level : Nat) : Logged String := do
  let blocks ← g.serverBlocks action
  return ServerBlock.text g.target g.options.comments blocks level

def routes (g : Generator) (action : Action) (level : Nat) : Logged String := do
  let blocks ← g.routeBlocks action
  return RouteBlock.text g.target g.options.comments blocks level

end Generator

end EdgeRoutes
