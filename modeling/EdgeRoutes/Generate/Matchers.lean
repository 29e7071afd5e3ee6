import EdgeRoutes.Model.Basic

/-! Path matchers: the requests for which a middleware asks to be called. -/

namespace EdgeRoutes

/-- Every path except those of the framework itself. -/
def catchAllMatcher : String := "/((?!_next/static|_next/image|favicon.ico).*)"

def Location.matchers (l : Location) : List String :=
  if l.isNamed then []
  else if l.isRegex then [catchAllMatcher]
  else if l.modifier = some .exact then [l.path]
  else if l.path = "/" then ["/:path*"]
  else if Text.endsWith l.path '/' then [l.path ++ ":path*"]
  else [l.path, l.path ++ "/:path*"]

/-- The matchers of a configuration, each at its first place; without any, everything is matched. -/
def Config.matchers (c : Config) : List String :=
  match (c.servers.flatMap fun s => s.locations.flatMap Location.matchers).eraseDups with
  | [] => [catchAllMatcher]
  | found => found

end EdgeRoutes
