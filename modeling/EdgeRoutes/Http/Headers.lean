import EdgeRoutes.Http.Time
import EdgeRoutes.Model.Basic
import EdgeRoutes.Text.LowerCase

/-! Response headers of a location: those it adds, and the caching rule that its `expires` directive gives. -/

namespace EdgeRoutes.Http

/-- The age that `max` stands for. -/
def maxAge : Nat := 315360000

/-- The words of an `expires` value after an optional `modified`. -/
def expiresWords (expires : String) : List String :=
  match (Text.words expires.toList).map String.ofList with
  | "modified" :: rest => rest
  | words => words

/-- The caching rule of an `expires` value, if it gives one. -/
def cacheControl (expires : String) : Except Fault (Option String) :=
  match expiresWords expires with
  | [] => .ok none
  | words => do
    let value := Text.joined " " words
    if value == "off" || Text.startsWith value "@" then return none
    if value == "epoch" then return some "no-cache"
    if value == "max" then return some ("max-age=" ++ toString maxAge)
    match ← parseTime value with
    | none => return none
    | some seconds =>
      return some (if seconds < 0 then "no-cache" else "max-age=" ++ toString seconds)

/-- The value is off, or gives a caching rule. -/
def expiresConvertible (expires : String) : Except Fault Bool :=
  if (Text.words expires.toList).getLast? == some "off".toList then .ok true
  else (cacheControl expires).map Option.isSome

/-- Adds a header. One about caching takes the place of the rule that `expires` gave. -/
def addHeader (headers : Fields String) (name value : String) : Fields String :=
  let headers :=
    if Text.lower name == "cache-control" then headers.filter (·.1 != "Cache-Control") else headers
  Fields.put headers name value

/-- The headers that a location sets on its responses. -/
def responseHeaders (d : Directives) : Except Fault (Fields String) := do
  let rule ← match d.expires with
    | some expires => cacheControl expires
    | none => pure none
  let first : Fields String := (rule.map fun value => ("Cache-Control", value)).toList
  return d.addHeaders.foldl (fun headers (name, value) => addHeader headers name value) first

end EdgeRoutes.Http
