import EdgeRoutes.Fault
import EdgeRoutes.Text.Blank
import EdgeRoutes.Text.LowerCase

/-! Proxy addresses. The strict reading splits an address into the parts of an origin; the lenient one only separates the
origin from the part after it. -/

namespace EdgeRoutes.Http

open Number

/-- What keeps an address from naming an origin. -/
inductive UrlDefect where
  | notHttp
  | noHost
  | variableHost
  | credentials
  | openBracket
  | badPort (port : String)
  deriving DecidableEq

def UrlDefect.message : UrlDefect → String
  | .notHttp => "expected an http:// or https:// URL"
  | .noHost => "missing host"
  | .variableHost => "host is only known at request time"
  | .credentials => "credentials in upstream URL are not supported"
  | .openBracket => "unterminated IPv6 address"
  | .badPort port => "invalid port '" ++ port ++ "'"

/-- An address split into the parts of an origin. -/
structure ProxyTarget where
  url : String
  scheme : String
  host : String
  port : Nat
  /-- What follows the origin; it replaces the matched part of a request's path. -/
  uri : Option String
  deriving DecidableEq

def standardPort (scheme : String) : Except Fault Nat :=
  if scheme = "http" then .ok 80
  else if scheme = "https" then .ok 443
  else .error (.unknownScheme scheme)

namespace ProxyTarget

def hasStandardPort (t : ProxyTarget) : Except Fault Bool :=
  (standardPort t.scheme).map (· == t.port)

/-- The origin; a standard port is left out. -/
def origin (t : ProxyTarget) : Except Fault String := do
  let base := t.scheme ++ "://" ++ t.host
  return if ← t.hasStandardPort then base else base ++ ":" ++ toString t.port

/-- The scheme, and what follows the mark after it. Letter case does not matter, and the long s counts as an s. -/
def scheme? (cs : List Char) : Option (List Char × List Char) :=
  match cs with
  | h :: t₁ :: t₂ :: p :: rest =>
    if [h, t₁, t₂, p].map Char.toLower = ['h', 't', 't', 'p'] then
      match Text.after? "://".toList rest with
      | some body => some ([h, t₁, t₂, p], body)
      | none =>
        match rest with
        | s :: rest =>
          if s = 's' ∨ s = 'S' ∨ s = '\u017f' then
            (Text.after? "://".toList rest).map fun body => ([h, t₁, t₂, p, s], body)
          else none
        | [] => none
    else none
  | _ => none

/-- The characters that end the authority of an address. -/
def endsAuthority (c : Char) : Bool := c == '/' || c == '?' || c == '#'

/-- Splits an authority into host and port text. -/
def splitAuthority (authority : List Char) : Except UrlDefect (List Char × List Char) :=
  match authority with
  | '[' :: _ =>
    match Text.cut? [']'] authority with
    | none => .error .openBracket
    | some (before, rest) =>
      .ok (before ++ [']'], match rest with
        | ':' :: port => port
        | _ => [])
  | _ =>
    match Text.cutLast? ':' authority with
    | some (host, port) => .ok (host, port)
    | none => .ok (authority, [])

/-- The host and port text of an authority that names a host. -/
def hostAndPort (authority : List Char) : Except UrlDefect (List Char × List Char) := do
  if authority.isEmpty then throw .noHost
  if authority.contains '$' then throw .variableHost
  if authority.contains '@' then throw .credentials
  let (host, port) ← splitAuthority authority
  if host.isEmpty then throw .noHost
  return (host, port)

/-- The port that a text denotes, if it is one. -/
def portOf (text : String) : Except Fault (Option Nat) :=
  if Text.allDigits text then do
    let n ← (readNatural text).mapError .integer
    return if 0 < n ∧ n < 65536 then some n else none
  else .ok none

/-- Reads an address strictly. -/
def parse (url : String) : Except Fault ProxyTarget :=
  let refuse {α : Type} (d : UrlDefect) : Except Fault α := .error (.upstreamUrl url d.message)
  match scheme? (Text.trim url).toList with
  | none => refuse .notHttp
  | some (scheme, body) =>
    let authority := body.takeWhile (!endsAuthority ·)
    let rest := body.dropWhile (!endsAuthority ·)
    if rest.contains '\n' then refuse .notHttp
    else
      match hostAndPort authority with
      | .error d => refuse d
      | .ok (host, portText) => do
        let scheme := Text.lower (String.ofList scheme)
        let portText := String.ofList portText
        let port ←
          if portText.isEmpty then standardPort scheme
          else
            match ← portOf portText with
            | some port => pure port
            | none => refuse (.badPort portText)
        return {
          url, scheme, port
          host := Text.lower (String.ofList host)
          uri := if rest.isEmpty then none else some (String.ofList rest) }

end ProxyTarget

/-- Separates the origin of an address from the part that starts with the slash after it. Text that is no address
comes back whole. -/
def splitProxyPass (url : String) : String × Option String :=
  match Text.cut? "://".toList url.toList with
  | none => (url, none)
  | some (scheme, rest) =>
    let host := rest.takeWhile (· != '/')
    let uri := rest.dropWhile (· != '/')
    if uri.isEmpty then (url, none)
    else (String.ofList (scheme ++ "://".toList ++ host), some (String.ofList uri))

end EdgeRoutes.Http
