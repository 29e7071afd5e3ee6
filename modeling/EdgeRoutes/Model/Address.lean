import EdgeRoutes.Text.Cut
import EdgeRoutes.Text.Digit

/-! Splitting addresses into host and port. -/

namespace EdgeRoutes

/-- Splits `host:port`, `[v6]:port`, `port` or `host`. The host is absent when the address is a port alone, the port
text is empty when the address has no port. -/
def splitAddress (address : String) : Option String × String :=
  let cs := address.toList
  match cs with
  | '[' :: _ =>
    match Text.cut? [']'] cs with
    | none => (some address, "")
    | some (before, rest) =>
      let port := match rest with
        | ':' :: port => port
        | _ => []
      (some (String.ofList (before ++ [']'])), String.ofList port)
  | _ =>
    if Text.allDigits address then (none, address)
    else
      match Text.cutLast? ':' cs with
      | some (host, port) => (some (String.ofList host), String.ofList port)
      | none => (some address, "")

end EdgeRoutes
