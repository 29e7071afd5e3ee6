import EdgeRoutes.Model.Basic

/-! The configuration model as plain data. Absent parts are left out. -/

namespace EdgeRoutes

def Setting.view : Setting → Data
  | .flag b => .bool b
  | .number n => .int n
  | .text s => .text s
  | .list ss => .texts ss

def presentEntry (name : String) (part : Option Data) : Fields Data :=
  (part.map fun data => (name, data)).toList

def flagEntry (name : String) (set : Bool) : Fields Data :=
  if set then [(name, .bool true)] else []

/-- An entry for texts, unless there are none. -/
def textsEntry (name : String) (ss : List String) : Fields Data :=
  if ss.isEmpty then [] else [(name, .texts ss)]

def settingsView (settings : Fields Setting) : Data :=
  .object (settings.map fun (name, s) => (name, s.view))

/-- An entry for settings, unless there are none. -/
def settingsEntry (name : String) (settings : Fields Setting) : Fields Data :=
  if settings.isEmpty then [] else [(name, settingsView settings)]

def portData (port : Option Nat) : Option Data :=
  port.map fun n => .int n

def Listen.view (l : Listen) : Data :=
  .object ([("port", (portData l.port).getD .null)] ++ presentEntry "host" (l.host.map .text) ++
    flagEntry "ssl" l.ssl ++ flagEntry "http2" l.http2 ++
    flagEntry "default_server" l.defaultServer ++ textsEntry "options" l.options)

def Tls.view (t : Tls) : Data :=
  .object (presentEntry "certificate" (t.certificate.map .text) ++
    presentEntry "certificate_key" (t.certificateKey.map .text) ++
    textsEntry "protocols" t.protocols ++ presentEntry "ciphers" (t.ciphers.map .text) ++
    presentEntry "prefer_server_ciphers" (t.preferServerCiphers.map .bool))

def RewriteRule.view (r : RewriteRule) : Data :=
  .object ([("regex", .text r.regex), ("replacement", .text r.replacement)] ++
    textsEntry "flags" (r.flags.map RewriteFlag.token))

def Return.view (r : Return) : Data :=
  .object ([("code", .int r.code)] ++ presentEntry "url" (r.url.map .text) ++
    presentEntry "text" (r.text.map .text))

/-- The fields of a location's directives that are present, under the names of the directives. -/
def Directives.fieldEntries (d : Directives) : Fields Data :=
  presentEntry "proxy_pass" (d.proxyPass.map .text) ++ presentEntry "root" (d.root.map .text) ++
    presentEntry "alias" (d.aliasPath.map .text) ++ presentEntry "expires" (d.expires.map .text) ++
    textsEntry "index" d.index ++ textsEntry "try_files" d.tryFiles ++
    textsEntry "allow" d.allow ++ textsEntry "deny" d.deny ++
    (if d.rewrites.isEmpty then [] else [("rewrite", .list (d.rewrites.map RewriteRule.view))]) ++
    presentEntry "return" (d.answer.map Return.view) ++
    (if d.addHeaders.isEmpty then [] else [("add_header", .textMap d.addHeaders)]) ++
    (if d.proxyHeaders.isEmpty then [] else [("proxy_set_header", .textMap d.proxyHeaders)])

/-- The directives of a location, settings put after the fields. -/
def Directives.entries (d : Directives) : Fields Data :=
  Fields.update d.fieldEntries (d.extra.map fun (name, s) => (name, s.view))

def Location.view (l : Location) : Data :=
  .object ([("path", .text l.path)] ++
    presentEntry "modifier" (l.modifier.map fun m => .text m.token) ++
    [("directives", .object l.directives.entries)])

def Server.view (s : Server) : Data :=
  .object ([("listen", .list (s.listen.map Listen.view)), ("server_name", .texts s.names),
    ("locations", .list (s.locations.map Location.view))] ++
    presentEntry "ssl" (s.tls.map Tls.view) ++ settingsEntry "extra" s.extra)

def UpstreamServer.view (s : UpstreamServer) : Data :=
  .object ([("address", .text s.address)] ++ presentEntry "port" (portData s.port) ++
    presentEntry "weight" (portData s.weight) ++ presentEntry "max_fails" (portData s.maxFails) ++
    presentEntry "fail_timeout" (s.failTimeout.map .text) ++
    flagEntry "backup" s.backup ++ flagEntry "down" s.down)

def Upstream.view (u : Upstream) : Data :=
  .object ([("name", .text u.name), ("servers", .list (u.servers.map UpstreamServer.view)),
    ("method", .text u.method.token)] ++ settingsEntry "extra" u.extra)

def Config.view (c : Config) : Data :=
  .object [("servers", .list (c.servers.map Server.view)),
    ("upstreams", .list (c.upstreams.map Upstream.view)), ("global", settingsView c.globals)]

end EdgeRoutes
