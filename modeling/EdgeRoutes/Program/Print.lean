import EdgeRoutes.Http.Status
import EdgeRoutes.Program.Statement
import EdgeRoutes.Target

/-! The text of emitted code. Endings are written in the syntax of the target; everything else is the same for all of
them. -/

namespace EdgeRoutes

open Js

def PathPattern.literal (p : PathPattern) : String :=
  patternLiteral p.source (if p.ignoreCase then "i" else "")

def Substitution.expression (s : Substitution) : String :=
  "path.replace(" ++ s.pattern.literal ++ ", " ++ string s.replacement ++ ")"

def Destination.expression : Destination → String
  | .url text => string text
  | .replaced s => s.expression

/-- The expression for text in which variables are filled in. -/
def expanded (expression : String) : String :=
  "expandVars(" ++ expression ++ ", vars)"

/-- The body where the runtime takes it as it is. -/
def Body.expression : Body → String
  | .none => "null"
  | .template text => expanded (string text)
  | .fixed text => string text

/-- The body where a helper of the emitted code fills the variables in. -/
def Body.literal : Body → String
  | .none => "null"
  | .template text | .fixed text => string text

/-- The replacing text, or null where the path goes on as it is. -/
def UriPart.literal : UriPart → String
  | .keep => "null"
  | .replace uri => string uri
  | .replaceUnlessRewritten uri => "rewritten ? null : " ++ string uri

/-- The path with the matched part replaced. -/
def replacedMount (uri mount : String) : String :=
  expanded (string uri) ++ " + path.slice(" ++ toString mount.length ++ ")"

/-- The path that goes to the upstream. -/
def UriPart.pathExpression (u : UriPart) (mount : String) : String :=
  match u with
  | .keep => "path"
  | .replace uri => replacedMount uri mount
  | .replaceUnlessRewritten uri => "rewritten ? path : " ++ replacedMount uri mount

/-- The statement that sets a header of a request or response. -/
def setHeader (headers name valueExpression : String) : String :=
  "setHeader(" ++ headers ++ ", " ++ string name ++ ", " ++ valueExpression ++ ");"

/-- The statement that returns a response with headers set on it. -/
def returnWithHeaders (response : String) (headers : Fields String) : String :=
  "return withHeaders(" ++ response ++ ", " ++ objectLiteral headers ++ ", vars);"

/-- The statement that returns a response made by a helper. -/
def returnResponse (helper : String) (args : List String) (headers : Fields String) : String :=
  "return " ++ helper ++ "(" ++ Text.joined ", " (args ++ [objectLiteral headers]) ++ ", vars);"

def redirectStatement (target : Target) (url : String) (code : Nat) (headers : Fields String) :
    String :=
  match target with
  | .worker =>
    returnResponse "redirectResponse"
      ["new URL(" ++ expanded url ++ ", request.url).toString()", toString code] headers
  | .middleware =>
    returnWithHeaders
      ("NextResponse.redirect(new URL(" ++ expanded url ++ ", request.url), " ++ toString code ++ ")")
      headers
  | .edgeHook | .minimal =>
    returnResponse "redirectResponse" [expanded url, toString code, string (Http.phrase code)] headers

def respondStatement (target : Target) (code : Nat) (body : Body) (headers : Fields String) :
    String :=
  let constructed (name : String) :=
    returnWithHeaders
      ("new " ++ name ++ "(" ++ body.expression ++ ", \x7b status: " ++ toString code ++ " \x7d)")
      headers
  let helped (helper : String) :=
    returnResponse helper [toString code, string (Http.phrase code), body.literal] headers
  match target with
  | .worker => constructed "Response"
  | .middleware => constructed "NextResponse"
  | .edgeHook => helped "statusResponse"
  | .minimal => helped "createResponse"

/-- The statement that marks the request with its route and hands it on. -/
def forwardStatement (route : Route) : String :=
  "return forwardRequest(request, path, rewritten, " ++ string route.id ++ ");"

/-- A call of the helper that sends the request to an upstream. -/
def proxyCall (opening : String) (upstream : List String) (p : Proxy) (headers : Fields String) :
    Code :=
  Code.block ("const response = await proxyRequest(" ++ opening ++ ", path, \x7b")
      (Code.flat (upstream ++
        ["uri: " ++ p.uri.literal ++ ",",
          "prefix: " ++ string p.mount ++ ",",
          "headers: " ++ objectLiteral p.headers ++ ","]))
      "\x7d, vars);" ++
    Code.flat [returnWithHeaders "response" headers]

def proxyCode (target : Target) (p : Proxy) (route : Route) (headers : Fields String) : Code :=
  match target with
  | .worker => proxyCall "request, url" ["upstream: " ++ string p.origin ++ ","] p headers
  | .middleware =>
    Code.flat
        ["const upstream = new URL(" ++ expanded (string p.origin) ++ ");",
          "upstream.pathname = " ++ p.uri.pathExpression p.mount ++ ";",
          "upstream.search = url.search;"] ++
      Code.block "return withHeaders(NextResponse.rewrite(upstream, \x7b"
        (Code.flat
          ["request: \x7b headers: forwardHeaders(request, " ++ objectLiteral p.headers ++
            ", vars) \x7d,"])
        ("\x7d), " ++ objectLiteral headers ++ ", vars);")
  | .edgeHook => Code.flat [forwardStatement route]
  | .minimal =>
    proxyCall "platform, ctx"
      ["origin: " ++ string p.origin ++ ",", "host: " ++ string p.host ++ ","] p headers

def forwardCode (target : Target) (rewrites : Bool) (route : Route) (headers : Fields String) :
    Code :=
  match target with
  | .worker =>
    Code.flat
      ["const response = await fetch(new Request(new URL(path + url.search, url), request));",
        returnWithHeaders "response" headers]
  | .middleware =>
    let next :=
      if rewrites then "NextResponse.rewrite(new URL(path + url.search, request.url))"
      else "NextResponse.next()"
    Code.flat [returnWithHeaders next headers]
  | .edgeHook => Code.flat [forwardStatement route]
  | .minimal => Code.flat [returnWithHeaders "await passThrough(request, platform, vars)" headers]

/-- The statements that replace the matched part of the path for the network's request. -/
def UriPart.assignment (u : UriPart) (mount : String) : Code :=
  let assign (uri : String) := Code.flat ["request.uri = " ++ replacedMount uri mount ++ ";"]
  match u with
  | .keep => []
  | .replace uri => assign uri
  | .replaceUnlessRewritten uri => Code.block "if (!rewritten) \x7b" (assign uri) "\x7d"

def CustomOrigin.code (o : CustomOrigin) : Code :=
  Code.block "request.origin = \x7b"
      (Code.block "custom: \x7b"
        (Code.flat
          ["domainName: " ++ string o.target.host ++ ",",
            "port: " ++ toString o.target.port ++ ",",
            "protocol: " ++ string o.target.scheme ++ ",",
            "path: \"\",",
            "sslProtocols: [\"TLSv1.2\"],",
            "readTimeout: " ++ toString o.readTimeout ++ ",",
            "keepaliveTimeout: 5,",
            "customHeaders: \x7b\x7d,"])
        "\x7d,")
      "\x7d;" ++
    Code.flat (setHeader "request.headers" "Host" (string o.target.host) ::
      o.headers.map fun (name, value) => setHeader "request.headers" name (expanded (string value))) ++
    o.uri.assignment o.mount ++
    Code.flat ["return request;"]

/-- The code of an ending in the syntax of a target. -/
def Ending.code (target : Target) : Ending → Code
  | .redirect destination code headers =>
    Code.flat [redirectStatement target destination.expression code headers]
  | .respond code body headers => Code.flat [respondStatement target code body headers]
  | .proxy p route headers => proxyCode target p route headers
  | .forward rewrites route headers => forwardCode target rewrites route headers
  | .customOrigin origin => origin.code
  | .passResponse headers =>
    Code.flat
      ((headers.map fun (name, value) =>
        setHeader "response.headers" name (expanded (string value))) ++ ["return response;"])

/-- A comment line, where comments are written. -/
def commentCode (comments : Bool) (text : String) : Code :=
  if comments then Code.flat ["// " ++ text] else []

/-- The three statements that change the path. -/
def Substitution.code (s : Substitution) : Code :=
  Code.flat
    ["rewritten = true;",
      "path = " ++ expanded s.expression ++ ";",
      "vars.uri = path;"]

/-- The line that opens a branch. -/
def PathPattern.opening (p : PathPattern) : String :=
  "if (" ++ p.literal ++ ".test(path)) \x7b"

mutual

def Statement.code (target : Target) (comments : Bool) : Statement → Code
  | .comment text => commentCode comments text
  | .rewrite s => s.code
  | .branch pattern body none =>
    Code.block pattern.opening (Statement.codeAll target comments body) "\x7d"
  | .branch pattern body (some otherwise) =>
    Code.flat [pattern.opening] ++ Code.nested (Statement.codeAll target comments body) ++
      Code.block "\x7d else \x7b" (Statement.codeAll target comments otherwise) "\x7d"
  | .finish ending => ending.code target

def Statement.codeAll (target : Target) (comments : Bool) : List Statement → Code
  | [] => []
  | s :: ss => s.code target comments ++ Statement.codeAll target comments ss

end

/-- A block of statements behind a condition. -/
def guarded (condition : String) (body : Code) : Code :=
  Code.block ("if (" ++ condition ++ ") \x7b") body "\x7d"

def Condition.isNever (c : Condition) : Bool :=
  c.tests == [.constant false] && !c.enclosed

def LocationBlock.code (target : Target) (comments : Bool) (b : LocationBlock) : Code :=
  commentCode comments ("location " ++ commentText b.label) ++
    (if b.condition.isNever then
      commentCode comments "regex could not be translated; this location never matches"
    else []) ++
    guarded (b.condition.render "path") (Statement.codeAll target comments b.body)

def ServerBlock.code (target : Target) (comments : Bool) (b : ServerBlock) : Code :=
  commentCode comments
      ("Server block " ++ toString b.index ++ ": " ++ commentText b.description) ++
    guarded (b.condition.render "hostname") (b.locations.flatMap (LocationBlock.code target comments))

def RouteBlock.code (target : Target) (comments : Bool) (b : RouteBlock) : Code :=
  commentCode comments
      ("Server block " ++ toString b.route.server ++ ", location " ++ commentText b.label) ++
    guarded ("route === " ++ string b.route.id) (Statement.codeAll target comments b.body)

/-- Code in paragraphs, an empty line between neighbours. -/
def paragraphs (codes : List Code) : Code :=
  (codes.intersperse (Code.flat [""])).flatten

def ServerBlock.text (target : Target) (comments : Bool) (blocks : List ServerBlock) (level : Nat) :
    String :=
  (paragraphs (blocks.map (ServerBlock.code target comments))).render level

def RouteBlock.text (target : Target) (comments : Bool) (blocks : List RouteBlock) (level : Nat) :
    String :=
  (paragraphs (blocks.map (RouteBlock.code target comments))).render level

end EdgeRoutes
