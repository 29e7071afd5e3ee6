import EdgeRoutes.Template.Header

/-! The file around the routing code of a middleware. -/

namespace EdgeRoutes.Template

/-- A middleware module. -/
def middleware : List Piece :=
  header ++
  [
    .lines [
      "",
      "import \x7b NextResponse \x7d from \"next/server\";",
      "import type \x7b NextRequest \x7d from \"next/server\";",
      "",
      "export const config = \x7b"],
    .text "  matcher: [",
    .literals "matchers",
    .text "],",
    .newline,
    .lines [
      "\x7d;",
      "",
      "export function middleware(request: NextRequest) \x7b",
      "  const url = request.nextUrl;",
      "  const hostname = (request.headers.get(\"host\") || url.hostname).split(\":\")[0].toLowerCase();",
      "  let path = url.pathname;",
      "  let rewritten = false;",
      "  const vars = requestVars(request);",
      ""],
    .whenSet "routing" [
      .value "routing",
      .newline,
      .lines [""]] [],
    .lines [
      "  return NextResponse.next();",
      "\x7d",
      ""]] ++
  variableExpansion ++
  [
    .lines [
      "",
      "function requestVars(request: NextRequest): Record<string, string> \x7b",
      "  const url = request.nextUrl;",
      "  const remoteAddr = request.headers.get(\"x-real-ip\") || \"\";",
      "  const forwardedFor = request.headers.get(\"x-forwarded-for\");",
      "  return \x7b",
      "    host: url.hostname,",
      "    uri: url.pathname,",
      "    request_uri: url.pathname + url.search,",
      "    args: url.search.slice(1),",
      "    query_string: url.search.slice(1),",
      "    scheme: url.protocol.slice(0, -1),",
      "    remote_addr: remoteAddr,",
      "    request_method: request.method,",
      "    proxy_add_x_forwarded_for: forwardedFor ? forwardedFor + \", \" + remoteAddr : remoteAddr,",
      "  \x7d;",
      "\x7d",
      "",
      "function forwardHeaders(",
      "  request: NextRequest,",
      "  headers: Record<string, string>,",
      "  vars: Record<string, string>,",
      "): Headers \x7b",
      "  const result = new Headers(request.headers);",
      "  for (const [name, value] of Object.entries(headers)) \x7b",
      "    result.set(name, expandVars(value, vars));",
      "  \x7d",
      "  return result;",
      "\x7d",
      "",
      "function withHeaders(",
      "  response: NextResponse,",
      "  headers: Record<string, string>,",
      "  vars: Record<string, string>,",
      "): NextResponse \x7b",
      "  for (const [name, value] of Object.entries(headers)) \x7b",
      "    response.headers.set(name, expandVars(value, vars));",
      "  \x7d",
      "  return response;",
      "\x7d"]]

end EdgeRoutes.Template
