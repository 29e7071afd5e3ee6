import EdgeRoutes.Template.Header

/-! The file around the routing code of a fetch-event script. -/

namespace EdgeRoutes.Template

/-- A script that answers fetch events. -/
def worker : List Piece :=
  header ++
  [
    .lines [
      "",
      "addEventListener(\"fetch\", (event) => \x7b",
      "  event.respondWith(handleRequest(event.request));",
      "\x7d);",
      "",
      "async function handleRequest(request) \x7b",
      "  const url = new URL(request.url);",
      "  const hostname = url.hostname.toLowerCase();",
      "  let path = url.pathname;",
      "  let rewritten = false;",
      "  const vars = requestVars(request, url);",
      ""],
    .whenSet "routing" [
      .value "routing",
      .newline,
      .lines [""]] [],
    .lines [
      "  return new Response(\"Not Found\", \x7b status: 404 \x7d);",
      "\x7d",
      ""]] ++
  variableExpansion ++
  [
    .lines [
      "",
      "function requestVars(request, url) \x7b",
      "  const remoteAddr = request.headers.get(\"CF-Connecting-IP\") || \"\";",
      "  const forwardedFor = request.headers.get(\"X-Forwarded-For\");",
      "  return \x7b",
      "    host: url.hostname,",
      "    uri: url.pathname,",
      "    request_uri: url.pathname + url.search,",
      "    args: url.search.slice(1),",
      "    query_string: url.search.slice(1),",
      "    scheme: url.protocol.slice(0, -1),",
      "    remote_addr: remoteAddr,",
      "    request_method: request.method,",
      "    proxy_add_x_forwarded_for: forwardedFor ? forwardedFor + \", \" + remoteAddr : remoteAddr,",
      "  \x7d;",
      "\x7d",
      "",
      "async function proxyRequest(request, url, path, target, vars) \x7b",
      "  let upstreamPath = path;",
      "  if (target.uri !== null) \x7b",
      "    upstreamPath = expandVars(target.uri, vars) + path.slice(target.prefix.length);",
      "  \x7d",
      "  const upstreamUrl = expandVars(target.upstream, vars) + upstreamPath + url.search;",
      "",
      "  const headers = new Headers(request.headers);",
      "  for (const [name, value] of Object.entries(target.headers)) \x7b",
      "    headers.set(name, expandVars(value, vars));",
      "  \x7d",
      "",
      "  return fetch(upstreamUrl, \x7b",
      "    method: request.method,",
      "    headers,",
      "    body: [\"GET\", \"HEAD\"].includes(request.method) ? null : request.body,",
      "    redirect: \"manual\",",
      "  \x7d);",
      "\x7d",
      "",
      "function withHeaders(response, headers, vars) \x7b",
      "  const names = Object.keys(headers);",
      "  if (names.length === 0) \x7b",
      "    return response;",
      "  \x7d",
      "  const result = new Response(response.body, response);",
      "  for (const name of names) \x7b",
      "    result.headers.set(name, expandVars(headers[name], vars));",
      "  \x7d",
      "  return result;",
      "\x7d",
      "",
      "function redirectResponse(location, status, headers, vars) \x7b",
      "  return withHeaders(new Response(null, \x7b status, headers: \x7b Location: location \x7d \x7d), headers, vars);",
      "\x7d"]]

end EdgeRoutes.Template
