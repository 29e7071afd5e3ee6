import EdgeRoutes.Template.Header

/-! The file around the routing code for small embedded engines. -/

namespace EdgeRoutes.Template

/-- A handler for a runtime whose host provides the network. -/
def minimal : List Piece :=
  header ++
  [
    .lines [
      "",
      "// The host platform passes a request \x7b url, method, headers, body \x7d and a",
      "// platform object: platform.fetch(url, init) performs outbound requests and",
      "// the optional platform.next(request) continues to the platform's default",
      "// handling. Responses are plain \x7b status, statusText, headers, body \x7d objects.",
      "",
      "async function handleRequest(request, platform) \x7b",
      "  const ctx = createContext(request);",
      "  const hostname = ctx.hostname;",
      "  let path = ctx.path;",
      "  let rewritten = false;",
      "  const vars = ctx.vars;",
      ""],
    .whenSet "routing" [
      .value "routing",
      .newline,
      .lines [""]] [],
    .lines [
      "  return createResponse(404, \"Not Found\", null, \x7b\x7d, vars);",
      "\x7d",
      ""]] ++
  variableExpansion ++
  [
    .lines [
      "",
      "function parseUrl(raw) \x7b",
      "  const match = /^(?:([a-zA-Z][a-zA-Z0-9+.-]*):\\/\\/([^\\/?#]*))?([^?#]*)(\\?[^#]*)?/.exec(raw);",
      "  const authority = match[2] || \"\";",
      "  const portMatch = /:(\\d+)$/.exec(authority);",
      "  return \x7b",
      "    scheme: (match[1] || \"http\").toLowerCase(),",
      "    host: portMatch ? authority.slice(0, authority.length - portMatch[0].length) : authority,",
      "    port: portMatch ? portMatch[1] : \"\",",
      "    path: match[3] || \"/\",",
      "    search: match[4] || \"\",",
      "  \x7d;",
      "\x7d",
      "",
      "function headerValue(headers, name) \x7b",
      "  const wanted = name.toLowerCase();",
      "  for (const key in headers) \x7b",
      "    if (key.toLowerCase() === wanted) \x7b",
      "      return headers[key];",
      "    \x7d",
      "  \x7d",
      "  return \"\";",
      "\x7d",
      "",
      "function setHeaderValue(headers, name, value) \x7b",
      "  const wanted = name.toLowerCase();",
      "  for (const key in headers) \x7b",
      "    if (key.toLowerCase() === wanted) \x7b",
      "      delete headers[key];",
      "    \x7d",
      "  \x7d",
      "  headers[name] = value;",
      "\x7d",
      "",
      "function createContext(request) \x7b",
      "  const url = parseUrl(request.url || \"/\");",
      "  const headers = request.headers || \x7b\x7d;",
      "  const hostname = (headerValue(headers, \"host\") || url.host).split(\":\")[0].toLowerCase();",
      "  const remoteAddr = request.remoteAddr || \"\";",
      "  const forwardedFor = headerValue(headers, \"x-forwarded-for\");",
      "  const method = request.method || \"GET\";",
      "  return \x7b",
      "    request: request,",
      "    url: url,",
      "    hostname: hostname,",
      "    path: url.path,",
      "    method: method,",
      "    headers: headers,",
      "    vars: \x7b",
      "      host: hostname,",
      "      uri: url.path,",
      "      request_uri: url.path + url.search,",
      "      args: url.search.slice(1),",
      "      query_string: url.search.slice(1),",
      "      scheme: url.scheme,",
      "      remote_addr: remoteAddr,",
      "      request_method: method,",
      "      proxy_add_x_forwarded_for: forwardedFor ? forwardedFor + \", \" + remoteAddr : remoteAddr,",
      "    \x7d,",
      "  \x7d;",
      "\x7d",
      "",
      "function createResponse(status, statusText, body, headers, vars) \x7b",
      "  const response = \x7b",
      "    status: status,",
      "    statusText: statusText,",
      "    headers: \x7b\x7d,",
      "    body: body === null ? \"\" : expandVars(body, vars),",
      "  \x7d;",
      "  return withHeaders(response, headers, vars);",
      "\x7d",
      "",
      "function redirectResponse(location, status, statusText, headers, vars) \x7b",
      "  const response = createResponse(status, statusText, null, headers, vars);",
      "  setHeaderValue(response.headers, \"Location\", location);",
      "  return response;",
      "\x7d",
      "",
      "function withHeaders(response, headers, vars) \x7b",
      "  if (response === null || response === undefined) \x7b",
      "    return response;",
      "  \x7d",
      "  if (!response.headers) \x7b",
      "    response.headers = \x7b\x7d;",
      "  \x7d",
      "  for (const name in headers) \x7b",
      "    setHeaderValue(response.headers, name, expandVars(headers[name], vars));",
      "  \x7d",
      "  return response;",
      "\x7d",
      "",
      "async function proxyRequest(platform, ctx, path, target, vars) \x7b",
      "  if (!platform || typeof platform.fetch !== \"function\") \x7b",
      "    return createResponse(502, \"Bad Gateway\", \"No network primitive available\", \x7b\x7d, vars);",
      "  \x7d",
      "  let upstreamPath = path;",
      "  if (target.uri !== null) \x7b",
      "    upstreamPath = expandVars(target.uri, vars) + path.slice(target.prefix.length);",
      "  \x7d",
      "  const headers = \x7b\x7d;",
      "  for (const name in ctx.headers) \x7b",
      "    headers[name] = ctx.headers[name];",
      "  \x7d",
      "  setHeaderValue(headers, \"Host\", target.host);",
      "  for (const name in target.headers) \x7b",
      "    setHeaderValue(headers, name, expandVars(target.headers[name], vars));",
      "  \x7d",
      "  return platform.fetch(target.origin + upstreamPath + ctx.url.search, \x7b",
      "    method: ctx.method,",
      "    headers: headers,",
      "    body: ctx.request.body,",
      "  \x7d);",
      "\x7d",
      "",
      "async function passThrough(request, platform, vars) \x7b",
      "  if (platform && typeof platform.next === \"function\") \x7b",
      "    return platform.next(request);",
      "  \x7d",
      "  return createResponse(404, \"Not Found\", null, \x7b\x7d, vars);",
      "\x7d",
      "",
      "if (typeof module !== \"undefined\" && module.exports) \x7b",
      "  module.exports = \x7b handleRequest \x7d;",
      "\x7d else if (typeof globalThis !== \"undefined\") \x7b",
      "  globalThis.handleRequest = handleRequest;",
      "\x7d"]]

end EdgeRoutes.Template
