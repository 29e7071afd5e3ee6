import EdgeRoutes.Template.Header

/-! The file around the routing code of the delivery network handlers. -/

namespace EdgeRoutes.Template

/-- The handlers of the phases of a request. -/
def edgeHook : List Piece :=
  header ++
  [
    .lines [
      "",
      "\"use strict\";",
      "",
      "const ROUTE_HEADER = \"X-Edgeconf-Location\";",
      "const REWRITTEN_HEADER = \"X-Edgeconf-Rewritten\";",
      "",
      "exports.handler = async (event) => \x7b",
      "  const cf = event.Records[0].cf;",
      "  switch (cf.config.eventType) \x7b",
      "    case \"viewer-request\":",
      "      return handleViewerRequest(cf.request);",
      "    case \"origin-request\":",
      "      return handleOriginRequest(cf.request);",
      "    case \"origin-response\":",
      "      return handleOriginResponse(cf.request, cf.response);",
      "    case \"viewer-response\":",
      "      return handleViewerResponse(cf.response);",
      "    default:",
      "      return cf.request;",
      "  \x7d",
      "\x7d;",
      "",
      "function handleViewerRequest(request) \x7b",
      "  const hostname = hostOf(request);",
      "  let path = request.uri;",
      "  let rewritten = false;",
      "  const vars = requestVars(request);",
      ""],
    .whenSet "viewer_request" [
      .value "viewer_request",
      .newline,
      .lines [""]] [],
    .lines [
      "  return request;",
      "\x7d",
      "",
      "function handleOriginRequest(request) \x7b",
      "  const route = headerOf(request, ROUTE_HEADER);",
      "  const rewritten = headerOf(request, REWRITTEN_HEADER) === \"1\";",
      "  const path = request.uri;",
      "  const vars = requestVars(request);",
      ""],
    .whenSet "origin_request" [
      .value "origin_request",
      .newline,
      .lines [""]] [],
    .lines [
      "  return request;",
      "\x7d",
      "",
      "function handleOriginResponse(request, response) \x7b",
      "  const route = headerOf(request, ROUTE_HEADER);",
      "  const vars = requestVars(request);",
      ""],
    .whenSet "origin_response" [
      .value "origin_response",
      .newline,
      .lines [""]] [],
    .lines [
      "  return response;",
      "\x7d",
      "",
      "function handleViewerResponse(response) \x7b",
      "  return response;",
      "\x7d",
      ""]] ++
  variableExpansion ++
  [
    .lines [
      "",
      "function hostOf(request) \x7b",
      "  const host = request.headers.host;",
      "  return host && host.length > 0 ? host[0].value.split(\":\")[0].toLowerCase() : \"\";",
      "\x7d",
      "",
      "function requestVars(request) \x7b",
      "  const querystring = request.querystring || \"\";",
      "  const remoteAddr = request.clientIp || \"\";",
      "  const forwardedFor = request.headers[\"x-forwarded-for\"];",
      "  return \x7b",
      "    host: hostOf(request),",
      "    uri: request.uri,",
      "    request_uri: request.uri + (querystring ? \"?\" + querystring : \"\"),",
      "    args: querystring,",
      "    query_string: querystring,",
      "    scheme: \"https\",",
      "    remote_addr: remoteAddr,",
      "    request_method: request.method,",
      "    proxy_add_x_forwarded_for: forwardedFor ? forwardedFor[0].value + \", \" + remoteAddr : remoteAddr,",
      "  \x7d;",
      "\x7d",
      "",
      "function headerOf(request, name) \x7b",
      "  const values = request.headers[name.toLowerCase()];",
      "  return values && values.length > 0 ? values[0].value : \"\";",
      "\x7d",
      "",
      "function setHeader(headers, name, value) \x7b",
      "  headers[name.toLowerCase()] = [\x7b key: name, value: value \x7d];",
      "\x7d",
      "",
      "// Records the selected location for the origin phases and hands the request on.",
      "function forwardRequest(request, path, rewritten, route) \x7b",
      "  setHeader(request.headers, ROUTE_HEADER, route);",
      "  if (rewritten) \x7b",
      "    setHeader(request.headers, REWRITTEN_HEADER, \"1\");",
      "  \x7d",
      "  request.uri = path;",
      "  return request;",
      "\x7d",
      "",
      "function statusResponse(status, statusDescription, body, headers, vars) \x7b",
      "  const response = \x7b",
      "    status: String(status),",
      "    statusDescription: statusDescription,",
      "    headers: \x7b\x7d,",
      "  \x7d;",
      "  if (body !== null) \x7b",
      "    response.body = expandVars(body, vars);",
      "  \x7d",
      "  for (const [name, value] of Object.entries(headers)) \x7b",
      "    setHeader(response.headers, name, expandVars(value, vars));",
      "  \x7d",
      "  return response;",
      "\x7d",
      "",
      "function redirectResponse(location, status, statusDescription, headers, vars) \x7b",
      "  const response = statusResponse(status, statusDescription, null, headers, vars);",
      "  setHeader(response.headers, \"Location\", location);",
      "  return response;",
      "\x7d"]]

end EdgeRoutes.Template
