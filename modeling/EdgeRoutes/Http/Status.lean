/-! Status codes and their phrases. -/

namespace EdgeRoutes.Http

/-- The phrases of the codes in use. -/
def phrases : List (Int × String) :=
  [(200, "OK"), (201, "Created"), (204, "No Content"), (301, "Moved Permanently"), (302, "Found"),
   (303, "See Other"), (304, "Not Modified"), (307, "Temporary Redirect"),
   (308, "Permanent Redirect"), (400, "Bad Request"), (401, "Unauthorized"), (403, "Forbidden"),
   (404, "Not Found"), (405, "Method Not Allowed"), (410, "Gone"), (429, "Too Many Requests"),
   (444, "No Response"), (500, "Internal Server Error"), (501, "Not Implemented"),
   (502, "Bad Gateway"), (503, "Service Unavailable"), (504, "Gateway Timeout")]

def phrase (code : Int) : String :=
  ((phrases.find? (·.1 == code)).map (·.2)).getD "Unknown"

end EdgeRoutes.Http
