import EventHub.Hub.State

/-!
# Requests to the web

* `HttpResponse.accepted`: an answer of status 400 to 599 is a fault.
* `reasonPhrase`: the standard phrase of a status.
* `post`: a request that has to be accepted.
-/

namespace EventHub

variable {α : Type}

/-- The standard phrases of the statuses that say that a request failed. -/
def reasonPhrases : List (Int × String) :=
  [(400, "Bad Request"), (401, "Unauthorized"), (402, "Payment Required"), (403, "Forbidden"),
   (404, "Not Found"), (405, "Method Not Allowed"), (406, "Not Acceptable"),
   (407, "Proxy Authentication Required"), (408, "Request Timeout"), (409, "Conflict"),
   (410, "Gone"), (411, "Length Required"), (412, "Precondition Failed"),
   (413, "Request Entity Too Large"), (414, "Request-URI Too Long"),
   (415, "Unsupported Media Type"), (416, "Requested Range Not Satisfiable"),
   (417, "Expectation Failed"), (418, "I'm a Teapot"), (421, "Misdirected Request"),
   (422, "Unprocessable Entity"), (423, "Locked"), (424, "Failed Dependency"),
   (425, "Too Early"), (426, "Upgrade Required"), (428, "Precondition Required"),
   (429, "Too Many Requests"), (431, "Request Header Fields Too Large"),
   (451, "Unavailable For Legal Reasons"), (500, "Internal Server Error"),
   (501, "Not Implemented"), (502, "Bad Gateway"), (503, "Service Unavailable"),
   (504, "Gateway Timeout"), (505, "HTTP Version Not Supported"),
   (506, "Variant Also Negotiates"), (507, "Insufficient Storage"), (508, "Loop Detected"),
   (510, "Not Extended"), (511, "Network Authentication Required")]

/-- The standard phrase of a status, empty when there is none. -/
def reasonPhrase (status : Int) : String := (reasonPhrases.lookup status).getD ""

/-- The kind of every fault of a request. -/
def requestFault : FaultKind := .request "RequestException"

/-- Is the answer one that says that the request was accepted? -/
def HttpResponse.accepted (r : HttpResponse) (url : Value) : Except Fault Unit :=
  let refused (side : String) : Except Fault Unit :=
    .error (.raised (.request "HTTPError")
      (s!"{r.status} {side} Error: {reasonPhrase r.status} for url: " ++ url.plain))
  if 400 ≤ r.status && r.status < 500 then refused "Client"
  else if 500 ≤ r.status && r.status < 600 then refused "Server"
  else .ok ()

/-- Makes a request. -/
def request (method : String) (url : Value) (options : Fields) : Task α HttpResponse := do
  Task.contact ((← get).outside.http ⟨method, url, options⟩)

/-- Posts a document, which has to be accepted. -/
def post (url document timeout : Value) : Task α Unit := do
  let r ← request "POST" url [("json", document), ("timeout", timeout)]
  Task.ofExcept (r.accepted url)

/-- The body of an answer: a value where it is JSON, else text. -/
def HttpResponse.content (r : HttpResponse) : Except Fault Value :=
  if occursIn "application/json".toList r.contentType.toList then
    match Json.read r.body with
    | .ok v => .ok v
    | .error stop => .error (.json stop r.body)
  else .ok (.text r.body)

end EventHub
