import Formwork.Form.Visibility
import Formwork.Http.Payload
import Formwork.Http.Target
import Formwork.Service.Basic

/-!
# The server

A server answers requests with a service, if it has one. Issues of a form are the client's matter;
whatever else goes wrong inside is told only as a failure.
-/

namespace Formwork.Http

/-! ## Documents of answers -/

def textList (texts : List String) : Value := .list (texts.map .text)

def issueValue (i : Issue) : Value :=
  .object [("field", .text i.place), ("code", .text i.code), ("message", .text i.message)]

/-- The response to a request about a form that is refused. -/
def formErrorResponse : FormError → Response
  | .invalid issues => .detail 422 (.object [
      ("message", .text "Invalid form metadata"),
      ("issues", .list (issues.map issueValue))])
  | .circular cycle issues => .detail 422 (.object [
      ("message", .text "Circular condition reference"),
      ("cycle", textList cycle),
      ("issues", .list (issues.map issueValue))])

def errorResponse : ServiceError → Response
  | .form e => formErrorResponse e
  | _ => .failure

/-- A document as an answer, in its JSON form. What has no such form, or has an integer that is too
long to be written, is a failure. The levels that belong to every answer of the kind do not count. -/
def answer (outerLevels : Nat) (v : Value) : Response :=
  match v.noJson? (Value.mostLevels + outerLevels) with
  | none => if v.hasShortIntegers then .json 200 v.toJson else .failure
  | some _ => .failure

def complaintValue (c : Complaint) : Value :=
  .object [("field", .text c.field), ("message", .text c.message), ("code", .text c.code)]

def outcomeValue : Outcome → Value
  | .accepted data =>
    .object [("success", .bool true), ("data", .object data), ("errors", .list [])]
  | .rejected complaints =>
    .object [("success", .bool false), ("data", .null),
      ("errors", .list (complaints.map complaintValue))]

def validatorValue (v : Validator) : Value :=
  .object [("metadata_hash", .text v.hash), ("field_names", textList v.fieldNames)]

def visibilityValue (shown : List (String × Bool)) : Value :=
  entry "visibility" (.object (shown.map fun (id, b) => (id, .bool b)))

def benchmarkValue (w : Surroundings) (b : Benchmark) : Value :=
  .object [
    ("iterations", .int b.rounds),
    ("compilation", b.compilation.toValue),
    ("validation", b.validation.toValue),
    ("memory", .object [("before", .float w.memory), ("after", .float w.memory),
      ("delta", .float Binary64.zero)])]

def memoryEntry (w : Surroundings) : String × Value := ("memory_usage", .float w.memory)

def statusValue (word : String) : Value := entry "status" (.text word)

/-! ## Answering -/

/-- The result of an operation as a response, next to the service afterwards. -/
def respondWith {α : Type} (outerLevels : Nat) (shown : α → Value)
    (r : Except ServiceError α × Service) : Response × Service :=
  match r with
  | (.ok a, s) => (answer outerLevels (shown a), s)
  | (.error e, s) => (errorResponse e, s)

/-- The fields that a client asks the visibility of: those of a form before those of a list. -/
def visibilityResponse (p : VisibilityPayload) : Response :=
  match p.form.map Form.fields <|> p.fields with
  | some fields => answer 2 (visibilityValue (visibility fields p.values))
  | none => .detail 400 (.text "Either 'fields' or 'metadata' is required")

/-- A server, which may lack its service. -/
abbrev Server : Type := Option Service

/-- Lets the service do its part, if there is one. -/
def withService (server : Server) (act : Service → Response × Service) : Response × Server :=
  match server with
  | some s =>
    let (r, s) := act s
    (r, some s)
  | none => (.detail 500 (.text "Server not properly configured"), none)

/-- Whether a body is taken in: an integer that is too long is not read. -/
def isTakenIn (body : Option Value) : Bool := body.all Value.hasShortIntegers

/-- The response to a request whose body is not taken in. -/
def unreadBody : Response := .detail 400 (.text "There was an error parsing the body")

/-- Reads the payload of a request, and lets the service do its part with it. -/
def withPayload {α : Type} (server : Server) (read : List (String × Value) → Reading α)
    (body : Option Value) (act : α → Service → Response × Service) : Response × Server :=
  if isTakenIn body then
    match (readBody read body).toExcept with
    | .ok p => withService server (act p)
    | .error fs => (faultsResponse fs, server)
  else (unreadBody, server)

/-- The answer of an endpoint. -/
def serve (w : Surroundings) (server : Server) (body : Option Value) :
    Endpoint → Response × Server
  | .compile => withPayload server FormPayload.read body fun p s =>
      respondWith 2 validatorValue (s.compile w (.document p.form))
  | .validate => withPayload server SubmissionPayload.read body fun p s =>
      respondWith 2 outcomeValue (s.validate w (.document p.form) p.data)
  | .visibility => withPayload server VisibilityPayload.read body fun p s =>
      (visibilityResponse p, s)
  | .jsonSchema => withPayload server SchemaPayload.read body fun p s =>
      respondWith 1 JsonSchema.toValue (s.jsonSchema (.document p.form) p.title p.strict, s)
  | .benchmark => withPayload server BenchmarkPayload.read body fun p s =>
      respondWith 2 (benchmarkValue w)
        (s.benchmark w (.document p.form) (p.rounds.map fun c => (c.1 : Int)))
  | .cacheStats => withService server fun s =>
      (answer 1 (.object (memoryEntry w :: s.cache.report)), s)
  | .metrics => withService server fun s => (answer 1 (.object (memoryEntry w :: s.report)), s)
  | .health => withService server fun s =>
      (answer 1 (.object [("status", .text "ok"), ("cached_schemas", .int s.cache.size)]), s)
  | .clearCache => withService server fun s => (answer 1 (statusValue "cleared"), s.clearCache)
  | .resetMetrics => withService server fun s => (answer 1 (statusValue "reset"), s.resetMetrics)

/-- The response to a method that an endpoint does not have. -/
def wrongMethod : Response := .detail 405 (.text "Method Not Allowed")

def notFound : Response := .detail 404 (.text "Not Found")

/-- Pages about the server itself, which can only be looked at. -/
def pages : List String := ["/openapi.json", "/docs", "/docs/oauth2-redirect", "/redoc"]

/-- The response at a path that no endpoint has. A page shows nothing but its head. -/
def pageResponse (method : String) (path : List Char) : Response :=
  let plain := (path.reverse.dropWhile (· == '/')).reverse
  if pages.any (·.toList == plain) then
    if method == "GET" || method == "HEAD" then ⟨200, .text ""⟩ else wrongMethod
  else notFound

/-- The response of the endpoint at a path. -/
def respondAt (w : Surroundings) (server : Server) (method : String) (path : List Char)
    (body : Option Value) : Response × Server :=
  match Endpoint.find? path with
  | some e => if e.method == method then serve w server body e else (wrongMethod, server)
  | none => (pageResponse method path, server)

/-- The response to a request, if it has a target. One that asks for no body gets none. -/
def respond (w : Surroundings) (server : Server) (request : Request) :
    Except TargetError (Response × Server) := do
  let method := request.plainMethod
  let (response, server) := match ← readPath request.target with
    | some path => respondAt w server method path request.body
    | none => (notFound, server)
  if method == "HEAD" then return ({ response with body := .text "" }, server)
  else return (response, server)

end Formwork.Http
