import Formwork.Value.Basic

/-!
# Requests and responses

A request names a method and a target and may bring a document. A response has a status, and a
document or a text.
-/

namespace Formwork.Http

structure Request where
  method : String
  target : String
  body : Option Value

/-- A letter of a method in capitals. A long s is one too, alone or joined with a t. -/
def capitals (c : Char) : List Char :=
  if c == 'ſ' then ['S']
  else if c == 'ﬅ' || c == 'ﬆ' then ['S', 'T']
  else [c.toUpper]

/-- The method in capitals, which is how methods are told apart. -/
def Request.plainMethod (r : Request) : String := String.ofList (r.method.toList.flatMap capitals)

inductive Body where
  | document (v : Value)
  | text (s : String)

structure Response where
  status : Nat
  body : Body

/-- A document of one entry. -/
def entry (key : String) (v : Value) : Value := .object [(key, v)]

def Response.json (status : Nat) (v : Value) : Response := ⟨status, .document v⟩

/-- A response that tells what went wrong. -/
def Response.detail (status : Nat) (v : Value) : Response := json status (entry "detail" v)

/-- The response to a request that the server failed to answer. -/
def Response.failure : Response := ⟨500, .text "Internal Server Error"⟩

/-- What a service offers to its clients. -/
inductive Endpoint where
  | compile
  | validate
  | visibility
  | jsonSchema
  | cacheStats
  | clearCache
  | metrics
  | resetMetrics
  | benchmark
  | health
deriving DecidableEq

namespace Endpoint

def all : List Endpoint :=
  [compile, validate, visibility, jsonSchema, cacheStats, clearCache, metrics, resetMetrics,
    benchmark, health]

def path : Endpoint → String
  | compile => "/api/compile"
  | validate => "/api/validate"
  | visibility => "/api/visibility"
  | jsonSchema => "/api/json-schema"
  | cacheStats => "/api/cache/stats"
  | clearCache => "/api/cache/clear"
  | metrics => "/api/metrics"
  | resetMetrics => "/api/metrics/reset"
  | benchmark => "/api/benchmark"
  | health => "/api/health"

def method : Endpoint → String
  | cacheStats | metrics | health => "GET"
  | _ => "POST"

/-- The endpoint at a path. A line end behind the path does not count. -/
def at? (path : List Char) : Option Endpoint :=
  all.find? fun e => e.path.toList == path || e.path.toList ++ ['\n'] == path

/-- The endpoint at a path, or at the path without the slashes at its end. -/
def find? (path : List Char) : Option Endpoint :=
  (at? path).or (at? (path.reverse.dropWhile (· == '/')).reverse)

end Endpoint

end Formwork.Http
