import Neighborhood.Metrics.Exposition

/-!
# The metrics endpoint

* `Endpoint.respond` — the answer to one request, by its method and path
-/

namespace Neighborhood

structure Response where
  status : Nat
  contentType : Option String := none
  body : List String := []
deriving DecidableEq

namespace Endpoint

/-- A path up to the question mark. -/
def resource (path : String) : String :=
  String.ofList (path.toList.takeWhile (· ≠ '?'))

/-- The pages by their paths. -/
def page? (m : Metrics) (path : String) : Option Response :=
  match resource path with
  | "/metrics" => some ⟨200, some "text/plain; version=0.0.4", m.exposition⟩
  | "/health" => some ⟨200, some "text/plain", ["ok neighbors=" ++ toString m.neighbors]⟩
  | _ => none

/-- Pages can be read, with or without their bodies, and nothing else be done with them. -/
def respond (m : Metrics) (method path : String) : Response :=
  match page? m path with
  | none => ⟨404, none, []⟩
  | some page =>
    if method = "GET" then page
    else if method = "HEAD" then { page with body := [] }
    else ⟨405, none, []⟩

end Endpoint

end Neighborhood
