import OfferRules.Http.Message

/-!
# Requests across origins

A page of another origin may read answers only where they say so.  Before some requests a browser
asks for leave; such a question is answered here and goes to no endpoint.

## Main definitions

* `Origins` — which origins may read answers.
* `Origins.preflight?` — the answer to a question for leave.
* `Origins.decorate` — an answer that says who may read it.
-/

namespace OfferRules.Http

/-- Which origins may read answers. -/
inductive Origins where
  /-- All. -/
  | all
  /-- None but the own. -/
  | own
deriving DecidableEq, Repr

namespace Origins

/-- The methods for which leave is given. -/
def methods : List String := ["DELETE", "GET", "HEAD", "OPTIONS", "PATCH", "POST", "PUT", "QUERY"]

/-- The headers of a question for leave on which the answer depends. -/
def dependencies : String :=
  "Origin, Access-Control-Request-Method, Access-Control-Request-Headers, " ++
    "Access-Control-Request-Private-Network"

/-- The headers that tell an origin that it may read an answer, with its secrets. -/
def leave (o : Origins) (origin : String) : List (String × String) :=
  ("access-control-allow-credentials", "true") ::
    if o = .all then [("access-control-allow-origin", origin)] else []

/-- Why leave is not given. -/
def objections (o : Origins) (method : String) (r : Request) : List String :=
  (if o = .all then [] else ["origin"]) ++
    (if methods.contains method then [] else ["method"]) ++
    (if (r.header? "access-control-request-private-network").isSome then ["private-network"]
      else [])

/-- The headers of the answer to a question for leave. -/
def terms (o : Origins) (origin : String) (r : Request) : List (String × String) :=
  o.leave origin ++
    [("vary", dependencies), ("access-control-allow-methods", ", ".intercalate methods),
      ("access-control-max-age", "600")] ++
    match r.header? "access-control-request-headers" with
    | some names => [("access-control-allow-headers", names)]
    | none => []

/-- The answer to a question for leave, if the request is one. -/
def preflight? (o : Origins) (r : Request) : Option Response :=
  match r.header? "origin", r.header? "access-control-request-method" with
  | some origin, some method =>
    let answer := match o.objections method r with
      | [] => Response.plain 200 "OK"
      | found => Response.plain 400 ("Disallowed CORS " ++ ", ".intercalate found)
    if r.method = "OPTIONS" then
      some { answer with headers := answer.headers ++ o.terms origin r }
    else none
  | _, _ => none

/-- An answer that says who may read it. -/
def decorate (o : Origins) (r : Request) (answer : Response) : Response :=
  { answer with headers := answer.headers ++ ("vary", "Origin") ::
    match r.header? "origin" with
      | some origin => o.leave origin
      | none => [] }

end Origins
end OfferRules.Http
