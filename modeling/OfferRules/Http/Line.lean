import OfferRules.Http.Message
import OfferRules.Json.Reader

/-!
# Requests and answers on lines

Where no network is at hand, a request is an object on a line, with its method, its target, its
headers and the text of its body, and so is an answer, with its status, its headers and its body.

## Main definitions

* `Request.ofLine?` — the request on a line.
* `Response.line` — the line of an answer.
-/

namespace OfferRules.Http

/-- A text under a key of an object. -/
def textUnder (v : Value) (key default : String) : String :=
  match v.get? key with
  | some (.text (.whole s)) => s
  | _ => default

/-- The entries whose keys and values are both texts. -/
def textEntries : Option Value → List (String × String)
  | some (.map es) => es.filterMap fun e => match e with
    | (.text (.whole name), .text (.whole value)) => some (name, value)
    | _ => none
  | _ => []

/-- The request on a line, if the line is an object. -/
def Request.ofLine? (line : String) : Option Request :=
  (Json.read? (line : Text).points).bind fun v =>
    if v.isMap then
      some { method := textUnder v "method" "GET"
             path := pathOf (textUnder v "target" "/")
             headers := textEntries (v.get? "headers")
             body := (textUnder v "body" "").toUTF8.toList }
    else none

/-- The line of an answer. -/
def Response.line (r : Response) : Except Fault String :=
  Json.write (.record [("status", .int r.status),
    ("headers", .record (r.headers.map fun h => (h.1, .text h.2))),
    ("body", match r.body with
      | .document v => v
      | .text s => .text s)])

end OfferRules.Http
