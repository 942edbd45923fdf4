import OfferRules.Json.Compact
import OfferRules.Value.Payload

/-!
# Requests and answers

A request has a method, a path, headers and a body of bytes; an answer has a status, headers and
a body, which is a document or a text.  The names of headers may be written in any case.

## Main definitions

* `Request`, `Request.header?` — requests and their headers.
* `Body`, `Response` — answers.
* `Response.payload`, `Response.strict` — the answers with a document that may lack a JSON form.
-/

namespace OfferRules.Http

/-! ### Requests -/

/-- A request. -/
structure Request where
  /-- The method. -/
  method : String
  /-- The path, without a query. -/
  path : String
  /-- The headers, by name. -/
  headers : List (String × String) := []
  /-- The body. -/
  body : List UInt8 := []

namespace Request

/-- The path of a target, without its query. -/
def pathOf (target : String) : String := String.ofList (target.toList.takeWhile (· != '?'))

/-- Whether two names of headers are the same. -/
def sameName (a b : String) : Bool := a.toList.map Char.toLower == b.toList.map Char.toLower

/-- The first header of a name. -/
def header? (r : Request) (name : String) : Option String :=
  (r.headers.find? fun h => sameName h.1 name).map (·.2)

end Request

/-! ### Answers -/

/-- The body of an answer. -/
inductive Body where
  /-- A document, whose doubles are all finite. -/
  | document (v : Value)
  /-- A text. -/
  | text (s : String)

/-- An answer. -/
structure Response where
  /-- The status. -/
  status : Nat
  /-- The headers, by names in lower case. -/
  headers : List (String × String) := []
  /-- The body. -/
  body : Body

/-- The name of the header that tells the kind of a body. -/
def contentType : String := "content-type"

namespace Response

/-- The answer with a header set. -/
def withHeader (r : Response) (name value : String) : Response :=
  { r with headers := (r.headers.filter fun h => h.1 != name) ++ [(name, value)] }

/-- The answer with a document. -/
def document (status : Nat) (v : Value) : Response :=
  { status, headers := [(contentType, "application/json")], body := .document v }

/-- The answer with a text of some kind. -/
def ofText (status : Nat) (kind s : String) : Response :=
  { status, headers := [(contentType, kind)], body := .text s }

/-- The answer with a plain text. -/
def plain (status : Nat) (s : String) : Response := ofText status "text/plain; charset=utf-8" s

/-- The answer with the closest JSON form of a value. -/
def payload (v : Value) : Except Fault Response := v.payload.map (document 200)

/-- The answer with a value that JSON must be able to hold. -/
def strict (status : Nat) (v : Value) : Except Fault Response :=
  if v.isFinite then
    (((Json.compact v).string).map fun _ => document status v).mapError .tornText
  else .error .notJson

/-- A value that JSON can hold is sent if there is no surrogate in its document. -/
theorem strict_eq_ok {status : Nat} {v : Value} (hfinite : v.isFinite = true)
    (hwhole : (Json.compact v).isTorn = false) : strict status v = .ok (document status v) := by
  unfold strict
  rw [if_pos hfinite]
  cases h : Json.compact v with
  | whole s => rfl
  | torn before s after =>
    rw [h] at hwhole
    cases hwhole

/-- The answer that says no more than what its status means. -/
def detail (status : Nat) (meaning : String) : Response :=
  document status (.record [("detail", .text meaning)])

/-- The answer where nothing is found. -/
def notFound : Response := detail 404 "Not Found"

/-- The answer where only some methods are allowed. -/
def notAllowed (methods : List String) : Response :=
  (detail 405 "Method Not Allowed").withHeader "allow" (", ".intercalate methods)

/-- The answer that points to another path. -/
def redirect (path : String) : Response :=
  { status := 307, headers := [("location", path)], body := .text "" }

end Response
end OfferRules.Http
