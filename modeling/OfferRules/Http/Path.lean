/-!
# Paths of endpoints

An endpoint is found under one path, or under all paths that add one part to a path.  A path
that differs from that of an endpoint by slashes at its end points to it.

## Main definitions

* `PathForm`, `PathForm.parameter?` — the paths of an endpoint.
* `otherForm` — a path without its slashes at the end, or with one.
-/

namespace OfferRules.Http

/-- The paths of an endpoint. -/
inductive PathForm where
  /-- One path. -/
  | only (path : String)
  /-- The paths that add one part, which has no slash. -/
  | below (start : String)
deriving DecidableEq, Repr

namespace PathForm

/-- The part of a path that is not fixed, if the path has the form. -/
def parameter? : PathForm → String → Option String
  | only fixed, path => if path = fixed then some "" else none
  | below start, path =>
    let part := path.toList.drop start.length
    if path.toList.take start.length = start.toList ∧ part ≠ [] ∧ '/' ∉ part then
      some (String.ofList part)
    else none

/-- A form as text, with a name in braces for the part that is not fixed. -/
def text : PathForm → String
  | only fixed => fixed
  | below start => start ++ "\x7bname\x7d"

/-- Whether a path has the form. -/
def admits (form : PathForm) (path : String) : Bool := (form.parameter? path).isSome

end PathForm

/-- A path without its slashes at the end, or with one if it has none. -/
def otherForm (path : String) : String :=
  let reversed := path.toList.reverse
  match reversed with
  | '/' :: _ => String.ofList (reversed.dropWhile (· == '/')).reverse
  | _ => path ++ "/"

end OfferRules.Http
