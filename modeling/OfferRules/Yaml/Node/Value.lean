import OfferRules.Yaml.Atom
import OfferRules.Yaml.Node

/-!
# The values of nodes

Values are made level by level: first the scalars of one level with the forms of its
collections, then the contents of these collections.  So of several problems the one of the
uppermost level counts, and on one level the first one.

A mapping may have keys under which other mappings are merged into it.  Their entries come
first, and its own entries override them.

## Main definitions

* `Yaml.Late` — an outcome whose problem knows the level on which it arises.
* `Yaml.Node.ownEntries` — the entries of a mapping after the merges.
* `Yaml.Node.value` — the value of a node.
-/

namespace OfferRules.Yaml

/-! ### Problems by level -/

/-- An outcome whose problem knows how many levels down it arises. -/
abbrev Late (α : Type) := Except (Nat × Problem) α

namespace Late

variable {α β : Type}

/-- A problem on the present level. -/
def here : Except Problem α → Late α
  | .ok a => .ok a
  | .error p => .error (0, p)

/-- An outcome one level further down. -/
def below : Late α → Late α
  | .ok a => .ok a
  | .error (n, p) => .error (n + 1, p)

/-- Two outcomes side by side: of two problems the upper one, or the first. -/
def both (a : Late α) (b : Late β) : Late (α × β) :=
  match a, b with
  | .ok a, .ok b => .ok (a, b)
  | .error p, .ok _ => .error p
  | .ok _, .error q => .error q
  | .error p, .error q => .error (if q.1 < p.1 then q else p)

/-- Outcomes side by side. -/
def all : List (Late α) → Late (List α)
  | [] => .ok []
  | a :: rest => (both a (all rest)).map fun p => p.1 :: p.2

end Late

/-! ### Merging -/

namespace Node

mutual

/-- The entries of a mapping after the merges: those merged in, then its own. -/
def ownEntries : Node → Except Problem (List (Node × Node))
  | .map _ entries => (mergedEntries entries).map fun p => p.1 ++ p.2
  | _ => defect .merge
termination_by structural n => n

/-- The entries merged in and the other entries of a mapping. -/
def mergedEntries : List (Node × Node) →
    Except Problem (List (Node × Node) × List (Node × Node))
  | [] => .ok ([], [])
  | (k, v) :: rest =>
    match k.tag with
    | .merge =>
      match mergeSource v with
      | .error p => .error p
      | .ok found => (mergedEntries rest).map fun p => (found ++ p.1, p.2)
    | .value =>
      match k with
      | .scalar _ text => (mergedEntries rest).map fun p => (p.1, (.scalar .str text, v) :: p.2)
      | k => (mergedEntries rest).map fun p => (p.1, (k, v) :: p.2)
    | _ => (mergedEntries rest).map fun p => (p.1, (k, v) :: p.2)
termination_by structural es => es

/-- The entries of a node that is merged in: a mapping, or a sequence of mappings, of which the
first ones override the others. -/
def mergeSource : Node → Except Problem (List (Node × Node))
  | .map _ entries => (mergedEntries entries).map fun p => p.1 ++ p.2
  | .seq _ items => mergeItems items
  | .scalar _ _ => defect .merge
termination_by structural n => n

/-- The entries of mappings, those of the last one first. -/
def mergeItems : List Node → Except Problem (List (Node × Node))
  | [] => .ok []
  | n :: rest =>
    match ownEntries n with
    | .error p => .error p
    | .ok found => (mergeItems rest).map fun others => others ++ found
termination_by structural ns => ns

end

/-! ### Values -/

/-- The text of the scalar that a node stands for: a mapping may have one under a key of its
own. -/
def scalarText : Nat → Node → Except Problem Text
  | _, .scalar _ text => .ok text
  | fuel + 1, .map _ entries =>
    match entries.find? fun e => e.1.tag == .value with
    | some e => scalarText fuel e.2
    | none => defect .contentForm
  | _, _ => defect .contentForm

/-- Whether a tag is one of collections. -/
def isCollectionTag : Tag → Bool
  | .seq | .map | .set | .omap | .pairs => true
  | _ => false

/-- The value of a node that stands for a scalar of some text.  A mapping that has a text does for a
scalar, but not for a date or a reading, whose form its own content is matched with. -/
def atomOfText (n : Node) (text : Text) : Except Problem Atom :=
  match n with
  | .map .timestamp _ => .error (.fault .noText)
  | n => Yaml.atom n.tag text

/-- The value of a node that is no collection. -/
def atom (n : Node) : Except Problem Atom :=
  if n.tag matches .other | .merge | .value then defect .unknownTag
  else do
    let text ← scalarText n.depth n
    n.atomOfText text

/-- A key of a mapping. -/
def key (n : Node) : Except Problem Atom :=
  if isCollectionTag n.tag then defect .collectionKey else n.atom

/-- The value of a node, by a bound on the number of its levels. -/
def valueWithin : Nat → Node → Late Value
  | 0, _ => .error (0, .defect .contentForm)
  | fuel + 1, n =>
    let entries (make : List (Atom × Value) → Value) : Late Value :=
      match n with
      | .map _ _ =>
        match n.ownEntries with
        | .error p => .error (0, p)
        | .ok es =>
          (Late.all (es.map fun e => Late.both (Late.here e.1.key) (valueWithin fuel e.2))).map make
      | _ => Late.here (defect .contentForm)
    match n.tag with
    | .seq => Late.below <|
      match n with
      | .seq _ items => (Late.all (items.map (valueWithin fuel))).map .list
      | _ => Late.here (defect .contentForm)
    | .map => Late.below (entries fun es => .map (Entries.ofList es))
    | .set => Late.below (entries fun es => .set (distinctAtoms (es.map (·.1))))
    | .omap | .pairs => Late.below <|
      match n with
      | .seq _ items =>
        (Late.all (items.map fun
          | .map _ [(k, v)] => Late.both (valueWithin fuel k) (valueWithin fuel v)
          | _ => Late.here (defect .contentForm))).map fun ps =>
            .list (ps.map fun p => .pair p.1 p.2)
      | _ => Late.here (defect .contentForm)
    | _ => (Late.here n.atom).map .atom

/-- The value of a node. -/
def value (n : Node) : Except Problem Value :=
  match valueWithin n.depth n with
  | .ok v => .ok v
  | .error (_, p) => .error p

end Node
end OfferRules.Yaml
