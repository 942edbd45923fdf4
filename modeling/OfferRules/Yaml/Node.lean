import OfferRules.Yaml.Tag

/-!
# Nodes of a document

A document is a tree of scalars, sequences and mappings, each with a tag.  The keys of a mapping
are nodes as well, and aliases have been replaced by the content of their anchors.
-/

namespace OfferRules.Yaml

/-- A node of a document. -/
inductive Node where
  /-- A scalar with its text. -/
  | scalar (tag : Tag) (text : Text)
  /-- A sequence. -/
  | seq (tag : Tag) (items : List Node)
  /-- A mapping. -/
  | map (tag : Tag) (entries : List (Node × Node))

namespace Node

instance : Inhabited Node := ⟨.scalar .null ""⟩

/-- The node of missing content. -/
def empty : Node := .scalar .null ""

/-- The tag of a node. -/
def tag : Node → Tag
  | scalar t _ => t
  | seq t _ => t
  | map t _ => t

mutual

/-- The number of levels of a node. -/
def depth : Node → Nat
  | scalar _ _ => 1
  | seq _ items => depthOfItems items + 1
  | map _ entries => depthOfEntries entries + 1
termination_by structural n => n

/-- The greatest number of levels of some items. -/
def depthOfItems : List Node → Nat
  | [] => 0
  | n :: rest => max (depth n) (depthOfItems rest)
termination_by structural ns => ns

/-- The greatest number of levels of some entries. -/
def depthOfEntries : List (Node × Node) → Nat
  | [] => 0
  | (k, v) :: rest => max (max (depth k) (depth v)) (depthOfEntries rest)
termination_by structural es => es

end

end Node
end OfferRules.Yaml
