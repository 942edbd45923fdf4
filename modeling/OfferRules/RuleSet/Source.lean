import OfferRules.RuleSet.Definition
import OfferRules.Yaml.Document

/-!
# Sources of rule sets

A rule set comes from a document at hand, from a file in YAML, or from something that fails or
refuses.  A file that is missing, that is a directory or that holds no document is refused; what
else goes wrong while a file is read is a fault.

## Main definitions

* `RuleFile`, `RuleFile.read` — a file with its path, and its document.
* `RuleSource`, `RuleSource.read` — a source, and its document.
* `RuleSource.rules` — the rules of a source.
-/

namespace OfferRules

/-- What is found under a path. -/
inductive FileState where
  /-- Nothing. -/
  | missing
  /-- A directory. -/
  | directory
  /-- A file with some bytes. -/
  | bytes (content : List UInt8)

/-- A file of rules. -/
structure RuleFile where
  /-- Its path. -/
  path : String
  /-- What is found there. -/
  state : FileState
  /-- The room that its reader has for collections within one another. -/
  room : Nat := Yaml.usualRoom

/-- The document of a file. -/
def RuleFile.read (f : RuleFile) : Except SourceProblem Value :=
  match f.state with
  | .missing => .error (.refused (.unreadable f.path "there is no such file"))
  | .directory => .error (.refused (.unreadable f.path "it is a directory"))
  | .bytes content =>
    match Yaml.readFile f.room content with
    | .ok v => .ok v
    | .error (.defect d) => .error (.refused (.unreadable f.path d.message))
    | .error (.fault e) => .error (.fault e)

/-- A source of rules. -/
inductive RuleSource where
  /-- A document at hand. -/
  | document (v : Value)
  /-- A file. -/
  | file (f : RuleFile)
  /-- Something that fails. -/
  | failing (cause : Fault)
  /-- Something that refuses. -/
  | refusing (cause : RuleSet.LoadError)

namespace RuleSource

/-- The document of a source. -/
def read : RuleSource → Except SourceProblem Value
  | document v => .ok v
  | file f => f.read
  | failing cause => .error (.fault cause)
  | refusing cause => .error (.refused cause)

/-- The rules of a source. -/
def rules (s : RuleSource) : Except SourceProblem (List Rule) := do
  let v ← s.read
  RuleSet.parse v

end RuleSource
end OfferRules
