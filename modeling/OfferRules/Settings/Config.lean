import OfferRules.Settings.EnvFile
import OfferRules.Text.Lowercase
import OfferRules.Validation.Scalar

/-!
# Settings of services

The settings of a service come from the program, from variables of the environment and from a
file of variables, and what comes first in this order counts.  The names of variables have a
prefix and may be written in any case.  A file may also bind names that are no settings, which
are kept.

## Main definitions

* `Settings.Sources`, `Settings.gather` — the sources of settings, and the settings they give.
* `ServiceConfig`, `PromotionsConfig` — the settings of services.
* `ServiceConfig.read`, `PromotionsConfig.read` — reading them from gathered settings.
-/

namespace OfferRules

/-! ### Gathering -/

namespace Settings

/-- Where settings come from. -/
structure Sources where
  /-- The settings that the program gives. -/
  overrides : Entries := []
  /-- The variables of the environment. -/
  environment : List (String × String) := []
  /-- The content of a file of variables, if there is one. -/
  file : Option String := none

/-- A name in lower case; there are no surrogates in it to be replaced. -/
def lowered (s : String) : String := (Text.lower s).shown

/-- What the names of variables start with, in lower case. -/
def namePrefix : String := "promo_"

/-- Variables with their names in lower case: of equal ones the last counts. -/
def lowerNames (vs : EnvFile.Variables) : EnvFile.Variables :=
  vs.foldl (fun found v => EnvFile.setVariable (lowered v.1) v.2 found) []

/-- The settings of some names among variables. -/
def known (names : List String) (vs : EnvFile.Variables) : Entries :=
  names.filterMap fun name =>
    match vs.lookup (namePrefix ++ name) with
    | some (some value) => some (.text name, .text value)
    | _ => none

/-- A name without the prefix of variables, if it has it. -/
def withoutPrefix? (name : String) : Option String :=
  let start := namePrefix.toList
  if name.toList.take start.length = start then some (String.ofList (name.toList.drop start.length))
  else none

/-- Adds what a file binds that is no setting: names without the prefix are kept as they are,
unless they are those of settings. -/
def addUnknown (names : List String) (found : Entries) (v : String × Option String) : Entries :=
  match v with
  | (name, some value) =>
    let isKnown := (Entries.get? (.text name) found).isSome || names.contains name ||
      names.any fun n => namePrefix ++ n == name
    if value = "" || isKnown then found
    else Entries.insert (.text ((withoutPrefix? name).getD name)) (.text value) found
  | (_, none) => found

/-- The settings that a file of variables gives. -/
def ofFile (names : List String) (environment : List (String × String)) (file : String) :
    Entries :=
  let vs := lowerNames (EnvFile.read environment file)
  vs.foldl (addUnknown names) (known names vs)

/-- The settings of some names, and others, that sources give. -/
def gather (names : List String) (s : Sources) : Entries :=
  let environment := lowerNames (s.environment.map fun v => (v.1, some v.2))
  let file := match s.file with
    | some text => ofFile names s.environment text
    | none => []
  (file.override (known names environment)).override s.overrides

end Settings

/-! ### Services -/

/-- The settings that every service has. -/
structure ServiceConfig where
  /-- The environment in which the service runs. -/
  env : String
  /-- The least level of its log. -/
  logLevel : String
  /-- Its name. -/
  serviceName : String
  /-- Its port. -/
  port : Int
  /-- Its host. -/
  host : String
  /-- What else was set. -/
  extras : Entries

/-- The file of rules. -/
inductive RulesPath where
  /-- The one that comes with the service. -/
  | standard
  /-- The one under a path. -/
  | path (p : String)
deriving DecidableEq, Repr

/-- The settings of the service of promotions. -/
structure PromotionsConfig where
  /-- The settings that every service has. -/
  service : ServiceConfig
  /-- The file of rules. -/
  rulesPath : RulesPath
  /-- The name of the strategy. -/
  strategy : String
  /-- The name of the gate between groups of players. -/
  gate : String
  /-- The number of buckets of this gate. -/
  bucketCount : Int

/-- The names of the settings that every service has. -/
def ServiceConfig.names : List String := ["env", "log_level", "service_name", "port", "host"]

/-- The names of the settings of the service of promotions. -/
def PromotionsConfig.names : List String :=
  ServiceConfig.names ++ ["rules_file", "selection_strategy", "ab_gate", "ab_bucket_count"]

/-- The entries that are no settings of some names. -/
def extrasOf (names : List String) (es : Entries) : Entries :=
  es.filter fun e => match e.1 with
    | .text (.whole name) => !names.contains name
    | _ => true

/-- Reads an entry that a service may have by itself. -/
def readOwn {α : Type} (name : Text) (own : Option α) (read : Value → Checked α)
    (es : Entries) : Checked α :=
  match own with
  | some a => Field.optional [name] a read es
  | none => Field.required [name] read es

/-- Reads the settings of a service that may have a name and a port by itself. -/
def ServiceConfig.read (names : List String) (ownName : Option String) (ownPort : Option Int)
    (es : Entries) : Checked ServiceConfig :=
  let make (env logLevel serviceName : String) (port : Int) (host : String) : ServiceConfig :=
    { env, logLevel, serviceName, port, host, extras := extrasOf names es }
  Checked.ap (Checked.ap (Checked.ap (Checked.ap
    ((Field.optional ["env"] "local" readString es).map make)
    (Field.optional ["log_level"] "info" readString es))
    (readOwn "service_name" ownName readString es))
    (readOwn "port" ownPort readInteger es))
    (Field.optional ["host"] "0.0.0.0" readString es)

/-! ### Paths -/

/-- A text cut at each slash. -/
def atSlashes (cs : List Char) : List (List Char) :=
  cs.foldr (fun c parts => match parts with
    | part :: rest => if c = '/' then [] :: part :: rest else (c :: part) :: rest
    | [] => []) [[]]

/-- A path in its shortest form: empty parts and single points are left out.  Two slashes in
front are kept. -/
def cleanPath (s : String) : String :=
  let cs := s.toList
  let slashes := (cs.takeWhile (· == '/')).length
  let root := if slashes = 0 then "" else if slashes = 2 then "//" else "/"
  let parts := (atSlashes cs).filter fun part => part ≠ [] && part ≠ ['.']
  let path := root ++ "/".intercalate (parts.map String.ofList)
  if path = "" then "." else path

/-- Reads the path of a file of rules. -/
def readPath : Value → Checked RulesPath
  | .text (.whole s) => .ok (.path (cleanPath s))
  | _ => .fail .notPath

/-! ### Promotions -/

/-- Reads a whole number of at least some other. -/
def readAtLeast (least : Int) (v : Value) : Checked Int :=
  match readInteger v with
  | .ok n => if n < least then .fail (.tooSmall least) else .ok n
  | .error issues => .error issues

/-- Reads the settings of the service of promotions. -/
def PromotionsConfig.read (es : Entries) : Checked PromotionsConfig :=
  let make (service : ServiceConfig) (rulesPath : RulesPath) (strategy gate : String)
      (bucketCount : Int) : PromotionsConfig :=
    { service, rulesPath, strategy, gate, bucketCount }
  Checked.ap (Checked.ap (Checked.ap (Checked.ap
    ((ServiceConfig.read names (some "promotions") (some 3000) es).map make)
    (Field.optional ["rules_file"] .standard readPath es))
    (Field.optional ["selection_strategy"] "priority" readString es))
    (Field.optional ["ab_gate"] "passthrough" readString es))
    (Field.optional ["ab_bucket_count"] 100 (readAtLeast 1) es)

/-- The settings of the service of promotions that sources give. -/
def PromotionsConfig.ofSources (s : Settings.Sources) : Checked PromotionsConfig :=
  read (Settings.gather names s)

/-- The settings of a service that sources give. -/
def ServiceConfig.ofSources (s : Settings.Sources) : Checked ServiceConfig :=
  read names none none (Settings.gather names s)

/-! ### Settings as values -/

/-- The settings of a service as a value. -/
def ServiceConfig.toValue (c : ServiceConfig) : Value :=
  .map (Entries.override
    [(.text "env", .text c.env), (.text "log_level", .text c.logLevel),
      (.text "service_name", .text c.serviceName), (.text "port", .int c.port),
      (.text "host", .text c.host)] c.extras)

/-- The path of the file of rules, given that of the one that comes with the service. -/
def RulesPath.text (standardPath : String) : RulesPath → String
  | standard => standardPath
  | path p => p

/-- The settings of the service of promotions as a value, given the path of the file of rules that
comes with it. -/
def PromotionsConfig.toValue (standardPath : String) (c : PromotionsConfig) : Value :=
  .map (Entries.override
    [(.text "rules_file", .text (c.rulesPath.text standardPath)),
      (.text "selection_strategy", .text c.strategy), (.text "ab_gate", .text c.gate),
      (.text "ab_bucket_count", .int c.bucketCount)]
    (match c.service.toValue with
      | .map es => es
      | _ => []))

end OfferRules
