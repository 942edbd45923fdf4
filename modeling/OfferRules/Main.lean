import OfferRules.Http.Line
import OfferRules.RuleSet.Standard
import OfferRules.Service.Promotions
import Std.Time.DateTime.Timestamp

/-!
# The command line

Starts the service of promotions with the settings of the environment and of the file `.env`,
writes its log to standard error, and answers the requests on the lines of standard input on
standard output.
-/

namespace OfferRules.CommandLine

/-- The path of the file of variables. -/
def variablesPath : String := ".env"

/-- What the file of rules that comes with the service is called. -/
def standardPath : String := "rules.yaml"

/-- The content of a file, if it can be read. -/
def contentOf? (path : String) : IO (Option ByteArray) := do
  try return some (← IO.FS.readBinFile path) catch _ => return none

/-- The variables of the environment that are settings, in capitals or in small letters. -/
def environment : IO (List (String × String)) := do
  let names := PromotionsConfig.names.map (Settings.namePrefix ++ ·)
  let found ← (names ++ names.map String.toUpper).mapM fun name => do
    return (← IO.getEnv name).map fun value => (name, value)
  return found.filterMap id

/-- The sources of settings. -/
def sources : IO Settings.Sources := do
  let file ← contentOf? variablesPath
  return { environment := ← environment, file := file.bind String.fromUTF8? }

/-- The source of rules by settings. -/
def ruleSource (c : PromotionsConfig) : IO RuleSource := do
  let path := c.rulesPath.text standardPath
  match c.rulesPath with
  | .standard => return .file { path, state := .bytes RuleSet.standardBytes }
  | .path p =>
    match ← contentOf? p with
    | some content => return .file { path, state := .bytes content.toList }
    | none => return .file { path, state := .missing }

/-- The time. -/
def now : IO DateTime := do
  let t ← Std.Time.Timestamp.now
  return (DateTime.ofInstant? (t.toNanosecondsSinceUnixEpoch.val / 1000)).getD
    ⟨⟨1970, 1, 1⟩, 0, 0, 0, 0, some 0⟩

/-- A number of a thousand millionths, as a share of one. -/
def share (n : Nat) : Double := Double.ofUnits false (n * Magnitude.perOne) 1000000000

/-- The magnitude of a double that is finite. -/
def magnitude : Double → Magnitude
  | .finite _ m => m
  | _ => .zero

/-- A name for a request. -/
def freshId : IO String := do
  let bytes ← IO.getRandomBytes 16
  return String.ofList (bytes.toList.flatMap fun b => hexDigits 2 b.toNat)

/-- Writes what is logged. -/
def writeLog (s : PromotionsService) (records : List LogRecord) : IO Unit := do
  let error ← IO.getStderr
  for r in LogRecord.atLeast s.leastSeverity records do
    match Json.write (.map r.line) with
    | .ok line => error.putStrLn line
    | .error f => error.putStrLn f.message

/-- Handles a request twice: first to see how long it takes, then for good. -/
def handle (s : PromotionsService) (started : Nat) (r : Http.Request) : IO (Outcome Engine) := do
  let draw ← IO.rand 0 999999999
  let s := { s with state := { s.state with draws := { draw := fun _ => share draw } } }
  let before ← IO.monoNanosNow
  let occasion : Occasion :=
    { now := ← now, freshId := ← freshId, selection := .zero, duration := .zero
      uptime := magnitude (share (before - started)) }
  let status ← IO.lazyPure fun _ => (s.handle occasion r).response.status
  let after ← IO.monoNanosNow
  let spent := if status = 0 then 0 else after - before
  return s.handle { occasion with
    selection := magnitude (share (1000 * spent)), duration := magnitude (share spent) } r

/-- Answers the requests on the lines of standard input. -/
partial def serve (c : PromotionsConfig) (s : PromotionsService) (started : Nat) : IO Unit := do
  let line ← (← IO.getStdin).getLine
  if line.isEmpty then return ()
  match Http.Request.ofLine? line with
  | none => serve c s started
  | some r =>
    let s := { s with state := s.state.withSource (← ruleSource c) }
    let outcome ← handle s started r
    writeLog s outcome.log
    match outcome.response.line with
    | .ok answer => IO.println answer
    | .error f => IO.eprintln f.message
    (← IO.getStdout).flush
    serve c outcome.service started

/-- Starts the service and serves. -/
def run : IO UInt32 := do
  match PromotionsConfig.ofSources (← sources) with
  | .error issues =>
    for i in issues do IO.eprintln i.cause.message
    return 1
  | .ok c =>
    match PromotionsService.start c (← ruleSource c) { draw := fun _ => .zero } (← now) with
    | .error f =>
      IO.eprintln f.message
      return 1
    | .ok (s, log) =>
      writeLog s log
      serve c s (← IO.monoNanosNow)
      return 0

end OfferRules.CommandLine

/-- Starts the service of promotions. -/
def main : IO UInt32 := OfferRules.CommandLine.run
