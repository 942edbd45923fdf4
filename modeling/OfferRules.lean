import OfferRules.Digest.Md5
import OfferRules.Engine.Activity
import OfferRules.Engine.Basic
import OfferRules.Engine.RuleStore
import OfferRules.Fault
import OfferRules.Http.CrossOrigin
import OfferRules.Http.Line
import OfferRules.Http.Message
import OfferRules.Http.Path
import OfferRules.Json.Bytes
import OfferRules.Json.Reader
import OfferRules.Json.Writer
import OfferRules.Log.Event
import OfferRules.Log.Level
import OfferRules.Log.Notice
import OfferRules.Log.Traced
import OfferRules.Main
import OfferRules.Metrics.Collector
import OfferRules.Metrics.Exposition
import OfferRules.Metrics.Histogram
import OfferRules.Metrics.Tally
import OfferRules.Number.Basic
import OfferRules.Number.Decimal
import OfferRules.Number.Double
import OfferRules.Number.Floating
import OfferRules.Number.Whole
import OfferRules.Pattern.Basic
import OfferRules.Pattern.Escape
import OfferRules.Pattern.Flag
import OfferRules.Pattern.Parser
import OfferRules.Pattern.Problem
import OfferRules.Pattern.Progress
import OfferRules.Pattern.Search
import OfferRules.Refusal
import OfferRules.Rule.Basic
import OfferRules.Rule.Eligibility
import OfferRules.Rule.Evaluation
import OfferRules.Rule.Gate
import OfferRules.Rule.Operator
import OfferRules.Rule.Selection
import OfferRules.RuleSet.Definition
import OfferRules.RuleSet.Order
import OfferRules.RuleSet.Source
import OfferRules.RuleSet.Standard
import OfferRules.Sample
import OfferRules.Service.Basic
import OfferRules.Service.Handling
import OfferRules.Service.Promotions
import OfferRules.Service.Standard
import OfferRules.Settings.Config
import OfferRules.Settings.EnvFile
import OfferRules.Text.Blank
import OfferRules.Text.Caseless
import OfferRules.Text.CharSet
import OfferRules.Text.CharacterName
import OfferRules.Text.Digit
import OfferRules.Text.LineEnd
import OfferRules.Text.Lowercase
import OfferRules.Text.Printable
import OfferRules.Text.Quoted
import OfferRules.Text.Utf8
import OfferRules.Text.Word
import OfferRules.Time.Calendar
import OfferRules.Time.Iso8601
import OfferRules.Validation.Issue
import OfferRules.Validation.Scalar
import OfferRules.Value.Amount
import OfferRules.Value.Basic
import OfferRules.Value.Equality
import OfferRules.Value.Literal
import OfferRules.Value.Path
import OfferRules.Value.Payload
import OfferRules.Value.View
import OfferRules.Yaml.Atom
import OfferRules.Yaml.Base64
import OfferRules.Yaml.Cursor
import OfferRules.Yaml.Document
import OfferRules.Yaml.Node
import OfferRules.Yaml.Node.Reader
import OfferRules.Yaml.Node.Value
import OfferRules.Yaml.Problem
import OfferRules.Yaml.Scalar
import OfferRules.Yaml.Tag
import OfferRules.Yaml.Timestamp
import OfferRules.Yaml.Token
import OfferRules.Yaml.Token.Stream
import OfferRules.Yaml.Token.Tag
import OfferRules.Proofs.Addresses
import OfferRules.Proofs.AnsweredRequests
import OfferRules.Proofs.Buckets
import OfferRules.Proofs.ConcurrentReloads
import OfferRules.Proofs.ConditionFaults
import OfferRules.Proofs.Congruence
import OfferRules.Proofs.Containment
import OfferRules.Proofs.GateOrder
import OfferRules.Proofs.Ingestion
import OfferRules.Proofs.JoinedPaths
import OfferRules.Proofs.Lifecycle
import OfferRules.Proofs.Membership
import OfferRules.Proofs.NumberText
import OfferRules.Proofs.OrderCoherence
import OfferRules.Proofs.Ranking
import OfferRules.Proofs.Relevance
import OfferRules.Proofs.RuleFileFaults
import OfferRules.Proofs.ShareIntervals
import OfferRules.Proofs.SourceOrder
import OfferRules.Proofs.UnreadEntries
import OfferRules.Proofs.WindowInstants
