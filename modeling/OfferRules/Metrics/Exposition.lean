import OfferRules.Metrics.Histogram
import OfferRules.Text.Quoted

/-!
# The exposition of metrics

Metrics are exposed as lines of text.  Each family of metrics has a line of help and one of its
kind, and then a line for each sample: its name, its labels in the order of their names, and its
value.

## Main definitions

* `Sample`, `Sample.line` — a value with its labels, and its line.
* `Family`, `Family.lines` — a family, and its lines.
* `Histogram.samples` — the samples of a histogram.
-/

namespace OfferRules

/-- How exposed numbers are written: those from a million on take an exponent, unless they are
negative. -/
def exposedStyle (negative : Bool) : Double.Style :=
  { positionalBelow := if negative then 16 else 6
    nan := "NaN", infinity := "+Inf", minusInfinity := "-Inf" }

/-- The text of an exposed number. -/
def exposedText (d : Double) : String := d.render (exposedStyle d.isNegative)

/-- The characters of a label's value: the backslash, the quotation mark and the line feed are
escaped. -/
def labelChar (c : Char) : List Char :=
  if c = '\\' then ['\\', '\\']
  else if c = quotationMark then ['\\', quotationMark]
  else if c = '\n' then ['\\', 'n']
  else [c]

/-- A label in an exposition. -/
def labelText (label : String × String) : String :=
  label.1 ++ "=" ++
    String.ofList (quotationMark :: label.2.toList.flatMap labelChar ++ [quotationMark])

/-- A value with its labels. -/
structure Sample where
  /-- What the name of the family is extended by. -/
  ending : String := ""
  /-- The labels, in the order of their names. -/
  labels : List (String × String) := []
  /-- The value. -/
  value : Double

/-- The line of a sample of a family. -/
def Sample.line (family : String) (s : Sample) : String :=
  family ++ s.ending ++
    (if s.labels.isEmpty then ""
      else "\x7b" ++ ",".intercalate (s.labels.map labelText) ++ "\x7d") ++
    " " ++ exposedText s.value

/-- A family of metrics. -/
structure Family where
  /-- The name. -/
  name : String
  /-- What the metrics of the family say. -/
  help : String
  /-- Their kind. -/
  kind : String
  /-- The samples. -/
  samples : List Sample

/-- The lines of a family. -/
def Family.lines (f : Family) : List String :=
  ("# HELP " ++ f.name ++ " " ++ f.help) :: ("# TYPE " ++ f.name ++ " " ++ f.kind) ::
    f.samples.map (Sample.line f.name)

/-- Puts a label among others by the order of names. -/
def insertLabel (label : String × String) : List (String × String) → List (String × String)
  | [] => [label]
  | l :: rest =>
    if label.1 < l.1 then label :: l :: rest else l :: insertLabel label rest

/-- The samples of a histogram with some labels. -/
def Histogram.samples (labels : List (String × String)) (h : Histogram) : List Sample :=
  h.cumulative.map (fun p =>
    { ending := "_bucket", labels := insertLabel ("le", exposedText p.1) labels
      value := .ofNat p.2 }) ++
    [{ ending := "_count", labels, value := .ofNat h.count },
      { ending := "_sum", labels, value := h.sum }]

end OfferRules
