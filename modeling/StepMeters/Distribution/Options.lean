import StepMeters.Time.Duration

/-!
# What a distribution keeps

Timers and summaries keep a distribution of what they record. The options for it may be left open; options
can be laid over others, which then answer for what is open, and in the end defaults do.
-/

namespace StepMeters.Distribution

/-- What is asked of a distribution. An option that is `none` is left open. -/
structure Options where
  /-- The percentiles to publish, each from zero to one. -/
  percentiles : Option (List Float) := none
  /-- Whether the generated boundaries are counted as well. -/
  histogram : Option Bool := none
  /-- The significant decimal digits that the estimator keeps. -/
  precision : Option Nat := none
  /-- The least expected amount. -/
  minimum : Option Float := none
  /-- The greatest expected amount. -/
  maximum : Option Float := none
  /-- Boundaries that are counted exactly. -/
  objectives : Option (List Float) := none
  /-- How long a recording stays in the window. -/
  expiry : Option Duration := none
  /-- The number of phases of the window. -/
  bufferLength : Option Nat := none
deriving BEq

/-- Options with nothing left open. -/
structure Settings where
  percentiles : List Float := []
  histogram : Bool := false
  precision : Nat := 1
  minimum : Float := 1
  maximum : Float := 18446744073709551615
  objectives : List Float := []
  expiry : Duration := Duration.ofSeconds 120
  bufferLength : Nat := 3

namespace Options

/-- Every option as in the default settings, none of them open. -/
def standard : Options :=
  let s : Settings := {}
  { percentiles := s.percentiles
    histogram := s.histogram
    precision := s.precision
    minimum := s.minimum
    maximum := s.maximum
    objectives := s.objectives
    expiry := s.expiry
    bufferLength := s.bufferLength }

/-- Lays options over others: what is open above is answered from below. -/
def layeredOver (above below : Options) : Options :=
  { percentiles := above.percentiles <|> below.percentiles
    histogram := above.histogram <|> below.histogram
    precision := above.precision <|> below.precision
    minimum := above.minimum <|> below.minimum
    maximum := above.maximum <|> below.maximum
    objectives := above.objectives <|> below.objectives
    expiry := above.expiry <|> below.expiry
    bufferLength := above.bufferLength <|> below.bufferLength }

/-- The settings that options amount to: defaults answer for what is open. -/
def settings (o : Options) : Settings :=
  let s : Settings := {}
  { percentiles := o.percentiles.getD s.percentiles
    histogram := o.histogram.getD s.histogram
    precision := o.precision.getD s.precision
    minimum := o.minimum.getD s.minimum
    maximum := o.maximum.getD s.maximum
    objectives := o.objectives.getD s.objectives
    expiry := o.expiry.getD s.expiry
    bufferLength := o.bufferLength.getD s.bufferLength }

end Options

end StepMeters.Distribution
