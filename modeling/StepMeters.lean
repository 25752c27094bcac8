import StepMeters.Amount
import StepMeters.Configuration.Basic
import StepMeters.Configuration.Error
import StepMeters.Configuration.Properties
import StepMeters.Decimal.Positional
import StepMeters.Decimal.Shortest
import StepMeters.Distribution.Basic
import StepMeters.Distribution.Boundaries
import StepMeters.Distribution.Options
import StepMeters.Distribution.Validation
import StepMeters.Estimator.Basic
import StepMeters.Estimator.Cell
import StepMeters.Estimator.Tally
import StepMeters.Event
import StepMeters.Identity.Basic
import StepMeters.Meter.Basic
import StepMeters.Meter.Blueprint
import StepMeters.Meter.Derived
import StepMeters.Meter.Inspection
import StepMeters.Meter.Kind
import StepMeters.Meter.Observed
import StepMeters.Meter.Recording
import StepMeters.Meter.Timer
import StepMeters.Moment
import StepMeters.Publishing.Error
import StepMeters.Publishing.Publisher
import StepMeters.Registry.Basic
import StepMeters.Registry.Error
import StepMeters.Registry.Publishing
import StepMeters.Registry.Reading
import StepMeters.Registry.Registration
import StepMeters.Step.Accumulator
import StepMeters.Step.Statistics
import StepMeters.Text.Blank
import StepMeters.Text.GraphemeExtend
import StepMeters.Text.Graphic
import StepMeters.Text.Quoted
import StepMeters.Text.Ranges
import StepMeters.Time.Clock
import StepMeters.Time.Duration
import StepMeters.Time.Duration.Parser
import StepMeters.Time.System
import StepMeters.Time.Unit
import StepMeters.Window.Basic
import StepMeters.Window.Label
import StepMeters.Window.Phase
import StepMeters.Window.Query
import StepMeters.Window.Snapshot
import StepMeters.Proofs.Ledger
import StepMeters.Proofs.Step.History
import StepMeters.Proofs.Amount.Order
import StepMeters.Proofs.Distribution.Validation
import StepMeters.Proofs.Window.Contents
import StepMeters.Proofs.Window.History
import StepMeters.Proofs.Meter.History
import StepMeters.Proofs.Meter.Closing
import StepMeters.Proofs.Registry.Looks
import StepMeters.Proofs.Registry.History
import StepMeters.Proofs.Registry.Closing
import StepMeters.Proofs.Amount.Binary
import StepMeters.Proofs.Amount.Rounding
import StepMeters.Proofs.Amount.Height
import StepMeters.Proofs.Amount.Whole
import StepMeters.Proofs.Estimator.Cells
import StepMeters.Proofs.Estimator.Estimates
import StepMeters.Proofs.Estimator.Laws
import StepMeters.Proofs.Window.Merging
import StepMeters.Proofs.Window.Percentiles
import StepMeters.Proofs.Distribution.Boundaries
import StepMeters.Proofs.Window.Counts
import StepMeters.Proofs.Meter.Keeping
import StepMeters.Proofs.Registry.Identities
import StepMeters.Proofs.Meter.Parts
import StepMeters.Proofs.Meter.Rises
import StepMeters.Proofs.Registry.Touches
import StepMeters.Proofs.Registry.Lifecycle
import StepMeters.Proofs.Meter.Freezing
import StepMeters.Proofs.Registry.Lives
import StepMeters.Proofs.Registry.Freezing
import StepMeters.Proofs.Meter.Movements
import StepMeters.Proofs.Registry.Schedule
import StepMeters.Proofs.Meter.Settling
import StepMeters.Proofs.Registry.Places
import StepMeters.Proofs.Registry.Settling
import StepMeters.Proofs.Window.CatchUp
import StepMeters.Proofs.Meter.Watching
import StepMeters.Proofs.Meter.CatchUp
import StepMeters.Proofs.Registry.Transparency
import StepMeters.Proofs.Decimal.Positional
import StepMeters.Proofs.Decimal.Shortest
import StepMeters.Proofs.Decimal.Numerals
import StepMeters.Proofs.Window.Listing
import StepMeters.Proofs.Meter.Gauges
import StepMeters.Proofs.Registry.Watching
import StepMeters.Proofs.Registry.Gauges
import StepMeters.Proofs.Amount.Arithmetic
import StepMeters.Proofs.Registry.Everything
import StepMeters.Proofs.Registry.Isolation
import StepMeters.Proofs.Registry.Registering
import StepMeters.Proofs.Meter.Accepting
import StepMeters.Proofs.Window.Accepting
import StepMeters.Proofs.Registry.Accepting
import StepMeters.Proofs.Window.Stepwise
import StepMeters.Proofs.Amount.Quotients
import StepMeters.Proofs.Amount.Parts
import StepMeters.Proofs.Amount.Monotone
import StepMeters.Proofs.Window.Ordering
import StepMeters.Proofs.Window.Estimating
import StepMeters.Proofs.Meter.Conversions
import StepMeters.Proofs.Text.Blank
import StepMeters.Proofs.Time.Parser
import StepMeters.Proofs.Identity.Search
import StepMeters.Proofs.Identity.Canonical
import StepMeters.Proofs.Window.Safety
import StepMeters.Proofs.Configuration.Properties
import StepMeters.Proofs.Time.Clock
import StepMeters.Proofs.Configuration.StepLength
import StepMeters.Proofs.Decimal.Plain
import StepMeters.Proofs.Decimal.Nearest
import StepMeters.Proofs.Window.Label
