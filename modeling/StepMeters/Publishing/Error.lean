/-!
# How publishing can fail
-/

namespace StepMeters

/-- Why a publisher could not publish. -/
inductive PublishError where
  /-- The outside world failed. -/
  | io (text : String)
  /-- Anything else. -/
  | other (text : String)
deriving DecidableEq, Repr

namespace PublishError

/-- The text of an error. -/
def message : PublishError → String
  | io text => "i/o error while publishing: " ++ text
  | other text => text

end PublishError

end StepMeters
