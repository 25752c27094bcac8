import StepMeters.Meter.Basic
import StepMeters.Text.Quoted

/-!
# Meters under inspection

A text that shows the kind of a meter and all parts of its identity, for people who look for a fault.
-/

namespace StepMeters

/-- A record with named fields. -/
def inspectRecord (name : String) (fields : List (String × String)) : String :=
  name ++ " \x7b " ++ ", ".intercalate (fields.map fun f => f.1 ++ ": " ++ f.2) ++ " \x7d"

/-- A text that may be missing. -/
def inspectOption : Option String → String
  | none => "None"
  | some text => "Some(" ++ Text.quote text ++ ")"

namespace Tag

/-- The parts of a tag. -/
def inspect (tag : Tag) : String :=
  inspectRecord "Tag" [("key", Text.quote tag.key), ("value", Text.quote tag.value)]

end Tag

namespace Identity

/-- The parts of an identity. -/
def inspect (id : Identity) : String :=
  inspectRecord "Id" [("name", Text.quote id.name),
    ("tags", "[" ++ ", ".intercalate (id.tags.map Tag.inspect) ++ "]"),
    ("base_unit", inspectOption id.baseUnit),
    ("description", inspectOption id.description)]

end Identity

namespace Meter

/-- The kind and the identity of a meter. -/
def inspect (meter : Meter) : String :=
  inspectRecord "Meter" [("kind", meter.kind.label), ("id", meter.id.inspect)]

end Meter

end StepMeters
