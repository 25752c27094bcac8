/-!
# Identities

A meter is known by a name and by tags, each with a key and a value. An identity holds one tag for each key,
in the order of the keys, so two identities that were given the same tags in different orders are the same.
The unit and the description inform a reader and do not count.
-/

namespace StepMeters

/-- One dimension of a meter: a key and the value it has for this meter. -/
structure Tag where
  key : String
  value : String
deriving DecidableEq, Repr

namespace Tag

/-- Tags are ordered by key, and by value among equal keys. -/
def le (a b : Tag) : Bool := a.key < b.key || (a.key == b.key && !(b.value < a.value))

/-- Puts a tag into a list with increasing keys. A tag that has the same key gives way. -/
def insert (tag : Tag) : List Tag → List Tag
  | [] => [tag]
  | t :: rest =>
    if tag.key < t.key then tag :: t :: rest
    else if t.key < tag.key then t :: insert tag rest
    else tag :: rest

/-- A tag that was put in answers for its key. -/
theorem find?_insert_self (tag : Tag) (tags : List Tag) :
    (tag.insert tags).find? (·.key == tag.key) = some tag := by
  induction tags with
  | nil => simp [insert]
  | cons t rest ih =>
    simp only [insert]
    split
    · simp
    · split
      · rename_i h
        have : t.key ≠ tag.key := fun e => by simp [e] at h
        simp [this, ih]
      · simp

/-- Inserting a tag does not change what is found under other keys. -/
theorem find?_insert_of_ne {tag : Tag} {key : String} (h : tag.key ≠ key) (tags : List Tag) :
    (tag.insert tags).find? (·.key == key) = tags.find? (·.key == key) := by
  induction tags with
  | nil => simp [insert, h]
  | cons t rest ih =>
    simp only [insert]
    split
    · simp [h]
    · split
      · simp only [List.find?_cons, ih]
      · rename_i h1 h2
        have : t.key = tag.key := String.le_antisymm (String.not_lt.1 h1) (String.not_lt.1 h2)
        simp [h, this]

end Tag

/-- What a meter is known by. -/
structure Identity where
  name : String
  tags : List Tag := []
  baseUnit : Option String := none
  description : Option String := none
deriving DecidableEq, Repr

namespace Identity

/-- Adds a tag, or replaces the one with its key. -/
def withTag (id : Identity) (tag : Tag) : Identity := { id with tags := tag.insert id.tags }

/-- Adds tags from first to last. -/
def withTags (id : Identity) (tags : List Tag) : Identity := tags.foldl withTag id

/-- The same tags, unit and description under another name. -/
def renamed (id : Identity) (name : String) : Identity := { id with name }

/-- States the unit of an identity that has none. -/
def withDefaultUnit (id : Identity) (unit : String) : Identity :=
  { id with baseUnit := id.baseUnit <|> some unit }

/-- The value of the tag with this key. -/
def tag? (id : Identity) (key : String) : Option String :=
  (id.tags.find? fun tag => tag.key == key).map Tag.value

/-- A tag that is stated is the one under its key. -/
@[simp] theorem tag?_withTag_self (id : Identity) (tag : Tag) :
    (id.withTag tag).tag? tag.key = some tag.value := by
  simp [tag?, withTag, Tag.find?_insert_self]

/-- Two identities are the same if their names and tags are. -/
def same (a b : Identity) : Bool := a.name == b.name && a.tags == b.tags

/-- Two identities are the same just if their names and tags are equal. -/
theorem same_iff {a b : Identity} : a.same b ↔ a.name = b.name ∧ a.tags = b.tags := by
  simp [same]

/-- One thing that a hash is made from. -/
inductive Ingredient where
  | text (s : String)
  | length (n : Nat)

/-- What the hash of an identity is made from: its name, the number of its tags, their keys and their values. -/
def ingredients (id : Identity) : List Ingredient :=
  .text id.name :: .length id.tags.length :: id.tags.flatMap fun tag => [.text tag.key, .text tag.value]

/-- The hash of an identity, for a way to take in one thing after the other. -/
def hash {State : Type} (take : State → Ingredient → State) (start : State) (id : Identity) : State :=
  id.ingredients.foldl take start

/-- The text of an identity: its name, and its tags between braces if there are any. -/
def text (id : Identity) : String :=
  if id.tags.isEmpty then id.name
  else
    let tags := id.tags.map fun tag => tag.key ++ "=" ++ tag.value
    id.name ++ "\x7b" ++ ",".intercalate tags ++ "\x7d"

end Identity

end StepMeters
