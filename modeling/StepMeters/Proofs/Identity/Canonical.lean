import Mathlib.Data.List.Sort
import StepMeters.Proofs.Identity.Search

/-!
# Canonical identities

However an identity was put together, its tags stand in the order of their keys, and each key has the value that was
given last for it (`Identity.canonical_run`). Tags in this order are known from the values of their keys
(`Tag.Increasing.ext`), so two identities are the same if and only if they have the same name and the same last values.
-/

namespace StepMeters

namespace Tag
section Increasing
variable {tags tags' : List Tag} {tag t : Tag}

/-- Inserting a tag brings in nothing else. -/
lemma of_mem_insert (h : t ∈ tag.insert tags) : t = tag ∨ t ∈ tags := by
  induction tags with
  | nil => exact .inl (List.mem_singleton.1 h)
  | cons first rest ih =>
    rw [insert] at h
    split at h
    · exact List.mem_cons.1 h
    · split at h
      · rcases List.mem_cons.1 h with rfl | h
        · exact .inr List.mem_cons_self
        · exact (ih h).imp_right (List.mem_cons_of_mem first)
      · exact (List.mem_cons.1 h).imp_right (List.mem_cons_of_mem first)

/-- Tags stay in the order of their keys. -/
lemma Increasing.insert (h : Increasing tags) (tag : Tag) : Increasing (tag.insert tags) := by
  induction tags with
  | nil => exact List.pairwise_singleton ..
  | cons first rest ih =>
    obtain ⟨least, increasing⟩ := List.pairwise_cons.1 h
    rw [Tag.insert]
    split
    · rename_i less
      exact List.pairwise_cons.2
        ⟨List.forall_mem_cons.2 ⟨less, fun t mem => String.lt_trans less (least t mem)⟩, h⟩
    · rename_i notLess
      split
      · rename_i greater
        refine List.pairwise_cons.2 ⟨fun t mem => ?_, ih increasing⟩
        rcases of_mem_insert mem with rfl | mem
        · exact greater
        · exact least t mem
      · rename_i notGreater
        have same : first.key = tag.key :=
          String.le_antisymm (String.not_lt.1 notLess) (String.not_lt.1 notGreater)
        exact List.pairwise_cons.2 ⟨same ▸ least, increasing⟩

/-- A tag is the one that answers for its key. -/
lemma Increasing.find?_eq_some_iff (h : Increasing tags) :
    tags.find? (·.key == t.key) = some t ↔ t ∈ tags := by
  induction tags with
  | nil => simp
  | cons first rest ih =>
    obtain ⟨least, increasing⟩ := List.pairwise_cons.1 h
    by_cases here : first.key = t.key
    · have later : t ∉ rest := fun mem => String.lt_irrefl _ (here ▸ least t mem)
      simp [here, later, eq_comm]
    · have other : t ≠ first := fun e => here (e ▸ rfl)
      simp [here, other, ih increasing]

/-- Tags in the order of their keys are the same if they have the same values for all keys. -/
lemma Increasing.ext (h : Increasing tags) (h' : Increasing tags')
    (same : ∀ key, (tags.find? (·.key == key)).map value = (tags'.find? (·.key == key)).map value) :
    tags = tags' := by
  have within {xs ys : List Tag} (hx : Increasing xs) (hy : Increasing ys)
      (same : ∀ key, (xs.find? (·.key == key)).map value = (ys.find? (·.key == key)).map value) : xs ⊆ ys := by
    intro t mem
    have answers := same t.key
    rw [hx.find?_eq_some_iff.2 mem, eq_comm, Option.map_some, Option.map_eq_some_iff] at answers
    obtain ⟨t', found, value⟩ := answers
    have key : t'.key = t.key := by simpa using List.find?_some found
    obtain rfl : t' = t := by
      cases t
      cases t'
      simp_all
    exact List.mem_of_find?_eq_some found
  have irreflexive : Std.Irrefl fun a b : Tag => a.key < b.key := ⟨fun t => String.lt_irrefl t.key⟩
  have antisymmetric : Std.Antisymm fun a b : Tag => a.key < b.key :=
    ⟨fun a b less greater => absurd greater (String.lt_asymm less)⟩
  exact h.eq_of_mem_iff h' fun t =>
    ⟨fun mem => within h h' same mem, fun mem => within h' h (fun key => (same key).symm) mem⟩

end Increasing

section InsertAll
variable {given tags : List Tag}

/-- Puts tags in one by one. -/
def insertAll (given tags : List Tag) : List Tag := given.foldl (fun tags tag => tag.insert tags) tags

/-- Inserting several tags keeps the keys increasing. -/
lemma Increasing.insertAll (h : Increasing tags) (given : List Tag) : Increasing (insertAll given tags) := by
  induction given generalizing tags with
  | nil => exact h
  | cons tag rest ih => exact ih (h.insert tag)

/-- The tag put in last for a key answers for it. -/
lemma find?_insertAll (given tags : List Tag) (key : String) :
    (insertAll given tags).find? (·.key == key)
      = ((given.filter (·.key == key)).getLast?).or (tags.find? (·.key == key)) := by
  induction given generalizing tags with
  | nil => simp [insertAll]
  | cons tag rest ih =>
    rw [show insertAll (tag :: rest) tags = insertAll rest (tag.insert tags) from rfl, ih]
    by_cases here : tag.key = key
    · subst here
      simp [find?_insert_self, List.getLast?_cons]
    · simp [find?_insert_of_ne here, here]

end InsertAll

end Tag

namespace Identity

/-- What may be said of an identity after its name. -/
inductive Change where
  | tag (tag : Tag)
  | tags (tags : List Tag)
  | unit (unit : String)
  | description (text : String)

/-- The identity once a change was said of it. -/
def apply (id : Identity) : Change → Identity
  | .tag tag => id.withTag tag
  | .tags tags => id.withTags tags
  | .unit unit => { id with baseUnit := some unit }
  | .description text => { id with description := some text }

/-- The identity with a name and what was said of it, from first to last. -/
def built (name : String) (changes : List Change) : Identity := changes.foldl apply { name }

/-- The tags that a change gives, from first to last. -/
def Change.given : Change → List Tag
  | .tag t => [t]
  | .tags ts => ts
  | _ => []

/-- The tags that were given, from first to last. -/
def given (changes : List Change) : List Tag := changes.flatMap Change.given

/-- The value that was given last for a key. -/
def lastGiven? (changes : List Change) (key : String) : Option String :=
  ((given changes).filter (·.key == key)).getLast?.map Tag.value

section Built

/-- Stating several tags inserts them one after the other. -/
lemma tags_withTags (id : Identity) (tags : List Tag) : (id.withTags tags).tags = Tag.insertAll tags id.tags := by
  induction tags generalizing id with
  | nil => rfl
  | cons tag rest ih => exact ih (id.withTag tag)

/-- A change inserts the tags that it gives. -/
lemma tags_apply (id : Identity) (change : Change) :
    (id.apply change).tags = Tag.insertAll change.given id.tags := by
  cases change with
  | tags tags => exact id.tags_withTags tags
  | _ => rfl

/-- Stating tags does not change the name. -/
lemma name_withTags (id : Identity) (tags : List Tag) : (id.withTags tags).name = id.name := by
  induction tags generalizing id with
  | nil => rfl
  | cons tag rest ih => exact ih (id.withTag tag)

/-- No change changes the name. -/
lemma name_apply (id : Identity) (change : Change) : (id.apply change).name = id.name := by
  cases change with
  | tags tags => exact id.name_withTags tags
  | _ => rfl

/-- A run of changes keeps the name and inserts all tags that were given. -/
lemma foldl_apply (id : Identity) (changes : List Change) :
    (changes.foldl apply id).name = id.name ∧
      (changes.foldl apply id).tags = Tag.insertAll (given changes) id.tags := by
  induction changes generalizing id with
  | nil => exact ⟨rfl, rfl⟩
  | cons change rest ih =>
    obtain ⟨name, tags⟩ := ih (id.apply change)
    refine ⟨name.trans (id.name_apply change), tags.trans ?_⟩
    rw [tags_apply]
    simp [Tag.insertAll, given]

/-- An identity has the tags that were given, inserted in order. -/
lemma tags_built (name : String) (changes : List Change) :
    (built name changes).tags = Tag.insertAll (given changes) [] :=
  (foldl_apply { name } changes).2

/-- The keys of an identity are increasing, each of them once. -/
lemma increasing_built (name : String) (changes : List Change) : Tag.Increasing (built name changes).tags := by
  rw [tags_built]
  exact Tag.Increasing.insertAll .nil _

/-- A tag has the value that was given last for its key. -/
lemma tag?_built (name : String) (changes : List Change) (key : String) :
    (built name changes).tag? key = lastGiven? changes key := by
  rw [tag?, tags_built, Tag.find?_insertAll, lastGiven?]
  simp

/-- Two identities are the same if and only if their names are, and for every key the values given last for it. -/
lemma same_built_iff {name name' : String} {changes changes' : List Change} :
    (built name changes).same (built name' changes') = true ↔
      name = name' ∧ ∀ key, lastGiven? changes key = lastGiven? changes' key := by
  have names (name : String) (changes : List Change) : (built name changes).name = name :=
    (foldl_apply { name } changes).1
  rw [same_iff, names, names]
  refine and_congr_right fun _ => ⟨fun tags key => ?_, fun values => ?_⟩
  · rw [← tag?_built name, ← tag?_built name', tag?, tag?, tags]
  · refine (increasing_built name changes).ext (increasing_built name' changes') fun key => ?_
    have value := values key
    rwa [← tag?_built name, ← tag?_built name'] at value

/-- Tags with different keys may be given in any order. -/
lemma filter_eq_of_perm {tags tags' : List Tag} (perm : tags.Perm tags') (distinct : (tags.map Tag.key).Nodup)
    (key : String) : tags.filter (·.key == key) = tags'.filter (·.key == key) := by
  have perm := perm.filter (·.key == key)
  have one : ((tags.filter (·.key == key)).map Tag.key).Nodup := distinct.sublist (List.filter_sublist.map _)
  have keys : ∀ t ∈ tags.filter (·.key == key), t.key = key := fun t mem => by simpa using (List.mem_filter.1 mem).2
  generalize tags.filter (·.key == key) = own at perm one keys ⊢
  match own with
  | [] => exact (List.nil_perm.1 perm).symm
  | [t] => exact List.singleton_perm.1 perm
  | first :: second :: rest =>
    exact absurd one (by simp [keys first, keys second])

/-- Equal identities have equal hashes. -/
lemma hash_of_same {id id' : Identity} (h : id.same id' = true) {State : Type} (take : State → Ingredient → State)
    (start : State) : id.hash take start = id'.hash take start := by
  obtain ⟨name, tags⟩ := same_iff.1 h
  rw [hash, hash, ingredients, ingredients, name, tags]

/-- Identities are canonical, whatever tags, units and descriptions were given and in whichever order. The tags stand
in the order of their keys, a key has the value that was given last for it, and none if it was never given; searching
by halves finds this value, and puts the next tag where it belongs. Identities are the same, and then have the same
hash, if and only if their names are the same and the values given last for each key. So the order of what was given
for different keys does not matter, nor do unit and description. -/
theorem canonical_run (name : String) (changes : List Change) :
    let id := built name changes
    id.tags.Pairwise (fun a b => a.key < b.key) ∧
      (∀ key, id.tag? key = lastGiven? changes key ∧ id.searchTag? key = lastGiven? changes key) ∧
      (∀ tag, (id.withTag tag).tags = tag.put id.tags) ∧
      ∀ name' changes', let id' := built name' changes'
        (id.same id' = true ↔ name = name' ∧ ∀ key, lastGiven? changes key = lastGiven? changes' key) ∧
        (id.same id' = true → ∀ {State : Type} (take : State → Ingredient → State) (start : State),
          id.hash take start = id'.hash take start) ∧
        (name = name' → (∀ key, (given changes).filter (·.key == key) = (given changes').filter (·.key == key)) →
          id.same id' = true) ∧
        (name = name' → (given changes).Perm (given changes') → ((given changes).map Tag.key).Nodup →
          id.same id' = true) := by
  intro id
  have increasing := increasing_built name changes
  refine ⟨increasing, fun key => ⟨tag?_built name changes key, ?_⟩, fun tag => ?_, fun name' changes' => ?_⟩
  · rw [searchTag?_eq_tag? increasing, tag?_built]
  · exact (Tag.put_eq_insert increasing tag).symm
  · have reordered (names : name = name')
        (own : ∀ key, (given changes).filter (·.key == key) = (given changes').filter (·.key == key)) :
        id.same (built name' changes') = true :=
      same_built_iff.2 ⟨names, fun key => by rw [lastGiven?, lastGiven?, own key]⟩
    exact ⟨same_built_iff, hash_of_same, reordered,
      fun names perm distinct => reordered names (filter_eq_of_perm perm distinct)⟩

/-- The same tags in another order, beside a unit and a description: with different keys, and with a key that is
given twice. -/
theorem canonical_run_reordered :
    let changes : List Change := [.tag ⟨"status", "500"⟩, .unit "calls", .tag ⟨"method", "GET"⟩]
    let changes' : List Change := [.description "all calls", .tags [⟨"method", "GET"⟩, ⟨"status", "500"⟩]]
    let again : List Change := .tag ⟨"status", "404"⟩ :: changes
    let again' : List Change := [.tags [⟨"method", "GET"⟩, ⟨"status", "404"⟩], .tag ⟨"status", "500"⟩]
    (given changes).Perm (given changes') ∧ ((given changes).map Tag.key).Nodup ∧
      (built "requests" changes).same (built "requests" changes') = true ∧
      (∀ key, (given again).filter (·.key == key) = (given again').filter (·.key == key)) ∧
      (built "requests" again).same (built "requests" again') = true ∧
      (built "requests" again').hash (fun n _ => n + 1) 0 = 6 := by
  intro changes changes' again again'
  have perm : (given changes).Perm (given changes') := List.Perm.swap ..
  have distinct : ((given changes).map Tag.key).Nodup := by decide
  have own : ∀ key, (given again).filter (·.key == key) = (given again').filter (·.key == key) := by
    intro key
    by_cases status : "status" = key
    · subst status
      decide
    · simp [again, again', changes, given, Change.given, List.filter_cons, status]
  obtain ⟨-, -, -, others⟩ := canonical_run "requests" changes
  obtain ⟨-, -, -, permuted⟩ := others "requests" changes'
  obtain ⟨-, -, -, others⟩ := canonical_run "requests" again
  obtain ⟨-, hashes, reordered, -⟩ := others "requests" again'
  have hash : (built "requests" again).hash (fun n _ => n + 1) 0 = 6 := by decide +kernel
  exact ⟨perm, distinct, permuted rfl perm distinct, own, reordered rfl own,
    (hashes (reordered rfl own) _ _).symm.trans hash⟩

end Built

end Identity

end StepMeters
