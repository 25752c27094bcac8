import Mathlib.Tactic.Lemma
import StepMeters.Identity.Basic

/-!
# Searching tags by halves

In tags with increasing keys a key can be looked for by halves (`Tag.search`). The search ends at the tag that has the
key, or between the lesser and the greater keys (`Tag.found_search`). So putting a tag where the search says is the
same as walking along the tags to its place (`Tag.put_eq_insert`), and the value that the search finds is that of the
first tag with the key (`Identity.searchTag?_eq_tag?`).
-/

namespace StepMeters

namespace Tag

/-- Tags in the order of their keys, each of them once. -/
abbrev Increasing (tags : List Tag) : Prop := tags.Pairwise fun a b => a.key < b.key

/-- Looks for a key between two places by halves: the place of the tag that has it, or else the place where such a
tag would have to go. -/
def search (key : String) (tags : List Tag) (low high : Nat) (inside : high ≤ tags.length) : Except Nat Nat :=
  if range : low < high then
    let middle := low + (high - low) / 2
    have : middle < tags.length := by omega
    if tags[middle].key < key then search key tags (middle + 1) high inside
    else if key < tags[middle].key then search key tags low middle (by omega)
    else .ok middle
  else .error low
termination_by high - low

/-- Adds a tag where a search for its key ends; a tag that has the same key gives way. -/
def put (tag : Tag) (tags : List Tag) : List Tag :=
  match search tag.key tags 0 tags.length (Nat.le_refl _) with
  | .ok place => tags.set place tag
  | .error place => tags.insertIdx place tag

/-- What the end of a search says of the tags around it. -/
inductive Found (key : String) : List Tag → Except Nat Nat → Prop where
  | here {before tag after} :
    (∀ t ∈ before, t.key < key) →
    tag.key = key →
    Found key (before ++ tag :: after) (.ok before.length)
  | between {before after} :
    (∀ t ∈ before, t.key < key) →
    (∀ t ∈ after, key < t.key) →
    Found key (before ++ after) (.error before.length)

section Search
variable {key : String} {tags before after : List Tag} {tag : Tag}

/-- Of two tags the one at the earlier place has the lesser key. -/
lemma Increasing.key_lt_key (h : Increasing tags) {i j : Nat} (less : i < j) (inside : j < tags.length) :
    tags[i].key < tags[j].key :=
  List.pairwise_iff_getElem.1 h i j (by omega) inside less

/-- A search ends where the keys say, if those outside of its range are on the right sides. -/
lemma found_search (h : Increasing tags) {low high : Nat} (inside : high ≤ tags.length) (order : low ≤ high)
    (lesser : ∀ t ∈ tags.take low, t.key < key) (greater : ∀ t ∈ tags.drop high, key < t.key) :
    Found key tags (search key tags low high inside) := by
  fun_induction search key tags low high inside with
  | case1 low high inside range middle bound less ih =>
    -- what stands up to the middle is not greater than it
    refine ih (by omega) (fun t mem => ?_) greater
    obtain ⟨i, before, rfl⟩ := List.mem_take_iff_getElem.1 mem
    rcases Nat.lt_or_ge i middle with earlier | last
    · exact String.lt_trans (h.key_lt_key earlier bound) less
    · obtain rfl : i = middle := by omega
      exact less
  | case2 low high inside range middle bound notLess less ih =>
    refine ih (by omega) lesser fun t mem => ?_
    obtain ⟨i, after, rfl⟩ := List.mem_drop_iff_getElem.1 mem
    rcases Nat.eq_zero_or_pos i with rfl | later
    · exact less
    · exact String.lt_trans less (h.key_lt_key (by omega) _)
  | case3 low high inside range middle bound notLess notGreater =>
    have same : tags[middle].key = key :=
      String.le_antisymm (String.not_lt.1 notGreater) (String.not_lt.1 notLess)
    have earlier : ∀ t ∈ tags.take middle, t.key < key := by
      intro t mem
      obtain ⟨i, before, rfl⟩ := List.mem_take_iff_getElem.1 mem
      exact same ▸ h.key_lt_key (by omega) bound
    have found : Found key (tags.take middle ++ tags[middle] :: tags.drop (middle + 1))
        (.ok (tags.take middle).length) := .here earlier same
    rwa [← List.drop_eq_getElem_cons bound, List.take_append_drop, List.length_take_of_le (by omega)] at found
  | case4 low high inside empty =>
    obtain rfl : low = high := by omega
    have found := Found.between lesser greater
    rwa [List.take_append_drop, List.length_take_of_le inside] at found

/-- A tag is inserted behind all tags with lesser keys. -/
lemma insert_append (lesser : ∀ t ∈ before, t.key < tag.key) :
    tag.insert (before ++ after) = before ++ tag.insert after := by
  induction before with
  | nil => rfl
  | cons t rest ih =>
    obtain ⟨less, later⟩ := List.forall_mem_cons.1 lesser
    rw [List.cons_append, insert, if_neg (String.lt_asymm less), if_pos less, ih later, List.cons_append]

/-- A tag is inserted in front of tags with greater keys. -/
lemma insert_of_lt (greater : ∀ t ∈ after, tag.key < t.key) : tag.insert after = tag :: after := by
  cases after with
  | nil => rfl
  | cons t rest => rw [insert, if_pos (greater t List.mem_cons_self)]

/-- A tag takes the place of the one with its key. -/
lemma insert_cons_of_eq {t : Tag} (same : t.key = tag.key) : tag.insert (t :: after) = tag :: after := by
  rw [insert, same, if_neg (String.lt_irrefl _), if_neg (String.lt_irrefl _)]

/-- Putting a tag where a search for its key ends is walking along the tags to its place. -/
lemma put_eq_insert (h : Increasing tags) (tag : Tag) : tag.put tags = tag.insert tags := by
  have found : Found tag.key tags (search tag.key tags 0 tags.length (Nat.le_refl _)) :=
    found_search h (Nat.le_refl _) (Nat.zero_le _) (by simp) (by simp)
  rw [put]
  generalize search tag.key tags 0 tags.length (Nat.le_refl _) = place at found
  cases found with
  | @here before t after lesser same =>
    rw [insert_append lesser, insert_cons_of_eq same]
    simp
  | @between before after lesser greater =>
    rw [insert_append lesser, insert_of_lt greater]
    clear h
    induction before with
    | nil => simp
    | cons t rest ih => simpa using ih (List.forall_mem_cons.1 lesser).2

end Search

end Tag

namespace Identity

/-- The value of the tag that a search for a key ends at. -/
def searchTag? (id : Identity) (key : String) : Option String :=
  match Tag.search key id.tags 0 id.tags.length (Nat.le_refl _) with
  | .ok place => id.tags[place]?.map Tag.value
  | .error _ => none

/-- A search finds the value that the tag with the key has. -/
lemma searchTag?_eq_tag? {id : Identity} (h : Tag.Increasing id.tags) (key : String) :
    id.searchTag? key = id.tag? key := by
  have found : Tag.Found key id.tags (Tag.search key id.tags 0 id.tags.length (Nat.le_refl _)) :=
    Tag.found_search h (Nat.le_refl _) (Nat.zero_le _) (by simp) (by simp)
  rw [searchTag?, tag?]
  generalize Tag.search key id.tags 0 id.tags.length (Nat.le_refl _) = place at found
  generalize id.tags = tags at found
  have other {tags : List Tag} (ne : ∀ t ∈ tags, t.key ≠ key) : tags.find? (·.key == key) = none := by
    simpa using ne
  cases found with
  | @here before t after lesser same =>
    rw [List.find?_append, other fun t mem e => String.lt_irrefl _ (e ▸ lesser t mem)]
    simp [same]
  | @between before after lesser greater =>
    rw [List.find?_append, other fun t mem e => String.lt_irrefl _ (e ▸ lesser t mem),
      other fun t mem e => String.lt_irrefl _ (e ▸ greater t mem)]
    rfl

end Identity

end StepMeters
