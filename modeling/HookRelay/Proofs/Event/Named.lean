import HookRelay.Event.Header
import HookRelay.Text.Blank

/-!
# The names of a category agree

A category is named by the setting of a hook, by the header of a delivery and by the kind of its
payload, and each of the three is looked up in a table of its own. The tables agree: the header of a
category leads to the kind that its setting leads to. So the kinds that are listed for some settings
are those that the headers of their categories name, and no others, although several categories share
one.

## Main definitions

* `Category.header` : the header of a delivery of a category

## Main statements

* `Category.kindOfHeader?_header` : headers and settings lead to the same kind
* `isAllBlank_of_named` : a header that names a kind is not blank
* `mem_eventTypes` : the types that are listed are those of the categories that are named
-/

namespace HookRelay.Event

/-! ## Headers -/

namespace Category

/-- The words of the header of a category. -/
def words : Category → String
  | push => "Push"
  | tagPush => "Tag Push"
  | issues => "Issue"
  | confidentialIssues => "Confidential Issue"
  | note => "Note"
  | confidentialNote => "Confidential Note"
  | mergeRequests => "Merge Request"
  | job => "Job"
  | pipeline => "Pipeline"
  | wikiPage => "Wiki Page"
  | deployment => "Deployment"
  | releases => "Release"

/-- The `X-Gitlab-Event` of a delivery of a category. -/
def header (c : Category) : String := c.words ++ " Hook"

/-- **Headers and settings lead to the same kind**, although they are looked up in other tables. -/
theorem kindOfHeader?_header (c : Category) : kindOfHeader? c.header = some c.kind := by
  cases c <;> decide +kernel

theorem isKnownKind_kind (c : Category) : isKnownKind c.kind = true := by
  cases c <;> decide

end Category

/-- A header that names a kind is not blank, since it ends in `ending`. -/
theorem isAllBlank_of_named {header kind : String} (named : kindOfHeader? header = some kind) :
    Text.isAllBlank header = false := by
  rw [kindOfHeader?, Option.map_eq_some_iff] at named
  obtain ⟨words, read, -⟩ := named
  simp only [captured?] at read
  split at read
  · next form =>
    have ends := List.isSuffixOf_iff_suffix.1 (Bool.and_eq_true_iff.1 form).1
    have mem : 'H' ∈ header.toList := ends.subset (by decide)
    rw [Text.isAllBlank, List.all_eq_false]
    exact ⟨'H', mem, by decide⟩
  · cases read

/-! ## Kinds -/

theorem mem_insertAscending {s t : String} {ts : List String} :
    s ∈ insertAscending t ts ↔ s = t ∨ s ∈ ts := by
  induction ts with
  | nil => simp [insertAscending]
  | cons u us ih =>
    rw [insertAscending]
    split
    · simp
    · split
      · next same => simp [same]
      · simp only [List.mem_cons, ih]
        exact or_left_comm

theorem mem_foldl_insertAscending {s : String} (ks acc : List String) :
    s ∈ ks.foldl (fun acc k => insertAscending k acc) acc ↔ s ∈ ks ∨ s ∈ acc := by
  induction ks generalizing acc with
  | nil => simp
  | cons k ks ih =>
    rw [List.foldl_cons, ih, mem_insertAscending, List.mem_cons]
    rw [or_left_comm, or_assoc]

/-- The kinds that are listed are those of the categories that are named. -/
theorem mem_kinds {kind : String} {names : List String} :
    kind ∈ kinds names ↔ ∃ c : Category, c.setting ∈ names ∧ c.kind = kind := by
  rw [kinds, mem_foldl_insertAscending, List.mem_filterMap]
  simp only [List.not_mem_nil, or_false, Option.map_eq_some_iff, Category.ofSetting?_eq_some_iff]
  constructor
  · rintro ⟨name, mem, c, rfl, kind⟩
    exact ⟨c, mem, kind⟩
  · rintro ⟨c, mem, kind⟩
    exact ⟨c.setting, mem, c, rfl, kind⟩

/-- **The types that are listed are those of the categories that are named.** -/
theorem mem_eventTypes {type : String} {names : List String} :
    type ∈ eventTypes names ↔ ∃ c : Category, c.setting ∈ names ∧ eventType c.kind = type := by
  rw [eventTypes, List.mem_map]
  constructor
  · rintro ⟨kind, mem, rfl⟩
    obtain ⟨c, named, rfl⟩ := mem_kinds.1 mem
    exact ⟨c, named, rfl⟩
  · rintro ⟨c, named, rfl⟩
    exact ⟨c.kind, mem_kinds.2 ⟨c, named, rfl⟩, rfl⟩

end HookRelay.Event
