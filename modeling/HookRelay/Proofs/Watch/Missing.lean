import HookRelay.Proofs.Text.Runs
import HookRelay.Watch.Failure

/-!
# Failures that tell of a missing object

An object that is gone is a matter of course, and its event goes on. The text that tells of it
quotes the object's name and whatever else identifies it, and all of the text is searched for marks
of other failures. The mark of a missing object excuses those of a missing right, but not those of
an old place or of throttling: these are looked for first. So the failure is taken for what it is
exactly if none of them occurs in any of the parts between the quotes.

A name may hold such a mark. Among the marks two are numbers, and names have digits.

## Main definitions

* `placeMarks`, `patienceMarks`, `foreignMarks` : what is looked for before a missing object
* `tells` : a text holds one of some marks
* `IsName` : the form of a name

## Main statements

* `classify_of_missing` : which marks decide about a text that tells of a missing object
* `tells_intercalate` : a mark occurs in one of the parts between the quotes
* `tells_name` : which marks a name may hold
* `missing_handled` : how the failure is taken, and what is done about it
* `named_410_dropped` : a name by which it is taken for another one
-/

namespace HookRelay.Watch

open Text (contains contains_intercalate mem_of_contains)

variable {text : String} {l : Limits} {backoff : Nat}

/-! ## Marks -/

/-- The marks of a place that is too old. -/
def placeMarks : List String := ["410", "too old resource version", "Expired", "Gone"]

/-- The marks of a cluster that asks for patience. -/
def patienceMarks : List String := ["429", "storage is (re)initializing", "TooManyRequests"]

/-- The marks that are looked for before those of a missing object. -/
def foreignMarks : List String := placeMarks ++ patienceMarks

/-- Whether a text holds one of some marks. -/
def tells (marks : List String) (text : String) : Bool := marks.any (contains text)

theorem tellsExpired_eq (text : String) : tellsExpired text = tells placeMarks text := by
  simp [tellsExpired, tells, placeMarks, Bool.or_assoc]

theorem tellsThrottled_eq (text : String) : tellsThrottled text = tells patienceMarks text := by
  simp [tellsThrottled, tells, patienceMarks, Bool.or_assoc]

theorem tells_foreignMarks (text : String) :
    tells foreignMarks text = (tells placeMarks text || tells patienceMarks text) := by
  simp [tells, foreignMarks]

/-- **Which marks decide** about a text that tells of a missing object. -/
theorem classify_of_missing (missing : tellsNotFound text = true) :
    classify text =
      if tells placeMarks text then .expired
      else if tells patienceMarks text then .throttled
      else .notFound := by
  rw [classify, missing, tellsExpired_eq, tellsThrottled_eq]
  simp

/-! ## Quoted parts -/

/-- No mark is empty or holds a quote. -/
theorem plain_marks : ∀ mark ∈ foreignMarks, mark.toList ≠ [] ∧ '"' ∉ mark.toList := by
  decide +kernel

/-- **A mark occurs in one of the parts between the quotes.** -/
theorem tells_intercalate {marks : List String} (among : marks ⊆ foreignMarks)
    (parts : List String) :
    tells marks ("\"".intercalate parts) = parts.any (tells marks) := by
  rw [Bool.eq_iff_iff]
  constructor
  · intro told
    obtain ⟨mark, mem, held⟩ := List.any_eq_true.1 told
    obtain ⟨ne, apart⟩ := plain_marks mark (among mem)
    rw [contains_intercalate ne apart] at held
    obtain ⟨part, here, within⟩ := List.any_eq_true.1 held
    exact List.any_eq_true.2 ⟨part, here, List.any_eq_true.2 ⟨mark, mem, within⟩⟩
  · intro told
    obtain ⟨part, here, told⟩ := List.any_eq_true.1 told
    obtain ⟨mark, mem, within⟩ := List.any_eq_true.1 told
    obtain ⟨ne, apart⟩ := plain_marks mark (among mem)
    refine List.any_eq_true.2 ⟨mark, mem, ?_⟩
    rw [contains_intercalate ne apart]
    exact List.any_eq_true.2 ⟨part, here, within⟩

/-! ## Names -/

/-- A character that names of objects are made of. -/
def isNameChar (c : Char) : Bool := c.isLower || c.isDigit || c == '-' || c == '.'

/-- **The form of a name**: small letters, digits, dashes and dots. -/
def IsName (name : String) : Prop := ∀ c ∈ name.toList, isNameChar c = true

instance (name : String) : Decidable (IsName name) :=
  decidable_of_iff (name.toList.all isNameChar = true) List.all_eq_true

/-- Of the marks, two could be names. -/
theorem isName_marks : foreignMarks.filter (fun mark => decide (IsName mark)) = ["410", "429"] := by
  decide +kernel

/-- **Which marks a name may hold.** -/
theorem tells_name {name : String} (named : IsName name) :
    tells foreignMarks name = (contains name "410" || contains name "429") := by
  -- what occurs in a name has the form of one
  have only (mark : String) (held : contains name mark = true) : IsName mark := fun c mem =>
    named c (mem_of_contains held mem)
  have same : tells foreignMarks name =
      tells (foreignMarks.filter fun mark => decide (IsName mark)) name := by
    rw [tells, tells, List.any_filter]
    congr 1
    funext mark
    cases held : contains name mark with
    | false => rw [Bool.and_false]
    | true => rw [decide_eq_true (only mark held), Bool.and_true]
  rw [same, isName_marks]
  simp [tells]

/-! ## Missing objects -/

/-- **How a failure is taken that tells of a missing object**, whatever its text says besides, and
wherever that is cut at its quotes. What decides is whether one of the parts holds a mark of an old
place or of throttling: without one, the event goes on at once and the next wait stays as it is, and
with one it is taken for that and dropped. A part that is a name holds one exactly if it holds one
of the two numbers. -/
theorem missing_handled {parts : List String} (cut : "\"".intercalate parts = text)
    (missing : contains text "ObjectNotFound" = true) :
    classify text =
      (if parts.any (tells placeMarks) then .expired
        else if parts.any (tells patienceMarks) then .throttled
        else .notFound) ∧
    (l.handle backoff text = ⟨true, 0, backoff⟩ ↔ parts.any (tells foreignMarks) = false) ∧
    (l.handle backoff text).kept = !parts.any (tells foreignMarks) ∧
    ∀ part ∈ parts, IsName part →
      tells foreignMarks part = (contains part "410" || contains part "429") := by
  have told : tellsNotFound text = true := by simp [tellsNotFound, missing]
  have kind := classify_of_missing told
  have place : tells placeMarks text = parts.any (tells placeMarks) := by
    rw [← cut, tells_intercalate (List.subset_append_left _ _)]
  have patience : tells patienceMarks text = parts.any (tells patienceMarks) := by
    rw [← cut, tells_intercalate (List.subset_append_right _ _)]
  have foreign : parts.any (tells foreignMarks) =
      (parts.any (tells placeMarks) || parts.any (tells patienceMarks)) := by
    rw [← tells_intercalate (List.Subset.refl _), cut, tells_foreignMarks, place, patience]
  rw [place, patience] at kind
  refine ⟨kind, ?_, ?_, fun part _ named => tells_name named⟩
  all_goals
    rw [Limits.handle, kind, foreign]
    cases parts.any (tells placeMarks) <;> cases parts.any (tells patienceMarks) <;> simp

/-- The parts of a text that tells that an object of some name is gone. -/
def goneObject (name : String) : List String :=
  ["ObjectNotFound(ObjectRef \x7b name: ", name, ", namespace: Some(", "default", ") \x7d)"]

/-- An object whose name tells nothing. -/
theorem named_404_kept :
    contains ("\"".intercalate (goneObject "build-404")) "ObjectNotFound" = true ∧
    (⟨30000, 5⟩ : Limits).handle 1000 ("\"".intercalate (goneObject "build-404")) =
      ⟨true, 0, 1000⟩ := by
  have missing : contains ("\"".intercalate (goneObject "build-404")) "ObjectNotFound" = true := by
    decide +kernel
  exact ⟨missing, (missing_handled rfl missing).2.1.2 (by decide +kernel)⟩

/-- **A name by which the failure is taken for another one**: the event of an object that is called
`build-410` and is gone is dropped. -/
theorem named_410_dropped :
    let text := "\"".intercalate (goneObject "build-410")
    contains text "ObjectNotFound" = true ∧ IsName "build-410" ∧ classify text = .expired ∧
      (⟨30000, 5⟩ : Limits).handle 1000 text = ⟨false, 0, 1000⟩ := by
  decide +kernel

end HookRelay.Watch
