import HookRelay.Text.Blank
import Mathlib.Data.List.Basic

/-!
# Runs of characters in a text

Whether one text occurs in another, and where it can: a run of characters that does not hold a
separator occurs in a text only between two separators.

## Main statements

* `hasRun_iff` : a run is an infix
* `infix_intercalate_iff` : a run without the separator occurs in one of the parts
* `contains_intercalate` : so it is for texts
-/

namespace HookRelay.Text

variable {α : Type} {x : α} {run as bs : List α} {part cs : List Char} {s mark : String}

/-- A run is an infix. -/
theorem hasRun_iff : hasRun part cs = true ↔ part <:+: cs := by
  induction cs with
  | nil => rw [hasRun, List.isEmpty_iff, List.infix_nil]
  | cons c cs ih =>
    rw [hasRun, Bool.or_eq_true, List.isPrefixOf_iff_prefix, ih, List.infix_cons_iff]

theorem contains_iff : contains s mark = true ↔ mark.toList <:+: s.toList := hasRun_iff

/-- A text that occurs in another one has its characters from there. -/
theorem mem_of_contains (held : contains s mark = true) {c : Char} (mem : c ∈ mark.toList) :
    c ∈ s.toList :=
  (contains_iff.1 held).subset mem

section Separator

variable (ne : run ≠ []) (apart : x ∉ run)
include ne apart

/-- A run does not reach over a character that it does not hold. -/
theorem infix_append_cons_iff : run <:+: as ++ x :: bs ↔ run <:+: as ∨ run <:+: bs := by
  -- what a run begins with is its own first character, or the run is empty
  have stops (front back : List α) (whole : run = front ++ back) (begins : back <+: x :: bs) :
      back = [] := by
    obtain rfl | ⟨tail, rfl, -⟩ := List.prefix_cons_iff.1 begins
    · rfl
    · exact absurd (by simp [whole]) apart
  rw [List.infix_append_iff, List.infix_cons_iff]
  constructor
  · rintro (within | (begins | within) | ⟨front, back, whole, ends, begins⟩)
    · exact .inl within
    · exact absurd (stops [] run rfl begins) ne
    · exact .inr within
    · obtain rfl := stops front back whole begins
      rw [whole, List.append_nil]
      exact .inl ends.isInfix
  · rintro (within | within)
    · exact .inl within
    · exact .inr (.inl (.inr within))

/-- **A run without the separator occurs in one of the parts.** -/
theorem infix_intercalate_iff {parts : List (List α)} :
    run <:+: [x].intercalate parts ↔ ∃ part ∈ parts, run <:+: part := by
  induction parts with
  | nil => simpa using ne
  | cons part parts ih =>
    cases parts with
    | nil => simp
    | cons next parts =>
      rw [List.intercalate_cons_cons, List.append_assoc, List.singleton_append,
        infix_append_cons_iff ne apart, ih, List.exists_mem_cons_iff (a := part)]

end Separator

/-- **A text without quotes occurs between two of them.** -/
theorem contains_intercalate (ne : mark.toList ≠ []) (apart : '"' ∉ mark.toList)
    (parts : List String) :
    contains ("\"".intercalate parts) mark = parts.any (contains · mark) := by
  rw [Bool.eq_iff_iff, contains_iff, String.toList_intercalate,
    show "\"".toList = ['"'] from rfl, infix_intercalate_iff ne apart, List.any_eq_true]
  simp [contains_iff]

end HookRelay.Text
