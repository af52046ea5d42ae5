import Mathlib.Data.List.Basic

/-!
# Texts in parts

Texts that are put together from parts, with a separator between two of them, and what that says of
their characters.

## Main statements

* `mem_of_mem_intercalate` : a character is one of the separator or of a part
* `exists_parts_of_map` : a text that is taken to parts consists of parts
-/

namespace HookRelay

variable {α β : Type} {f : α → β} {x : α} {y : β} {cs : List α}

theorem map_intercalate (f : α → β) (sep : List α) (parts : List (List α)) :
    (sep.intercalate parts).map f = (sep.map f).intercalate (parts.map (List.map f)) := by
  induction parts with
  | nil => rfl
  | cons part parts ih =>
    cases parts with
    | nil => simp
    | cons next parts =>
      rw [List.intercalate_cons_cons, List.map_append, List.map_append, ih, List.map_cons,
        List.map_cons, List.map_cons, List.intercalate_cons_cons]

theorem intercalate_append_singleton (sep : List α) {parts : List (List α)} (ne : parts ≠ [])
    (last : List α) : sep.intercalate (parts ++ [last]) = sep.intercalate parts ++ sep ++ last := by
  induction parts with
  | nil => exact absurd rfl ne
  | cons part parts ih =>
    cases parts with
    | nil => simp
    | cons next parts =>
      rw [List.cons_append, List.cons_append, List.intercalate_cons_cons, ← List.cons_append,
        ih (List.cons_ne_nil _ _), List.intercalate_cons_cons]
      simp only [List.append_assoc]

theorem mem_of_mem_intercalate {sep : List α} {parts : List (List α)}
    (mem : x ∈ sep.intercalate parts) : x ∈ sep ∨ ∃ part ∈ parts, x ∈ part := by
  induction parts with
  | nil => cases mem
  | cons part parts ih =>
    cases parts with
    | nil =>
      rw [List.intercalate_singleton] at mem
      exact .inr ⟨part, List.mem_cons_self, mem⟩
    | cons next parts =>
      rw [List.intercalate_cons_cons, List.mem_append, List.mem_append] at mem
      obtain (mem | mem) | mem := mem
      · exact .inr ⟨part, List.mem_cons_self, mem⟩
      · exact .inl mem
      · exact (ih mem).imp_right fun ⟨p, among, mem⟩ => ⟨p, List.mem_cons_of_mem _ among, mem⟩

/-- A text that a map takes to parts between separators consists of such parts, if nothing but the
separator is taken to one. -/
theorem exists_parts_of_map (separates : ∀ a, f a = y ↔ a = x) {parts : List (List β)}
    (ne : parts ≠ []) (mapped : cs.map f = [y].intercalate parts) :
    ∃ parts' : List (List α), parts'.map (List.map f) = parts ∧ cs = [x].intercalate parts' := by
  induction parts generalizing cs with
  | nil => exact absurd rfl ne
  | cons part parts ih =>
    cases parts with
    | nil => exact ⟨[cs], by simpa using mapped, by simp⟩
    | cons next parts =>
      rw [List.intercalate_cons_cons, List.append_assoc, List.map_eq_append_iff] at mapped
      obtain ⟨first, behind, rfl, rfl, mapped'⟩ := mapped
      obtain ⟨a, behind', rfl, separator, rest⟩ := List.map_eq_cons_iff.1 mapped'
      obtain rfl := (separates a).1 separator
      obtain ⟨parts', taken, rfl⟩ := ih (List.cons_ne_nil _ _) rest
      obtain ⟨second, more, rfl⟩ := List.exists_cons_of_ne_nil (l := parts') (by
        rintro rfl
        cases taken)
      exact ⟨first :: second :: more, by rw [List.map_cons, taken],
        by rw [List.intercalate_cons_cons, List.append_assoc, List.singleton_append]⟩

end HookRelay
