import HookRelay.Http.Message
import HookRelay.Text.Blank
import Mathlib.Data.List.Basic

/-!
# Texts and their bytes

Text arrives as bytes. A character of ASCII is one byte of its own number, and every other
character has bytes from 128 on only, so what is known of the bytes of a text in ASCII is known of
its characters.

## Main statements

* `Text.toList_toUTF8` : the bytes of a text, character by character
* `Http.visibleText?_eq_some_iff`, `Http.visibleText?_eq_none_iff` : which values are visible text
* `Http.isAllBlank_iff` : a visible text is blank if it consists of blanks and tabs
-/

namespace HookRelay

theorem bytes_beq_iff {a b : ByteArray} : (a == b) = true ↔ a = b := by
  rw [ByteArray.ext_iff]
  exact @beq_iff_eq (Array UInt8) _ _ a.data b.data

theorem fromUTF8?_toUTF8 (s : String) : String.fromUTF8? s.toUTF8 = some s := by
  rw [String.fromUTF8?, String.toUTF8_eq_toByteArray, dif_pos s.isValidUTF8]
  rfl

theorem toUTF8_of_fromUTF8? {value : ByteArray} {s : String}
    (read : String.fromUTF8? value = some s) : s.toUTF8 = value := by
  rw [String.fromUTF8?] at read
  split at read
  · cases read
    rfl
  · cases read

/-! ## Characters -/

namespace Text

variable {c : Char} {b : UInt8} {s : String}

/-- The bytes of a text are those of its characters. -/
theorem toList_toUTF8 (s : String) :
    s.toUTF8.data.toList = s.toList.flatMap String.utf8EncodeChar := by
  conv_lhs => rw [← String.ofList_toList (s := s)]
  rw [String.toUTF8_eq_toByteArray, String.toByteArray_ofList, List.utf8Encode,
    List.data_toByteArray]

/-- A character of ASCII is one byte. -/
theorem encode_narrow (narrow : c.toNat < 128) :
    String.utf8EncodeChar c = [UInt8.ofNat c.toNat] := by
  have small : c.val.toNat ≤ 127 := Nat.le_of_lt_succ narrow
  simp only [String.utf8EncodeChar, small, if_true]
  rfl

/-- Every other character is made of bytes that no character of ASCII has. -/
theorem encode_wide (wide : 128 ≤ c.toNat) : ∀ b ∈ String.utf8EncodeChar c, 128 ≤ b.toNat := by
  have large : ¬ c.val.toNat ≤ 127 := Nat.not_le_of_lt wide
  have := c.val.toNat_lt
  intro b mem
  simp only [String.utf8EncodeChar, large, if_false] at mem
  split at mem
  · simp only [List.mem_cons, List.not_mem_nil, or_false] at mem
    rcases mem with rfl | rfl <;> simp only [UInt8.toNat_ofNat'] <;> omega
  split at mem
  · simp only [List.mem_cons, List.not_mem_nil, or_false] at mem
    rcases mem with rfl | rfl | rfl <;> simp only [UInt8.toNat_ofNat'] <;> omega
  · simp only [List.mem_cons, List.not_mem_nil, or_false] at mem
    rcases mem with rfl | rfl | rfl | rfl <;> simp only [UInt8.toNat_ofNat'] <;> omega

theorem encode_ne_nil (c : Char) : String.utf8EncodeChar c ≠ [] := by
  simp only [String.utf8EncodeChar]
  split
  · exact List.cons_ne_nil _ _
  split
  · exact List.cons_ne_nil _ _
  · split <;> exact List.cons_ne_nil _ _

/-- What holds of every byte of a text holds of every byte of its characters. -/
theorem forall_bytes_iff {P : UInt8 → Prop} :
    (∀ b ∈ s.toUTF8.data, P b) ↔ ∀ c ∈ s.toList, ∀ b ∈ String.utf8EncodeChar c, P b := by
  simp only [← Array.mem_toList_iff, toList_toUTF8, List.mem_flatMap]
  exact ⟨fun all c mem b mem' => all b ⟨c, mem, mem'⟩, fun all b ⟨c, mem, mem'⟩ => all c mem b mem'⟩

/-- Bytes of ASCII are a text. -/
theorem exists_toUTF8_of_narrow {value : ByteArray} (narrow : ∀ b ∈ value.data, b.toNat < 128) :
    ∃ s : String, s.toUTF8 = value := by
  refine ⟨String.ofList (value.data.toList.map fun b => Char.ofNat b.toNat), ?_⟩
  apply ByteArray.ext
  apply Array.toList_inj.1
  rw [toList_toUTF8, String.toList_ofList, List.flatMap_map]
  have single : ∀ b ∈ value.data.toList, String.utf8EncodeChar (Char.ofNat b.toNat) = [b] := by
    intro b mem
    have small := narrow b (Array.mem_toList_iff.1 mem)
    have number : (Char.ofNat b.toNat).toNat = b.toNat := by
      have valid : b.toNat.isValidChar := .inl (by omega)
      rw [Char.ofNat, dif_pos valid]
      rfl
    rw [encode_narrow (number.symm ▸ small), number, UInt8.ofNat_toNat]
  rw [List.flatMap_congr single, List.flatMap_singleton']

end Text

/-! ## Visible text -/

namespace Http

variable {value : ByteArray} {s : String} {b : UInt8} {c : Char}

theorem isVisibleByte_iff :
    isVisibleByte b = true ↔ 32 ≤ b.toNat ∧ b.toNat < 127 ∨ b.toNat = 9 := by
  simp only [isVisibleByte, Bool.or_eq_true, Bool.and_eq_true, decide_eq_true_eq,
    UInt8.le_iff_toNat_le, UInt8.lt_iff_toNat_lt, ← UInt8.toNat_inj]
  rfl

/-- The visible text of a value is the text whose bytes it holds. -/
theorem visibleText?_eq_some_iff : visibleText? value = some s ↔
    value = s.toUTF8 ∧ ∀ b ∈ s.toUTF8.data, isVisibleByte b = true := by
  rw [visibleText?]
  constructor
  · intro shown
    split at shown
    · next visible =>
      obtain rfl := toUTF8_of_fromUTF8? shown
      exact ⟨rfl, Array.all_eq_true_iff_forall_mem.1 visible⟩
    · cases shown
  · rintro ⟨rfl, visible⟩
    rw [if_pos (Array.all_eq_true_iff_forall_mem.2 visible), fromUTF8?_toUTF8]

/-- A value without a visible text holds a byte that is not visible. -/
theorem visibleText?_eq_none_iff :
    visibleText? value = none ↔ ∃ b ∈ value.data, isVisibleByte b = false := by
  constructor
  · intro hidden
    by_contra visible
    simp only [not_exists, not_and, Bool.not_eq_false] at visible
    have narrow : ∀ b ∈ value.data, b.toNat < 128 := fun b mem => by
      have := isVisibleByte_iff.1 (visible b mem)
      omega
    obtain ⟨s, rfl⟩ := Text.exists_toUTF8_of_narrow narrow
    cases (visibleText?_eq_some_iff.2 ⟨rfl, visible⟩).symm.trans hidden
  · rintro ⟨b, mem, hidden⟩
    have some_hidden : ¬ (value.data.all isVisibleByte = true) := fun visible => by
      cases hidden.symm.trans (Array.all_eq_true_iff_forall_mem.1 visible b mem)
    rw [visibleText?, if_neg some_hidden]

/-- A visible character is blank if its byte is a blank or a tab. -/
theorem isBlank_iff_of_visible (visible : ∀ b ∈ String.utf8EncodeChar c, isVisibleByte b = true) :
    Text.isBlank c = true ↔ ∀ b ∈ String.utf8EncodeChar c, b = 32 ∨ b = 9 := by
  by_cases narrow : c.toNat < 128
  · have byte : (UInt8.ofNat c.toNat).toNat = c.toNat := by
      rw [UInt8.toNat_ofNat', Nat.mod_eq_of_lt (by omega)]
    rw [Text.encode_narrow narrow] at visible ⊢
    have shown := isVisibleByte_iff.1 (visible _ (List.mem_singleton_self _))
    rw [byte] at shown
    simp only [List.mem_singleton, forall_eq]
    simp only [Text.isBlank, Bool.or_eq_true, Bool.and_eq_true, decide_eq_true_eq, beq_iff_eq,
      ← UInt8.toNat_inj, byte, UInt8.reduceToNat]
    omega
  · exfalso
    obtain ⟨b, mem⟩ := List.exists_mem_of_ne_nil _ (Text.encode_ne_nil c)
    have wide := Text.encode_wide (Nat.le_of_not_lt narrow) b mem
    have shown := isVisibleByte_iff.1 (visible b mem)
    omega

/-- A visible text is blank if it consists of blanks and tabs. -/
theorem isAllBlank_iff (visible : ∀ b ∈ s.toUTF8.data, isVisibleByte b = true) :
    Text.isAllBlank s = true ↔ ∀ b ∈ s.toUTF8.data, b = 32 ∨ b = 9 := by
  rw [Text.forall_bytes_iff] at visible ⊢
  rw [Text.isAllBlank, List.all_eq_true]
  exact forall₂_congr fun c mem => isBlank_iff_of_visible (visible c mem)

end Http

end HookRelay
