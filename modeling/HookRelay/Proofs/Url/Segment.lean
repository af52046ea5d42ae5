import HookRelay.Url.Reader
import Mathlib.Data.List.Basic
import Mathlib.Tactic.IntervalCases

/-!
# Segments that are added to an address

A segment that is added to an address goes to the end of its path, and nothing else of the address
changes. What may not stand in a segment is encoded; a word of digits and letters stays as it is.

## Main definitions

* `Url.isBare` : a character that stands in a segment as it is

## Main statements

* `Url.frame_pushSegment` : what a segment leaves as it was
* `Url.pushSegment_plain` : a segment is added in encoded form
* `Url.pushSegment_bare` : a bare segment is added as it is
* `Url.isBare_toString`, `Url.toString_injective` : numbers are bare, and are read back
-/

namespace HookRelay.Url

variable {url : Url} {segments : List String} {segment : String} {c : Char}

/-- What a segment leaves as it was. -/
theorem frame_pushSegment (segment : String) (url : Url) :
    (url.pushSegment segment).scheme = url.scheme ∧
      (url.pushSegment segment).authority = url.authority ∧
      (url.pushSegment segment).query = url.query ∧
      (url.pushSegment segment).fragment = url.fragment := by
  rw [pushSegment]
  split
  · exact ⟨rfl, rfl, rfl, rfl⟩
  · split <;> exact ⟨rfl, rfl, rfl, rfl⟩

/-- A path of segments stays one. -/
theorem exists_segments_pushSegment (segment : String) (path : url.path = .segments segments) :
    ∃ segments', (url.pushSegment segment).path = .segments segments' := by
  rw [pushSegment, path]
  dsimp only
  split
  · exact ⟨segments, path⟩
  · exact ⟨_, rfl⟩

/-- A character that means nothing but itself in a segment, whatever the scheme. -/
def isBare (c : Char) : Bool :=
  c.toNat < 128 && !unsafeInSegment .web c && !isDropped c && c != '.'

theorem isBare_of_isDigit (digit : c.isDigit = true) : isBare c = true := by
  have range : 48 ≤ c.toNat ∧ c.toNat ≤ 57 := by
    simpa [Char.isDigit, UInt32.le_iff_toNat_le] using digit
  obtain ⟨low, high⟩ := range
  rw [← Char.ofNat_toNat c]
  generalize c.toNat = n at low high
  interval_cases n <;> decide

/-- The backslash is all that the schemes differ in, and it is not bare. -/
theorem safe_of_isBare (bare : isBare c = true) (kind : SchemeKind) :
    c.toNat < 128 ∧ unsafeInSegment kind c = false ∧ isDropped c = false := by
  simp only [isBare, Bool.and_eq_true, Bool.not_eq_true', decide_eq_true_eq] at bare
  obtain ⟨⟨⟨narrow, safe⟩, kept⟩, -⟩ := bare
  refine ⟨narrow, ?_, kept⟩
  cases kind with
  | web | file => exact safe
  | other =>
    simp only [unsafeInSegment, Bool.or_eq_false_iff] at safe ⊢
    exact ⟨safe.1, rfl⟩

theorem encoded_bare {kind : SchemeKind} {cs : List Char} (bare : ∀ c ∈ cs, isBare c = true) :
    encoded (unsafeInSegment kind) cs = String.ofList cs := by
  have single : ∀ c ∈ cs, (if c.toNat ≥ 128 || unsafeInSegment kind c then
      (Text.charBytes c).flatMap Text.percentByte else [c]) = [c] := by
    intro c mem
    obtain ⟨narrow, safe, -⟩ := safe_of_isBare (bare c mem) kind
    simp [safe, narrow]
  rw [encoded, Text.percentEncode, List.flatMap_congr single, List.flatMap_singleton']

/-- Only a path of one empty segment has no segment to keep. -/
theorem openSegments_of_ne (ne : segments ≠ [""]) :
    (Path.segments segments).openSegments = segments.reverse := by
  unfold Path.openSegments
  split
  · next same => exact absurd (Path.segments.inj same) ne
  · rfl

/-- **A segment is added in encoded form**, at the end of the path, if nothing of it is dropped and
it does not consist of dots. -/
theorem pushSegment_plain (path : url.path = .segments segments)
    (plain : ∀ c ∈ segment.toList, isDropped c = false) (notOne : segment ≠ ".")
    (notTwo : segment ≠ "..") : url.pushSegment segment =
      { url with path := .segments (url.path.openSegments.reverse ++
          [encoded (unsafeInSegment (schemeKind url.scheme)) segment.toList]) } := by
  have kept : segment.toList.filter (fun c => !isDropped c) = segment.toList :=
    List.filter_eq_self.2 fun c mem => by simp [plain c mem]
  have notOne' : segment.toList ≠ ['.'] := fun same => notOne (String.toList_inj.1 same)
  have notTwo' : segment.toList ≠ ['.', '.'] := fun same => notTwo (String.toList_inj.1 same)
  rw [pushSegment, path]
  simp [kept, notOne, notTwo, notOne', notTwo']

/-- **A bare segment is added as it is**, at the end of the path. -/
theorem pushSegment_bare (path : url.path = .segments segments)
    (bare : ∀ c ∈ segment.toList, isBare c = true) : url.pushSegment segment =
      { url with path := .segments (url.path.openSegments.reverse ++ [segment]) } := by
  have noDot : '.' ∉ segment.toList := fun mem => absurd (bare _ mem) (by decide)
  have notOne : segment ≠ "." := by
    rintro rfl
    exact noDot (by decide)
  have notTwo : segment ≠ ".." := by
    rintro rfl
    exact noDot (by decide)
  rw [pushSegment_plain path (fun c mem => (safe_of_isBare (bare c mem) .web).2.2) notOne notTwo,
    encoded_bare bare, String.ofList_toList]

/-- Behind segments that are kept, a bare segment is added as it is. -/
theorem pushSegment_behind (path : url.path = .segments segments) (ne : segments ≠ [""])
    (bare : ∀ c ∈ segment.toList, isBare c = true) :
    url.pushSegment segment = { url with path := .segments (segments ++ [segment]) } := by
  rw [pushSegment_bare path bare, path, openSegments_of_ne ne, List.reverse_reverse]

/-- A number is bare. -/
theorem isBare_toString (n : Int) : ∀ c ∈ (toString n).toList, isBare c = true := by
  have digits (n : Nat) : ∀ c ∈ n.repr.toList, isBare c = true := fun c mem =>
    isBare_of_isDigit (Nat.isDigit_of_mem_toDigits (by decide) (by decide) (Nat.toList_repr ▸ mem))
  cases n with
  | ofNat n => exact digits n
  | negSucc n =>
    intro c mem
    have mem : c ∈ ("-" ++ (n + 1).repr).toList := mem
    rw [String.toList_append, List.mem_append] at mem
    rcases mem with mem | mem
    · obtain rfl := List.mem_singleton.1 mem
      decide
    · exact digits _ c mem

/-- A number is read back from its digits, and from the sign in front of them. -/
theorem toString_injective {m n : Int} (same : toString m = toString n) : m = n := by
  have repr_injective {m n : Nat} (same : m.repr = n.repr) : m = n := by
    have digits := congrArg (fun s => Nat.ofDigitChars 10 s.toList 0) same
    simpa only [Nat.toList_repr, Nat.ofDigitChars_ten_toDigits] using digits
  have unsigned (m n : Nat) : m.repr ≠ "-" ++ n.repr := fun same => by
    have sign : '-' ∈ m.repr.toList := by
      rw [same, String.toList_append]
      exact List.mem_append_left _ (by decide)
    rw [Nat.toList_repr] at sign
    exact absurd (Nat.isDigit_of_mem_toDigits (by decide) (by decide) sign) (by decide)
  cases m with
  | ofNat m =>
    cases n with
    | ofNat n => exact congrArg Int.ofNat (repr_injective same)
    | negSucc n => exact absurd same (unsigned m (n + 1))
  | negSucc m =>
    cases n with
    | ofNat n => exact absurd same.symm (unsigned n (m + 1))
    | negSucc n =>
      have digits := (String.append_right_inj "-").1 same
      exact congrArg Int.negSucc (Nat.succ.inj (repr_injective digits))

end HookRelay.Url
