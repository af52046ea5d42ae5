import HookRelay.Proofs.Url.Scheme
import HookRelay.Text.Blank
import Mathlib.Data.List.DropRight

/-!
# What is dropped from the text of an address

Two kinds of characters are removed from texts before they are read. Trimming a text removes the
blanks at its ends. Reading an address removes control characters and plain blanks at the ends, and
tabs and line ends wherever they stand; the blanks beyond ASCII it keeps. So a line end may be put
anywhere into an address and nobody notices, and trimming an address changes how it is read only if
one of these wide blanks stands at its ends.

## Main definitions

* `stripped` : a list without what stands at its ends
* `Text.isWide` : a blank that is kept when an address is read
* `Text.before`, `Text.behind` : the blanks around a text
* `Url.isEdge`, `Url.isIdle` : what is removed at the ends of an address, and blanks beside it

## Main statements

* `Url.clean_eq` : the ends and the line ends may be dropped in either order
* `Url.clean_broken` : a line end inside an address goes unnoticed
* `Url.clean_trim`, `Url.clean_of_wide_before`, `Url.clean_of_wide_behind` : an address and what is
  left of it by trimming
-/

namespace HookRelay

/-! ## Lists without their ends -/

section Stripped

variable {α : Type} {p q : α → Bool} {a b : α} {l before behind : List α}

/-- A list without the elements at its two ends that pass a test. -/
def stripped (p : α → Bool) (l : List α) : List α := (l.dropWhile p).rdropWhile p

theorem stripped_sublist (p : α → Bool) (l : List α) : (stripped p l).Sublist l :=
  (List.rdropWhile_prefix p _).sublist.trans (List.dropWhile_suffix p).sublist

/-- What passes the test is removed at both ends. -/
theorem stripped_append (first : ∀ a ∈ before, p a = true) (last : ∀ a ∈ behind, p a = true) :
    stripped p (before ++ l ++ behind) = stripped p l := by
  have emptied : behind.reverse.dropWhile p = [] :=
    List.dropWhile_eq_nil_iff.2 fun a mem => last a (List.mem_reverse.1 mem)
  rw [stripped, stripped, List.append_assoc, List.dropWhile_append_of_pos first,
    List.dropWhile_append]
  split
  · next gone =>
    rw [List.dropWhile_eq_nil_iff.2 last, List.isEmpty_iff.1 gone]
  · rw [List.rdropWhile, List.reverse_append, List.dropWhile_append, emptied]
    rfl

theorem exists_stripped (p : α → Bool) (l : List α) : ∃ before behind,
    l = before ++ stripped p l ++ behind ∧ (∀ a ∈ before, p a = true) ∧
      ∀ a ∈ behind, p a = true := by
  refine ⟨l.takeWhile p, (l.dropWhile p).rtakeWhile p, ?_, fun a => List.mem_takeWhile_imp,
    fun a => List.mem_rtakeWhile_imp⟩
  rw [List.append_assoc, stripped, List.rdropWhile_append_rtakeWhile,
    List.takeWhile_append_dropWhile]

theorem stripped_stripped (p : α → Bool) (l : List α) :
    stripped p (stripped p l) = stripped p l := by
  obtain ⟨before, behind, whole, first, last⟩ := exists_stripped p l
  calc stripped p (stripped p l) = stripped p (before ++ stripped p l ++ behind) :=
        (stripped_append first last).symm
    _ = stripped p l := by rw [← whole]

/-- What does not pass the test stays at the end. -/
theorem stripped_concat (stops : p a = false) : stripped p (l ++ [a]) = l.dropWhile p ++ [a] := by
  rw [stripped, List.dropWhile_append]
  split
  · next gone =>
    rw [List.isEmpty_iff.1 gone, List.dropWhile_cons_of_neg (by simp [stops])]
    exact List.rdropWhile_concat_neg p [] a (by simp [stops])
  · exact List.rdropWhile_concat_neg _ _ _ (by simp [stops])

/-- A list has nothing to remove if and only if neither of its ends passes the test. -/
theorem stripped_eq_self_iff : stripped p l = l ↔
    (∀ a ∈ l.head?, p a = false) ∧ ∀ a ∈ l.getLast?, p a = false := by
  constructor
  · intro same
    constructor
    · intro a first
      obtain ⟨rest, split⟩ : stripped p l <+: l.dropWhile p := List.rdropWhile_prefix p _
      have stops := List.head?_dropWhile_not p l
      rw [← split, same, List.head?_append_of_ne_nil _ (by rintro rfl; cases first),
        Option.mem_def.1 first] at stops
      simpa using stops
    · intro a last
      rw [← same] at last
      obtain ⟨ne, rfl⟩ := List.mem_getLast?_eq_getLast last
      exact Bool.eq_false_iff.2 (List.rdropWhile_last_not p _ ne)
  · rintro ⟨first, last⟩
    have start : l.dropWhile p = l := by
      cases l with
      | nil => rfl
      | cons a l => exact List.dropWhile_cons_of_neg (by simp [first a rfl])
    rw [stripped, start, List.rdropWhile_eq_self_iff]
    exact fun ne => by simp [last _ (List.getLast?_eq_some_getLast ne)]

/-- Removing elsewhere what would be removed at the ends can be done before or after. -/
theorem filter_dropWhile_comm (removed : ∀ a, q a = false → p a = true) (l : List α) :
    (l.dropWhile p).filter q = (l.filter q).dropWhile p := by
  induction l with
  | nil => rfl
  | cons a l ih =>
    cases passes : p a with
    | true =>
      rw [List.dropWhile_cons_of_pos passes, ih]
      cases kept : q a with
      | true => rw [List.filter_cons_of_pos kept, List.dropWhile_cons_of_pos passes]
      | false => rw [List.filter_cons_of_neg (by simp [kept])]
    | false =>
      have kept : q a = true := by
        by_contra gone
        simp [removed a (by simpa using gone)] at passes
      rw [List.dropWhile_cons_of_neg (by simp [passes]), List.filter_cons_of_pos kept,
        List.dropWhile_cons_of_neg (by simp [passes])]

theorem filter_stripped (removed : ∀ a, q a = false → p a = true) (l : List α) :
    (stripped p l).filter q = stripped p (l.filter q) := by
  rw [stripped, stripped, List.rdropWhile, List.rdropWhile, List.filter_reverse,
    filter_dropWhile_comm removed, List.filter_reverse, filter_dropWhile_comm removed]

end Stripped

/-! ## The blanks around a text -/

namespace Text

variable {c : Char} {s : String}

/-- A blank beyond those that are also dropped when an address is read. -/
def isWide (c : Char) : Bool := isBlank c && 0x20 < c.toNat

theorem isBlank_of_isWide (wide : isWide c = true) : isBlank c = true :=
  (Bool.and_eq_true_iff.1 wide).1

/-- The blanks in front of a text. -/
def before (s : String) : List Char := s.toList.takeWhile isBlank

/-- The blanks behind a text; those of a text of blanks only stand in front of it. -/
def behind (s : String) : List Char := (s.toList.dropWhile isBlank).rtakeWhile isBlank

theorem toList_trim (s : String) : (trim s).toList = stripped isBlank s.toList := by
  rw [trim, String.toList_ofList]
  rfl

/-- A text is trimmed if neither of its ends is blank. -/
theorem trim_eq_self_iff : trim s = s ↔
    (∀ c ∈ s.toList.head?, isBlank c = false) ∧ ∀ c ∈ s.toList.getLast?, isBlank c = false := by
  rw [← stripped_eq_self_iff, ← toList_trim, String.toList_inj]

theorem toList_eq (s : String) : s.toList = before s ++ (trim s).toList ++ behind s := by
  rw [toList_trim, List.append_assoc, stripped, behind, List.rdropWhile_append_rtakeWhile, before,
    List.takeWhile_append_dropWhile]

theorem isBlank_of_mem_before (mem : c ∈ before s) : isBlank c = true := List.mem_takeWhile_imp mem

theorem isBlank_of_mem_behind (mem : c ∈ behind s) : isBlank c = true :=
  List.mem_rtakeWhile_imp mem

end Text

/-! ## What an address is read from -/

namespace Url

variable {text : String} {c : Char}

/-- What is removed at the ends of an address: control characters and plain blanks. -/
def isEdge (c : Char) : Bool := c.toNat ≤ 0x20

/-- A character that is blank, or removed at the ends of an address. -/
def isIdle (c : Char) : Bool := Text.isBlank c || isEdge c

/-- What is left of a text without tabs and line ends. -/
def unbroken (cs : List Char) : List Char := cs.filter fun c => !isDropped c

@[simp] theorem unbroken_append (front back : List Char) :
    unbroken (front ++ back) = unbroken front ++ unbroken back := List.filter_append ..

theorem isEdge_of_isDropped (dropped : isDropped c = true) : isEdge c = true := by
  simp only [isDropped, Bool.or_eq_true, decide_eq_true_eq] at dropped
  obtain (rfl | rfl) | rfl := dropped <;> decide

/-- The ends may be removed before or after the tabs and the line ends. -/
theorem clean_eq (text : String) : clean text = stripped isEdge (unbroken text.toList) := by
  have removed : ∀ c, (!isDropped c) = false → isEdge c = true := fun c dropped =>
    isEdge_of_isDropped (by simpa using dropped)
  exact filter_stripped removed text.toList

theorem clean_sublist (text : String) : (clean text).Sublist text.toList := by
  rw [clean_eq]
  exact (stripped_sublist _ _).trans List.filter_sublist

/-- **A line end inside an address goes unnoticed.** -/
theorem clean_broken (front back : String) :
    clean (front ++ "\n" ++ back) = clean (front ++ back) := by
  have gone : unbroken (front ++ "\n" ++ back).toList = unbroken (front ++ back).toList := by
    simp [unbroken, isDropped]
  rw [clean_eq, clean_eq, gone]

/-- A scheme takes two characters at least. -/
theorem two_le_of_splitScheme {cs : List Char} {split : String × List Char}
    (begun : splitScheme cs = some split) : 2 ≤ cs.length := by
  obtain ⟨c, front, rfl, -⟩ := splitScheme_eq_some_iff.1 begun
  simp only [List.length_append, List.length_cons]
  omega

/-- An address that stands by itself has two characters at least. -/
theorem exists_cons_cons_of_parse {text : String} {url : Url} (read : parse text = .ok url) :
    ∃ a b rest, text.toList = a :: b :: rest := by
  obtain ⟨split, begun, -⟩ := Option.map_eq_some_iff.1 (ownScheme_parse read)
  have long := (two_le_of_splitScheme begun).trans (clean_sublist text).length_le
  match letters : text.toList with
  | [] | [_] => simp [letters] at long
  | a :: b :: rest => exact ⟨a, b, rest, rfl⟩

/-- A blank is dropped at the ends of an address unless it is wide. -/
theorem isEdge_eq_of_isBlank (blank : Text.isBlank c = true) : isEdge c = !Text.isWide c := by
  rw [isEdge, Text.isWide, blank, Bool.true_and, ← decide_not, decide_eq_decide, Nat.not_lt]

theorem isIdle_of_isWide (wide : Text.isWide c = true) : isIdle c = true := by
  rw [isIdle, Text.isBlank_of_isWide wide, Bool.true_or]

theorem isEdge_of_isWide (wide : Text.isWide c = true) : isEdge c = false := by
  simp only [Text.isWide, Bool.and_eq_true, decide_eq_true_eq] at wide
  simpa [isEdge] using wide.2

/-- Wide blanks stay where they are when tabs and line ends go. -/
theorem mem_unbroken_of_isWide {cs : List Char} (wide : Text.isWide c = true) (mem : c ∈ cs) :
    c ∈ unbroken cs := by
  refine List.mem_filter.2 ⟨mem, ?_⟩
  by_contra dropped
  have edge := isEdge_of_isDropped (c := c) (by simpa using dropped)
  rw [isEdge_of_isWide wide] at edge
  cases edge

theorem forall_isEdge_of_narrow {cs : List Char} (blank : ∀ c ∈ cs, Text.isBlank c = true)
    (narrow : ∀ c ∈ cs, Text.isWide c = false) : ∀ c ∈ unbroken cs, isEdge c = true := by
  intro c mem
  have mem := List.mem_of_mem_filter mem
  rw [isEdge_eq_of_isBlank (blank c mem), narrow c mem]
  rfl

/-- **Trimming an address without wide blanks around it** changes nothing. -/
theorem clean_trim (first : ∀ c ∈ Text.before text, Text.isWide c = false)
    (last : ∀ c ∈ Text.behind text, Text.isWide c = false) :
    clean (Text.trim text) = clean text := by
  rw [clean_eq, clean_eq, Text.toList_eq text, unbroken_append, unbroken_append]
  exact (stripped_append
    (forall_isEdge_of_narrow (fun _ => Text.isBlank_of_mem_before) first)
    (forall_isEdge_of_narrow (fun _ => Text.isBlank_of_mem_behind) last)).symm

/-- **A wide blank before an address** is what it is read from first. -/
theorem clean_of_wide_before (wide : ∃ c ∈ Text.before text, Text.isWide c = true) :
    ∃ c rest, clean text = c :: rest ∧ Text.isWide c = true := by
  obtain ⟨c, mem, wide⟩ := wide
  have some_kept : (unbroken (Text.before text)).dropWhile isEdge ≠ [] := fun all => by
    have edge := List.dropWhile_eq_nil_iff.1 all c (mem_unbroken_of_isWide wide mem)
    rw [isEdge_of_isWide wide] at edge
    cases edge
  obtain ⟨d, rest, begun⟩ := List.exists_cons_of_ne_nil some_kept
  have stops : isEdge d = false := by
    simpa [begun] using List.head?_dropWhile_not isEdge (unbroken (Text.before text))
  have blank : Text.isBlank d = true := by
    have kept : d ∈ (unbroken (Text.before text)).dropWhile isEdge := begun ▸ List.mem_cons_self
    exact Text.isBlank_of_mem_before
      (List.mem_of_mem_filter ((List.dropWhile_suffix isEdge).mem kept))
  obtain ⟨rest', ended⟩ := reverse_dropWhile_append (List.cons_ne_nil d [])
    (List.forall_mem_singleton.2 stops)
    (rest ++ unbroken ((Text.trim text).toList ++ Text.behind text))
  refine ⟨d, rest', ?_, by rwa [isEdge_eq_of_isBlank blank, Bool.not_eq_false'] at stops⟩
  rw [clean_eq, Text.toList_eq text, List.append_assoc, unbroken_append, stripped,
    List.dropWhile_append, begun]
  exact ended

/-- Of blanks, the last wide one is the last that is kept. -/
theorem exists_last_wide {cs : List Char} (blank : ∀ c ∈ cs, Text.isBlank c = true)
    (wide : ∃ c ∈ cs, Text.isWide c = true) : ∃ blanks d after,
      unbroken cs = blanks ++ [d] ++ after ∧ Text.isWide d = true ∧
      (∀ c ∈ blanks, Text.isBlank c = true) ∧ ∀ c ∈ after, isEdge c = true := by
  obtain ⟨c, mem, wide⟩ := wide
  have some_kept : (unbroken cs).rdropWhile isEdge ≠ [] := fun all => by
    have edge := List.rdropWhile_eq_nil_iff.1 all c (mem_unbroken_of_isWide wide mem)
    rw [isEdge_of_isWide wide] at edge
    cases edge
  obtain ⟨blanks, d, kept⟩ := (List.eq_nil_or_concat _).resolve_left some_kept
  rw [List.concat_eq_append] at kept
  have whole : unbroken cs = blanks ++ [d] ++ (unbroken cs).rtakeWhile isEdge := by
    rw [← kept, List.rdropWhile_append_rtakeWhile]
  have isBlank_of_mem : ∀ c ∈ blanks ++ [d], Text.isBlank c = true := fun c mem =>
    blank c (List.mem_of_mem_filter (by rw [← unbroken, whole]; exact List.mem_append_left _ mem))
  have stops : isEdge d = false := by
    simpa [kept] using List.rdropWhile_last_not isEdge _ some_kept
  rw [isEdge_eq_of_isBlank (isBlank_of_mem d (by simp)), Bool.not_eq_false'] at stops
  exact ⟨blanks, d, _, whole, stops, fun c mem => isBlank_of_mem c (List.mem_append_left _ mem),
    fun c => List.mem_rtakeWhile_imp⟩

/-- **A wide blank behind an address** is what it is read from last, behind all that is left of the
address by trimming. All that stands behind that is idle. -/
theorem clean_of_wide_behind (first : ∀ c ∈ Text.before text, Text.isWide c = false)
    (wide : ∃ c ∈ Text.behind text, Text.isWide c = true) :
    ∃ between c, clean text = clean (Text.trim text) ++ (between ++ [c]) ∧ Text.isWide c = true ∧
      ∀ d ∈ between ++ [c], isIdle d = true := by
  obtain ⟨blanks, d, after, split, wide, isBlank_of_mem, edges⟩ :=
    exists_last_wide (fun _ => Text.isBlank_of_mem_behind) wide
  obtain ⟨front, back, core, fronts, backs⟩ :=
    exists_stripped isEdge (unbroken (Text.trim text).toList)
  rw [← clean_eq] at core
  have whole : unbroken text.toList = (unbroken (Text.before text) ++ front) ++
      (clean (Text.trim text) ++ (back ++ blanks) ++ [d]) ++ after := by
    rw [Text.toList_eq text, unbroken_append, unbroken_append, split, core]
    simp
  have cleaned : clean text =
      (clean (Text.trim text) ++ (back ++ blanks)).dropWhile isEdge ++ [d] := by
    rw [clean_eq, whole, stripped_append _ edges, stripped_concat (isEdge_of_isWide wide)]
    exact fun c mem => (List.mem_append.1 mem).elim
      (forall_isEdge_of_narrow (fun _ => Text.isBlank_of_mem_before) first c) (fronts c)
  have idle : ∀ c ∈ back ++ blanks ++ [d], isIdle c = true := by
    simp only [List.forall_mem_append, List.forall_mem_singleton]
    refine ⟨⟨fun c mem => ?_, fun c mem => ?_⟩, isIdle_of_isWide wide⟩
    · rw [isIdle, backs c mem, Bool.or_true]
    · rw [isIdle, isBlank_of_mem c mem, Bool.true_or]
  cases left : clean (Text.trim text) with
  | nil =>
    -- nothing is left of the text itself, and of the blanks those that begin with a wide one
    rw [left, List.nil_append] at cleaned
    refine ⟨_, d, cleaned, wide, fun c mem => idle c ?_⟩
    exact List.append_subset.2 ⟨List.Subset.trans (List.dropWhile_suffix isEdge).subset
      (List.subset_append_left ..), List.subset_append_right ..⟩ mem
  | cons a rest =>
    have ends := stripped_stripped isEdge (unbroken (Text.trim text).toList)
    rw [← clean_eq, stripped_eq_self_iff, left] at ends
    rw [left, List.cons_append, List.dropWhile_cons_of_neg (by simp [ends.1 a rfl])] at cleaned
    exact ⟨back ++ blanks, d, by simpa using cleaned, wide, idle⟩

end Url

end HookRelay
