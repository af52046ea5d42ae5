import HookRelay.Proofs.Text.Percent
import HookRelay.Proofs.Url.Cleaned
import HookRelay.Source.Scope

/-!
# Paths of the web

The path of an address of the web is read segment by segment. What may not stand in one is encoded,
slashes and backslashes end it, and a segment of one or two dots is not kept but leads where it
says. So a path that was read holds no such segment, and no tab or line end; and neither does what
is left of it without the slashes at its ends, unless that has several segments.

## Main definitions

* `Url.IsStep` : a segment of a path that was read

## Main statements

* `Url.exists_steps_readPathStart` : the paths of the web consist of such segments
* `Url.exists_segment_of_trimmed` : a text without slashes that is left of a path is a segment of it
* `Url.segments_inj` : the last segments of a text are told from what stands before them
-/

namespace HookRelay.Url

variable {cs segment : List Char} {back list : List String} {c : Char}

/-! ## Segments -/

/-- **A segment of a path that was read**: it holds neither slashes nor what is dropped from
addresses, and it leads somewhere. -/
structure IsStep (s : String) : Prop where
  plain : ∀ c ∈ s.toList, c ≠ '/' ∧ isDropped c = false
  notSingle : isSingleDot s = false
  notDouble : isDoubleDot s = false

theorem isStep_empty : IsStep "" where
  plain := by simp
  notSingle := by decide
  notDouble := by decide

/-- What is dropped from addresses would be encoded in a path. -/
theorem isDropped_of_unsafeInPath (safe : unsafeInPath c = false) : isDropped c = false := by
  by_contra dropped
  simp only [isDropped, Bool.not_eq_false, Bool.or_eq_true, decide_eq_true_eq] at dropped
  obtain (rfl | rfl) | rfl := dropped <;> revert safe <;> decide

/-- An encoded segment without slashes holds nothing that is dropped. -/
theorem plain_encoded (unslashed : '/' ∉ cs) :
    ∀ c ∈ (encoded unsafeInPath cs).toList, c ≠ '/' ∧ isDropped c = false := by
  intro c mem
  rw [encoded, String.toList_ofList] at mem
  obtain ⟨inside, -, safe⟩ | rfl | alphanum := Text.of_mem_percentEncode mem
  · exact ⟨fun slash => unslashed (slash ▸ inside), isDropped_of_unsafeInPath safe⟩
  · decide
  · refine ⟨?_, (kept_of_isSchemeChar (.inl (by simp [isSchemeChar, alphanum]))).2⟩
    rintro rfl
    revert alphanum
    decide

theorem isStep_of_mem_addSegment {isLast : Bool} (unslashed : '/' ∉ segment)
    (steps : ∀ s ∈ back, IsStep s) : ∀ s ∈ addSegment .web segment isLast back, IsStep s := by
  have shorter : ∀ s ∈ shorten .web back, IsStep s := by
    cases back with
    | nil => exact steps
    | cons s back => exact (List.forall_mem_cons.1 steps).2
  have ended {l : List String} (steps : ∀ s ∈ l, IsStep s) :
      ∀ s ∈ if isLast then "" :: l else l, IsStep s := by
    split
    · exact List.forall_mem_cons.2 ⟨isStep_empty, steps⟩
    · exact steps
  unfold addSegment
  dsimp only
  split
  · exact ended shorter
  · next notDouble =>
    split
    · exact ended steps
    · next notSingle =>
      rw [if_neg (by simp)]
      refine List.forall_mem_cons.2 ⟨⟨plain_encoded unslashed, ?_, ?_⟩, steps⟩
      · simpa using notSingle
      · simpa using notDouble

theorem isStep_of_mem_readSegments (unslashed : '/' ∉ segment) (steps : ∀ s ∈ back, IsStep s) :
    ∀ s ∈ (readSegments .web segment cs back).1, IsStep s := by
  have reversed {segment : List Char} (unslashed : '/' ∉ segment) : '/' ∉ segment.reverse :=
    fun mem => unslashed (List.mem_reverse.1 mem)
  induction cs generalizing segment back with
  | nil => exact isStep_of_mem_addSegment (reversed unslashed) steps
  | cons c cs ih =>
    rw [readSegments]
    split
    · exact isStep_of_mem_addSegment (reversed unslashed) steps
    · split
      · exact ih List.not_mem_nil (isStep_of_mem_addSegment (reversed unslashed) steps)
      · next notSlash =>
        refine ih (fun mem => ?_) steps
        obtain rfl | mem := List.mem_cons.1 mem
        · exact notSlash rfl
        · exact unslashed mem

/-- **The paths of the web consist of such segments.** -/
theorem exists_steps_readPathStart (cs : List Char) :
    ∃ list, (readPathStart .web cs).1 = .segments list ∧ ∀ s ∈ list, IsStep s := by
  have readPath_steps (cs : List Char) :
      ∃ list, (readPath .web cs []).1 = .segments list ∧ ∀ s ∈ list, IsStep s := by
    refine ⟨_, rfl, fun s mem => ?_⟩
    rw [if_neg (by decide), List.mem_reverse] at mem
    exact isStep_of_mem_readSegments List.not_mem_nil (by simp) s mem
  unfold readPathStart
  split
  · exact ⟨[""], rfl, by simpa using isStep_empty⟩
  · split
    · exact readPath_steps _
    · rw [if_neg (by simp [SchemeKind.isSpecial])]
      exact readPath_steps _

/-! ## Texts of paths -/

/-- The segments of a path, each behind a slash. -/
theorem toList_render (list : List String) :
    (Path.segments list).render.toList = list.flatMap fun s => '/' :: s.toList := by
  have run (acc : String) : (list.foldl (fun acc s => acc ++ "/" ++ s) acc).toList =
      acc.toList ++ list.flatMap fun s => '/' :: s.toList := by
    induction list generalizing acc with
    | nil => simp
    | cons s list ih => simp [ih]
  exact run ""

/-- A text without slashes at its ends. -/
theorem toList_trimSlashes (s : String) :
    (Scope.trimSlashes s).toList = stripped (fun c => decide (c = '/')) s.toList := by
  rw [Scope.trimSlashes, String.toList_ofList]
  rfl

/-- Behind a part without slashes, a text goes on with a slash or not at all. -/
theorem eq_of_append_slash {front front' behind behind' : List Char} (plain : '/' ∉ front)
    (plain' : '/' ∉ front') (slash : ∀ c ∈ behind.head?, c = '/')
    (slash' : ∀ c ∈ behind'.head?, c = '/') (same : front ++ behind = front' ++ behind') :
    front = front' := by
  have taken {front behind : List Char} (plain : '/' ∉ front)
      (slash : ∀ c ∈ behind.head?, c = '/') :
      (front ++ behind).takeWhile (· != '/') = front := by
    have unslashed : ∀ c ∈ front, (c != '/') = true := fun c mem =>
      bne_iff_ne.2 fun slash => plain (slash ▸ mem)
    rw [List.takeWhile_append_of_pos unslashed]
    cases behind with
    | nil => exact List.append_nil _
    | cons c behind =>
      rw [List.takeWhile_cons_of_neg (by simp [slash c rfl]), List.append_nil]
  rw [← taken plain slash, same, taken plain' slash']

/-- **A text without slashes that is left of a path** without the slashes at its ends is one of its
segments. -/
theorem exists_segment_of_trimmed {before core behind : List Char}
    (plain : ∀ s ∈ list, '/' ∉ s.toList) (ne : core ≠ []) (unslashed : '/' ∉ core)
    (first : ∀ c ∈ before, c = '/') (last : ∀ c ∈ behind, c = '/')
    (whole : list.flatMap (fun s => '/' :: s.toList) = before ++ core ++ behind) :
    ∃ s ∈ list, s.toList = core := by
  induction list generalizing before with
  | nil =>
    rw [List.flatMap_nil] at whole
    exact absurd (List.append_eq_nil_iff.1 (List.append_eq_nil_iff.1 whole.symm).1).2 ne
  | cons s list ih =>
    rw [List.flatMap_cons, List.cons_append] at whole
    obtain ⟨plainHere, plain⟩ := List.forall_mem_cons.1 plain
    obtain ⟨d, core', rfl⟩ := List.exists_cons_of_ne_nil ne
    cases before with
    | nil =>
      obtain ⟨rfl, -⟩ := List.cons.inj whole
      exact absurd List.mem_cons_self unslashed
    | cons b before =>
      have whole := (List.cons.inj whole).2
      cases letters : s.toList with
      | nil =>
        rw [letters, List.nil_append] at whole
        obtain ⟨t, among, same⟩ := ih plain (List.forall_mem_cons.1 first).2 whole
        exact ⟨t, List.mem_cons_of_mem _ among, same⟩
      | cons c cs =>
        -- what begins with another character than a slash begins where the slashes before it end
        cases before with
        | cons a before =>
          rw [letters] at whole plainHere
          obtain ⟨rfl, -⟩ := List.cons.inj whole
          rw [first c (by simp)] at plainHere
          exact absurd List.mem_cons_self plainHere
        | nil =>
          refine ⟨s, List.mem_cons_self, eq_of_append_slash plainHere unslashed ?_ ?_ whole⟩
          · cases list with
            | nil => simp
            | cons t list => simp
          · exact fun c mem => last c (List.mem_of_mem_head? mem)

/-- **The last segments of a text are told from what stands before them**, if they hold no slash. -/
theorem segments_inj {front front' : List Char} {list' : List String}
    (long : list.length = list'.length) (plain : ∀ s ∈ list, '/' ∉ s.toList)
    (plain' : ∀ s ∈ list', '/' ∉ s.toList)
    (same : front ++ list.flatMap (fun s => '/' :: s.toList) =
      front' ++ list'.flatMap (fun s => '/' :: s.toList)) : front = front' ∧ list = list' := by
  induction list using List.reverseRecOn generalizing list' with
  | nil =>
    obtain rfl := List.length_eq_zero_iff.1 long.symm
    exact ⟨by simpa using same, rfl⟩
  | append_singleton list s ih =>
    obtain rfl | ⟨list', t, rfl⟩ := List.eq_nil_or_concat' list'
    · simp at long
    · rw [List.forall_mem_append, List.forall_mem_singleton] at plain plain'
      simp only [List.flatMap_append, List.flatMap_singleton, ← List.append_assoc] at same
      -- read from the end, each text begins with its last segment
      have turned := congrArg List.reverse same
      simp only [List.reverse_append, List.reverse_cons, List.append_assoc,
        List.singleton_append] at turned
      have last : s.toList.reverse = t.toList.reverse :=
        eq_of_append_slash (by simpa using plain.2) (by simpa using plain'.2) (by simp) (by simp)
          turned
      obtain rfl : s = t := String.toList_inj.1 (List.reverse_inj.1 last)
      obtain ⟨rfl, rfl⟩ := ih (by simpa using long) plain.1 plain'.1
        (List.append_cancel_right same)
      exact ⟨rfl, rfl⟩

end HookRelay.Url
