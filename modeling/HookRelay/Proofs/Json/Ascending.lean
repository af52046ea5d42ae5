import HookRelay.Proofs.Json.Record
import Mathlib.Data.List.Sort

/-!
# Objects whose keys ascend

The objects that the cluster keeps are tidy, so that their keys ascend. A merge patch leaves such an
object behind, and of each key that it lists there is nothing left but what it says, unless it says
so by an object. A record that is read from such an object is determined by the fields that it
knows.

## Main definitions

* `Ascending` : the keys of an object ascend
* `pick` : the fields of some keys

## Main statements

* `lookup_mergeFields`, `pick_mergeFields` : what a merge patch leaves under a key, and of all the
  keys that it lists
* `ascending_tidy` : the keys of a tidy object ascend
* `get?_ofFields` : what an object made of pairs holds
* `Record.decode_pick` : a record is determined by the fields that it knows
-/

namespace HookRelay.Json

/-- The keys of fields ascend. -/
def Ascending (fs : List (String × Json)) : Prop := fs.Pairwise fun f g => f.1 < g.1

instance (fs : List (String × Json)) : Decidable (Ascending fs) :=
  inferInstanceAs (Decidable (fs.Pairwise fun f g => f.1 < g.1))

variable {key : String} {value : Json} {fs patch : List (String × Json)}

/-! ## Looking up -/

theorem mem_of_lookup (found : lookup key fs = some value) : (key, value) ∈ fs := by
  induction fs with
  | nil => cases found
  | cons f rest ih =>
    obtain ⟨k, v⟩ := f
    rw [lookup_cons] at found
    split at found
    · next here =>
      cases here
      cases found
      exact List.mem_cons_self ..
    · exact List.mem_cons_of_mem _ (ih found)

theorem lookup_of_mem (ascending : Ascending fs) (mem : (key, value) ∈ fs) :
    lookup key fs = some value := by
  induction fs with
  | nil => cases mem
  | cons f rest ih =>
    obtain ⟨k, v⟩ := f
    obtain ⟨first, later⟩ := List.pairwise_cons.1 ascending
    rw [lookup_cons]
    obtain same | mem := List.mem_cons.1 mem
    · cases same
      exact if_pos rfl
    · have less : k < key := first _ mem
      have other : k ≠ key := fun same => String.lt_irrefl key (same ▸ less)
      rw [if_neg other]
      exact ih later mem

/-! ## Merging -/

theorem mem_of_mem_insert {f : String × Json} (mem : f ∈ insert key value fs) :
    f = (key, value) ∨ f ∈ fs := by
  induction fs with
  | nil => exact .inl (List.mem_singleton.1 mem)
  | cons g rest ih =>
    obtain ⟨k, v⟩ := g
    rw [insert] at mem
    split at mem
    · exact List.mem_cons.1 mem
    · split at mem
      · exact (List.mem_cons.1 mem).imp_right (List.mem_cons_of_mem _)
      · obtain rfl | mem := List.mem_cons.1 mem
        · exact .inr (List.mem_cons_self ..)
        · exact (ih mem).imp_right (List.mem_cons_of_mem _)

theorem Ascending.insert (ascending : Ascending fs) (key : String) (value : Json) :
    Ascending (insert key value fs) := by
  induction fs with
  | nil => exact List.pairwise_singleton ..
  | cons f rest ih =>
    obtain ⟨k, v⟩ := f
    obtain ⟨first, later⟩ := List.pairwise_cons.1 ascending
    rw [Json.insert]
    split
    · next less =>
      refine List.pairwise_cons.2 ⟨fun g mem => ?_, ascending⟩
      obtain rfl | mem := List.mem_cons.1 mem
      · exact less
      · exact String.lt_trans less (first g mem)
    · next notLess =>
      split
      · next same =>
        subst same
        exact List.pairwise_cons.2 ⟨first, later⟩
      · next other =>
        have less : k < key := Std.lt_of_le_of_ne notLess other
        refine List.pairwise_cons.2 ⟨fun g mem => ?_, ih later⟩
        obtain rfl | mem := mem_of_mem_insert mem
        · exact less
        · exact first g mem

theorem Ascending.erase (ascending : Ascending fs) (key : String) : Ascending (erase key fs) :=
  List.Pairwise.filter _ ascending

theorem mergeFields_cons_of_ne {k : String} {v : Json} (notNull : v ≠ .null)
    (fs rest : List (String × Json)) : mergeFields fs ((k, v) :: rest) =
      mergeFields (insert k (merge ((lookup k fs).getD .null) v) fs) rest := by
  rw [mergeFields]
  exact notNull

/-- A merge patch leaves the keys ascending. -/
theorem Ascending.mergeFields (ascending : Ascending fs) (patch : List (String × Json)) :
    Ascending (mergeFields fs patch) := by
  induction patch generalizing fs with
  | nil => simpa only [Json.mergeFields] using ascending
  | cons entry rest ih =>
    obtain ⟨k, v⟩ := entry
    by_cases isNull : v = .null
    · subst isNull
      rw [Json.mergeFields]
      exact ih (ascending.erase k)
    · rw [mergeFields_cons_of_ne isNull]
      exact ih (ascending.insert k _)

/-- **What a merge patch leaves under a key**: what was there if it does not list the key, nothing
if it lists it with `null`, and else what was there with the patch's value merged into it. -/
theorem lookup_mergeFields (ascending : Ascending patch) (key : String)
    (fs : List (String × Json)) : lookup key (mergeFields fs patch) =
      match lookup key patch with
      | none => lookup key fs
      | some v => if v = .null then none else some (merge ((lookup key fs).getD .null) v) := by
  induction patch generalizing fs with
  | nil => simp [mergeFields]
  | cons entry rest ih =>
    obtain ⟨k, v⟩ := entry
    obtain ⟨first, later⟩ := List.pairwise_cons.1 ascending
    rw [lookup_cons]
    by_cases here : k = key
    · subst here
      -- the rest of the patch does not list the key again
      have once : k ∉ rest.map Prod.fst := fun mem => by
        obtain ⟨f, mem, same⟩ := List.mem_map.1 mem
        exact String.lt_irrefl k (same ▸ first f mem)
      rw [if_pos rfl]
      by_cases isNull : v = .null
      · subst isNull
        rw [mergeFields, lookup_mergeFields_of_not_mem _ _ once, lookup_erase_self]
        rfl
      · rw [mergeFields_cons_of_ne isNull, lookup_mergeFields_of_not_mem _ _ once,
          lookup_insert_self]
        exact (if_neg isNull).symm
    · rw [if_neg here]
      by_cases isNull : v = .null
      · subst isNull
        rw [mergeFields, ih later, lookup_erase_of_ne (Ne.symm here)]
      · rw [mergeFields_cons_of_ne isNull, ih later, lookup_insert_of_ne (Ne.symm here)]

/-! ## Tidy objects -/

theorem Ascending.tidyFields (ascending : Ascending fs) (raw : List (String × Json)) :
    Ascending (tidyFields raw fs) := by
  induction raw generalizing fs with
  | nil => simpa only [Json.tidyFields] using ascending
  | cons f rest ih =>
    rw [Json.tidyFields]
    exact ih (ascending.insert _ _)

/-- The keys of a tidy object ascend. -/
theorem ascending_tidy (j : Json) : Ascending (fieldsOrNone j.tidy) := by
  cases j with
  | object raw =>
    rw [tidy]
    exact Ascending.tidyFields List.Pairwise.nil raw
  | null | bool | number | string | array =>
    simp only [tidy, fieldsOrNone]
    exact List.Pairwise.nil

/-- What stands in a tidy object is tidy. -/
theorem exists_tidy_of_mem {f : String × Json} {raw : List (String × Json)}
    (mem : f ∈ tidyFields raw fs) : f ∈ fs ∨ ∃ j : Json, f.2 = j.tidy := by
  induction raw generalizing fs with
  | nil =>
    rw [tidyFields] at mem
    exact .inl mem
  | cons g rest ih =>
    rw [tidyFields] at mem
    obtain here | tidied := ih mem
    · exact (mem_of_mem_insert here).symm.imp_right fun same => ⟨g.2, congrArg Prod.snd same⟩
    · exact .inr tidied

/-! ## Reading -/

/-- The fields of some keys, in the order of the keys. -/
def pick (keys : List String) (fs : List (String × Json)) : List (String × Json) :=
  keys.filterMap fun k => (lookup k fs).map fun v => (k, v)

theorem pick_eq_filter {keys : List String} (ordered : keys.Pairwise (· < ·))
    (ascending : Ascending fs) : pick keys fs = fs.filter fun f => f.1 ∈ keys := by
  have antisymm : Std.Antisymm fun f g : String × Json => f.1 < g.1 :=
    ⟨fun _ _ less greater => absurd greater (String.lt_asymm less)⟩
  have irrefl : Std.Irrefl fun f g : String × Json => f.1 < g.1 :=
    ⟨fun _ => String.lt_irrefl _⟩
  have picked : Ascending (pick keys fs) := by
    refine List.Pairwise.filterMap _ (fun k l less f found g found' => ?_) ordered
    obtain ⟨v, -, rfl⟩ := Option.map_eq_some_iff.1 found
    obtain ⟨v', -, rfl⟩ := Option.map_eq_some_iff.1 found'
    exact less
  refine List.Pairwise.eq_of_mem_iff picked (ascending.filter _) fun f => ?_
  obtain ⟨k, v⟩ := f
  rw [pick, List.mem_filterMap, List.mem_filter, decide_eq_true_iff]
  constructor
  · rintro ⟨k', mem, found⟩
    obtain ⟨v', found, same⟩ := Option.map_eq_some_iff.1 found
    cases same
    exact ⟨mem_of_lookup found, mem⟩
  · rintro ⟨here, mem⟩
    refine ⟨k, mem, ?_⟩
    rw [lookup_of_mem ascending here]
    rfl

theorem merge_of_not_object (old : Json) {v : Json} (notObject : v.isObject = false) :
    merge old v = v := by
  cases v with
  | null | bool | number | string | array => simp [merge]
  | object fs => cases notObject

/-- **What a merge patch leaves of the keys that it lists**: what it says, whatever was there, if it
says so by no object. What it takes out is gone. -/
theorem pick_mergeFields (ascending : Ascending patch)
    (flat : ∀ f ∈ patch, f.2.isObject = false) (fs : List (String × Json)) :
    pick (patch.map Prod.fst) (mergeFields fs patch) = patch.filter fun f => f.2 ≠ .null := by
  rw [pick, List.filterMap_map, ← List.filterMap_eq_filter]
  refine List.filterMap_congr fun f mem => ?_
  obtain ⟨k, v⟩ := f
  show (lookup k (mergeFields fs patch)).map (fun v => (k, v)) = _
  rw [lookup_mergeFields ascending, lookup_of_mem ascending mem]
  by_cases isNull : v = .null
  · subst isNull
    rfl
  · simp [isNull, merge_of_not_object _ (flat _ mem)]

/-! ## Objects from pairs -/

theorem lookup_foldl_insert_of_not_mem {pairs : List (String × Json)}
    (away : key ∉ pairs.map Prod.fst) (fs : List (String × Json)) :
    lookup key (pairs.foldl (fun acc f => insert f.1 f.2 acc) fs) = lookup key fs := by
  induction pairs generalizing fs with
  | nil => rfl
  | cons f rest ih =>
    rw [List.map_cons, List.mem_cons, not_or] at away
    rw [List.foldl_cons, ih away.2, lookup_insert_of_ne away.1]

/-- Of pairs with distinct keys each is found in the object. -/
theorem get?_ofFields {pairs : List (String × Json)} (distinct : (pairs.map Prod.fst).Nodup)
    (mem : (key, value) ∈ pairs) : (ofFields pairs).get? key = some value := by
  show lookup key (pairs.foldl (fun acc f => insert f.1 f.2 acc) []) = some value
  generalize ([] : List (String × Json)) = fs
  induction pairs generalizing fs with
  | nil => cases mem
  | cons f rest ih =>
    rw [List.map_cons, List.nodup_cons] at distinct
    obtain rfl | mem := List.mem_cons.1 mem
    · rw [List.foldl_cons, lookup_foldl_insert_of_not_mem distinct.1, lookup_insert_self]
    · exact ih distinct.2 mem _

/-- Nothing but the pairs is in the object. -/
theorem mem_of_mem_foldl_insert {pairs : List (String × Json)} {f : String × Json}
    (mem : f ∈ pairs.foldl (fun acc f => insert f.1 f.2 acc) fs) : f ∈ pairs ∨ f ∈ fs := by
  induction pairs generalizing fs with
  | nil => exact .inr mem
  | cons g rest ih =>
    rcases ih mem with mem | mem
    · exact .inl (List.mem_cons_of_mem _ mem)
    · rcases mem_of_mem_insert mem with rfl | mem
      · exact .inl List.mem_cons_self
      · exact .inr mem

mutual

/-- A value is read back from its document. -/
theorem value_toDocument : ∀ j : Json, (toDocument j).value = .ok j
  | .null | .bool _ | .number _ | .string _ => by simp [toDocument, Document.value]
  | .array xs => by simp [toDocument, Document.value, values_toDocuments xs]
  | .object fs => by simp [toDocument, Document.value, fieldValues_toFieldDocuments fs]

theorem values_toDocuments : ∀ (xs acc : List Json),
    Document.values (toDocuments xs) acc = .ok (acc.reverse ++ xs)
  | [], acc => by simp [toDocuments, Document.values]
  | x :: xs, acc => by
    simp [toDocuments, Document.values, value_toDocument x, values_toDocuments xs]

theorem fieldValues_toFieldDocuments : ∀ fs acc : List (String × Json),
    Document.fieldValues (toFieldDocuments fs) acc = .ok (acc.reverse ++ fs)
  | [], acc => by simp [toFieldDocuments, Document.fieldValues]
  | (k, v) :: rest, acc => by
    simp [toFieldDocuments, Document.fieldValues, value_toDocument v,
      fieldValues_toFieldDocuments rest]

end

theorem any_toDocument (j : Json) : Decoder.any j.toDocument = .ok () := by
  rw [Decoder.any, value_toDocument]

namespace Record

variable {σ : Type} (r : Record σ) {keys : List String}

/-- Fields that a record does not know are passed over. -/
theorem visit_filter (known : ∀ f ∈ r.fields, f.name ∈ keys) (fs : List (String × Json))
    (seen : List String) (s : σ) :
    r.visit none (toFieldDocuments (fs.filter fun f => f.1 ∈ keys)) seen s =
      r.visit none (toFieldDocuments fs) seen s := by
  induction fs generalizing seen s with
  | nil => rfl
  | cons f rest ih =>
    obtain ⟨k, v⟩ := f
    by_cases mem : k ∈ keys
    · rw [List.filter_cons, if_pos (decide_eq_true mem), toFieldDocuments, toFieldDocuments, visit,
        visit]
      simp only [ih]
    · rw [List.filter_cons, if_neg (by simpa using mem), ih, toFieldDocuments, visit]
      have unknown : r.fields.find? (fun f => f.name = k) = none :=
        List.find?_eq_none.2 fun f listed named => mem (of_decide_eq_true named ▸ known f listed)
      rw [unknown, any_toDocument]

/-- **A record is determined by the fields that it knows**, where the keys of an object ascend. -/
theorem decode_pick (ordered : keys.Pairwise (· < ·)) (known : ∀ f ∈ r.fields, f.name ∈ keys)
    (ascending : Ascending fs) :
    Json.decode r.decode (.object (pick keys fs)) = Json.decode r.decode (.object fs) := by
  rw [pick_eq_filter ordered ascending]
  simp only [Json.decode, toDocument, decode, r.visit_filter known]

end Record

end HookRelay.Json
