import HookRelay.Proofs.Event.Named
import HookRelay.Proofs.Hook.Written
import Mathlib.Data.List.Sort
import Mathlib.Data.String.Basic

/-!
# What a hook subscribes to is what its source advertises

The settings of a source are a list of names, in any order, some of them perhaps twice and some of
no category. They are read twice: as the flags of the hook (`Flags.ofSettings`), and as the types
under which the events of the source are published (`eventTypes`). The names stand in four places,
each with a copy of its own: where a flag is set, where the flags are shown, where they are sent to
GitLab, and in the table of categories. The copies agree, so that both readings ask only which
categories are named. A flag is set if its name occurs, a type is listed if a flag of its kind is
set, and neither changes with the order of the names, with names that are repeated, or with names of
no category.

## Main definitions

* `Hook.SameReadings` : two lists of names have the same flags and the same types

## Main statements

* `Event.pairwise_eventTypes` : the types are ascending, each listed once
* `Hook.Flags.of_raise` : a name sets the flag of its category, and no other one
* `Hook.Flags.of_ofSettings` : the flag of a category is set if its name occurs
* `Hook.sameReadings_of_named` : both readings ask only which categories are named
* `Hook.Options.flags_advertised` : flags, what is sent to GitLab, and types agree
-/

namespace HookRelay

namespace Event

variable {names names' : List String}

/-! ## Types in ascending order -/

theorem pairwise_insertAscending {s : String} {ts : List String} (ascending : ts.Pairwise (· < ·)) :
    (insertAscending s ts).Pairwise (· < ·) := by
  induction ts with
  | nil => exact List.pairwise_singleton _ _
  | cons t ts ih =>
    obtain ⟨first, rest⟩ := List.pairwise_cons.1 ascending
    rw [insertAscending]
    split
    · next before =>
      refine List.pairwise_cons.2 ⟨fun u mem => ?_, ascending⟩
      obtain rfl | mem := List.mem_cons.1 mem
      · exact before
      · exact before.trans (first u mem)
    · next notBefore =>
      split
      · exact ascending
      · next ne =>
        refine List.pairwise_cons.2 ⟨fun u mem => ?_, ih rest⟩
        obtain rfl | mem := mem_insertAscending.1 mem
        · exact lt_of_le_of_ne (not_lt.1 notBefore) (Ne.symm ne)
        · exact first u mem

theorem pairwise_kinds (names : List String) : (kinds names).Pairwise (· < ·) := by
  have fold (ks acc : List String) (ascending : acc.Pairwise (· < ·)) :
      (ks.foldl (fun acc k => insertAscending k acc) acc).Pairwise (· < ·) := by
    induction ks generalizing acc with
    | nil => exact ascending
    | cons k ks ih => exact ih _ (pairwise_insertAscending ascending)
  exact fold _ [] .nil

/-- What every type begins with does not matter to their order. -/
theorem eventType_lt {kind kind' : String} (lt : kind < kind') :
    eventType kind < eventType kind' := by
  rw [String.lt_iff_toList_lt] at lt ⊢
  simp only [eventType, String.toList_append]
  exact List.append_left_lt lt

/-- **The types are ascending, each listed once.** -/
theorem pairwise_eventTypes (names : List String) : (eventTypes names).Pairwise (· < ·) :=
  (pairwise_kinds names).map eventType fun _ _ => eventType_lt

end Event

namespace Hook

open Event (Category eventType eventTypes mem_eventTypes pairwise_eventTypes)

variable {url token name : String} {sslVerify : Bool} {names names' : List String} {c : Category}

/-! ## Flags -/

namespace Flags

/-- The flags are shown under the names that the settings of their categories have. -/
theorem fields_eq (f : Flags) : f.fields = Category.all.map fun c => (c.setting, f.of c) := rfl

/-- **A name sets the flag of its category**, and no other one. -/
theorem of_raise (f : Flags) (name : String) (c : Category) :
    (f.raise name).of c = (f.of c || decide (c.setting = name)) := by
  unfold raise
  split
  -- the last name is that of no flag, and no setting either; each other one is that of one category
  case h_13 => cases c <;> simp_all [of, Category.setting, eq_comm]
  all_goals cases c <;> simp [of, Category.setting]

/-- **The flag of a category is set if its name occurs.** -/
theorem of_ofSettings (names : List String) (c : Category) :
    (ofSettings names).of c = decide (c.setting ∈ names) := by
  have fold (f : Flags) : (names.foldl raise f).of c = (f.of c || decide (c.setting ∈ names)) := by
    induction names generalizing f with
    | nil => simp
    | cons name names ih =>
      rw [List.foldl_cons, ih, of_raise, Bool.or_assoc]
      simp
  have unset : ({} : Flags).of c = false := by cases c <;> rfl
  rw [ofSettings, fold, unset, Bool.false_or]

theorem ext_of {f g : Flags} (same : ∀ c, f.of c = g.of c) : f = g := by
  have flag (c : Category) := same c
  cases f
  cases g
  simp only [mk.injEq]
  exact ⟨flag .push, flag .tagPush, flag .issues, flag .confidentialIssues, flag .note,
    flag .confidentialNote, flag .mergeRequests, flag .job, flag .pipeline, flag .wikiPage,
    flag .deployment, flag .releases⟩

end Flags

/-- A flag is set if its name occurs. -/
theorem Options.flags_ofSettings : (Options.ofSettings url token sslVerify names).flags =
    Category.all.map fun c => (c.setting, decide (c.setting ∈ names)) := by
  rw [flags, Flags.fields_eq]
  exact List.map_congr_left fun c _ => congrArg (c.setting, ·) (Flags.of_ofSettings names c)

theorem Options.mem_flags_ofSettings {setting : String} :
    (setting, true) ∈ (Options.ofSettings url token sslVerify names).flags ↔
      ∃ c : Category, c.setting = setting ∧ setting ∈ names := by
  rw [Options.flags_ofSettings, List.mem_map]
  constructor
  · rintro ⟨c, -, same⟩
    obtain ⟨rfl, set⟩ := Prod.mk.inj same
    exact ⟨c, rfl, of_decide_eq_true set⟩
  · rintro ⟨c, rfl, named⟩
    exact ⟨c, Category.mem_all c, by rw [decide_eq_true named]⟩

/-! ## Two readings of the same names -/

/-- **Two lists of names have the same flags and the same types.** -/
structure SameReadings (names names' : List String) : Prop where
  flags : Flags.ofSettings names' = Flags.ofSettings names
  types : eventTypes names' = eventTypes names

/-- **Both readings ask only which categories are named.** -/
theorem sameReadings_of_named
    (same : ∀ c : Category, c.setting ∈ names' ↔ c.setting ∈ names) :
    SameReadings names names' where
  flags := Flags.ext_of fun c => by
    rw [Flags.of_ofSettings, Flags.of_ofSettings, decide_eq_decide]
    exact same c
  types := by
    refine (pairwise_eventTypes names').eq_of_mem_iff (pairwise_eventTypes names) fun type => ?_
    simp only [mem_eventTypes, same]

theorem sameReadings_of_perm (perm : names.Perm names') : SameReadings names names' :=
  sameReadings_of_named fun _ => perm.mem_iff.symm

/-- A name that is added anywhere is not noticed if it is there already, or if it is the name of no
category. -/
theorem sameReadings_insert {before after : List String}
    (unnoticed : name ∈ before ++ after ∨ ∀ c : Category, c.setting ≠ name) :
    SameReadings (before ++ after) (before ++ name :: after) := by
  refine sameReadings_of_named fun c => ?_
  have other (same : c.setting = name) : c.setting ∈ before ++ after := by
    obtain mem | nameless := unnoticed
    · exact same ▸ mem
    · exact absurd same (nameless c)
  constructor
  · intro mem
    obtain same | mem := List.mem_cons.1 (List.perm_middle.mem_iff.1 mem)
    · exact other same
    · exact mem
  · intro mem
    exact List.perm_middle.mem_iff.2 (List.mem_cons_of_mem _ mem)

/-- **Flags, what is sent to GitLab, and types agree**, whatever the names. Each of the twelve flags
is set if its name occurs; what is sent reads back as an object that holds every flag under its
name; the types are ascending, and they are those of the categories that the names of set flags
have in the table. Neither changes with the order of the names, nor with names that are repeated or
that no category has. -/
theorem Options.flags_advertised (url token : String) (sslVerify : Bool) (names : List String) :
    let o := Options.ofSettings url token sslVerify names
    o.flags = Category.all.map (fun c => (c.setting, decide (c.setting ∈ names))) ∧
    (∃ payload, Json.parse o.toJson.render.toUTF8 = .ok payload ∧
      ∀ c : Category, payload.get? c.setting = some (.bool (decide (c.setting ∈ names)))) ∧
    (eventTypes names).Pairwise (· < ·) ∧
    (∀ type, type ∈ eventTypes names ↔ ∃ setting c, (setting, true) ∈ o.flags ∧
      Category.ofSetting? setting = some c ∧ eventType c.kind = type) ∧
    (∀ names', names.Perm names' → SameReadings names names') ∧
    ∀ before after name, names = before ++ after →
      name ∈ names ∨ (∀ c : Category, c.setting ≠ name) →
        SameReadings names (before ++ name :: after) := by
  intro o
  refine ⟨Options.flags_ofSettings, ?_, pairwise_eventTypes names, fun type => ?_,
    fun names' => sameReadings_of_perm, ?_⟩
  · refine ⟨o.toJson, o.parse_toJson, fun c => ?_⟩
    rw [← Flags.of_ofSettings]
    exact Json.get?_ofFields o.distinct_pairs (o.mem_pairs c)
  · rw [mem_eventTypes]
    constructor
    · rintro ⟨c, named, type⟩
      exact ⟨c.setting, c, Options.mem_flags_ofSettings.2 ⟨c, rfl, named⟩,
        Category.ofSetting?_eq_some_iff.2 rfl, type⟩
    · rintro ⟨setting, c, set, found, type⟩
      obtain ⟨-, -, named⟩ := Options.mem_flags_ofSettings.1 set
      obtain rfl := Category.ofSetting?_eq_some_iff.1 found
      exact ⟨c, named, type⟩
  · rintro before after name rfl unnoticed
    exact sameReadings_insert unnoticed

example : eventTypes ["push_events", "issues_events", "confidential_issues_events",
    "not_a_category", "push_events"] = [eventType "issue", eventType "push"] := by decide

end Hook

end HookRelay
