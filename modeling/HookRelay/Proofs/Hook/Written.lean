import HookRelay.Event.Category
import HookRelay.Hook.Basic
import HookRelay.Proofs.Json.Reread

/-!
# The fields of a hook on their way to GitLab

Whenever a hook is written its fields are written as a whole. The text that is sent reads back as an
object in which each field stands under its name, with the value that is wanted.

## Main definitions

* `Flags.of` : the flag of a category
* `Carries` : the body of a request holds all fields of a hook

## Main statements

* `Options.pairs_eq` : each flag is sent under the name that the settings of its category have
* `Options.parse_toJson` : what is sent is read back
* `carries_toJson` : it holds all fields
-/

namespace HookRelay.Hook

/-- The flag of a category among `Flags`. -/
def Flags.of (f : Flags) : Event.Category → Bool
  | .push => f.pushEvents
  | .tagPush => f.tagPushEvents
  | .issues => f.issuesEvents
  | .confidentialIssues => f.confidentialIssuesEvents
  | .note => f.noteEvents
  | .confidentialNote => f.confidentialNoteEvents
  | .mergeRequests => f.mergeRequestsEvents
  | .job => f.jobEvents
  | .pipeline => f.pipelineEvents
  | .wikiPage => f.wikiPageEvents
  | .deployment => f.deploymentEvents
  | .releases => f.releasesEvents

/-- The body of a request holds the fields of a hook: its `url`, its `token`, whether certificates
are verified (`enable_ssl_verification`), and the flag of each category under its
`Category.setting`. -/
def Carries (body : Option ByteArray) (o : Options) : Prop :=
  ∃ bytes payload, body = some bytes ∧ Json.parse bytes = .ok payload ∧
    payload.get? "url" = some (.string o.url) ∧
    payload.get? "token" = some (.string o.token) ∧
    payload.get? "enable_ssl_verification" = some (.bool o.sslVerify) ∧
    ∀ c : Event.Category, payload.get? c.setting = some (.bool (o.events.of c))

/-- **Each flag is sent under the name that the settings of its category have.** -/
theorem Options.pairs_eq (o : Options) : o.pairs =
    [("url", .string o.url), ("token", .string o.token),
      ("enable_ssl_verification", .bool o.sslVerify)] ++
      Event.Category.all.map fun c => (c.setting, .bool (o.events.of c)) := rfl

theorem Options.mem_pairs (o : Options) (c : Event.Category) :
    (c.setting, .bool (o.events.of c)) ∈ o.pairs := by
  rw [o.pairs_eq]
  exact List.mem_append_right _ (List.mem_map.2 ⟨c, Event.Category.mem_all c, rfl⟩)

theorem Options.distinct_pairs (o : Options) : (o.pairs.map Prod.fst).Nodup := by
  have names : o.pairs.map Prod.fst =
      ["url", "token", "enable_ssl_verification"] ++ Event.Category.all.map (·.setting) := rfl
  rw [names]
  decide

theorem Options.scalar_pairs (o : Options) : ∀ f ∈ o.pairs, f.2.isScalar = true := by
  intro f mem
  rw [o.pairs_eq, List.mem_append] at mem
  rcases mem with mem | mem
  · simp only [List.mem_cons, List.not_mem_nil, or_false] at mem
    rcases mem with rfl | rfl | rfl <;> rfl
  · obtain ⟨c, -, rfl⟩ := List.mem_map.1 mem
    rfl

/-- What is sent is read back. -/
theorem Options.parse_toJson (o : Options) : Json.parse o.toJson.render.toUTF8 = .ok o.toJson := by
  refine Json.parse_render_object fun f mem => o.scalar_pairs f ?_
  exact (Json.mem_of_mem_foldl_insert mem).resolve_right List.not_mem_nil

/-- **The fields of a hook are sent as a whole.** -/
theorem carries_toJson (o : Options) : Carries (some o.toJson.render.toUTF8) o := by
  refine ⟨_, o.toJson, rfl, o.parse_toJson, ?_, ?_, ?_, fun c => ?_⟩
  · exact Json.get?_ofFields o.distinct_pairs (by simp [o.pairs_eq])
  · exact Json.get?_ofFields o.distinct_pairs (by simp [o.pairs_eq])
  · exact Json.get?_ofFields o.distinct_pairs (by simp [o.pairs_eq])
  · exact Json.get?_ofFields o.distinct_pairs (o.mem_pairs c)

end HookRelay.Hook
