import HookRelay.Proofs.Pass.OneHook
import HookRelay.Proofs.Pass.TakingDown
import HookRelay.Proofs.Pass.Throughout

/-!
# What becomes of the hook of a source that goes

A source that is taken down parts from its hook: the hook is gone from GitLab, or somebody is told
that it was left there. A pass that brings a source to what it asks for deletes no hook, and one
that takes it down neither creates nor edits one.

## Main definitions

* `Source.abandonment`, `Call.TellsOf` : the notice that a hook was left, and a call that gives it

## Main statements

* `Pass.isForward_of_mem_calls`, `Pass.isBackward_of_mem_partings` : which calls a pass makes
* `Pass.gone_or_told` : a source that was taken down has parted from its hook
-/

namespace HookRelay

variable {W : Type}

open Hook (Held thinning)

/-- The notice that a hook of the source was left where it is, `WebhookAbandoned`. -/
def Source.abandonment (s : Source) (id : Int) (why : String) : Notice :=
  s.notice .warning "WebhookAbandoned" s!"Webhook {id} was left on GitLab: {why}"

namespace Pass

namespace Call

/-- Somebody is told that a hook was left on GitLab. -/
def TellsOf (id : Int) (c : Call) : Prop := ∃ s why, c = .publish (Source.abandonment s id why)

/-- Whether a call may serve to bring a source to what it asks for. -/
def isForward : Call → Bool
  | deleteHook _ _ => false
  | _ => true

/-- Whether a call may serve to take a source down. -/
def isBackward : Call → Bool
  | createHook _ _ | editHook _ _ _ => false
  | _ => true

end Call

/-! ## Which calls a pass makes -/

/-- What happens to a recorded world while all calls are of one kind. -/
def ofKind (W : Type) (kind : Call → Bool) : Drift (W × List Call) where
  rel s s' := ∃ new, s'.2 = new ++ s.2 ∧ ∀ c ∈ new, kind c = true
  refl s := ⟨[], rfl, fun _ none => (nomatch none)⟩
  trans := by
    rintro s s₁ s₂ ⟨new₁, log₁, kind₁⟩ ⟨new₂, log₂, kind₂⟩
    refine ⟨new₂ ++ new₁, by rw [log₂, log₁, List.append_assoc], fun c mem => ?_⟩
    exact (List.mem_append.1 mem).elim (kind₂ c) (kind₁ c)

theorem recorded_ofKind {α : Type} {kind : Call → Bool} {call : α → Call}
    (all : ∀ answer, kind (call answer) = true) (a : Act W α) :
    (a.recorded call).Within (ofKind W kind) := fun s =>
  ⟨[call (a s.1).1], rfl, fun c mem => by rw [List.mem_singleton.1 mem]; exact all _⟩

section Kinds

variable (p : Pass W)

theorem forward_recorded : p.recorded.Forward (ofKind W Call.isForward) where
  others := {
    sinks _ _ := recorded_ofKind (fun _ => rfl) _
    lists _ := recorded_ofKind (fun _ => rfl) _
    creates _ := recorded_ofKind (fun _ => rfl) _
    secrets _ _ := recorded_ofKind (fun _ => rfl) _
    notices _ _ := recorded_ofKind (fun _ => rfl) _
    counters _ := recorded_ofKind (fun _ => rfl) _ }
  notices _ := recorded_ofKind (fun _ => rfl) _
  provider _ := {
    opens token := (recorded_ofKind (fun _ => rfl) (p.team.hooks.client _ token)).map _
    clients opened := by
      obtain ⟨client, -, rfl⟩ := p.team.exists_client opened
      exact ⟨fun _ => recorded_ofKind (fun _ => rfl) _, fun _ => recorded_ofKind (fun _ => rfl) _,
        fun _ _ => recorded_ofKind (fun _ => rfl) _⟩ }

theorem backward_recorded : p.recorded.Backward (ofKind W Call.isBackward) where
  secrets _ := recorded_ofKind (fun _ => rfl) _
  opens _ token := (recorded_ofKind (fun _ => rfl) (p.team.hooks.client _ token)).map _
  deletes _ opened _ := by
    obtain ⟨client, -, rfl⟩ := p.team.exists_client opened
    exact recorded_ofKind (fun _ => rfl) _
  notices _ := recorded_ofKind (fun _ => rfl) _
  counters _ := recorded_ofKind (fun _ => rfl) _

theorem isForward_of_mem_calls (w : W) : ∀ c ∈ p.calls w, c.isForward = true := by
  obtain ⟨new, log, kind⟩ := within_converge_of_forward p.forward_recorded (w, [])
  rw [calls, log, List.append_nil]
  exact kind

theorem isBackward_of_mem_partings (w : W) : ∀ c ∈ p.partings w, c.isBackward = true := by
  obtain ⟨new, log, kind⟩ := within_finalize_of_backward p.backward_recorded (w, [])
  rw [partings, log, List.append_nil]
  exact kind

end Kinds

/-! ## The hook is gone, or somebody is told -/

section Parting

variable {hooks : W → Held} {σ : Scope} {p : Pass W}

/-- A hook is gone when it was removed. -/
theorem remove_gone {count : Counter → Act W Unit} {client : Hook.Client W}
    (counters : ∀ n, (count n).Within (thinning hooks)) (removes : client.Removes hooks) {id : Int}
    {there : Bool} {w w' : W} (run : Hook.remove count client id w = (.ok there, w')) :
    hooks w' id = none := by
  rw [Hook.remove, Act.bind_apply, Hook.counted_apply] at run
  rcases tried : client.delete id w with ⟨answer, w₁⟩
  rw [tried] at run
  have gone : hooks w₁ id = none → hooks (count (.hookOperation "delete"
      (Hook.outcomeOf answer)) w₁).2 id = none := by
    intro gone
    rw [← Option.not_isSome_iff_eq_none] at gone ⊢
    exact mt (counters _ w₁ id) gone
  cases answer with
  | ok u =>
    cases run
    exact gone (removes.deleted tried)
  | error e =>
    cases missing : e.isNotFound with
    | true =>
      simp only [missing, if_true] at run
      cases run
      exact gone (removes.missing tried missing)
    | false =>
      simp only [missing, Bool.false_eq_true, if_false] at run
      cases run

variable (keeps : p.team.KeepsHooks σ hooks) (removes : p.team.hooks.Removes σ hooks)
  (same : ∀ scope, p.source.spec.scope = .ok scope → scope = σ)
include keeps removes same

/-- No hook appears when a source is taken down. -/
theorem finalize_thins : p.finalize.Within (thinning hooks) := by
  refine within_finalize_of_backward {
    secrets := keeps.others.secrets p.namespace_
    opens := fun inScope token => ?_
    deletes := fun inScope opened id => ?_
    notices := keeps.notices
    counters := keeps.others.counters }
  · rw [same _ inScope]
    exact keeps.provider.opens token
  · rw [same _ inScope] at opened
    exact (removes opened).delete id

/-- **A source that was taken down has parted from its hook**: the hook is gone, or somebody was
told that it was left on GitLab. -/
theorem gone_or_told {w : W} {st : Source.Status} (ended : (p.finalize w).1 = .ok st) {id : Int}
    (recorded : p.source.statusOrBlank.webhookId = some id) :
    hooks (p.finalize w).2 id = none ∨ ∃ c ∈ p.partings w, c.TellsOf id := by
  have departs := finalize_departs p.recorded (w, [])
  obtain ⟨answer, world⟩ := p.finalize_recorded (w, [])
  rw [answer, ended] at departs
  rw [← world, partings]
  generalize (p.recorded.finalize (w, [])).2 = s at departs ⊢
  generalize left : Except.ok st = ended at departs
  cases departs with
  | unrecorded unrecorded =>
    have unrecorded : p.source.statusOrBlank.webhookId = none := unrecorded
    rw [recorded] at unrecorded
    cases unrecorded
  | kept _ _ => cases left
  | @parted own fate s₁ owned deletes =>
    have owned : p.source.statusOrBlank.webhookId = some own := owned
    obtain rfl : own = id := Option.some.inj (owned.symm.trans recorded)
    cases fate with
    | abandoned why => exact .inr ⟨_, List.mem_cons_self .., p.source, why, rfl⟩
    | deleted =>
      refine .inl ?_
      generalize deleted : Except.ok Fate.deleted = fate at deletes
      cases deletes with
      | gone opened removed =>
        obtain ⟨scope, token, s₀, ⟨cache, inScope, -⟩, opened⟩ := opened
        obtain ⟨client, handed, rfl⟩ := p.team.exists_client opened
        rw [same scope inScope] at handed
        have removed := (Act.Shadows.of_simulates (Hook.simulates_remove
          (p.team.simulates_noted id).counters (client.simulates_noted id) own)).eq removed
        exact remove_gone keeps.others.counters (removes handed) removed
      | _ => cases deleted

end Parting

end Pass

end HookRelay
