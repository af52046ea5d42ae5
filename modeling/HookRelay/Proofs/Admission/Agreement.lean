import HookRelay.Admission.Basic
import HookRelay.Proofs.Condition.Settled
import HookRelay.Proofs.Pass.Calls
import HookRelay.Proofs.World.InMemory

/-!
# Admission and passes apply the same rules

A source is checked twice by the same rules: before the cluster stores it, and at the beginning of
each pass. The two agree. What admission refuses is what a pass waits for somebody to change, in
the same words, and such a pass asks nobody anything. What admission lets through has a scope, and
no pass over it ever finds a rule broken.

The two addresses of a source are read in three places, by code of their own: by the rule on scopes
(`checkScope`), as the instance and the path on which the hook is registered (`Spec.scope`), and as
the origin that its events name (`Spec.eventSource`). The rule lets through what has a scope, and
refuses all else in the same words; `Selects` says that the scope and the origin come from the same
address.

## Main definitions

* `Source.Spec.Selects` : the scope, and the address from which both readings take it
* `Pass.Refuses` : the pass waits for the source to change

## Main statements

* `Source.Spec.checkScope_eq` : the rule on scopes lets through what has a scope
* `Source.Spec.selects_of_scope` : the scope and the origin agree
* `Pass.refuses_iff` : a pass refuses what breaks a rule, in the words of the rule
* `Admission.review_agrees` : admission refuses exactly what passes refuse
-/

namespace HookRelay

/-! ## The scope that a source selects -/

theorem mapError_eq_ok {ε ε' α : Type} {f : ε → ε'} {x : Except ε α} {a : α} :
    x.mapError f = .ok a ↔ x = .ok a := by
  constructor
  · intro h
    cases x with
    | ok b =>
      cases h
      rfl
    | error e => cases h
  · rintro rfl
    rfl

namespace Source

variable {text : Option String} {url : String}

/-- An optional text that is not blank is one that is set, without the blanks around it. -/
theorem nonBlank_eq_some :
    nonBlank text = some url ↔ text.map Text.trim = some url ∧ url ≠ "" := by
  rw [nonBlank, Option.filter_eq_some_iff]
  simp

namespace Spec

variable {s : Spec} {σ : Scope}

/-- The address of the project or group that a source may name: its `projectUrl` or its
`groupUrl`. -/
def address (s : Spec) : Scope.Kind → Option String
  | .project => s.projectUrl
  | .group => s.groupUrl

/-- **The scope `σ` that a source selects, and its address**: the address is set, the other one is
not, and both readings of the source take the address without the blanks around it. -/
structure Selects (s : Spec) (σ : Scope) (url : String) : Prop where
  scope : s.scope = .ok σ
  trimmed : (s.address σ.kind).map Text.trim = some url
  nonempty : url ≠ ""
  alone : ∀ kind ≠ σ.kind, nonBlank (s.address kind) = none
  split : Scope.ofUrl σ.kind url = .ok σ
  origin : s.eventSource = url

end Spec

end Source

namespace Scope

variable {kind : Kind} {raw : String} {σ : Scope}

theorem exists_splitUrl (h : ofUrl kind raw = .ok σ) :
    ∃ parts, splitUrl raw = .ok parts ∧ σ = ⟨kind, parts.1, parts.2⟩ := by
  rw [ofUrl] at h
  cases split : splitUrl raw with
  | ok parts =>
    rw [split] at h
    exact ⟨parts, rfl, (Except.ok.inj h).symm⟩
  | error why =>
    rw [split] at h
    cases h

/-- The scope that an address names is of the kind that was asked for. -/
theorem kind_ofUrl (h : ofUrl kind raw = .ok σ) : σ.kind = kind := by
  obtain ⟨parts, -, rfl⟩ := exists_splitUrl h
  rfl

end Scope

namespace Source.Spec

variable {s : Spec} {σ : Scope} {kind : Scope.Kind} {url : String}

/-- **The rule on scopes lets through what has a scope**, and refuses all else for the reason that it
has none. -/
theorem checkScope_eq (s : Spec) :
    checkScope s.projectUrl s.groupUrl = (s.scope.mapError .scope).map fun _ => () := by
  have project : (s.projectUrl.map Text.trim).filter (fun url => !url.isEmpty) =
      nonBlank s.projectUrl := rfl
  have group : (s.groupUrl.map Text.trim).filter (fun url => !url.isEmpty) =
      nonBlank s.groupUrl := rfl
  rw [checkScope, scope, project, group]
  cases nonBlank s.projectUrl with
  | none =>
    cases nonBlank s.groupUrl with
    | none => rfl
    | some url =>
      dsimp only [Scope.ofUrl]
      cases Scope.splitUrl url <;> rfl
  | some url =>
    cases nonBlank s.groupUrl with
    | none =>
      dsimp only [Scope.ofUrl]
      cases Scope.splitUrl url <;> rfl
    | some other => rfl

/-- What breaks no rule has a scope. -/
theorem scope_of_validate (valid : s.validate = .ok ()) : ∃ σ, s.scope = .ok σ := by
  cases inScope : s.scope with
  | ok σ => exact ⟨σ, rfl⟩
  | error fault =>
    rw [validate, checkScope_eq, inScope] at valid
    cases valid

/-- The address of one kind is set, and that of the other kind is not. -/
structure Names (s : Spec) (kind : Scope.Kind) (url : String) : Prop where
  set : nonBlank (s.address kind) = some url
  alone : ∀ other ≠ kind, nonBlank (s.address other) = none

/-- A source has the scope of the one address that is set. -/
theorem scope_eq_ok (h : s.scope = .ok σ) :
    ∃ kind url, s.Names kind url ∧ Scope.ofUrl kind url = .ok σ := by
  rw [scope] at h
  cases project : nonBlank s.projectUrl with
  | some url =>
    cases group : nonBlank s.groupUrl with
    | some other => simp [project, group] at h
    | none =>
      refine ⟨.project, url, ⟨project, fun other ne => ?_⟩, ?_⟩
      · cases other with
        | project => exact absurd rfl ne
        | group => exact group
      · simpa [project, group, mapError_eq_ok] using h
  | none =>
    cases group : nonBlank s.groupUrl with
    | none => simp [project, group] at h
    | some url =>
      refine ⟨.group, url, ⟨group, fun other ne => ?_⟩, ?_⟩
      · cases other with
        | project => exact project
        | group => exact absurd rfl ne
      · simpa [project, group, mapError_eq_ok] using h

/-- The origin that events name is the one address that is set. -/
theorem Names.eventSource_eq (h : s.Names kind url) : s.eventSource = url := by
  cases kind with
  | project =>
    have set : nonBlank s.projectUrl = some url := h.set
    simp [eventSource, set]
  | group =>
    have set : nonBlank s.groupUrl = some url := h.set
    have unset : nonBlank s.projectUrl = none := h.alone .project (by decide)
    simp [eventSource, set, unset]

/-- **The scope of a source and the origin of its events agree.** -/
theorem selects_of_scope (h : s.scope = .ok σ) : ∃ url, s.Selects σ url := by
  obtain ⟨kind, url, names, split⟩ := scope_eq_ok h
  obtain rfl := Scope.kind_ofUrl split
  obtain ⟨trimmed, nonempty⟩ := nonBlank_eq_some.1 names.set
  exact ⟨url, h, trimmed, nonempty, names.alone, split, names.eventSource_eq⟩

end Source.Spec

/-! ## What a pass refuses -/

namespace Pass

open Condition (findingOf)

variable {W : Type} {p : Pass W} {w : W} {message : String}

/-- The pass waits for the source to change (`awaitChange`), because it breaks a rule: it judges
`WebhookConfigured` to fail with the reason `InvalidSpec`. -/
structure Refuses (p : Pass W) (w : W) (message : String) : Prop where
  awaits : (p.converge w).1.result = .ok .awaitChange
  judged : findingOf Source.webhookConfigured (p.converge w).1.status.conditions =
    some ⟨Condition.fails, some "InvalidSpec", some message⟩

/-- A pass checks a source by the rules alone: what they allow has a scope. -/
theorem check_eq (s : Source) : check s = s.spec.validate := by
  rw [check]
  cases valid : s.spec.validate with
  | error e => rfl
  | ok u =>
    obtain ⟨σ, inScope⟩ := Source.Spec.scope_of_validate valid
    rw [inScope]
    rfl

/-- A pass over a source that breaks a rule does nothing but say so. -/
theorem converge_of_invalid {e : Source.Invalidity} (broken : p.source.spec.validate = .error e) :
    p.Refuses w e.message ∧ (p.converge w).2 = w ∧ p.calls w = [] := by
  have broken : check p.source = .error e := (check_eq p.source).trans broken
  have silent : p.recorded.run (p.complete p.source.statusOrBlank) (w, []) =
      (⟨p.fails Source.webhookConfigured "InvalidSpec" e.message
        (p.complete p.source.statusOrBlank), .ok .awaitChange⟩, (w, [])) :=
    (Ends.invalid (p := p.recorded) broken).run_eq
  have ended : p.run (p.complete p.source.statusOrBlank) w =
      (⟨p.fails Source.webhookConfigured "InvalidSpec" e.message
        (p.complete p.source.statusOrBlank), .ok .awaitChange⟩, w) :=
    (Ends.invalid broken).run_eq
  refine ⟨⟨?_, ?_⟩, ?_, ?_⟩
  · rw [converge_apply, ended]
  · rw [converge_apply, ended]
    exact Condition.Set.findingOf_mark_self (s := Source.conditions) (by decide)
  · rw [converge_apply, ended]
  · exact congrArg (fun r => r.2.2) silent

/-- A pass over a source that breaks no rule never waits for it to change, and reports no rule as
broken. -/
theorem converge_of_valid (valid : p.source.spec.validate = .ok ()) :
    (p.converge w).1.result ≠ .ok .awaitChange ∧
      ∀ e, (p.converge w).1.result ≠ .error (.invalid e) := by
  have checked : check p.source = .ok () := (check_eq p.source).trans valid
  have ends := run_ends p (p.complete p.source.statusOrBlank) w
  simp only [converge_apply]
  generalize (p.run (p.complete p.source.statusOrBlank) w).1 = outcome at ends ⊢
  generalize (p.run (p.complete p.source.statusOrBlank) w).2 = w' at ends
  cases ends with
  | invalid broken => simp [checked] at broken
  | _ => simp

/-- **A pass refuses what breaks a rule, in the words of the rule.** -/
theorem refuses_iff :
    p.Refuses w message ↔ ∃ e, p.source.spec.validate = .error e ∧ e.message = message := by
  constructor
  · intro refuses
    cases rules : p.source.spec.validate with
    | ok u => exact absurd refuses.awaits (converge_of_valid rules).1
    | error e =>
      have judged := (converge_of_invalid (w := w) rules).1.judged
      rw [refuses.judged] at judged
      simp only [Option.some.injEq, Condition.Finding.mk.injEq, true_and] at judged
      exact ⟨e, rfl, judged.symm⟩
  · rintro ⟨e, broken, rfl⟩
    exact (converge_of_invalid broken).1

end Pass

/-! ## Admission -/

namespace Admission

variable {W : Type} {r : Request}

theorem review_of_stores {s : Source} (stores : r.operation.stores = true)
    (object : r.object = some s) :
    review r = match s.spec.validate with
      | .ok () => .allow r
      | .error e => .deny r e.message := by
  cases rules : s.spec.validate <;> simp [review, stores, object, rules]

/-- **Admission and passes apply the same rules.** A source that is to be stored is denied exactly
if a pass over it refuses it; the denial is worded as the condition, and the pass asks nobody
anything and changes nothing. A source that is allowed selects a scope, and no pass over it
reports a broken rule. -/
theorem review_agrees (r : Request) (stores : r.operation.stores = true) (p : Pass W)
    (object : r.object = some p.source) (w : W) :
    ((review r).allowed = false ↔ ∃ message, p.Refuses w message) ∧
      (∀ message, p.Refuses w message →
        (review r).message = some message ∧ (p.converge w).2 = w ∧ p.calls w = []) ∧
      ((review r).allowed = true →
        (∃ σ url, p.source.spec.Selects σ url) ∧
          ∀ e, (p.converge w).1.result ≠ .error (.invalid e)) := by
  rw [review_of_stores stores object]
  simp only [Pass.refuses_iff]
  cases rules : p.source.spec.validate with
  | ok u =>
    obtain ⟨σ, inScope⟩ := Source.Spec.scope_of_validate rules
    refine ⟨by simp [Verdict.allow], by simp, fun _ => ⟨⟨σ, ?_⟩, ?_⟩⟩
    · exact Source.Spec.selects_of_scope inScope
    · exact (Pass.converge_of_valid rules).2
  | error e =>
    obtain ⟨_, still, silent⟩ := Pass.converge_of_invalid (p := p) (w := w) rules
    refine ⟨by simp [Verdict.deny], ?_, by simp [Verdict.deny]⟩
    rintro message ⟨e', same, rfl⟩
    cases same
    exact ⟨rfl, still, silent⟩

/-- The request to store a source for the first time, a `CREATE`. -/
def toCreate (s : Source) : Request := ⟨⟨"admission.k8s.io/v1", "AdmissionReview"⟩, "1", .create, s⟩

/-- The source in memory, with a group beside its project. -/
def conflicting : Source :=
  { InMemory.source with
    spec := { InMemory.source.spec with groupUrl := some " http://[::1]/a " } }

/-- A source with a project and a group is denied, and a pass over it asks nobody anything; with
the project alone it is allowed, and selects the project. -/
theorem conflict_denied :
    (review (toCreate conflicting)).message =
        some "projectUrl and groupUrl are mutually exclusive" ∧
      (InMemory.passOver conflicting).calls .empty = [] ∧
      (review (toCreate InMemory.source)).allowed = true ∧
      ∃ σ url, InMemory.source.spec.Selects σ url := by
  have denied := review_agrees (toCreate conflicting) rfl (InMemory.passOver conflicting) rfl .empty
  have allowed := review_agrees (toCreate InMemory.source) rfl (InMemory.passOver InMemory.source)
    rfl .empty
  obtain ⟨message, refused⟩ := denied.1.1 (by decide +kernel)
  have admitted : (review (toCreate InMemory.source)).allowed = true := by decide +kernel
  exact ⟨by decide +kernel, (denied.2.1 message refused).2.2, admitted, (allowed.2.2 admitted).1⟩

end Admission

end HookRelay
