import HookRelay.Receiver.Basic

/-!
# What an adapter is planned to be

The plan of an adapter names the source as its owner and wires the adapter by three variables: where
events go, what they name as their source, and which token deliveries are checked against. The
wiring says all that it was made from.

## Main definitions

* `IsPlanFor` : what the plan of an adapter says
* `Wiring`, `wiring` : the wiring of an environment
* `wiringFor` : the wiring that a source asks for

## Main statements

* `plan_for` : what is planned for a source
* `wiring_environment` : the adapter of a source is wired as the source asks
* `wiringFor_inj` : two sources ask for one wiring if and only if they agree on what goes into it
-/

namespace HookRelay.Receiver

variable {settings : Controller.Settings} {s s' : Source} {uri uri' : String} {plan : Plan}

/-- **What the plan of an adapter says**, told without `Receiver.plan`. -/
structure IsPlanFor (settings : Controller.Settings) (s : Source) (uri : String) (plan : Plan) :
    Prop where
  identified : s.metadata.uid = some plan.owner.uid
  placed : s.metadata.namespace_ = some plan.namespace_
  labelled : plan.labels = labels
  wired : plan.environment = environment s plan.namespace_ uri settings.adapterLogLevel

theorem plan_for (planned : Receiver.plan settings s uri = .ok plan) :
    IsPlanFor settings s uri plan := by
  rw [Receiver.plan] at planned
  split at planned
  · cases planned
  · cases planned
  · next owner namespace_ owned placed =>
    cases planned
    refine ⟨?_, placed, rfl, rfl⟩
    rw [Owner.ofSource?] at owned
    split at owned
    · next named identified =>
      cases owned
      exact identified
    · cases owned

/-! ## Wiring -/

/-- The value of a variable, if it is set. -/
def valueOf? (name : String) (env : List Variable) : Option Value :=
  (env.find? fun v => v.name = name).map Variable.value

/-- What connects an adapter with the world: its sink (`K_SINK`), the origin of its events
(`GITLAB_EVENT_SOURCE`) and its secret (`GITLAB_SECRET_TOKEN`). -/
structure Wiring where
  /-- Where events go. -/
  sink : Option Value
  /-- What events name as their source. -/
  eventSource : Option Value
  /-- The token that deliveries are checked against. -/
  secretToken : Option Value
  deriving DecidableEq, Repr

/-- The wiring of an environment. -/
def wiring (env : List Variable) : Wiring where
  sink := valueOf? "K_SINK" env
  eventSource := valueOf? "GITLAB_EVENT_SOURCE" env
  secretToken := valueOf? "GITLAB_SECRET_TOKEN" env

/-- The wiring that a source with a sink asks for. -/
def wiringFor (s : Source) (uri : String) : Wiring where
  sink := some (.text uri)
  eventSource := some (.text s.spec.eventSource)
  secretToken := s.spec.secretToken.map .secret

/-- **The adapter of a source is wired as the source asks.** -/
theorem wiring_environment (s : Source) (namespace_ uri logLevel : String) :
    wiring (environment s namespace_ uri logLevel) = wiringFor s uri := by
  rw [environment, wiringFor]
  cases s.spec.secretToken with
  | none => rfl
  | some key => rfl

/-- **Two sources ask for one wiring if and only if they agree** on the sink, on what events name as
their source, and on the token. -/
theorem wiringFor_inj : wiringFor s uri = wiringFor s' uri' ↔
    uri = uri' ∧ s.spec.eventSource = s'.spec.eventSource ∧
      s.spec.secretToken = s'.spec.secretToken := by
  have keys : Function.Injective (Option.map Value.secret) :=
    Option.map_injective fun a b same => Value.secret.inj same
  simp [wiringFor, keys.eq_iff]

end HookRelay.Receiver
