import HookRelay.Delivery.Settings
import HookRelay.Proofs.Text.Bytes
import HookRelay.Receiver.Basic

/-!
# What a receive adapter is told

The adapter of a source is started with the environment that was planned for it, in which the
secret of deliveries stands as the secret held it. From this environment the adapter reads back
the origin, the namespace and the sink that were planned. All that it may refuse is the sink,
provided that the secret is a text.

## Main definitions

* `Receiver.Plan.started` : the environment of an adapter that was started

## Main statements

* `Delivery.Settings.read_started` : what an adapter reads from its environment
* `Delivery.Settings.eventSource_of_read` : the origin of events is taken over
-/

namespace HookRelay

/-- The bytes of a value, where secrets hold `held` under their keys. -/
def Receiver.Value.bytes (held : SecretKey → ByteArray) : Receiver.Value → ByteArray
  | .text s => s.toUTF8
  | .secret key => held key

/-- The environment of an adapter that was started, with what a `secretKeyRef` refers to in its
place. -/
def Receiver.Plan.started (plan : Receiver.Plan) (held : SecretKey → ByteArray) :
    CommandLine.Environment :=
  plan.environment.map fun v => (v.name, v.value.bytes held)

/-! ## Options from the environment -/

namespace CommandLine

variable {σ : Type} {env : Environment} {options : List (Setting σ)} {o : Setting σ}
  {r : Reading σ}

/-- An option that the environment does not hold stays as it is. -/
theorem readEnvironment_absent (absent : env.get? o.variable_ = none) :
    readEnvironment env (o :: options) r = readEnvironment env options r := by
  rw [readEnvironment, absent]
  cases r.given.contains o.name <;> rfl

/-- An option that was not given is taken from the environment. -/
theorem readEnvironment_held {value : ByteArray} {settings : σ}
    (new : r.given.contains o.name = false) (held : env.get? o.variable_ = some value)
    (fits : o.set value r.settings = .ok settings) :
    readEnvironment env (o :: options) r =
      readEnvironment env options { r with settings, given := o.name :: r.given } := by
  rw [readEnvironment, new, held]
  simp only [Reading.give, new, fits]
  rfl

/-- A value that does not fit ends the reading. -/
theorem readEnvironment_unfit {value : ByteArray} {cause : String}
    (new : r.given.contains o.name = false) (held : env.get? o.variable_ = some value)
    (unfit : o.set value r.settings = .error (.unfit cause)) :
    readEnvironment env (o :: options) r =
      .error (.unfit o.usage (Text.shown value) cause) := by
  rw [readEnvironment, new, held]
  simp only [Reading.give, new, unfit]
  rfl

/-- So does a value that is no text. -/
theorem readEnvironment_notText {value : ByteArray} (new : r.given.contains o.name = false)
    (held : env.get? o.variable_ = some value) (garbled : o.set value r.settings = .error .notText) :
    readEnvironment env (o :: options) r = .error .notText := by
  rw [readEnvironment, new, held]
  simp only [Reading.give, new, garbled]
  rfl

/-- Without arguments the environment decides. -/
theorem read_of_readEnvironment {d : σ}
    (run : readEnvironment env options ⟨d, [], none⟩ = .ok r)
    (complete : ∀ o ∈ options, o.required = true → r.given.contains o.name = true) :
    read options d env [] = .ok r.settings := by
  have settled : (readArguments options [] ⟨d, [], none⟩ : Except Refusal (Reading σ)) =
      .ok ⟨d, [], none⟩ := rfl
  have nothing : options.filter (fun o => o.required && !r.given.contains o.name) = [] := by
    rw [List.filter_eq_nil_iff]
    intro o mem
    have given := complete o mem
    cases required : o.required <;> simp_all
  simp only [read, settled, run, bind, Except.bind, nothing]
  rfl

theorem read_of_readEnvironment_error {d : σ} {e : Refusal}
    (run : readEnvironment env options ⟨d, [], none⟩ = .error e) :
    read options d env [] = .error e := by
  simp [read, readArguments, Reading.settle, run, bind, Except.bind]

end CommandLine

namespace Delivery.Settings

open CommandLine (Environment readEnvironment_absent readEnvironment_held readEnvironment_unfit
  readEnvironment_notText)

variable {settings : Controller.Settings} {s : Source} {sinkUri : String} {plan : Receiver.Plan}
  {held : SecretKey → ByteArray}

@[simp] theorem text_toUTF8 (t : String) : text t.toUTF8 = .ok t := by
  rw [text, fromUTF8?_toUTF8]

/-! ## The environment of an adapter -/

/-- What stands in the environment of an adapter. -/
structure Holds (env : Environment) (token : Option ByteArray)
    (eventSource sinkUri namespace_ : String) : Prop where
  port : env.get? "PORT" = none
  token : env.get? "GITLAB_SECRET_TOKEN" = token
  eventSource : env.get? "GITLAB_EVENT_SOURCE" = some eventSource.toUTF8
  sink : env.get? "K_SINK" = some sinkUri.toUTF8
  namespace_ : env.get? "NAMESPACE" = some namespace_.toUTF8
  metricsPort : env.get? "METRICS_PROMETHEUS_PORT" = some "9092".toUTF8
  shutdownGrace : env.get? "SHUTDOWN_GRACE_SECS" = none
  sinkTimeout : env.get? "SINK_TIMEOUT_SECS" = none

variable (held) in
theorem holds_started (planned : Receiver.plan settings s sinkUri = .ok plan) :
    Holds (plan.started held) (s.spec.secretToken.map held) s.spec.eventSource sinkUri
      plan.namespace_ := by
  unfold Receiver.plan at planned
  split at planned
  · cases planned
  · cases planned
  · cases planned
    cases token : s.spec.secretToken <;> constructor <;>
      simp [Receiver.Plan.started, Receiver.environment, token, Receiver.Value.bytes,
        CommandLine.Environment.get?]

/-! ## What the adapter reads -/

theorem port?_planned : port? "9092".toUTF8 = .ok 9092 := by
  rw [port?, text_toUTF8]
  rfl

theorem sink?_toUTF8 (t : String) : sink? t.toUTF8 = (readSink t).mapError .unfit := by
  rw [sink?, text_toUTF8]
  simp only [bind, Except.bind]
  cases readSink t <;> rfl

variable {env : Environment} {token : Option ByteArray} {eventSource namespace_ : String}

/-- The options behind the secret of deliveries: all but the sink are taken over. -/
theorem readEnvironment_of_holds (holds : Holds env token eventSource sinkUri namespace_)
    {given : List String} (before : given ⊆ ["secret-token"]) (t : String) :
    CommandLine.readEnvironment env (options.drop 2)
      ⟨{ defaults with secretToken := t }, given, none⟩ =
      match readSink sinkUri with
      | .ok url => .ok ⟨{ defaults with
            secretToken := t, eventSource := eventSource, sink := some url,
            namespace_ := namespace_ },
          "metrics-port" :: "namespace" :: "sink" :: "event-source" :: given, none⟩
      | .error cause => .error (.unfit "--sink <SINK>" (Text.shown sinkUri.toUTF8) cause) := by
  have new : ∀ name ≠ "secret-token", given.contains name = false := by
    intro name ne
    rw [List.contains_eq_mem, decide_eq_false_iff_not]
    exact fun mem => ne (List.mem_singleton.1 (before mem))
  have sinkNew : ("event-source" :: given).contains "sink" = false := by
    simpa using new "sink" (by decide)
  simp only [options, List.drop_succ_cons, List.drop_zero]
  rw [readEnvironment_held (new _ (by decide)) holds.eventSource
    (congrArg (Except.map _) (text_toUTF8 eventSource))]
  have sinkRead := sink?_toUTF8 sinkUri
  cases sink : readSink sinkUri with
  | error cause =>
    rw [sink] at sinkRead
    rw [readEnvironment_unfit sinkNew holds.sink (congrArg (Except.map _) sinkRead)]
    have usage : (options[3]).usage = "--sink <SINK>" := by decide +kernel
    exact congrArg (Except.error <| CommandLine.Refusal.unfit · (Text.shown sinkUri.toUTF8) cause)
      usage
  | ok url =>
    rw [sink] at sinkRead
    rw [readEnvironment_held sinkNew holds.sink (congrArg (Except.map _) sinkRead)]
    dsimp only
    rw [readEnvironment_held (by simpa using new "namespace" (by decide)) holds.namespace_
      (congrArg (Except.map _) (text_toUTF8 namespace_))]
    dsimp only
    have held := holds.metricsPort
    have fits := port?_planned
    generalize "9092".toUTF8 = port at held fits
    rw [readEnvironment_held (by simpa using new "metrics-port" (by decide)) held
      (congrArg (Except.map _) fits)]
    rw [readEnvironment_absent holds.shutdownGrace, readEnvironment_absent holds.sinkTimeout]
    rfl

/-- **What an adapter reads from its environment**: what was planned, unless it refuses the
sink. -/
theorem read_of_holds (holds : Holds env token eventSource sinkUri namespace_)
    (isText : ∀ bytes ∈ token, ∃ t, String.fromUTF8? bytes = some t) :
    ∃ t, read env [] =
      match readSink sinkUri with
      | .ok url => .ok { defaults with
          secretToken := t, eventSource := eventSource, sink := some url, namespace_ := namespace_ }
      | .error cause => .error (.unfit "--sink <SINK>" (Text.shown sinkUri.toUTF8) cause) := by
  -- the secret of deliveries is the only option that may or may not be there
  obtain ⟨t, given, before, started⟩ : ∃ t given, given ⊆ ["secret-token"] ∧
      CommandLine.readEnvironment env options ⟨defaults, [], none⟩ =
        CommandLine.readEnvironment env (options.drop 2)
          ⟨{ defaults with secretToken := t }, given, none⟩ := by
    simp only [options, List.drop_succ_cons, List.drop_zero]
    rw [readEnvironment_absent holds.port]
    have held := holds.token
    cases token with
    | none =>
      rw [readEnvironment_absent held]
      exact ⟨"", [], List.nil_subset _, rfl⟩
    | some bytes =>
      obtain ⟨t, isText⟩ := isText bytes rfl
      have fits : text bytes = .ok t := by rw [text, isText]
      rw [readEnvironment_held rfl held (congrArg (Except.map _) fits)]
      exact ⟨t, ["secret-token"], List.Subset.refl _, rfl⟩
  refine ⟨t, ?_⟩
  have rest := readEnvironment_of_holds holds before t
  rw [← started] at rest
  cases sink : readSink sinkUri with
  | error cause =>
    rw [sink] at rest
    exact CommandLine.read_of_readEnvironment_error rest
  | ok url =>
    rw [sink] at rest
    refine CommandLine.read_of_readEnvironment rest ?_
    simp [options]

/-- An adapter does not start with a secret that is no text. -/
theorem read_of_garbled {bytes : ByteArray}
    (holds : Holds env (some bytes) eventSource sinkUri namespace_)
    (garbled : String.fromUTF8? bytes = none) : read env [] = .error .notText := by
  have unfit : text bytes = .error .notText := by rw [text, garbled]
  refine CommandLine.read_of_readEnvironment_error ?_
  simp only [options]
  rw [readEnvironment_absent holds.port]
  exact readEnvironment_notText rfl holds.token (congrArg (Except.map _) unfit)

/-- **An adapter that starts takes over the origin of the events**, whatever else it was told. -/
theorem eventSource_of_read (holds : Holds env token eventSource sinkUri namespace_)
    {told : Settings} (started : read env [] = .ok told) : told.eventSource = eventSource := by
  by_cases isText : ∀ bytes ∈ token, ∃ t, String.fromUTF8? bytes = some t
  · obtain ⟨t, read⟩ := read_of_holds holds isText
    rw [started] at read
    cases sink : readSink sinkUri with
    | error cause =>
      rw [sink] at read
      cases read
    | ok url =>
      rw [sink] at read
      cases read
      rfl
  · cases token with
    | none => exact absurd nofun isText
    | some bytes =>
      have garbled : String.fromUTF8? bytes = none :=
        Option.eq_none_iff_forall_ne_some.2 (by simpa using isText)
      rw [read_of_garbled holds garbled] at started
      cases started

/-- **An adapter starts if and only if it takes the sink**, provided that the secret of deliveries
is a text. -/
theorem read_started (planned : Receiver.plan settings s sinkUri = .ok plan)
    (isText : ∀ key ∈ s.spec.secretToken, ∃ t, String.fromUTF8? (held key) = some t) (url : Url) :
    (∃ told, read (plan.started held) [] = .ok told ∧ told.sink = some url) ↔
      readSink sinkUri = .ok url := by
  obtain ⟨t, read⟩ := read_of_holds (holds_started held planned) (by simpa using isText)
  rw [read]
  cases readSink sinkUri <;> simp

end Delivery.Settings

end HookRelay
