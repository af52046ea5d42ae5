import HookRelay.Delivery.Adapter
import HookRelay.Proofs.Delivery.Started
import HookRelay.Proofs.Delivery.Translated
import HookRelay.Proofs.Pass.Ends
import HookRelay.Proofs.World.InMemory

/-!
# What a source advertises is what its adapter emits

Two programs speak of the events of a source. A pass writes their types and origin into the status,
from the settings of the source; the adapter gives a type and an origin to every delivery, from its
header and from the environment in which it was started. Consumers go by the former, and receive the
latter. They are the same: what the adapter makes of a delivery of a category that the source
subscribes to is listed in the status, and for everything that is listed there is such a delivery.

## Main definitions

* `Source.Subscribes` : the header of a delivery is that of a category that a source subscribes to

## Main statements

* `Pass.attributes_converge` : what a pass writes for a valid source, wherever it ends
* `Settings.advertised` : what the status lists and what the adapter emits
-/

namespace HookRelay

/-- The header `X-Gitlab-Event` of a delivery is that of a category that a source lists in its
`eventTypes`. -/
def Source.Subscribes (s : Source) (headers : Http.Headers) : Prop :=
  ∃ c : Event.Category, c.setting ∈ s.spec.eventTypes ∧
    headers.get? Delivery.eventHeader = some c.header.toUTF8

/-! ## What the status lists -/

namespace Pass

variable {W : Type} {p : Pass W}

theorem Ends.status_attributes {st : Source.Status} {w w' : W} {o : Outcome} (h : p.Ends st w o w')
    (valid : check p.source = .ok ()) : o.status.attributes = attributes p.source := by
  cases h with
  | invalid broken =>
    rw [valid] at broken
    cases broken
  -- all other exits lie behind the stage that writes them
  | _ => rfl

/-- **A pass writes the types and the origin of the events of a valid source**, wherever it ends. -/
theorem attributes_converge (p : Pass W) (w : W) (valid : check p.source = .ok ()) :
    (p.converge w).1.status.attributes = attributes p.source :=
  (run_ends p (p.complete p.source.statusOrBlank) w).status_attributes valid

theorem mem_attributes {s : Source} {listed : EventAttributes} : listed ∈ attributes s ↔
    ∃ c : Event.Category, c.setting ∈ s.spec.eventTypes ∧
      listed = ⟨Event.eventType c.kind, s.spec.eventSource⟩ := by
  rw [attributes, List.mem_map]
  constructor
  · rintro ⟨type, mem, rfl⟩
    obtain ⟨c, named, rfl⟩ := Event.mem_eventTypes.1 mem
    exact ⟨c, named, rfl⟩
  · rintro ⟨c, named, rfl⟩
    exact ⟨Event.eventType c.kind, Event.mem_eventTypes.2 ⟨c, named, rfl⟩, rfl⟩

end Pass

/-! ## What the adapter emits -/

namespace Delivery

namespace Translator

variable {t : Translator} {headers : Http.Headers} {body : ByteArray} {event : Event}
  {c : HookRelay.Event.Category}

/-- A delivery of a category becomes an event of its kind. -/
theorem event_of_header (held : headers.get? eventHeader = some c.header.toUTF8)
    (accepted : t.translate headers body = .ok event) :
    event.type = HookRelay.Event.eventType c.kind ∧ event.source = t.source := by
  obtain ⟨-, -, header, kind, reads, rfl⟩ := translate_ok_iff.1 accepted
  obtain ⟨-, rfl⟩ := (reads_header_iff held).1 reads
  exact ⟨rfl, rfl⟩

theorem beq_self_bytes (b : ByteArray) : (b == b) = true := by
  cases b with
  | mk bytes => exact beq_self_eq_true bytes

theorem eventHeader_ne_tokenHeader : eventHeader.toLower ≠ tokenHeader.toLower := by
  intro same
  have letters : (eventHeader.map Char.toLower).toList = (tokenHeader.map Char.toLower).toList :=
    congrArg String.toList same
  rw [String.toList_map, String.toList_map] at letters
  revert letters
  decide

/-- The headers of a delivery of a category, with the secret. -/
def headersOf (t : Translator) (c : HookRelay.Event.Category) : Http.Headers :=
  [(eventHeader, c.header.toUTF8), (tokenHeader, t.secret.toUTF8)]

/-- **Every category has a delivery that is accepted.** It can be sent if the secret can. -/
theorem accepts_headersOf (t : Translator) (c : HookRelay.Event.Category) :
    t.translate (t.headersOf c) emptyObject = .ok
      ⟨HookRelay.Event.eventType c.kind, t.source, c.header, emptyObject⟩ ∧
    (Http.isLegalText t.secret = true →
      ∀ h ∈ t.headersOf c, Http.isLegalValue h.2 = true) := by
  constructor
  · have authentic : t.authenticates (t.headersOf c) = true := by
      rw [authenticates, headersOf, Http.Headers.get?_cons_of_ne eventHeader_ne_tokenHeader,
        Http.Headers.get?_cons_self, Option.getD_some, beq_self_bytes, Bool.or_true]
    have reads : Reads (t.headersOf c) c.header c.kind :=
      (reads_header_iff Http.Headers.get?_cons_self).2 ⟨rfl, rfl⟩
    exact translate_ok_iff.2 ⟨authentic, checkPayload_emptyObject, _, _, reads, rfl⟩
  · intro legal
    rw [headersOf, List.forall_mem_cons, List.forall_mem_singleton]
    exact ⟨(visibleText?_header c).2.1, legal⟩

end Translator

/-- **What the status lists is what the adapter emits.** A pass over a valid source lists the types
and the origin of its events; an adapter was started with the environment that is planned for the
source. Every delivery of a category that the source subscribes to, and that the adapter accepts,
becomes an event that is listed; and everything that is listed is what the adapter makes of such a
delivery, which can be sent if the secret of deliveries can. -/
theorem Settings.advertised {W : Type} (p : Pass W) (w : W) (valid : Pass.check p.source = .ok ())
    {settings : Controller.Settings} {sinkUri : String} {plan : Receiver.Plan}
    (planned : Receiver.plan settings p.source sinkUri = .ok plan)
    {held : SecretKey → ByteArray} {told : Settings}
    (started : Settings.read (plan.started held) [] = .ok told) :
    (∀ headers body event, p.source.Subscribes headers →
      told.translator.translate headers body = .ok event →
      ⟨event.type, event.source⟩ ∈ (p.converge w).1.status.attributes) ∧
    ∀ listed ∈ (p.converge w).1.status.attributes, ∃ headers body event,
      p.source.Subscribes headers ∧ told.translator.translate headers body = .ok event ∧
      listed = ⟨event.type, event.source⟩ ∧
      (Http.isLegalText told.secretToken = true →
        ∀ h ∈ headers, Http.isLegalValue h.2 = true) := by
  have origin : told.translator.source = p.source.spec.eventSource :=
    eventSource_of_read (holds_started held planned) started
  rw [Pass.attributes_converge p w valid]
  constructor
  · rintro headers body event ⟨c, named, header⟩ accepted
    obtain ⟨type, source⟩ := Translator.event_of_header header accepted
    exact Pass.mem_attributes.2 ⟨c, named, by rw [type, source, origin]⟩
  · intro listed mem
    obtain ⟨c, named, rfl⟩ := Pass.mem_attributes.1 mem
    obtain ⟨accepted, legal⟩ := Translator.accepts_headersOf told.translator c
    exact ⟨_, _, _, ⟨c, named, Http.Headers.get?_cons_self⟩, accepted, by rw [origin], legal⟩

/-- What a source with a hook for pushes lists, its adapter emits. -/
theorem Settings.advertised_push : ∃ plan told,
    Receiver.plan {} InMemory.source "http://[::1]/" = .ok plan ∧
    Settings.read (plan.started fun _ => ByteArray.empty) [] = .ok told ∧
    ((InMemory.passOver InMemory.source).converge InMemory.ready).1.status.attributes =
      [⟨HookRelay.Event.eventType "push", "http://[::1]/a/b"⟩] ∧
    (∀ headers body event, InMemory.source.Subscribes headers →
      told.translator.translate headers body = .ok event →
      event.type = HookRelay.Event.eventType "push" ∧ event.source = "http://[::1]/a/b") ∧
    ∃ headers body event, InMemory.source.Subscribes headers ∧
      told.translator.translate headers body = .ok event ∧
      event.type = HookRelay.Event.eventType "push" := by
  have valid : Pass.check (InMemory.passOver InMemory.source).source = .ok () := by decide +kernel
  have planned : ∃ plan, Receiver.plan {} InMemory.source "http://[::1]/" = .ok plan := ⟨_, rfl⟩
  obtain ⟨plan, planned⟩ := planned
  have reread : readSink "http://[::1]/" = .ok ⟨"http",
      some ⟨"", "", .ipv6 [0, 0, 0, 0, 0, 0, 0, 1], none⟩, .segments [""], none, none⟩ := by
    decide +kernel
  obtain ⟨told, started, -⟩ : ∃ told,
      Settings.read (plan.started fun _ => ByteArray.empty) [] = .ok told ∧ told.sink = some _ :=
    (read_started planned nofun _).2 reread
  have listed :
      ((InMemory.passOver InMemory.source).converge InMemory.ready).1.status.attributes =
        [⟨HookRelay.Event.eventType "push", "http://[::1]/a/b"⟩] := by
    rw [Pass.attributes_converge _ _ valid]
    decide +kernel
  obtain ⟨sound, complete⟩ := advertised _ InMemory.ready valid planned started
  rw [listed] at sound complete
  refine ⟨plan, told, planned, started, listed, fun headers body event subscribed accepted => ?_, ?_⟩
  · simpa using sound headers body event subscribed accepted
  · obtain ⟨headers, body, event, subscribed, accepted, entry, -⟩ :=
      complete _ (List.mem_singleton_self _)
    exact ⟨headers, body, event, subscribed, accepted,
      (congrArg EventAttributes.type entry).symm⟩

end Delivery

end HookRelay
