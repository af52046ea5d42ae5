import HookRelay.Proofs.Url.Trimmed
import HookRelay.Proofs.World.InMemory
import HookRelay.Sink.Basic

/-!
# Sinks that are admitted, and sinks that are resolved

The address of a sink without an object is read twice by code of its own: when the rules of a source
are applied, as it was written, and when the sink is resolved, without the blanks around it. Only
the latter asks for an address of the web. So the two disagree in two ways. What is an address of
another scheme is admitted, and never resolved. What is an address only without the blanks around
it is resolved, and never admitted.

## Main definitions

* `Sink.Foreign` : an address of a scheme that is none of the web
* `Source.Spec.SoundBesidesSink` : a source breaks no rule but perhaps that on sinks

## Main statements

* `Sink.exists_join_iff`, `Source.Spec.checkSink_plain` : what is resolved, and what is admitted
* `Source.Spec.plainSink_disagreement` : the rules and the resolver disagree in two ways only
* `Source.Spec.plainSink_refuted` : an address for each of them
-/

namespace HookRelay

/-! ## Plain sinks -/

namespace Sink

variable {uri u : String}

theorem httpAddress_ok_iff {url : Url} :
    httpAddress uri = .ok url ↔ Url.parse uri = .ok url ∧ url.isHttp = true := by
  rw [httpAddress]
  constructor
  · intro read
    split at read
    · cases read
    · next url' parsed =>
      split at read
      · next http =>
        cases read
        exact ⟨parsed, http⟩
      · cases read
  · rintro ⟨parsed, http⟩
    simp [parsed, http]

theorem not_isWebAddress_empty : ¬ Url.IsWebAddress "" := by
  rintro ⟨url, read, -⟩
  cases read

/-- What is resolved without an object is what is an address of the web, blanks around it apart. -/
theorem exists_join_iff :
    (∃ u, join none (some uri) = .ok u) ↔ Url.IsWebAddress (Text.trim uri) := by
  by_cases blank : Text.trim uri = ""
  · have unset : Source.nonBlank (some uri) = none := by simp [Source.nonBlank, blank]
    rw [blank]
    refine iff_of_false ?_ not_isWebAddress_empty
    rintro ⟨u, joined⟩
    simp [join, unset, combine] at joined
  · have set : Source.nonBlank (some uri) = some (Text.trim uri) := by
      simp [Source.nonBlank, blank]
    rw [join, set, combine]
    constructor
    · rintro ⟨u, joined⟩
      cases read : httpAddress (Text.trim uri) with
      | error e =>
        rw [read] at joined
        cases joined
      | ok url => exact ⟨url, httpAddress_ok_iff.1 read⟩
    · rintro ⟨url, read⟩
      exact ⟨url.render, by rw [httpAddress_ok_iff.2 read]; rfl⟩

/-- An address of a scheme that is none of the web. -/
def Foreign (uri : String) : Prop := ∃ url, Url.parse uri = .ok url ∧ url.isHttp = false

/-- A foreign address is not resolved, and an address that is none of the web is foreign. -/
theorem foreign_iff : Foreign uri ↔
    (∃ url, Url.parse uri = .ok url) ∧ ¬ Url.IsWebAddress (Text.trim uri) := by
  constructor
  · rintro ⟨url, read, plain⟩
    refine ⟨⟨url, read⟩, ?_⟩
    rintro ⟨url', read', http⟩
    have own := Url.ownScheme_trim read
    rw [Url.ownScheme_parse read'] at own
    rw [Url.isHttp, Option.some.inj own, ← Url.isHttp, plain] at http
    cases http
  · rintro ⟨⟨url, read⟩, unresolved⟩
    refine ⟨url, read, ?_⟩
    by_contra http
    exact unresolved ((Url.isWebAddress_iff uri).1 ⟨url, read, by simpa using http⟩).1

/-- What is resolved fails to be an address as it is written if and only if it is spoiled. -/
theorem spoiled_iff (resolved : Url.IsWebAddress (Text.trim uri)) :
    Url.Spoiled uri ↔ ¬ ∃ url, Url.parse uri = .ok url := by
  constructor
  · rintro spoiled ⟨url, read⟩
    have web : url.isHttp = true := by
      by_contra plain
      exact (foreign_iff.1 ⟨url, read, by simpa using plain⟩).2 resolved
    exact ((Url.isWebAddress_iff uri).1 ⟨url, read, web⟩).2 spoiled
  · intro unread
    by_contra unspoiled
    obtain ⟨url, read, -⟩ := (Url.isWebAddress_iff uri).2 ⟨resolved, unspoiled⟩
    exact unread ⟨url, read⟩

end Sink

namespace Source.Spec

variable {s : Spec} {uri : String}

/-- **A source breaks no rule but perhaps that on sinks** (`checkSink`): with some object as its
sink it would be accepted. -/
def SoundBesidesSink (s : Spec) : Prop :=
  ∃ r uri, ({ s with sink := ⟨some r, uri⟩ } : Spec).validate = .ok ()

/-- The rule on sinks is applied last. -/
theorem exists_rules (s : Spec) : ∃ rules : Except Invalidity Unit, ∀ d,
    ({ s with sink := d } : Spec).validate = rules.bind fun _ => checkSink d := by
  refine ⟨(checkScope s.projectUrl s.groupUrl).bind fun _ =>
    if s.eventTypes.all Text.isAllBlank then .error .noEventTypes
    else (checkSecret "accessToken" s.accessToken).bind fun _ =>
      s.secretToken.elim (.ok ()) (checkSecret "secretToken"), fun d => ?_⟩
  rw [validate]
  cases checkScope s.projectUrl s.groupUrl with
  | error e => rfl
  | ok _ =>
    by_cases noTypes : s.eventTypes.all Text.isAllBlank = true
    · simp [bind, Except.bind, noTypes]
    · cases checkSecret "accessToken" s.accessToken with
      | error e => simp [bind, Except.bind, noTypes]
      | ok _ => cases s.secretToken <;> simp [bind, Except.bind, noTypes]

/-- A source that breaks no other rule is judged by its sink. -/
theorem validate_of_sound (sound : s.SoundBesidesSink) : s.validate = checkSink s.sink := by
  obtain ⟨r, uri, valid⟩ := sound
  obtain ⟨rules, applied⟩ := s.exists_rules
  rw [applied] at valid
  rw [show s.validate = ({ s with sink := s.sink } : Spec).validate from rfl, applied]
  cases rules with
  | error e => cases valid
  | ok _ => rfl

/-- The rule on sinks admits any address that stands by itself. -/
theorem checkSink_plain : checkSink ⟨none, some uri⟩ = .ok () ↔ ∃ url, Url.parse uri = .ok url := by
  cases read : Url.parse uri with
  | error fault => simp [checkSink, read]
  | ok url => simp [checkSink, read]

/-- **The rules and the resolver disagree in two ways only.** Of the sources without an object as
their sink, and that break no other rule, those are admitted whose sink is not resolved that have a
foreign address; and those are refused whose sink is resolved that have an address spoiled by a wide
blank. -/
theorem plainSink_disagreement (plain : s.sink = ⟨none, some uri⟩) (sound : s.SoundBesidesSink) :
    ((s.validate = .ok () ∧ ∀ u, Sink.join none (some uri) ≠ .ok u) ↔ Sink.Foreign uri) ∧
    ((s.validate ≠ .ok () ∧ ∃ u, Sink.join none (some uri) = .ok u) ↔
      Url.Spoiled uri ∧ ∃ u, Sink.join none (some uri) = .ok u) := by
  rw [validate_of_sound sound, plain, Sink.exists_join_iff]
  constructor
  · rw [Sink.foreign_iff, checkSink_plain, ← Sink.exists_join_iff, not_exists]
  · refine and_congr_left fun resolved => ?_
    rw [Sink.spoiled_iff resolved, ne_eq, checkSink_plain]

/-- The source in memory, with an address as its sink. -/
def sinkingAt (uri : String) : Spec := { InMemory.source.spec with sink := ⟨none, some uri⟩ }

theorem sound_sinkingAt (uri : String) : (sinkingAt uri).SoundBesidesSink := by
  refine ⟨⟨"v1", "Service", "broker", none⟩, none, ?_⟩
  show InMemory.source.spec.validate = .ok ()
  decide +kernel

/-- A foreign sink is admitted and not resolved, and one behind a no-break space is resolved and not
admitted. -/
theorem plainSink_strays :
    ((sinkingAt "ftp://[::1]/").validate = .ok () ∧
      ∀ u, Sink.join none (some "ftp://[::1]/") ≠ .ok u) ∧
    (sinkingAt "\u00a0http://[::1]/").validate ≠ .ok () ∧
      ∃ u, Sink.join none (some "\u00a0http://[::1]/") = .ok u := by
  have foreign : Sink.Foreign "ftp://[::1]/" := ⟨⟨"ftp",
    some ⟨"", "", .ipv6 [0, 0, 0, 0, 0, 0, 0, 1], none⟩, .segments [""], none, none⟩,
    by decide +kernel⟩
  have spoiled : Url.Spoiled "\u00a0http://[::1]/" := .inl ⟨'\u00a0', by decide +kernel⟩
  have resolved : Sink.join none (some "\u00a0http://[::1]/") = .ok "http://[::1]/" := by
    decide +kernel
  exact ⟨(plainSink_disagreement rfl (sound_sinkingAt _)).1.2 foreign,
    (plainSink_disagreement rfl (sound_sinkingAt _)).2.2 ⟨spoiled, _, resolved⟩⟩

/-- **The two readings of a sink differ**: what they make of an address of another scheme, and of
one behind a no-break space. -/
theorem plainSink_refuted :
    (sinkingAt "ftp://[::1]/").validate = .ok () ∧
      Sink.join none (some "ftp://[::1]/") =
        .error (.invalidUri "ftp://[::1]/" Sink.notHttpText) ∧
      (sinkingAt "\u00a0http://[::1]/").validate =
        .error (.invalidSinkUri "\u00a0http://[::1]/") ∧
      Sink.join none (some "\u00a0http://[::1]/") = .ok "http://[::1]/" := by
  decide +kernel

end Source.Spec

end HookRelay
