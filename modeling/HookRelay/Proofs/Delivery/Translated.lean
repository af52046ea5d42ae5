import HookRelay.Delivery.Translate
import HookRelay.Proofs.Event.Named

/-!
# Which deliveries become events

A delivery becomes an event if and only if it passes every check: it carries the secret, its header
names a known kind of payload, and its body holds a JSON object. The event then has the type of that
kind, the source of the adapter, and the header and the body as they were received.

## Main definitions

* `Translator.Reads` : the header of a delivery names a known kind

## Main statements

* `Translator.translate_ok_iff` : which deliveries become which events
* `Http.Headers.get?_cons_self`, `Http.Headers.get?_cons_of_ne` : which header counts
-/

namespace HookRelay

/-! ## Headers -/

namespace Http.Headers

variable {name other : String} {value : ByteArray} {headers : Headers}

/-- Of several headers of a name the first counts. -/
@[simp] theorem get?_cons_self : get? name ((name, value) :: headers) = some value := by
  simp [get?]

/-- Headers of other names do not count. -/
theorem get?_cons_of_ne (ne : other.toLower ≠ name.toLower) :
    get? name ((other, value) :: headers) = get? name headers := by
  simp [get?, ne]

end Http.Headers

namespace Delivery.Translator

variable {t : Translator} {headers : Http.Headers} {body : ByteArray} {header kind : String}
  {event : Event}

/-! ## The checks -/

/-- **The `eventHeader` of a delivery names a known kind**: it is visible text, has the form of a
header, and some category has the kind that its words name (`kindOfHeader?`). -/
structure Reads (headers : Http.Headers) (header kind : String) : Prop where
  held : ∃ value, headers.get? eventHeader = some value ∧ Http.visibleText? value = some header
  visible : Text.isAllBlank header = false
  named : Event.kindOfHeader? header = some kind
  known : Event.isKnownKind kind = true

theorem readHeader_ok_iff : readHeader headers = .ok (header, kind) ↔ Reads headers header kind := by
  rw [readHeader]
  constructor
  · intro read
    split at read
    · cases read
    · next value held =>
      split at read
      · cases read
      · next text visible =>
        split at read
        · cases read
        · next notBlank =>
          split at read
          · cases read
          · next named =>
            split at read
            · next known =>
              cases read
              exact ⟨⟨value, held, visible⟩, by simpa using notBlank, named, known⟩
            · cases read
  · rintro ⟨⟨value, held, visible⟩, notBlank, named, known⟩
    simp [held, visible, notBlank, named, known]

/-- **Which deliveries become which events.** -/
theorem translate_ok_iff : t.translate headers body = .ok event ↔
    t.authenticates headers = true ∧ checkPayload body = .ok () ∧
      ∃ header kind, Reads headers header kind ∧
        event = ⟨Event.eventType kind, t.source, header, body⟩ := by
  constructor
  · intro translated
    unfold translate at translated
    cases authentic : t.authenticates headers with
    | false =>
      rw [authentic] at translated
      cases translated
    | true =>
      rw [authentic] at translated
      rcases read : readHeader headers with e | ⟨header, kind⟩
      · rw [read] at translated
        cases translated
      · rw [read] at translated
        cases payload : checkPayload body with
        | error e =>
          rw [payload] at translated
          cases translated
        | ok u =>
          rw [payload] at translated
          cases translated
          exact ⟨rfl, rfl, header, kind, readHeader_ok_iff.1 read, rfl⟩
  · rintro ⟨authentic, payload, header, kind, reads, rfl⟩
    simp [translate, authentic, payload, readHeader_ok_iff.2 reads, bind, Except.bind]

/-- An event carries the body of its delivery. -/
theorem data_of_translate (translated : t.translate headers body = .ok event) :
    event.data = body := by
  obtain ⟨-, -, header, kind, -, rfl⟩ := translate_ok_iff.1 translated
  rfl

/-! ## Deliveries of a category -/

/-- The header of a category is legal, and visible text. -/
theorem visibleText?_header (c : Event.Category) :
    Http.visibleText? c.header.toUTF8 = some c.header ∧ Http.isLegalText c.header = true ∧
      Text.isAllBlank c.header = false := by
  cases c <;> decide +kernel

/-- **The header of a category names its kind**, and nothing else. -/
theorem reads_header_iff {c : Event.Category}
    (held : headers.get? eventHeader = some c.header.toUTF8) :
    Reads headers header kind ↔ header = c.header ∧ kind = c.kind := by
  obtain ⟨visible, -, notBlank⟩ := visibleText?_header c
  constructor
  · rintro ⟨⟨value, held', visible'⟩, -, named, -⟩
    rw [held] at held'
    cases held'
    rw [visible] at visible'
    cases visible'
    rw [c.kindOfHeader?_header] at named
    cases named
    exact ⟨rfl, rfl⟩
  · rintro ⟨rfl, rfl⟩
    exact ⟨⟨_, held, visible⟩, notBlank, c.kindOfHeader?_header, c.isKnownKind_kind⟩

/-- An object without fields. -/
def emptyObject : ByteArray := "\x7b\x7d".toUTF8

theorem checkPayload_emptyObject : checkPayload emptyObject = .ok () := by
  have accepted : (checkPayload emptyObject).isOk = true := by decide +kernel
  cases checked : checkPayload emptyObject with
  | ok => rfl
  | error why =>
    rw [checked] at accepted
    cases accepted

end Delivery.Translator

end HookRelay
