import HookRelay.Proofs.Delivery.Translated
import HookRelay.Proofs.Text.Bytes
import Mathlib.Order.WellFounded

/-!
# The first check that a delivery fails

A delivery becomes an event if it passes every check. Otherwise it is refused for the first check
that it fails, and nothing that a later check looks at has a part in the refusal. In particular
whoever does not know the secret learns nothing from the answer.

The checks are stated of the bytes that arrive: the secret and the header are compared with the
bytes of the first header of their name, and the body is what its bytes spell.

## Main definitions

* `Check`, `Check.place` : the checks, and the order in which they are made
* `Shows` : the event header of a delivery is a visible text
* `Translator.Passes` : a delivery passes a check
* `RefusedAs` : why a delivery that fails a check is refused

## Main statements

* `Translator.translate_of_passes` : a delivery that passes every check becomes an event
* `Translator.translate_of_first` : a delivery is refused for the first check that it fails
* `Translator.translate_checked` : both, for every delivery
-/

namespace HookRelay.Delivery

/-! ## Checks and refusals -/

/-- The checks of a delivery, which `Translator.translate` makes in turn. -/
inductive Check where
  /-- It carries the secret. -/
  | token
  /-- It has an event header that is not blank. -/
  | header
  /-- The event header is visible text of the form of a header. -/
  | form
  /-- The event header names a known kind of payload. -/
  | kind
  /-- There is a body. -/
  | body
  /-- The body is a JSON text. -/
  | json
  /-- The JSON text is an object. -/
  | object

/-- The place of a check in the order in which the checks are made. -/
def Check.place : Check → Nat
  | token => 0
  | header => 1
  | form => 2
  | kind => 3
  | body => 4
  | json => 5
  | object => 6

/-- Either every check holds, or one is the first that does not. -/
theorem Check.all_or_first (P : Check → Prop) :
    (∀ c, P c) ∨ ∃ check : Check, (∀ c : Check, c.place < check.place → P c) ∧ ¬ P check := by
  by_cases all : ∀ c, P c
  · exact .inl all
  · obtain ⟨check, failing, least⟩ :=
      (measure Check.place).wf.has_min {c | ¬ P c} (not_forall.1 all)
    exact .inr ⟨check, fun c before => by_contra fun failing => least c failing before, failing⟩

/-- **The `eventHeader` of a delivery is a visible text**: the first header of that name holds the
bytes of the text, all of them visible ASCII. -/
structure Shows (headers : Http.Headers) (header : String) : Prop where
  held : headers.get? eventHeader = some header.toUTF8
  visible : ∀ b ∈ header.toUTF8.data, Http.isVisibleByte b = true

/-- Whether the value of a header consists of blanks and tabs. -/
def IsBlank (value : ByteArray) : Prop := ∀ b ∈ value.data, b = 32 ∨ b = 9

/-- **A delivery passes a check.** -/
def Translator.Passes (t : Translator) (headers : Http.Headers) (body : ByteArray) :
    Check → Prop
  | .token => t.secret = "" ∨ headers.get? tokenHeader = some t.secret.toUTF8
  | .header => ∃ value, headers.get? eventHeader = some value ∧ ¬ IsBlank value
  | .form => ∃ header kind, Shows headers header ∧ Event.kindOfHeader? header = some kind
  | .kind => ∃ header kind, Shows headers header ∧ Event.kindOfHeader? header = some kind ∧
      Event.isKnownKind kind = true
  | .body => body.size ≠ 0
  | .json => ∃ payload, Json.parse body = .ok payload
  | .object => ∃ fields, Json.parse body = .ok (.object fields)

/-- **Why a delivery that fails a check is refused.** What is said looks at the check that failed
only. -/
inductive RefusedAs (headers : Http.Headers) (body : ByteArray) : Check → Rejection → Prop
  | token : RefusedAs headers body .token .unauthorized
  | header : RefusedAs headers body .header .missingHeader
  | garbled {value : ByteArray} {b : UInt8} (held : headers.get? eventHeader = some value)
      (mem : b ∈ value.data) (hidden : Http.isVisibleByte b = false) :
      RefusedAs headers body .form (.invalidHeader nonAscii)
  | malformed {header : String} (shown : Shows headers header) :
      RefusedAs headers body .form (.invalidHeader header)
  | kind {header : String} (shown : Shows headers header) :
      RefusedAs headers body .kind (.unknownType header)
  | body : RefusedAs headers body .body .emptyBody
  | json {fault : Json.ReadError} (parsed : Json.parse body = .error fault) :
      RefusedAs headers body .json (.invalidPayload fault)
  | object : RefusedAs headers body .object .notAnObject

section Header

variable {headers : Http.Headers} {header other : String} {value : ByteArray}

theorem Shows.eq_of_held (shown : Shows headers header)
    (held : headers.get? eventHeader = some other.toUTF8) : header = other := by
  have bytes := shown.held.symm.trans held
  rw [Option.some.injEq, String.toUTF8_eq_toByteArray, String.toUTF8_eq_toByteArray] at bytes
  exact String.toByteArray_inj.1 bytes

theorem Shows.text_eq (shown : Shows headers header) (shown' : Shows headers other) :
    header = other := shown.eq_of_held shown'.held

/-- What the header of a delivery shows is what the reading of headers takes it for. -/
theorem shows_iff : Shows headers header ↔
    ∃ value, headers.get? eventHeader = some value ∧ Http.visibleText? value = some header := by
  constructor
  · intro shown
    exact ⟨_, shown.held, Http.visibleText?_eq_some_iff.2 ⟨rfl, shown.visible⟩⟩
  · rintro ⟨value, held, text⟩
    obtain ⟨rfl, visible⟩ := Http.visibleText?_eq_some_iff.1 text
    exact ⟨held, visible⟩

/-- The text is blank if the value of the header is. -/
theorem Shows.isAllBlank_iff (shown : Shows headers header)
    (held : headers.get? eventHeader = some value) :
    Text.isAllBlank header = true ↔ IsBlank value := by
  cases shown.held.symm.trans held
  exact Http.isAllBlank_iff shown.visible

end Header

variable {headers : Http.Headers} {body : ByteArray} {check : Check} {why why' : Rejection}

/-- One check gives one reason. -/
theorem RefusedAs.unique (refusal : RefusedAs headers body check why)
    (refusal' : RefusedAs headers body check why') : why = why' := by
  cases refusal with
  | token | header | body | object =>
    cases refusal'
    rfl
  | garbled held mem hidden =>
    cases refusal' with
    | garbled => rfl
    | malformed shown =>
      cases held.symm.trans shown.held
      cases hidden.symm.trans (shown.visible _ mem)
  | malformed shown =>
    cases refusal' with
    | garbled held mem hidden =>
      cases held.symm.trans shown.held
      cases hidden.symm.trans (shown.visible _ mem)
    | malformed shown' => rw [shown.text_eq shown']
  | kind shown =>
    cases refusal' with
    | kind shown' => rw [shown.text_eq shown']
  | json parsed =>
    cases refusal' with
    | json parsed' =>
      cases parsed.symm.trans parsed'
      rfl

/-! ## One check after the other -/

namespace Translator

variable {t : Translator} {header kind : String} {value : ByteArray} {event : Event}

theorem authenticates_iff : t.authenticates headers = true ↔ t.Passes headers body .token := by
  rw [authenticates, Bool.or_eq_true, String.isEmpty_iff, bytes_beq_iff]
  refine or_congr_right' fun asked => ?_
  have nonempty : ByteArray.empty ≠ t.secret.toUTF8 := by
    intro empty
    rw [String.toUTF8_eq_toByteArray, ← String.toByteArray_empty, String.toByteArray_inj] at empty
    exact asked empty.symm
  cases headers.get? tokenHeader with
  | none => exact ⟨fun same => absurd same nonempty, nofun⟩
  | some value => exact Option.some_inj.symm

theorem translate_of_unauthentic (unauthentic : ¬ t.Passes headers body .token) :
    t.translate headers body = .error .unauthorized := by
  have refused : t.authenticates headers = false := by
    rw [← Bool.not_eq_true, authenticates_iff]
    exact unauthentic
  rw [translate, refused]
  rfl

/-- Once the secret was found to be right the header decides, then the payload. -/
theorem translate_of_authentic (authentic : t.Passes headers body .token) :
    t.translate headers body = (readHeader headers).bind fun r =>
      (checkPayload body).map fun _ => ⟨Event.eventType r.2, t.source, r.1, body⟩ := by
  rw [translate, authenticates_iff.2 authentic]
  rcases readHeader headers with e | r
  · rfl
  · rcases checkPayload body with e | u <;> rfl

theorem translate_of_unread (authentic : t.Passes headers body .token)
    (unread : readHeader headers = .error why) : t.translate headers body = .error why := by
  rw [translate_of_authentic authentic, unread]
  rfl

theorem translate_of_read (authentic : t.Passes headers body .token)
    (read : readHeader headers = .ok (header, kind)) :
    t.translate headers body =
      (checkPayload body).map fun _ => ⟨Event.eventType kind, t.source, header, body⟩ := by
  rw [translate_of_authentic authentic, read]
  rfl

/-- Without an event header, or with a blank one, the header counts as missing. -/
theorem readHeader_of_missing (missing : ¬ t.Passes headers body .header) :
    readHeader headers = .error .missingHeader := by
  rw [readHeader]
  cases held : headers.get? eventHeader with
  | none => rfl
  | some value =>
    have blank : IsBlank value := Classical.byContradiction fun full => missing ⟨value, held, full⟩
    have visible : Http.visibleText? value ≠ none := by
      rw [Ne, Http.visibleText?_eq_none_iff]
      rintro ⟨b, mem, hidden⟩
      rcases blank b mem with rfl | rfl <;> cases hidden
    obtain ⟨header, text⟩ := Option.ne_none_iff_exists'.1 visible
    have allBlank := ((shows_iff.2 ⟨value, held, text⟩).isAllBlank_iff held).2 blank
    simp [text, allBlank]

/-- A header that is not missing and has not the form of a header. -/
theorem readHeader_of_formless (present : t.Passes headers body .header)
    (formless : ¬ t.Passes headers body .form) :
    ∃ why, RefusedAs headers body .form why ∧ readHeader headers = .error why := by
  obtain ⟨value, held, full⟩ := present
  rw [readHeader, held]
  cases text : Http.visibleText? value with
  | none =>
    obtain ⟨b, mem, hidden⟩ := Http.visibleText?_eq_none_iff.1 text
    exact ⟨_, .garbled held mem hidden, by simp [text]⟩
  | some header =>
    have shown := shows_iff.2 ⟨value, held, text⟩
    have notBlank : ¬ Text.isAllBlank header = true := fun blank =>
      full ((shown.isAllBlank_iff held).1 blank)
    have nameless : Event.kindOfHeader? header = none := by
      rw [← Option.not_isSome_iff_eq_none, Option.isSome_iff_exists]
      rintro ⟨kind, named⟩
      exact formless ⟨header, kind, shown, named⟩
    exact ⟨_, .malformed shown, by simp [text, notBlank, nameless]⟩

/-- A header of the form of a header is read, or it names no known kind. -/
theorem readHeader_of_named (present : t.Passes headers body .header)
    (shown : Shows headers header) (named : Event.kindOfHeader? header = some kind) :
    readHeader headers =
      if Event.isKnownKind kind then .ok (header, kind) else .error (.unknownType header) := by
  obtain ⟨value, held, full⟩ := present
  obtain ⟨value', held', text⟩ := shows_iff.1 shown
  cases held.symm.trans held'
  have notBlank : ¬ Text.isAllBlank header = true := fun blank =>
    full ((shown.isAllBlank_iff held).1 blank)
  simp [readHeader, held, text, notBlank, named]

/-- No JSON text is empty. -/
theorem passes_body_of_parsed {payload : Json} (parsed : Json.parse body = .ok payload) :
    t.Passes headers body .body := by
  intro empty
  have nothing : body = ByteArray.empty := ByteArray.size_eq_zero_iff.1 empty
  subst nothing
  cases parsed

theorem checkPayload_of_object (full : t.Passes headers body .body)
    (object : t.Passes headers body .object) : checkPayload body = .ok () := by
  obtain ⟨fields, parsed⟩ := object
  rw [checkPayload, if_neg full, parsed]
  rfl

theorem checkPayload_of_unparsed {fault : Json.ReadError} (full : t.Passes headers body .body)
    (unparsed : Json.parse body = .error fault) :
    checkPayload body = .error (.invalidPayload fault) := by
  rw [checkPayload, if_neg full, unparsed]

theorem checkPayload_of_notObject (full : t.Passes headers body .body)
    (parsed : t.Passes headers body .json) (notObject : ¬ t.Passes headers body .object) :
    checkPayload body = .error .notAnObject := by
  obtain ⟨payload, parsed⟩ := parsed
  have other : payload.isObject = false := by
    cases payload with
    | object fields => exact absurd ⟨fields, parsed⟩ notObject
    | _ => rfl
  rw [checkPayload, if_neg full, parsed]
  simp [other]

/-! ## Acceptance and refusal -/

/-- **A delivery that passes every check becomes an event**, with its header and its body as they
were received. -/
theorem translate_of_passes (passes : ∀ check, t.Passes headers body check)
    (shown : Shows headers header) (named : Event.kindOfHeader? header = some kind) :
    t.translate headers body = .ok ⟨Event.eventType kind, t.source, header, body⟩ := by
  obtain ⟨header', kind', shown', named', known⟩ := passes .kind
  obtain rfl := shown'.text_eq shown
  obtain rfl : kind' = kind := Option.some_inj.1 (named'.symm.trans named)
  have read := readHeader_of_named (passes .header) shown named
  rw [if_pos known] at read
  rw [translate_of_read (passes .token) read,
    checkPayload_of_object (passes .body) (passes .object)]
  rfl

/-- A header that names a kind is not blank. -/
theorem passes_header_of_named (shown : Shows headers header)
    (named : Event.kindOfHeader? header = some kind) : t.Passes headers body .header := by
  refine ⟨_, shown.held, fun blank => ?_⟩
  cases (Event.isAllBlank_of_named named).symm.trans ((shown.isAllBlank_iff shown.held).2 blank)

/-- A delivery with the secret passes every check if its header names a known kind and its body is
an object: such a header is not blank, and such a body is not empty. -/
theorem passes_of_object {fields : List (String × Json)}
    (authentic : t.Passes headers body .token) (shown : Shows headers header)
    (named : Event.kindOfHeader? header = some kind) (known : Event.isKnownKind kind = true)
    (parsed : Json.parse body = .ok (.object fields)) :
    ∀ check, t.Passes headers body check
  | .token => authentic
  | .header => passes_header_of_named shown named
  | .form => ⟨header, kind, shown, named⟩
  | .kind => ⟨header, kind, shown, named, known⟩
  | .body => passes_body_of_parsed parsed
  | .json => ⟨_, parsed⟩
  | .object => ⟨fields, parsed⟩

/-- A delivery that passes the checks before that of its body has a header that is read. -/
theorem exists_read (before : ∀ c : Check, c.place < Check.body.place → t.Passes headers body c) :
    ∃ header kind, t.translate headers body =
      (checkPayload body).map fun _ => ⟨Event.eventType kind, t.source, header, body⟩ := by
  obtain ⟨header, kind, shown, named, known⟩ := before .kind (by decide)
  have read := readHeader_of_named (before .header (by decide)) shown named
  rw [if_pos known] at read
  exact ⟨header, kind, translate_of_read (before .token (by decide)) read⟩

/-- **A delivery is refused for the first check that it fails.** -/
theorem translate_of_first (before : ∀ c : Check, c.place < check.place → t.Passes headers body c)
    (failing : ¬ t.Passes headers body check) :
    ∃ why, RefusedAs headers body check why ∧ t.translate headers body = .error why := by
  cases check with
  | token => exact ⟨_, .token, translate_of_unauthentic failing⟩
  | header =>
    have unread := readHeader_of_missing failing
    exact ⟨_, .header, translate_of_unread (before .token (by decide)) unread⟩
  | form =>
    obtain ⟨why, refusal, unread⟩ := readHeader_of_formless (before .header (by decide)) failing
    exact ⟨why, refusal, translate_of_unread (before .token (by decide)) unread⟩
  | kind =>
    obtain ⟨header, kind, shown, named⟩ := before .form (by decide)
    have unknown : ¬ Event.isKnownKind kind = true := fun known =>
      failing ⟨header, kind, shown, named, known⟩
    have unread := readHeader_of_named (before .header (by decide)) shown named
    rw [if_neg unknown] at unread
    exact ⟨_, .kind shown, translate_of_unread (before .token (by decide)) unread⟩
  | body =>
    obtain ⟨header, kind, read⟩ := exists_read before
    have empty : checkPayload body = .error .emptyBody := if_pos (Decidable.not_not.1 failing)
    exact ⟨_, .body, by rw [read, empty]; rfl⟩
  | json =>
    obtain ⟨header, kind, read⟩ := exists_read fun c earlier => before c (earlier.trans (by decide))
    cases parsed : Json.parse body with
    | ok payload => exact absurd ⟨payload, parsed⟩ failing
    | error fault =>
      refine ⟨_, .json parsed, ?_⟩
      rw [read, checkPayload_of_unparsed (before .body (by decide)) parsed]
      rfl
  | object =>
    obtain ⟨header, kind, read⟩ := exists_read fun c earlier => before c (earlier.trans (by decide))
    refine ⟨_, .object, ?_⟩
    have full := before .body (by decide)
    rw [read, checkPayload_of_notObject full (before .json (by decide)) failing]
    rfl

/-- Every delivery becomes an event or is refused. -/
theorem translate_cases (t : Translator) (headers : Http.Headers) (body : ByteArray) :
    (∃ header kind fields, t.Passes headers body .token ∧ Shows headers header ∧
      Event.kindOfHeader? header = some kind ∧ Event.isKnownKind kind = true ∧
      Json.parse body = .ok (.object fields) ∧
      t.translate headers body = .ok ⟨Event.eventType kind, t.source, header, body⟩) ∨
    ∃ check why, (∀ c : Check, c.place < check.place → t.Passes headers body c) ∧
      ¬ t.Passes headers body check ∧ RefusedAs headers body check why ∧
      t.translate headers body = .error why := by
  rcases Check.all_or_first (t.Passes headers body) with passes | ⟨check, before, failing⟩
  · obtain ⟨header, kind, shown, named, known⟩ := passes .kind
    obtain ⟨fields, parsed⟩ := passes .object
    exact .inl ⟨header, kind, fields, passes .token, shown, named, known, parsed,
      translate_of_passes passes shown named⟩
  · obtain ⟨why, refusal, refused⟩ := translate_of_first before failing
    exact .inr ⟨check, why, before, failing, refusal, refused⟩

/-- **Which deliveries become events, and why the others are refused.** A delivery becomes an event
if and only if it carries the secret, its header names a known kind and its body is an object, and
header and body determine the event. It is refused if and only if it fails a check, for the first
that it fails. Two deliveries with a wrong secret have the same answer. -/
theorem translate_checked (t : Translator) (headers : Http.Headers) (body : ByteArray) :
    (∀ event, t.translate headers body = .ok event ↔
      (t.secret = "" ∨ headers.get? tokenHeader = some t.secret.toUTF8) ∧
      ∃ header kind fields, Shows headers header ∧ Event.kindOfHeader? header = some kind ∧
        Event.isKnownKind kind = true ∧ Json.parse body = .ok (.object fields) ∧
        event = ⟨Event.typePrefix ++ "." ++ kind, t.source, header, body⟩) ∧
    (∀ why, t.translate headers body = .error why ↔
      ∃ check : Check, (∀ c : Check, c.place < check.place → t.Passes headers body c) ∧
        ¬ t.Passes headers body check ∧ RefusedAs headers body check why) ∧
    (∀ headers' body', ¬ t.Passes headers body .token → ¬ t.Passes headers' body' .token →
      t.translate headers' body' = t.translate headers body) := by
  refine ⟨fun event => ⟨fun translated => ?_, ?_⟩, fun why => ⟨fun refused => ?_, ?_⟩,
    fun headers' body' wrong wrong' => ?_⟩
  · rcases translate_cases t headers body with
      ⟨header, kind, fields, authentic, shown, named, known, parsed, translated'⟩ |
      ⟨check, why, -, -, -, refused⟩
    · cases translated.symm.trans translated'
      exact ⟨authentic, header, kind, fields, shown, named, known, parsed, rfl⟩
    · cases translated.symm.trans refused
  · rintro ⟨authentic, header, kind, fields, shown, named, known, parsed, rfl⟩
    exact translate_of_passes (passes_of_object authentic shown named known parsed) shown named
  · rcases translate_cases t headers body with
      ⟨header, kind, fields, -, -, -, -, -, translated⟩ |
      ⟨check, why', before, failing, refusal, refused'⟩
    · cases refused.symm.trans translated
    · cases refused.symm.trans refused'
      exact ⟨check, before, failing, refusal⟩
  · rintro ⟨check, before, failing, refusal⟩
    obtain ⟨why', refusal', refused⟩ := translate_of_first before failing
    rw [refused, refusal.unique refusal']
  · rw [translate_of_unauthentic wrong, translate_of_unauthentic wrong']

end Translator

end HookRelay.Delivery
