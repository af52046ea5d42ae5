import HookRelay.Delivery.Sender
import HookRelay.Delivery.Settings
import HookRelay.Proofs.Admission.Agreement
import HookRelay.Proofs.Delivery.Advertised
import HookRelay.Proofs.Delivery.Answered
import HookRelay.Proofs.Text.Bytes
import HookRelay.Proofs.Url.Cleaned
import HookRelay.Proofs.Url.Hosted

/-!
# Which events a request can carry

An event is sent as headers of a request, and a header carries no control character but the tab. All
that an accepted delivery puts into headers is free of them, except for the origin of the event:
that is the address of the project or group as it was written, while the rules of a source are
applied to what was read from it. Reading an address drops line ends wherever they stand. So the
requests of a source are built, and its sink alone decides how its deliveries end, unless its
address as it was written holds a control character; and every source that is accepted has a twin
that is accepted as well, with a line end in its address, none of whose deliveries can be sent.

## Main definitions

* `Http.isBarred` : a control character that no header carries
* `Delivery.Stamp.Legal` : a number and a time that a header carries
* `Delivery.answered` : what the answer of a sink makes of an event
* `Source.Spec.Broken` : a source with a line end inside the address of another one

## Main statements

* `Http.isLegalText_iff` : which texts a header carries
* `Source.Spec.exists_broken` : a line end goes unnoticed when a source is checked
* `Delivery.Sender.overHttp_accepted` : how the delivery of an accepted source ends
* `Delivery.Sender.broken_unsent` : an accepted source without any delivery
-/

namespace HookRelay

/-! ## Headers -/

namespace Http

variable {s : String} {c : Char}

/-- A control character that no header carries: all but the tab. -/
def isBarred (c : Char) : Bool := Url.Host.isControl c && c != '\t'

theorem isLegalByte_iff {b : UInt8} :
    isLegalByte b = true ↔ 32 ≤ b.toNat ∧ b.toNat ≠ 127 ∨ b.toNat = 9 := by
  simp only [isLegalByte, Bool.or_eq_true, Bool.and_eq_true, decide_eq_true_eq,
    UInt8.le_iff_toNat_le, ne_eq, ← UInt8.toNat_inj]
  rfl

theorem isBarred_eq_false_iff :
    isBarred c = false ↔ 32 ≤ c.toNat ∧ c.toNat ≠ 127 ∨ c.toNat = 9 := by
  have tab : c = '\t' ↔ c.toNat = 9 := by
    constructor
    · rintro rfl
      rfl
    · intro same
      rw [← Char.ofNat_toNat c, same]
  simp only [isBarred, Url.Host.isControl, Bool.and_eq_false_iff, Bool.or_eq_false_iff,
    decide_eq_false_iff_not, bne_eq_false_iff_eq, tab]
  omega

/-- The bytes of a character are legal unless it is barred. -/
theorem forall_isLegalByte_iff :
    (∀ b ∈ String.utf8EncodeChar c, isLegalByte b = true) ↔ isBarred c = false := by
  rw [isBarred_eq_false_iff]
  by_cases narrow : c.toNat < 128
  · have byte : (UInt8.ofNat c.toNat).toNat = c.toNat := by
      rw [UInt8.toNat_ofNat', Nat.mod_eq_of_lt (by omega)]
    rw [Text.encode_narrow narrow, List.forall_mem_singleton, isLegalByte_iff, byte]
  · refine iff_of_true (fun b mem => ?_) (by omega)
    have wide := Text.encode_wide (Nat.le_of_not_lt narrow) b mem
    exact isLegalByte_iff.2 (by omega)

/-- **Which texts a header carries**: those without a control character other than the tab. -/
theorem isLegalText_iff : isLegalText s = true ↔ ∀ c ∈ s.toList, isBarred c = false := by
  rw [isLegalText, isLegalValue, Array.all_eq_true_iff_forall_mem, Text.forall_bytes_iff]
  exact forall₂_congr fun c mem => forall_isLegalByte_iff

theorem isLegalText_eq (s : String) : isLegalText s = !s.toList.any isBarred := by
  rw [Bool.eq_iff_iff, isLegalText_iff]
  simp

/-- Visible text is legal. -/
theorem isLegalText_of_visible {value : ByteArray} (visible : visibleText? value = some s) :
    isLegalText s = true := by
  obtain ⟨rfl, bytes⟩ := visibleText?_eq_some_iff.1 visible
  rw [isLegalText, isLegalValue, Array.all_eq_true_iff_forall_mem]
  intro b mem
  have shown := isVisibleByte_iff.1 (bytes b mem)
  exact isLegalByte_iff.2 (by omega)

end Http

/-! ## Addresses with a line end -/

namespace Scope

variable {kind : Kind} {raw raw' : String} {σ : Scope}

theorem parse_of_ofUrl (split : ofUrl kind raw = .ok σ) : ∃ url, Url.parse raw = .ok url := by
  cases read : Url.parse raw with
  | ok url => exact ⟨url, rfl⟩
  | error fault =>
    rw [ofUrl, splitUrl, read] at split
    cases split

/-- The scope is taken from the address that was read, and not from the text. -/
theorem ofUrl_congr (same : Url.parse raw = Url.parse raw') : ofUrl kind raw = ofUrl kind raw' := by
  rw [ofUrl, ofUrl, splitUrl, splitUrl, same]

end Scope

namespace Source

variable {s : Spec} {kind : Scope.Kind} {url : String} {σ : Scope}

theorem trim_of_nonBlank {text : Option String} (h : nonBlank text = some url) :
    Text.trim url = url := by
  obtain ⟨trimmed, -⟩ := nonBlank_eq_some.1 h
  obtain ⟨t, -, rfl⟩ := Option.map_eq_some_iff.1 trimmed
  rw [← String.toList_inj, Text.toList_trim, Text.toList_trim, stripped_stripped]

theorem nonBlank_some_eq_self (trimmed : Text.trim url = url) (ne : url ≠ "") :
    nonBlank (some url) = some url :=
  nonBlank_eq_some.2 ⟨congrArg some trimmed, ne⟩

namespace Spec

/-- A source with another address for its project or group, in `projectUrl` or `groupUrl`. -/
def withAddress (s : Spec) (kind : Scope.Kind) (url : String) : Spec :=
  match kind with
  | .project => { s with projectUrl := some url }
  | .group => { s with groupUrl := some url }

/-- **A source with a line end inside the address of another one**, and the same in all else. -/
structure Broken (s twin : Spec) : Prop where
  inside : ∃ front back, front ≠ "" ∧ back ≠ "" ∧ s.eventSource = front ++ back ∧
    twin.eventSource = front ++ "\n" ++ back
  rest : ∃ kind, twin = s.withAddress kind twin.eventSource

theorem Names.scope_eq (h : s.Names kind url) :
    s.scope = (Scope.ofUrl kind url).mapError (.invalid url) := by
  cases kind with
  | project =>
    have set : nonBlank s.projectUrl = some url := h.set
    have unset : nonBlank s.groupUrl = none := h.alone .group (by decide)
    simp [scope, set, unset]
  | group =>
    have set : nonBlank s.groupUrl = some url := h.set
    have unset : nonBlank s.projectUrl = none := h.alone .project (by decide)
    simp [scope, set, unset]

theorem Names.withAddress {other : String} (h : s.Names kind url)
    (set : nonBlank (some other) = some other) : (s.withAddress kind other).Names kind other := by
  cases kind with
  | project =>
    refine ⟨set, fun k ne => ?_⟩
    cases k with
    | project => exact absurd rfl ne
    | group => exact h.alone .group ne
  | group =>
    refine ⟨set, fun k ne => ?_⟩
    cases k with
    | project => exact h.alone .project ne
    | group => exact absurd rfl ne

/-- Of the address, the rules read the scope alone. -/
theorem validate_withAddress (same : (s.withAddress kind url).scope = s.scope) :
    (s.withAddress kind url).validate = s.validate := by
  unfold validate
  rw [checkScope_eq, checkScope_eq, same]
  cases kind <;> rfl

/-- **A line end goes unnoticed when a source is checked**: every source that is accepted has a twin
with a line end inside its address that is accepted as well, and has the same scope. -/
theorem exists_broken (valid : s.validate = .ok ()) :
    ∃ twin : Spec, s.Broken twin ∧ twin.validate = .ok () ∧ twin.scope = s.scope := by
  obtain ⟨σ, inScope⟩ := scope_of_validate valid
  obtain ⟨kind, url, names, split⟩ := scope_eq_ok inScope
  obtain ⟨read, parsed⟩ := Scope.parse_of_ofUrl split
  obtain ⟨a, b, rest, letters⟩ := Url.exists_cons_cons_of_parse parsed
  let front := String.ofList [a]
  let back := String.ofList (b :: rest)
  have whole : url = front ++ back := by
    rw [← String.toList_inj]
    simpa [front, back] using letters
  have set : nonBlank (some (front ++ "\n" ++ back)) = some (front ++ "\n" ++ back) := by
    refine nonBlank_some_eq_self ?_ (by simp [front, ← String.toList_inj])
    have ends := trim_of_nonBlank names.set
    rw [Text.trim_eq_self_iff, letters] at ends
    rw [Text.trim_eq_self_iff]
    simpa [front, back] using ends
  have unnoticed : Scope.ofUrl kind (front ++ "\n" ++ back) = .ok σ := by
    rw [← split, whole]
    exact Scope.ofUrl_congr (congrArg (Url.readFrom none) (Url.clean_broken front back))
  have twin := names.withAddress set
  have same : (s.withAddress kind (front ++ "\n" ++ back)).scope = s.scope := by
    rw [twin.scope_eq, unnoticed, inScope]
    rfl
  refine ⟨_, ⟨⟨front, back, ?_, ?_, ?_, twin.eventSource_eq⟩, kind, ?_⟩,
    (validate_withAddress same).trans valid, same⟩
  · simp [front, ← String.toList_inj]
  · simp [back, ← String.toList_inj]
  · rw [names.eventSource_eq, whole]
  · rw [twin.eventSource_eq]

end Spec

end Source

/-! ## Events -/

namespace Delivery

open Http (Network Response isBarred isLegalText isRequestable)

/-- A number and a time that a header carries, as `ce-id` and `ce-time`. -/
structure Stamp.Legal (s : Stamp) : Prop where
  id : isLegalText s.id = true
  time : isLegalText s.time = true

/-- What the answer of a sink makes of an event; there is none if the connection failed. -/
def answered (sink : Url) : Option Response → Except SendFailure Unit
  | none => .error (.transport (.connection sink))
  | some r => if Http.isSuccess r.status then .ok () else .error (.rejected r.status)

theorem Settings.readSink_eq_ok {text : String} {url : Url} :
    readSink text = .ok url ↔ Url.parse text = .ok url ∧ url.isHttp = true := by
  rw [readSink]
  cases Url.parse text with
  | error fault => simp
  | ok url' =>
    dsimp only
    split
    · next http =>
      constructor
      · rintro same
        cases same
        exact ⟨rfl, http⟩
      · rintro ⟨same, -⟩
        cases same
        rfl
    · next plain =>
      constructor
      · rintro ⟨⟩
      · rintro ⟨same, http⟩
        cases same
        exact absurd http plain

variable {W : Type} {t : Translator} {headers : Http.Headers} {body : ByteArray} {event : Event}
  {sink : Url} {given : Stamp}

theorem isLegalText_eventType (c : HookRelay.Event.Category) :
    isLegalText (HookRelay.Event.eventType c.kind) = true := by
  cases c <;> decide +kernel

/-- The events of accepted deliveries have types and headers that a request carries. -/
theorem Translator.legal_of_translate (accepted : t.translate headers body = .ok event) :
    isLegalText event.type = true ∧ isLegalText event.header = true ∧ event.source = t.source := by
  obtain ⟨-, -, header, kind, reads, rfl⟩ := translate_ok_iff.1 accepted
  obtain ⟨value, -, visible⟩ := reads.held
  obtain ⟨c, -, rfl⟩ : ∃ c ∈ HookRelay.Event.Category.all, c.kind = kind := by
    simpa [HookRelay.Event.isKnownKind] using reads.known
  exact ⟨isLegalText_eventType c, Http.isLegalText_of_visible visible, rfl⟩

/-- Whether the request of an event can be built depends on the origin of the event and on the host
of the sink, once the rest of it is legal. -/
theorem buildFailure?_eventRequest (hosted : sink.hostText?.isSome = true) (stamped : given.Legal)
    (type : isLegalText event.type = true) (header : isLegalText event.header = true) :
    Http.buildFailure? (eventRequest sink given event) =
      if event.source.toList.any isBarred then some .illegalHeader
      else if isRequestable sink then none
      else some (.illegalUrl sink) := by
  have constant : isLegalText "1.0" = true ∧ isLegalText "application/json" = true := by
    decide +kernel
  have named : sink.hostText?.isNone = false := by simp [Option.isNone_eq_false_iff, hosted]
  simp only [Http.buildFailure?, eventRequest, named, Bool.false_eq_true, if_false, List.all_cons,
    List.all_nil, constant.1, constant.2, stamped.id, stamped.time, type, header, Bool.true_and,
    Bool.and_true, Http.isLegalText_eq event.source, Bool.not_not]
  split
  · rfl
  · by_cases carried : isRequestable sink = true <;> simp [carried]

/-- How sending an event ends: the request cannot be built, or the sink answers it. -/
theorem Sender.overHttp_send (net : Network W) (stamp : Act W Stamp) (sink : Url) (event : Event)
    (w : W) : (Sender.overHttp net stamp sink).send event w =
      match Http.buildFailure? (eventRequest sink (stamp w).1 event) with
      | some cause => (.error (.transport cause), (stamp w).2)
      | none =>
        (net.exchange (eventRequest sink (stamp w).1 event) (stamp w).2).map
          (answered sink) id := by
  rw [overHttp]
  dsimp only
  rw [Act.bind_apply, Act.bind_apply, Http.send]
  cases Http.buildFailure? (eventRequest sink (stamp w).1 event) with
  | some cause => rfl
  | none =>
    dsimp only
    rw [Act.bind_apply]
    rcases net.exchange (eventRequest sink (stamp w).1 event) (stamp w).2 with ⟨_ | response, w'⟩
    · rfl
    · simp only [Act.pure_apply, Prod.map, answered]
      split <;> rfl

/-- **How the delivery of an accepted source ends.** Of a source that the rules accept, let an
adapter accept any delivery, and send its event to any sink over HTTP. If the address of the source
holds no control character but tabs, and a request can carry the host of the sink, the request is
built, and the answer to it is all that the outcome depends on. If the address holds one, no request
is built, whatever the sink. The rules do not tell the two apart: every source that they accept has
a twin of the second kind that they accept as well, the same but for a line end in its address. -/
theorem Sender.overHttp_accepted {s : Source.Spec} (valid : s.validate = .ok ())
    (origin : t.source = s.eventSource) (accepted : t.translate headers body = .ok event)
    {sinkText : String} (reads : Settings.readSink sinkText = .ok sink) (net : Network W)
    {stamp : Act W Stamp} (stamped : ∀ w, (stamp w).1.Legal) (w : W) :
    (Sender.overHttp net stamp sink).send event w =
      (if s.eventSource.toList.any isBarred then
        (.error (.transport .illegalHeader), (stamp w).2)
      else if isRequestable sink then
        (net.exchange (eventRequest sink (stamp w).1 event) (stamp w).2).map (answered sink) id
      else (.error (.transport (.illegalUrl sink)), (stamp w).2)) ∧
    ∃ twin : Source.Spec, s.Broken twin ∧ twin.validate = .ok () ∧ twin.scope = s.scope ∧
      twin.eventSource.toList.any isBarred = true := by
  constructor
  · obtain ⟨type, header, source⟩ := Translator.legal_of_translate accepted
    obtain ⟨parsed, http⟩ := Settings.readSink_eq_ok.1 reads
    have hosted := Url.isSome_hostText_of_parse parsed http
    rw [overHttp_send, buildFailure?_eventRequest hosted (stamped w) type header, source, origin]
    by_cases barred : s.eventSource.toList.any isBarred = true
    · rw [if_pos barred, if_pos barred]
    · rw [if_neg barred, if_neg barred]
      by_cases carried : isRequestable sink = true
      · rw [if_pos carried, if_pos carried]
      · rw [if_neg carried, if_neg carried]
  · obtain ⟨twin, broken, valid, scope⟩ := Source.Spec.exists_broken valid
    obtain ⟨front, back, -, -, -, address⟩ := broken.inside
    have lineEnd : isBarred '\n' = true := by decide
    exact ⟨twin, broken, valid, scope, by simp [address, lineEnd]⟩

/-! ### A source in memory, and its twin -/

/-- The source in memory, with a line end in the address of its project. -/
def brokenSpec : Source.Spec :=
  { InMemory.source.spec with projectUrl := some "http://[::1]/a\n/b" }

/-- What an adapter without a secret makes of a push. -/
def pushFrom (source : String) : Event :=
  ⟨HookRelay.Event.eventType HookRelay.Event.Category.push.kind, source,
    HookRelay.Event.Category.push.header, Translator.emptyObject⟩

theorem legal_alike (n : Nat) : (Adapter.alike n).1.Legal where
  id := show isLegalText "1" = true by decide +kernel
  time := show isLegalText "2024-01-01T00:00:00.000Z" = true by decide +kernel

/-- A push of the source in memory is sent to a sink once, and acknowledged; the source has a twin
whose deliveries are never sent. -/
theorem Sender.push_acknowledged : ∃ sink : Url, InMemory.source.spec.validate = .ok () ∧
    Settings.readSink "http://[::1]/" = .ok sink ∧
    (Sender.overHttp (Adapter.answering 200) Adapter.alike sink).send
      (pushFrom "http://[::1]/a/b") 0 = (.ok (), 1) ∧
    ∃ twin : Source.Spec, InMemory.source.spec.Broken twin ∧ twin.validate = .ok () := by
  have valid : InMemory.source.spec.validate = .ok () := by decide +kernel
  have origin : InMemory.source.spec.eventSource = "http://[::1]/a/b" := by decide +kernel
  have reads : Settings.readSink "http://[::1]/" = .ok ⟨"http",
      some ⟨"", "", .ipv6 [0, 0, 0, 0, 0, 0, 0, 1], none⟩, .segments [""], none, none⟩ := by
    decide +kernel
  obtain ⟨accepted, -⟩ := Translator.accepts_headersOf ⟨"", "http://[::1]/a/b"⟩ .push
  obtain ⟨sent, twin, broken, accepted, -⟩ := overHttp_accepted valid origin.symm accepted reads
    (Adapter.answering 200) legal_alike 0
  refine ⟨_, valid, reads, sent.trans ?_, twin, broken, accepted⟩
  rw [if_neg (by decide +kernel), if_pos (by decide +kernel)]
  rfl

/-- **An accepted source without any delivery**: its push is accepted by its adapter, and no request
is built for it. -/
theorem Sender.broken_unsent : ∃ sink : Url, brokenSpec.validate = .ok () ∧
    Settings.readSink "http://[::1]/" = .ok sink ∧
    (∃ headers, (⟨"", brokenSpec.eventSource⟩ : Translator).translate headers
      Translator.emptyObject = .ok (pushFrom "http://[::1]/a\n/b")) ∧
    (Sender.overHttp (Adapter.answering 200) Adapter.alike sink).send
      (pushFrom "http://[::1]/a\n/b") 0 = (.error (.transport .illegalHeader), 0) := by
  have origin : brokenSpec.eventSource = "http://[::1]/a\n/b" := by decide +kernel
  refine ⟨⟨"http", some ⟨"", "", .ipv6 [0, 0, 0, 0, 0, 0, 0, 1], none⟩, .segments [""], none, none⟩,
    by decide +kernel, by decide +kernel, ?_, ?_⟩
  · rw [origin]
    exact ⟨_, (Translator.accepts_headersOf ⟨"", "http://[::1]/a\n/b"⟩ .push).1⟩
  · rw [overHttp_send, buildFailure?_eventRequest (by decide +kernel) (legal_alike 0)
      (by decide +kernel) (by decide +kernel), if_pos (by decide +kernel)]
    rfl

end Delivery

end HookRelay
