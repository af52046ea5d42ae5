import HookRelay.Cluster.Memory
import HookRelay.Proofs.Delivery.Started
import HookRelay.Proofs.Url.Scheme
import HookRelay.Sink.Cluster

/-!
# Sinks that an adapter takes

The address of a sink passes from the controller, which resolves the destination of a source, to
the receive adapter, which reads it from its environment. Both check that it is an address of the
web, each in its own place. The controller checks the address of an object, and that of a
destination without an object; what an object and an address beside it are together it does not
check. An address beside an object may be one of its own scheme, and then the adapter that is
created does not start.

That the written form of an address can be read again is not shown here; it is asked of the one
address in question.

## Main definitions

* `Destination.strays` : the address beside an object has a scheme that is none of the web
* `Delivery.Takes`, `Delivery.Refuses` : what adapters do with the address of a sink

## Main statements

* `Sink.resolved_isHttp_eq` : what is resolved is an address of the web unless it strays
* `Sink.resolved_taken` : adapters take what is resolved unless it strays
* `Sink.mail_refused` : an address that strays
-/

namespace HookRelay

/-- Whether a scheme is one of the web. -/
def Url.isWeb (scheme : String) : Bool := scheme = "http" || scheme = "https"

theorem Url.isHttp_eq (url : Url) : url.isHttp = Url.isWeb url.scheme := rfl

/-- Whether the `uri` beside a `ref` has a scheme of its own that is none of the web. -/
def Destination.strays (d : Destination) : Bool :=
  d.reference.isSome && !((Source.nonBlank d.uri).bind Url.ownScheme?).all Url.isWeb

/-! ## What adapters do with an address -/

namespace Delivery

open Settings (read readSink)

/-- The adapters of all sources with this sink, started where the secret of deliveries is a text,
begin as `starts` says. -/
def Starting (sinkUri : String) (starts : Except CommandLine.Refusal Settings → Prop) : Prop :=
  ∀ settings s plan held, Receiver.plan settings s sinkUri = .ok plan →
    (∀ key ∈ s.spec.secretToken, ∃ t, String.fromUTF8? (held key) = some t) →
      starts (read (plan.started held) [])

/-- Adapters read the address from `K_SINK`, and start with it as their sink. -/
structure Takes (sinkUri : String) (url : Url) : Prop where
  reads : readSink sinkUri = .ok url
  starts : Starting sinkUri fun told => ∃ settings, told = .ok settings ∧ settings.sink = some url

/-- Adapters do not read the address, and do not start. -/
structure Refuses (sinkUri : String) : Prop where
  refuses : ∃ cause, readSink sinkUri = .error cause
  starts : Starting sinkUri fun told => ∃ refusal, told = .error refusal

theorem takes_of_readSink {sinkUri : String} {url : Url} (reads : readSink sinkUri = .ok url) :
    Takes sinkUri url where
  reads := reads
  starts _ _ _ _ planned isText := (Settings.read_started planned isText url).2 reads

theorem refuses_of_readSink {sinkUri cause : String} (fails : readSink sinkUri = .error cause) :
    Refuses sinkUri where
  refuses := ⟨cause, fails⟩
  starts settings s plan held planned isText := by
    obtain ⟨t, told⟩ := Settings.read_of_holds (Settings.holds_started held planned)
      (by simpa using isText)
    rw [fails] at told
    exact ⟨_, told⟩

end Delivery

/-! ## What is resolved -/

namespace Sink

variable {W : Type} {api : Cluster.Api W} {namespace_ : String} {d : Destination} {w w' : W}
  {r : ObjectRef} {base url : Url} {raw u : String}

theorem isHttp_httpAddress (h : httpAddress raw = .ok url) : url.isHttp = true := by
  unfold httpAddress at h
  split at h
  · cases h
  · split at h
    · next web => rwa [← Except.ok.inj h]
    · cases h

/-- The address of an object is one of the web. -/
theorem isHttp_addressOf (h : (addressOf api namespace_ r w).1 = .ok base) :
    base.isHttp = true := by
  unfold addressOf at h
  split at h
  · rw [addressOfService, Act.bind_apply] at h
    generalize api.get? (Cluster.Service.resource.path (r.namespace_.getD namespace_)) r.name
      Cluster.Service.record.decode w = answered at h
    obtain ⟨_ | _ | _, w₁⟩ := answered
    · cases h
    · cases h
    · exact isHttp_httpAddress h
  · rw [addressOfObject, Act.bind_apply] at h
    generalize api.get? ((resourceOf r).path (r.namespace_.getD namespace_)) r.name
      Cluster.Object.read w = answered at h
    obtain ⟨_ | _ | object, w₁⟩ := answered
    · cases h
    · cases h
    · dsimp only at h
      cases published : publishedAddress? object.data with
      | none =>
        rw [published] at h
        cases h
      | some address =>
        rw [published] at h
        exact isHttp_httpAddress h

theorem isScheme_of_isHttp (web : url.isHttp = true) : Url.IsScheme url.scheme := by
  obtain http | https : url.scheme = "http" ∨ url.scheme = "https" := by
    simpa [Url.isHttp] using web
  · rw [http]
    exact Url.isScheme_of_all rfl (by decide) (by decide)
  · rw [https]
    exact Url.isScheme_of_all rfl (by decide) (by decide)

/-- An address beside that of an object keeps the scheme of the web, or has its own. -/
theorem combine_ok (web : base.isHttp = true) {uri : Option String}
    (h : combine (some base) uri = .ok u) :
    ∃ url : Url, url.render = u ∧ Url.IsScheme url.scheme ∧
      url.isHttp = (uri.bind Url.ownScheme?).all Url.isWeb := by
  cases uri with
  | none =>
    cases h
    exact ⟨base, rfl, isScheme_of_isHttp web, web⟩
  | some uri =>
    rw [combine] at h
    split at h
    · next url joined =>
      have scheme := Url.scheme_join joined
      refine ⟨url, Except.ok.inj h, ?_⟩
      rw [Url.isHttp_eq, scheme, Option.bind_some]
      cases own : Url.ownScheme? uri with
      | none => exact ⟨isScheme_of_isHttp web, web⟩
      | some scheme => exact ⟨Url.isScheme_of_ownScheme own, rfl⟩
    · cases h

/-- **What is resolved is an address of the web unless it strays.** -/
theorem resolved_isHttp_eq
    (h : ((Resolver.ofCluster api).resolve namespace_ d w).1 = .ok u) :
    ∃ url : Url, url.render = u ∧ Url.IsScheme url.scheme ∧ url.isHttp = !d.strays := by
  simp only [Resolver.ofCluster] at h
  cases named : d.reference with
  | none =>
    rw [named] at h
    -- without an object the address itself was checked
    cases given : Source.nonBlank d.uri with
    | none => simp [join, given, combine] at h
    | some uri =>
      simp only [join, given, combine, Act.pure_apply] at h
      cases read : httpAddress uri with
      | error e => simp [read, Except.map] at h
      | ok url =>
        rw [read] at h
        have web := isHttp_httpAddress read
        exact ⟨url, Except.ok.inj h, isScheme_of_isHttp web,
          by simp [web, Destination.strays, named]⟩
  | some r =>
    rw [named] at h
    dsimp only at h
    rw [Act.bind_apply] at h
    cases answered : (addressOf api namespace_ r w).1 with
    | error e =>
      rw [answered] at h
      cases h
    | ok base =>
      rw [answered] at h
      obtain ⟨url, rendered, valid, web⟩ := combine_ok (isHttp_addressOf answered) h
      exact ⟨url, rendered, valid, by simp [web, Destination.strays, named]⟩

/-- **Adapters take what is resolved unless it strays**, provided that its written form can be
read again; if it strays, they refuse it. -/
theorem resolved_taken
    (h : ((Resolver.ofCluster api).resolve namespace_ d w).1 = .ok u)
    (reread : Url.parse u = .ok url) :
    url.isHttp = !d.strays ∧
      if d.strays then Delivery.Refuses u else Delivery.Takes u url := by
  obtain ⟨written, rfl, valid, web⟩ := resolved_isHttp_eq h
  have web : url.isHttp = !d.strays := by
    rw [Url.isHttp_eq, Url.scheme_reread valid reread, ← Url.isHttp_eq, web]
  refine ⟨web, ?_⟩
  cases strays : d.strays with
  | false =>
    have reads : Delivery.Settings.readSink written.render = .ok url := by
      simp [Delivery.Settings.readSink, reread, web, strays]
    exact Delivery.takes_of_readSink reads
  | true =>
    have fails : Delivery.Settings.readSink written.render =
        .error ("unsupported sink scheme: " ++ url.scheme) := by
      simp [Delivery.Settings.readSink, reread, web, strays]
    exact Delivery.refuses_of_readSink fails

/-! ## A cluster with one broker -/

/-- A cluster in memory with one broker. -/
def withBroker : Cluster.Memory where
  objects := [("/apis/eventing.knative.dev/v1/namespaces/default/brokers/default",
    .object [("status", .object [("address", .object [("url", .string "http://[::1]/")])])])]
  faults := []
  onCreate := .null
  created := 0
  log := []

/-- The sinks of clusters in memory. -/
def inMemory : Resolver Cluster.Memory := .ofCluster (Cluster.Memory.api ⟨id, fun m _ => m⟩)

/-- A destination at the broker. -/
def atBroker (uri : String) : Destination :=
  ⟨some ⟨"eventing.knative.dev/v1", "Broker", "default", none⟩, some uri⟩

/-- An address that is relative to the broker's is taken. -/
theorem relative_taken :
    (inMemory.resolve "default" (atBroker "events") withBroker).1 = .ok "http://[::1]/events" ∧
      ∃ url, Delivery.Takes "http://[::1]/events" url := by
  have resolved : (inMemory.resolve "default" (atBroker "events") withBroker).1 =
      .ok "http://[::1]/events" := by decide +kernel
  have reread : Url.parse "http://[::1]/events" = .ok ⟨"http",
      some ⟨"", "", .ipv6 [0, 0, 0, 0, 0, 0, 0, 1], none⟩, .segments ["events"], none, none⟩ := by
    decide +kernel
  exact ⟨resolved, _, (resolved_taken resolved reread).2⟩

/-- **An address that strays**: it is resolved and can be read again, and adapters refuse it. -/
theorem mail_refused :
    (inMemory.resolve "default" (atBroker "mailto:x") withBroker).1 = .ok "mailto:x" ∧
      Url.parse "mailto:x" = .ok ⟨"mailto", none, .plain "x", none, none⟩ ∧
      Delivery.Settings.readSink "mailto:x" = .error "unsupported sink scheme: mailto" := by
  decide +kernel

end Sink

end HookRelay
