import HookRelay.CommandLine.Reader
import HookRelay.Decimal.Whole
import HookRelay.Text.Quoted
import HookRelay.Url.Reader

/-!
# Settings of the receive adapter

The adapter is told by its environment whose deliveries it translates and where their events go.
The origin of the events and the sink have no defaults; a sink is an address over HTTP.

## Main definitions

* `Settings` : what the adapter is told
* `Settings.read` : reads a command line and an environment
-/

namespace HookRelay.Delivery

open CommandLine (Complaint Setting Environment Refusal)

/-- What the adapter is told. -/
structure Settings where
  port : Nat
  /-- The secret that deliveries carry, `GITLAB_SECRET_TOKEN`; empty if they are not checked. -/
  secretToken : String
  /-- The origin of the events, `GITLAB_EVENT_SOURCE`. -/
  eventSource : String
  /-- Where events go, `K_SINK`. -/
  sink : Option Url
  /-- The namespace of the source, `NAMESPACE`. -/
  namespace_ : String
  metricsPort : Nat
  /-- How long deliveries may go on at the end, in seconds, `SHUTDOWN_GRACE_SECS`. -/
  shutdownGrace : Nat
  /-- How long sending an event may take, in seconds, `SINK_TIMEOUT_SECS`. -/
  sinkTimeout : Nat

namespace Settings

/-- The settings before anything was told. -/
def defaults : Settings := ⟨8080, "", "", none, "", 9092, 10, 10⟩

/-- The text of a value. -/
def text (value : ByteArray) : Except Complaint String :=
  match String.fromUTF8? value with
  | some s => .ok s
  | none => .error .notText

/-- The number of a port. -/
def port? (value : ByteArray) : Except Complaint Nat := do
  match Decimal.readInt (← text value) with
  | .error e => .error (.unfit e.message)
  | .ok n =>
    if 0 ≤ n && n ≤ 65535 then .ok n.toNat
    else .error (.unfit s!"{n} is not in 0..=65535")

/-- A number of seconds. -/
def seconds? (value : ByteArray) : Except Complaint Nat := do
  match Decimal.readNat (Nat.pow 2 64 - 1) (← text value) with
  | .error e => .error (.unfit e.message)
  | .ok n => .ok n

/-- The address of a sink, read from a text. -/
def readSink (s : String) : Except String Url :=
  match Url.parse s with
  | .error e => .error ("invalid sink URL: " ++ e.message)
  | .ok url => if url.isHttp then .ok url else .error ("unsupported sink scheme: " ++ url.scheme)

/-- The address of a sink. -/
def sink? (value : ByteArray) : Except Complaint Url := do
  match readSink (← text value) with
  | .error cause => .error (.unfit cause)
  | .ok url => .ok url

/-- The options of the adapter. -/
def options : List (Setting Settings) := [
  ⟨"port", "PORT", false, fun v s => (port? v).map fun n => { s with port := n }⟩,
  ⟨"secret-token", "GITLAB_SECRET_TOKEN", false,
    fun v s => (text v).map fun t => { s with secretToken := t }⟩,
  ⟨"event-source", "GITLAB_EVENT_SOURCE", true,
    fun v s => (text v).map fun t => { s with eventSource := t }⟩,
  ⟨"sink", "K_SINK", true, fun v s => (sink? v).map fun u => { s with sink := some u }⟩,
  ⟨"namespace", "NAMESPACE", false, fun v s => (text v).map fun t => { s with namespace_ := t }⟩,
  ⟨"metrics-port", "METRICS_PROMETHEUS_PORT", false,
    fun v s => (port? v).map fun n => { s with metricsPort := n }⟩,
  ⟨"shutdown-grace-secs", "SHUTDOWN_GRACE_SECS", false,
    fun v s => (seconds? v).map fun n => { s with shutdownGrace := n }⟩,
  ⟨"sink-timeout-secs", "SINK_TIMEOUT_SECS", false,
    fun v s => (seconds? v).map fun n => { s with sinkTimeout := n }⟩]

/-- Reads a command line and an environment. -/
def read (env : Environment) (arguments : List ByteArray) : Except Refusal Settings :=
  CommandLine.read options defaults env arguments

/-- The address of the sink in text form. -/
def sinkText (s : Settings) : String := (s.sink.map Url.render).getD ""

/-- The settings on one line; the secret is not shown. -/
def describe (s : Settings) : String :=
  Text.recordInPart "AdapterConfig" [("port", toString s.port), ("secret_token", "\"***\""),
    ("event_source", Text.quote s.eventSource), ("sink", Text.quote s.sinkText),
    ("namespace", Text.quote s.namespace_)]

end Settings

end HookRelay.Delivery
