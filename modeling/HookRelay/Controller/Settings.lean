import HookRelay.CommandLine.Reader
import HookRelay.Decimal.Whole
import HookRelay.Retry.Registry
import HookRelay.Text.Blank

/-!
# Settings of the controller

Every setting has a default, which an environment can replace. A value that cannot be read
counts as absent.

## Main definitions

* `Settings` : what the controller is told
* `Settings.ofEnvironment` : reads an environment
-/

namespace HookRelay.Controller

open CommandLine (Environment)

/-- The form of the log, `LOG_FORMAT`. -/
inductive LogFormat where
  | json
  | text
  deriving DecidableEq, Repr

/-- The form of the log that a name asks for. -/
def LogFormat.ofName (name : String) : LogFormat :=
  if Text.asciiLower name = "text" then .text else .json

/-- What the controller is told. -/
structure Settings where
  /-- The image of receive adapters, `GL_RA_IMAGE`. -/
  adapterImage : String := "ghcr.io/microscaler/gitlab-receive-adapter:latest"
  /-- What receive adapters write to their logs, `ADAPTER_LOG_LEVEL`. -/
  adapterLogLevel : String := "info"
  metricsPort : Nat := 8080
  /-- How long the server may take to start, in seconds. -/
  serverStartupTimeout : Nat := 10
  /-- How often a starting server is looked at, in milliseconds. -/
  serverPollInterval : Nat := 50
  /-- After how many seconds a source in order is looked at again, `RESYNC_SECS`. -/
  resync : Nat := 300
  /-- After how many seconds a source without its secret is looked at again,
  `CREDENTIALS_RETRY_SECS`. -/
  credentialsRetry : Nat := 30
  /-- How long GitLab may take to answer, in seconds, `PROVIDER_TIMEOUT_SECS`. -/
  providerTimeout : Nat := 30
  /-- The bounds of the delays after failures, in seconds, `ERROR_BACKOFF_MIN_SECS` and
  `ERROR_BACKOFF_MAX_SECS`. -/
  errorBackoff : Retry.Bounds := ⟨60, 600⟩
  /-- The first wait for a throttled watch, in milliseconds, `BACKOFF_START_MS`. -/
  backoffStart : Nat := 1000
  /-- The longest wait for a throttled watch, in milliseconds, `BACKOFF_MAX_MS`. -/
  backoffMost : Nat := 30000
  /-- The wait before a failed watch is started again, in seconds, `WATCH_RESTART_DELAY_SECS`. -/
  watchRestartDelay : Nat := 5
  /-- The wait before an ended watch is started again, in seconds. -/
  watchRestartDelayAfterEnd : Nat := 1
  /-- How many sources are looked at together, `MAX_CONCURRENT_RECONCILIATIONS`. -/
  concurrency : Nat := 10
  /-- The only namespace to watch, if there is one, `WATCH_NAMESPACE`. -/
  watchNamespace : Option String := none
  logFormat : LogFormat := .json
  deriving DecidableEq, Repr

namespace Settings

/-- A number up to `most` that an environment holds. -/
def number? (env : Environment) (most : Nat) (name : String) : Option Nat :=
  (env.text? name).bind fun s => (Decimal.readNat most s).toOption

/-- A number of 64 bits that an environment holds, or a default. -/
def long (env : Environment) (name : String) (default : Nat) : Nat :=
  (number? env (Nat.pow 2 64 - 1) name).getD default

/-- A number of 16 bits that an environment holds, or a default. -/
def short (env : Environment) (name : String) (default : Nat) : Nat :=
  (number? env (Nat.pow 2 16 - 1) name).getD default

/-- Reads an environment. -/
def ofEnvironment (env : Environment) : Settings :=
  let d : Settings := {}
  { adapterImage := (env.text? "GL_RA_IMAGE").getD d.adapterImage
    adapterLogLevel := (env.text? "ADAPTER_LOG_LEVEL").getD d.adapterLogLevel
    metricsPort := short env "METRICS_PORT" d.metricsPort
    serverStartupTimeout := long env "SERVER_STARTUP_TIMEOUT_SECS" d.serverStartupTimeout
    serverPollInterval := long env "SERVER_POLL_INTERVAL_MS" d.serverPollInterval
    resync := long env "RESYNC_SECS" d.resync
    credentialsRetry := long env "CREDENTIALS_RETRY_SECS" d.credentialsRetry
    providerTimeout := long env "PROVIDER_TIMEOUT_SECS" d.providerTimeout
    errorBackoff := ⟨long env "ERROR_BACKOFF_MIN_SECS" d.errorBackoff.least,
      long env "ERROR_BACKOFF_MAX_SECS" d.errorBackoff.most⟩
    backoffStart := long env "BACKOFF_START_MS" d.backoffStart
    backoffMost := long env "BACKOFF_MAX_MS" d.backoffMost
    watchRestartDelay := long env "WATCH_RESTART_DELAY_SECS" d.watchRestartDelay
    watchRestartDelayAfterEnd :=
      long env "WATCH_RESTART_DELAY_AFTER_END_SECS" d.watchRestartDelayAfterEnd
    concurrency := short env "MAX_CONCURRENT_RECONCILIATIONS" d.concurrency
    watchNamespace := (env.text? "WATCH_NAMESPACE").filter (fun s => s ≠ "")
    logFormat := .ofName ((env.text? "LOG_FORMAT").getD "json") }

end Settings

end HookRelay.Controller
