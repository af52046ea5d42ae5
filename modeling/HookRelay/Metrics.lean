/-!
# Counters

What the controller and the receive adapter count for their operators, and show at `/metrics`. A
world that is observed keeps the list of counters in the order in which they went up.

## Main definitions

* `Counter` : what is counted, with its labels
* `Counter.text` : the name of a counter with its labels
* `tally` : how often each counter of a list went up
-/

namespace HookRelay

/-- Something that is counted. -/
inductive Counter where
  /-- A delivery was translated and acknowledged by the sink. -/
  | eventReceived (eventType : String)
  /-- A delivery was refused. -/
  | requestRejected (reason : String)
  /-- The sink did not acknowledge an event. -/
  | sendFailure
  /-- A source was looked at, by a `reconcile` call. -/
  | reconciliation
  /-- How long a source was looked at was measured. -/
  | reconciliationDuration
  /-- A `reconcile` call failed. -/
  | reconciliationError
  /-- A source will be looked at again, for the reason `Requeue.name`. -/
  | requeue (reason : String)
  /-- A hook was read, created, changed or deleted. -/
  | hookOperation (operation outcome : String)
  /-- A receive adapter was created. -/
  | adapterCreated
  deriving DecidableEq, Repr

namespace Counter

/-- A name with labels. -/
def withLabels (name : String) (labels : List (String × String)) : String :=
  name ++ "\x7b" ++ ",".intercalate (labels.map fun l => l.1 ++ "=\"" ++ l.2 ++ "\"") ++ "\x7d"

/-- The name of a counter with its labels. -/
def text : Counter → String
  | eventReceived t => withLabels "gitlab_adapter_events_received_total" [("event_type", t)]
  | requestRejected r => withLabels "gitlab_adapter_requests_rejected_total" [("reason", r)]
  | sendFailure => "gitlab_adapter_send_failures_total"
  | reconciliation => "gitlab_source_reconciliations_total"
  | reconciliationDuration => "gitlab_source_reconciliation_duration_seconds_count"
  | reconciliationError => "gitlab_source_reconciliation_errors_total"
  | requeue r => withLabels "gitlab_source_requeues_total" [("reason", r)]
  | hookOperation op outcome =>
    withLabels "gitlab_source_webhook_operations_total" [("operation", op), ("outcome", outcome)]
  | adapterCreated => "gitlab_source_receive_adapters_created_total"

/-- How often each counter of a list went up, in the order of their first appearance. -/
def tally (counters : List Counter) : List (Counter × Nat) :=
  counters.eraseDups.map fun c => (c, counters.count c)

end Counter

end HookRelay
