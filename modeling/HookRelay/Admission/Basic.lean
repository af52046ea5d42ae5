import HookRelay.Source.Validity

/-!
# Admission of sources

Before the cluster stores a source it asks the validating webhook whether it may, in an
`AdmissionReview`. A source that breaks a rule of `Spec.validate` is refused with the words of the
rule; a `DELETE` and a `CONNECT` are always admitted.

## Main definitions

* `Request` : what the cluster asks
* `Verdict` : what is answered
* `review` : the answer to a request
-/

namespace HookRelay.Admission

/-- What is about to happen to a source: the `operation` of a request. -/
inductive Operation where
  | create
  | update
  | delete
  | connect
  deriving DecidableEq, Repr

/-- The form in which a question is asked and answered: its `apiVersion` and its `kind`. -/
structure Form where
  apiVersion : String
  kind : String
  deriving DecidableEq, Repr

/-- What the cluster asks: the `request` of an `AdmissionReview`. -/
structure Request where
  form : Form
  /-- The identifier of the question. -/
  uid : String
  operation : Operation
  /-- The source as it would be stored; a `DELETE` comes without one. -/
  object : Option Source
  deriving DecidableEq, Repr

/-- What is answered: the `response` of an `AdmissionReview`. -/
structure Verdict where
  form : Form
  uid : String
  allowed : Bool
  /-- Why not, as a sentence. -/
  message : Option String
  /-- Why not, as a word. -/
  reason : Option String
  /-- How answering went, if it did not go well. -/
  status : Option String
  deriving DecidableEq, Repr

/-- The answer that nothing speaks against a request. -/
def Verdict.allow (r : Request) : Verdict := ⟨r.form, r.uid, true, none, none, none⟩

/-- The answer that something speaks against a request. -/
def Verdict.deny (r : Request) (message : String) : Verdict :=
  ⟨r.form, r.uid, false, some message, none, none⟩

/-- The answer to an `AdmissionReview` without a `request`. -/
def Verdict.noRequest : Verdict where
  form := ⟨"admission.k8s.io/v1beta1", "AdmissionReview"⟩
  uid := ""
  allowed := false
  message := some "failed to convert AdmissionReview into AdmissionRequest"
  reason := some "InvalidRequest"
  status := some "Failure"

/-- Whether an operation stores a source, as `CREATE` and `UPDATE` do. -/
def Operation.stores : Operation → Bool
  | create | update => true
  | delete | connect => false

/-- The answer to a request: what is to be stored must pass `Spec.validate`. -/
def review (r : Request) : Verdict :=
  if r.operation.stores then
    match r.object with
    | none => .allow r
    | some s =>
      match s.spec.validate with
      | .ok () => .allow r
      | .error e => .deny r e.message
  else .allow r

end HookRelay.Admission
