import HookRelay.Admission.Basic
import HookRelay.Source.Format

/-!
# The written form of admission

A question and its answer are written into one kind of object, the `AdmissionReview`, which names
its `apiVersion` and `kind` beside them. These are looked at last, when all else fits.

## Main definitions

* `Question` : what was asked, if anything was
* `Question.read` : reads a question
* `Verdict.toJson` : writes an answer
-/

namespace HookRelay.Admission

open Json (Decoder Mismatch Record)
open Cluster (checked)

/-- Reads an `operation`, one of four words in capitals. -/
def Operation.read : Decoder Operation
  | .string "CREATE" => .ok .create
  | .string "UPDATE" => .ok .update
  | .string "DELETE" => .ok .delete
  | .string "CONNECT" => .ok .connect
  | .string s => .error (.other s!"unknown variant `{s}`")
  | d => Decoder.refuse "enum Operation" d

/-- The form of a `GroupVersionKind`, the name of a kind. -/
def kindForm : Record Unit where
  what := "struct GroupVersionKind"
  blank := ()
  fields := [.must "group" .text (fun _ s => s), .must "version" .text (fun _ s => s),
    .must "kind" .text (fun _ s => s)]

/-- The form of a `GroupVersionResource`, the name of a place where objects are kept. -/
def placeForm : Record Unit where
  what := "struct GroupVersionResource"
  blank := ()
  fields := [.must "group" .text (fun _ s => s), .must "version" .text (fun _ s => s),
    .must "resource" .text (fun _ s => s)]

/-- The form of a `userInfo`, what is known about who asks. -/
def userForm : Record Unit where
  what := "UserInfo"
  blank := ()
  lenient := true
  fields := [checked "extra" (.map (.list .text)), checked "groups" (.list .text),
    checked "uid" .text, checked "username" .text]

/-- Reads a `request`; the `Form` in which it is asked stands beside it. -/
def Request.record : Record Request where
  what := "struct AdmissionRequest"
  blank := ⟨⟨"", ""⟩, "", .create, none⟩
  fields := [
    .must "uid" .text (fun v r => { r with uid := v }),
    .must "kind" kindForm.decode (fun _ r => r),
    .must "resource" placeForm.decode (fun _ r => r),
    checked "subResource" .text,
    checked "requestKind" kindForm.decode,
    checked "requestResource" placeForm.decode,
    checked "requestSubResource" .text,
    .may "name" .text (fun _ r => r),
    checked "namespace" .text,
    .must "operation" Operation.read (fun v r => { r with operation := v }),
    .must "userInfo" userForm.decode (fun _ r => r),
    .may "object" (.optional Source.record.decode) (fun v r => { r with object := v }),
    checked "oldObject" Source.record.decode,
    .may "dryRun" .flag (fun _ r => r),
    .may "options" .any (fun _ r => r)]

/-- The form of the status in an answer. -/
def statusForm : Record Unit where
  what := "struct Status"
  blank := ()
  fields := [checked "status" .text, .may "message" .text (fun _ s => s),
    .may "reason" .text (fun _ s => s), .may "details" .any (fun _ s => s),
    .may "code" .nat16 (fun _ s => s)]

/-- The form of an answer. -/
def answerForm : Record Unit where
  what := "struct AdmissionResponse"
  blank := ()
  fields := [.must "uid" .text (fun _ s => s), .must "allowed" .flag (fun _ s => s),
    .must "status" statusForm.decode (fun _ s => s), .may "patch" .any (fun _ s => s),
    .may "patchType" .any (fun _ s => s), checked "auditAnnotations" (.map .text),
    checked "warnings" (.list .text)]

/-- What was asked, if anything was. -/
abbrev Question := Option Request

/-- A question before its form was looked at. -/
structure Unformed where
  apiVersion : Option Json
  kind : Option Json
  request : Option Request

/-- Reads a question before its form is looked at. -/
def Unformed.record : Record Unformed where
  what := "struct AdmissionReview"
  blank := ⟨none, none, none⟩
  fields := [
    .may "apiVersion" .value (fun v r => { r with apiVersion := some v }),
    .may "kind" .value (fun v r => { r with kind := some v }),
    .may "request" (.optional Request.record.decode) (fun v r => { r with request := v }),
    checked "response" answerForm.decode]

/-- A field of a `Form`, `apiVersion` or `kind`, which must be a text. -/
def formField (name : String) : Option Json → Except Mismatch String
  | none => .error (.missing name)
  | some j => Json.decode .text j

/-- Reads an `AdmissionReview`. -/
def Question.read : Decoder Question
  | .object fields stop => do
    let u ← Unformed.record.decode (.object fields stop)
    let apiVersion ← formField "apiVersion" u.apiVersion
    let kind ← formField "kind" u.kind
    return u.request.map fun r => { r with form := ⟨apiVersion, kind⟩ }
  | d => Decoder.refuse "struct AdmissionReview" d

/-- The written form of an answer: an `AdmissionReview` with a `response`. -/
def Verdict.toJson (v : Verdict) : Json :=
  .object [("apiVersion", .string v.form.apiVersion), ("kind", .string v.form.kind),
    ("response", .object [("allowed", .bool v.allowed),
      ("status", .object (presentField "message" .string v.message
        ++ presentField "reason" .string v.reason ++ presentField "status" .string v.status)),
      ("uid", .string v.uid)])]

/-- The answer to a question. -/
def Question.verdict : Question → Verdict
  | none => .noRequest
  | some r => review r

end HookRelay.Admission
