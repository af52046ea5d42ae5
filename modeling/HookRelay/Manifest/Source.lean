import HookRelay.Manifest.Schema
import HookRelay.Source.Basic
import HookRelay.Yaml.Printer

/-!
# The definition of sources

What the cluster is told about sources before any of them can be stored: how they are named and
listed, and the form of what they ask for and of their status.

## Main definitions

* `sourceSchema` : the form of a source
* `definition` : the definition as an object
* `text` : the definition as it is handed to the cluster
-/

namespace HookRelay.Manifest

/-! ## Shapes that occur in several places -/

/-- A note that only describes. -/
def about (description : String) : Note := { description := some description }

/-- A note on a field that may be `null`. -/
def optional (description : Option String) : Note :=
  { description := description, nullable := true }

/-- A note on a field with a default. -/
def defaulting (description : String) (default : Json) : Note :=
  { description := some description, default := some default }

/-- A text about which nothing more is said. -/
def anyText : Schema := .text {}

/-- The form of a secret of which one key holds a token. -/
def tokenSchema (note : Note) : Schema :=
  .record note [("secretKeyRef", true, .record
    (about "Key within a Secret in the source's namespace")
    [("key", true, anyText), ("name", true, anyText)])]

/-! ## What a source asks for -/

/-- The example that goes with the description of a source. -/
def exampleLines : List String := [
  "apiVersion: sources.knative.dev/v1alpha1",
  "kind: GitLabSource",
  "metadata:",
  "  name: my-project",
  "  namespace: default",
  "spec:",
  "  projectUrl: https://gitlab.example.com/myuser/myproject",
  "  eventTypes:",
  "    - push_events",
  "    - merge_requests_events",
  "  accessToken:",
  "    secretKeyRef:",
  "      name: gitlab-secret",
  "      key: accessToken",
  "  secretToken:",
  "    secretKeyRef:",
  "      name: gitlab-secret",
  "      key: secretToken",
  "  sslverify: true",
  "  sink:",
  "    ref:",
  "      apiVersion: eventing.knative.dev/v1",
  "      kind: Broker",
  "      name: default"]

/-- The description of a source. -/
def descriptionLines : List String := [
  "GitLabSource Custom Resource Definition",
  "",
  "Declares that a GitLab project or group webhook should exist and deliver",
  "the selected event categories to a receive adapter, which forwards them as",
  "CloudEvents to `sink`.",
  "",
  "# Example",
  "",
  "```yaml"] ++ exampleLines ++ ["```"]

/-- The lines of a description as one text. -/
def paragraph (lines : List String) : String := "\n".intercalate lines

/-- The form of a reference to an object. -/
def referenceSchema : Schema :=
  .record (optional none) [
    ("apiVersion", true, anyText),
    ("kind", true, anyText),
    ("name", true, anyText),
    ("namespace", false,
      .text (optional (some "Defaults to the namespace of the GitLabSource")))]

/-- The form of a destination. -/
def destinationSchema : Schema :=
  .record (about "Destination of the translated events") [
    ("ref", false, referenceSchema),
    ("uri", false, .text (optional
      (some "Absolute URI, or a path relative to the address of `ref` when both are set")))]

/-- The form of what a source asks for, its `spec`. -/
def specSchema : Schema :=
  .record (about (paragraph descriptionLines)) [
    ("accessToken", true,
      tokenSchema (about "Personal or project access token used to manage the webhook")),
    ("eventTypes", false,
      .list (defaulting "Webhook categories to subscribe to, e.g. `push_events`" (.array []))
        anyText),
    ("groupUrl", false, .text (optional (some (paragraph [
      "Group to register the webhook on, e.g. `https://gitlab.example.com/group`",
      "Mutually exclusive with `projectUrl`"])))),
    ("projectUrl", false, .text (optional (some (paragraph [
      "Project to register the webhook on, e.g. `https://gitlab.example.com/group/project`",
      "Mutually exclusive with `groupUrl`"])))),
    ("secretToken", false, tokenSchema
      (optional (some "Secret GitLab sends back in `X-Gitlab-Token` on every delivery"))),
    ("serviceAccountName", false,
      .text (optional (some "Service account the receive adapter runs as"))),
    ("sink", true, destinationSchema),
    ("sslverify", false,
      .flag (defaulting "Whether GitLab verifies the receiver's TLS certificate" (.bool false)))]

/-! ## The status of a source -/

/-- The form of the type and origin of events. -/
def attributesSchema : Schema :=
  .record {} [("source", true, anyText), ("type", true, anyText)]

/-- The form of a condition. -/
def conditionSchema : Schema :=
  .record (about "Condition represents a condition of a resource") [
    ("lastTransitionTime", false, .text (optional (some "Last transition time"))),
    ("message", false, .text (optional (some "Message describing the condition"))),
    ("reason", false, .text (optional (some "Reason for the condition"))),
    ("status", true, .text (about "Status of the condition (True, False, Unknown)")),
    ("type", true, .text (about "Type of condition"))]

/-- The form of the `status` of a source. -/
def statusSchema : Schema :=
  .record (optional (some "Status of the GitLabSource resource")) [
    ("ceAttributes", false, .list
      (defaulting "CloudEvent types and source this GitLabSource emits" (.array []))
      attributesSchema),
    ("conditions", false, .list
      (defaulting "Conditions represent the latest available observations" (.array []))
      conditionSchema),
    ("observedGeneration", false,
      .number (optional (some "Generation last handled by the controller"))),
    ("sinkUri", false, .text (optional (some "Resolved address of the sink"))),
    ("webhookID", false, .number (optional
      (some "ID of the hook registered on GitLab; unset until created and after deletion")))]

/-- The form of a source. -/
def sourceSchema : Schema :=
  .record
    { description := some "Auto-generated derived type for GitLabSourceSpec via `CustomResource`"
      title := some Source.kind }
    [("spec", true, specSchema), ("status", false, statusSchema)]

/-! ## The definition -/

/-- A column in which sources are listed. -/
structure Column where
  name : String
  type : String
  path : String

/-- Where a field of the condition of readiness stands. -/
def readyPath (field : String) : String :=
  ".status.conditions[?(@.type==\"" ++ Source.ready ++ "\")]." ++ field

/-- The columns in which sources are listed, its `additionalPrinterColumns`. -/
def columns : List Column := [
  ⟨"Ready", "string", readyPath "status"⟩,
  ⟨"Reason", "string", readyPath "reason"⟩,
  ⟨"Sink", "string", ".status.sinkUri"⟩,
  ⟨"Age", "date", ".metadata.creationTimestamp"⟩]

/-- The written form of a column. -/
def Column.toJson (c : Column) : Json :=
  .object [("jsonPath", .string c.path), ("name", .string c.name), ("type", .string c.type)]

/-- The names of sources. -/
def names : Json :=
  .object [("categories", .array []), ("kind", .string Source.kind),
    ("plural", .string Source.plural), ("shortNames", .array [.string "gls"]),
    ("singular", .string "gitlabsource")]

/-- The version of sources that is stored and served. -/
def servedVersion : Json :=
  .object [("additionalPrinterColumns", .array (columns.map Column.toJson)),
    ("name", .string Source.version),
    ("schema", .object [("openAPIV3Schema", sourceSchema.toJson)]),
    ("served", .bool true),
    ("storage", .bool true),
    ("subresources", .object [("status", .object [])])]

/-- The definition of sources: a `CustomResourceDefinition`. -/
def definition : Json :=
  .object [("apiVersion", .string "apiextensions.k8s.io/v1"),
    ("kind", .string "CustomResourceDefinition"),
    ("metadata", .object [("name", .string (Source.plural ++ "." ++ Source.group))]),
    ("spec", .object [("group", .string Source.group), ("names", names),
      ("scope", .string "Namespaced"), ("versions", .array [servedVersion])])]

/-- The definition as it is handed to the cluster. -/
def text : String := Yaml.render definition

end HookRelay.Manifest
