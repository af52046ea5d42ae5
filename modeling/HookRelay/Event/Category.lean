/-!
# Event categories

A hook subscribes to categories of events. The same kind of event has up to three names: the
name of the category in the hook's settings (`confidential_issues_events`), the words of the
delivery's header (`Confidential Issue Hook`), and the kind that the payload carries (`issue`).
Events are published under the kind, so that several categories share one type.

## Main definitions

* `Category` : the twelve categories a hook can subscribe to
* `Category.setting`, `Category.kind` : the setting and the kind of a category
* `Category.ofSetting?` : the category of a setting
* `eventType`, `eventTypes` : the types under which events are published
-/

namespace HookRelay.Event

/-- A category of events a hook can subscribe to. -/
inductive Category where
  | push
  | tagPush
  | issues
  | confidentialIssues
  | note
  | confidentialNote
  | mergeRequests
  | job
  | pipeline
  | wikiPage
  | deployment
  | releases
  deriving DecidableEq, Repr

namespace Category

/-- All categories, in the order in which a hook lists its flags. -/
def all : List Category :=
  [push, tagPush, issues, confidentialIssues, note, confidentialNote, mergeRequests, job,
    pipeline, wikiPage, deployment, releases]

/-- The name of the flag in a hook's settings, as a source lists it in `eventTypes`. -/
def setting : Category → String
  | push => "push_events"
  | tagPush => "tag_push_events"
  | issues => "issues_events"
  | confidentialIssues => "confidential_issues_events"
  | note => "note_events"
  | confidentialNote => "confidential_note_events"
  | mergeRequests => "merge_requests_events"
  | job => "job_events"
  | pipeline => "pipeline_events"
  | wikiPage => "wiki_page_events"
  | deployment => "deployment_events"
  | releases => "releases_events"

/-- The kind that payloads of the category carry, their `object_kind`. -/
def kind : Category → String
  | push => "push"
  | tagPush => "tag_push"
  | issues => "issue"
  | confidentialIssues => "issue"
  | note => "note"
  | confidentialNote => "note"
  | mergeRequests => "merge_request"
  | job => "build"
  | pipeline => "pipeline"
  | wikiPage => "wiki_page"
  | deployment => "deployment"
  | releases => "release"

/-- The category whose flag has the given name. -/
def ofSetting? (name : String) : Option Category := all.find? (fun c => c.setting = name)

/-- Every category is listed. -/
theorem mem_all (c : Category) : c ∈ all := by cases c <;> decide

/-- A category is found by its flag's name, and by no other name. -/
theorem ofSetting?_eq_some_iff {name : String} {c : Category} :
    ofSetting? name = some c ↔ c.setting = name := by
  constructor
  · intro h
    simpa using List.find?_some h
  · rintro rfl
    cases c <;> decide

end Category

/-- What every event type begins with. -/
def typePrefix : String := "dev.knative.sources.gitlab"

/-- The type under which events of a kind are published. -/
def eventType (kind : String) : String := typePrefix ++ "." ++ kind

/-- Whether a kind is that of some category. -/
def isKnownKind (kind : String) : Bool := Category.all.any (fun c => c.kind = kind)

/-- Adds a text to an ascending list, unless it is in it. -/
def insertAscending (s : String) : List String → List String
  | [] => [s]
  | t :: ts => if s < t then s :: t :: ts else if s = t then t :: ts else t :: insertAscending s ts

/-- The kinds of the categories named in a list, ascending and without duplicates. -/
def kinds (names : List String) : List String :=
  (names.filterMap (fun n => (Category.ofSetting? n).map Category.kind)).foldl
    (fun acc k => insertAscending k acc) []

/-- The types under which the events of a source are published, ascending and without
duplicates, for the categories named in a list. -/
def eventTypes (names : List String) : List String := (kinds names).map eventType

end HookRelay.Event
