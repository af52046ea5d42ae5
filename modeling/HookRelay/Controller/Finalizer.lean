import HookRelay.Json.Patch
import HookRelay.Source.Basic

/-!
# Holding back the deletion of sources

A source that is deleted stays as long as it carries the finalizer of the controller, its *mark*,
which takes the hook down in the meantime. The mark is put on before anything is done for the
source, and taken off when nothing is left to do. The `finalizers` of an object are a list that
others write to as well, so a change first tests that the list is as it was read.

## Main definitions

* `mark` : the mark of the controller
* `markIndex?` : where the mark stands
* `putMark`, `takeMark` : the changes that put the mark on and take it off
-/

namespace HookRelay.Controller

/-- The mark of the controller: its entry among the `finalizers` of a source. -/
def mark : String := "gitlabsources.sources.knative.dev"

/-- The marks of a source, its `finalizers`. -/
def marks (s : Source) : List String := s.metadata.finalizers.getD []

/-- Where the mark stands in the list of marks. -/
def markIndex? (s : Source) : Option Nat := (marks s).findIdx? fun m => m = mark

/-- The place of the list of marks, `/metadata/finalizers`. -/
def marksPlace : List String := ["metadata", "finalizers"]

/-- Puts the mark behind all others: the list is tested, and the mark added. -/
def putMark (s : Source) : Json.Patch :=
  if (marks s).isEmpty then
    [.test marksPlace .null, .add marksPlace (.array [.string mark])]
  else
    [.test marksPlace (.array ((marks s).map .string)),
      .add (marksPlace ++ ["-"]) (.string mark)]

/-- Takes the mark off at a place of the list, which is tested to hold it. -/
def takeMark (index : Nat) : Json.Patch :=
  let place := marksPlace ++ [toString index]
  [.test place (.string mark), .remove place]

end HookRelay.Controller
