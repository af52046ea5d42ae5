import HookRelay.Receiver.Service

/-!
# The address that a service publishes

A service publishes its address in one of two places of its status, and says nothing in the other.
What stands in a place is an address if it is a text and not empty; it may be anything else. The
place that comes first is settled on before it is known what stands there: whatever stands in it,
even `null`, shuts out the second place, and an address there is not found.

## Main definitions

* `usable?` : the address that stands in a place
* `published?` : the address that a service publishes, in whichever place
* `Shadowed` : something useless in the first place, and an address in the second

## Main statements

* `serviceAddress?_eq_published?_iff` : the published address is found unless it is shadowed
* `serviceAddress?_eq_none_iff` : when no address is found
-/

namespace HookRelay.Receiver

variable {object : Json}

/-- **The address that stands in a place**: a text that is not empty. -/
def usable? (place : Option Json) : Option String := (place.bind Json.asText?).filter (· ≠ "")

/-- What stands in the first place, `status.url`. -/
def firstPlace (object : Json) : Option Json := object.getPath? ["status", "url"]

/-- What stands in the second place, `status.address.url`. -/
def secondPlace (object : Json) : Option Json := object.getPath? ["status", "address", "url"]

/-- **The address that a service publishes**: the one in the first place, and if there is none, the
one in the second. -/
def published? (object : Json) : Option String :=
  usable? (firstPlace object) <|> usable? (secondPlace object)

/-- **An address in the second place is shadowed** if something stands in the first that is none. -/
structure Shadowed (object : Json) : Prop where
  taken : (firstPlace object).isSome
  useless : usable? (firstPlace object) = none
  published : (usable? (secondPlace object)).isSome

/-- Only where nothing stands in the first place, the second is looked at. -/
theorem serviceAddress?_eq (object : Json) : serviceAddress? object =
    if (firstPlace object).isSome then usable? (firstPlace object)
    else usable? (secondPlace object) := by
  rw [serviceAddress?, addressField?, ← firstPlace, ← secondPlace]
  cases firstPlace object with
  | none => rfl
  | some j => rfl

/-- **The published address is found, unless it is shadowed.** -/
theorem serviceAddress?_eq_published?_iff :
    serviceAddress? object = published? object ↔ ¬ Shadowed object := by
  rw [serviceAddress?_eq, published?]
  constructor
  · rintro same ⟨taken, useless, published⟩
    rw [if_pos taken, useless] at same
    have same : none = usable? (secondPlace object) := same
    rw [← same] at published
    cases published
  · intro clear
    split
    · next taken =>
      cases first : usable? (firstPlace object) with
      | some address => rfl
      | none =>
        -- an address in the second place would be shadowed
        have none : usable? (secondPlace object) = none :=
          Option.not_isSome_iff_eq_none.1 fun published => clear ⟨taken, first, published⟩
        rw [none]
        rfl
    · next free =>
      rw [Option.not_isSome_iff_eq_none.1 free]
      rfl

/-- A shadowed address is not found, and no other one is. -/
theorem Shadowed.serviceAddress?_eq (shadowed : Shadowed object) : serviceAddress? object = none := by
  rw [Receiver.serviceAddress?_eq, if_pos shadowed.taken, shadowed.useless]

/-- **When no address is found**: if none is published, or the one that is published is shadowed. -/
theorem serviceAddress?_eq_none_iff :
    serviceAddress? object = none ↔ published? object = none ∨ Shadowed object := by
  by_cases shadowed : Shadowed object
  · exact iff_of_true shadowed.serviceAddress?_eq (.inr shadowed)
  · rw [serviceAddress?_eq_published?_iff.2 shadowed]
    exact (or_iff_left shadowed).symm

end HookRelay.Receiver
