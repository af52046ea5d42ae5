import HookRelay.Credential.Basic
import HookRelay.World.Act

/-!
# How far an action can move the world

Most statements about a pass speak of a small part of the world, the hooks or the stored object,
and most of what a pass does leaves that part alone. A `Drift` says what may happen to a world
meanwhile: nothing at all, or one thing after the other. That an action keeps to a drift is shown
for its steps and holds of the whole.

## Main definitions

* `Drift` : what may happen to a world
* `Act.Within` : the action keeps to a drift, whatever it answers
* `Part.Lawful` : a part of a world holds what was put into it
* `Part.inside` : a part of a part
-/

namespace HookRelay

/-- What may happen to a world: nothing, or one thing after the other. -/
structure Drift (W : Type) where
  rel : W → W → Prop
  refl : ∀ w, rel w w
  trans : ∀ {w w₁ w₂}, rel w w₁ → rel w₁ w₂ → rel w w₂

/-- What happens to a world in which a view stays as it is. -/
def Drift.fixing {W V : Type} (view : W → V) : Drift W where
  rel w w' := view w' = view w
  refl _ := rfl
  trans first second := second.trans first

namespace Act

variable {W α β : Type} {d : Drift W}

/-- The action keeps to a drift, whatever it answers: it does no more to the world than `d.rel`
allows. -/
def Within (d : Drift W) (a : Act W α) : Prop := ∀ w, d.rel w (a w).2

theorem Within.moved {a : Act W α} (h : a.Within d) {w w' : W} {x : α} (run : a w = (x, w')) :
    d.rel w w' := by
  have moved := h w
  rwa [run] at moved

/-- Where an action leaves the world whose answer is known. -/
theorem Within.run {a : Act W α} (h : a.Within d) {w : W} {x : α} (answer : (a w).1 = x) :
    ∃ w', a w = (x, w') ∧ d.rel w w' :=
  ⟨(a w).2, Prod.ext answer rfl, h w⟩

theorem Within.mono {d' : Drift W} (wider : ∀ {w w'}, d.rel w w' → d'.rel w w') {a : Act W α}
    (h : a.Within d) : a.Within d' := fun w => wider (h w)

theorem within_pure (x : α) : (pure x : Act W α).Within d := fun w => d.refl w

theorem Within.map {a : Act W α} (h : a.Within d) (f : α → β) : (f <$> a).Within d := h

theorem Within.bind {a : Act W α} {f : α → Act W β} (first : a.Within d)
    (rest : ∀ x, (f x).Within d) : (a >>= f).Within d := fun w =>
  d.trans (first w) (rest (a w).1 (a w).2)

end Act

/-! ## Parts of a world -/

/-- What is put into a part of a world stands there. -/
def Part.Lawful {W M : Type} (part : Part W M) : Prop := ∀ m w, part.get (part.set m w) = m

theorem Part.act_apply {W M α : Type} (part : Part W M) (a : Act M α) (w : W) :
    part.act a w = ((a (part.get w)).1, part.set (a (part.get w)).2 w) := rfl

/-- A part of a part of a world. -/
def Part.inside {W M N : Type} (outer : Part W M) (inner : Part M N) : Part W N :=
  ⟨fun w => inner.get (outer.get w), fun n w => outer.set (inner.set n (outer.get w)) w⟩

theorem Part.Lawful.inside {W M N : Type} {outer : Part W M} {inner : Part M N}
    (whole : outer.Lawful) (part : inner.Lawful) : (outer.inside inner).Lawful := by
  intro n w
  show inner.get (outer.get (outer.set (inner.set n (outer.get w)) w)) = n
  rw [whole, part]

/-! ## Tokens -/

namespace Credential

variable {W : Type} {d : Drift W} {secrets : Secrets W} {namespace_ : String}

theorem within_resolve_of {ref : SecretKey} (reads : (secrets.get namespace_ ref.name).Within d)
    (cache : Cache) : (resolve secrets namespace_ ref cache).Within d := by
  unfold resolve
  cases cache.find? ref.name with
  | some known => exact Act.within_pure _
  | none =>
    refine reads.bind fun found => ?_
    cases found with
    | error cause => exact Act.within_pure _
    | ok found => exact Act.within_pure _

theorem within_resolve (reads : ∀ name, (secrets.get namespace_ name).Within d)
    (ref : SecretKey) (cache : Cache) : (resolve secrets namespace_ ref cache).Within d :=
  within_resolve_of (reads ref.name) cache

/-- Reading tokens does to the world what reading the secrets does that are referred to. -/
theorem within_resolveAll_of {refs : List (Option SecretKey)}
    (reads : ∀ ref, some ref ∈ refs → (secrets.get namespace_ ref.name).Within d)
    (cache : Cache) : (resolveAll secrets namespace_ refs cache).Within d := by
  induction refs generalizing cache with
  | nil => exact Act.within_pure _
  | cons ref refs ih =>
    have rest := ih fun other mem => reads other (List.mem_cons_of_mem _ mem)
    cases ref with
    | none =>
      rw [resolveAll]
      refine (rest cache).bind fun answer => ?_
      obtain ⟨tokens, known⟩ := answer
      cases tokens with
      | error e => exact Act.within_pure _
      | ok tokens => exact Act.within_pure _
    | some ref =>
      rw [resolveAll]
      have first := reads ref (List.mem_cons_self ..)
      refine (within_resolve_of first cache).bind fun answer => ?_
      obtain ⟨token, known⟩ := answer
      cases token with
      | error e => exact Act.within_pure _
      | ok token =>
        refine (rest known).bind fun answer => ?_
        obtain ⟨tokens, known⟩ := answer
        cases tokens with
        | error e => exact Act.within_pure _
        | ok tokens => exact Act.within_pure _

/-- Reading tokens does to the world what reading secrets does. -/
theorem within_resolveAll (reads : ∀ name, (secrets.get namespace_ name).Within d)
    (refs : List (Option SecretKey)) (cache : Cache) :
    (resolveAll secrets namespace_ refs cache).Within d :=
  within_resolveAll_of (fun ref _ => reads ref.name) cache

end Credential

end HookRelay
