/-!
# Acting on a world

Everything outside of the controller (the cluster, GitLab, sinks, clocks, counters) is one world
of a type `W` that nothing is known about. What the controller does is a function of the world:
it answers and leaves a changed world behind. A collaborator is a record of such functions, so
that a statement over all collaborators and all worlds covers every order of failures, answers
and changes from outside.

## Main definitions

* `Act` : an action on a world
* `Part`, `Part.act` : a part of a world, and an action on the part as one on the whole
-/

namespace HookRelay

/-- An action on a world of type `W`. -/
abbrev Act (W : Type) (α : Type) : Type := StateM W α

namespace Act

variable {W α β : Type}

@[simp] theorem pure_apply (x : α) (w : W) : (pure x : Act W α) w = (x, w) := rfl

@[simp] theorem bind_apply (a : Act W α) (f : α → Act W β) (w : W) :
    (a >>= f) w = f (a w).1 (a w).2 := rfl

@[simp] theorem map_apply (f : α → β) (a : Act W α) (w : W) :
    (f <$> a) w = (f (a w).1, (a w).2) := rfl

end Act

/-- A part of a world that can be read and replaced. -/
structure Part (W M : Type) where
  get : W → M
  set : M → W → W

/-- An action on a part of a world. -/
def Part.act {W M α : Type} (p : Part W M) (a : Act M α) : Act W α := fun w =>
  let (answer, m) := a (p.get w)
  (answer, p.set m w)

end HookRelay
