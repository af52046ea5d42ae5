import HookRelay.Credential.Basic
import HookRelay.World.Act
import Mathlib.Data.List.Forall2

/-!
# One action in the place of another

What the controller does is a function of the world, and nothing is known of the world. So two
worlds may stand for one another: where each action on one world answers as another action does on
the other, and keeps the two worlds related, whole programs made of these actions do the same. A
world that carries a record beside it is one such case. Answers need not be equal for that; tokens
may differ, as long as nothing that is done depends on them.

## Main definitions

* `Likewise` : the same error, or values that are alike
* `Act.Matches` : two actions answer alike, and keep two worlds related
* `Act.Simulates` : an action does on one world what another does on another world
* `Credential.Alike`, `Credential.CacheAlike` : secrets hold tokens that are alike, and so do the
  secrets that are known

## Main statements

* `Act.Matches.bind`, `Act.Simulates.bind` : one action after the other
* `Credential.matches_resolve`, `Credential.matches_resolveAll` : reading tokens
-/

namespace HookRelay

variable {S W α α' β β' ε : Type} {rel : S → W → Prop}

/-- The same error, or values that are alike. -/
inductive Likewise (same : α' → α → Prop) : Except ε α' → Except ε α → Prop where
  | ok {x' : α'} {x : α} (alike : same x' x) : Likewise same (.ok x') (.ok x)
  | error (e : ε) : Likewise same (.error e) (.error e)

theorem Likewise.mono {same same₁ : α' → α → Prop} {r' : Except ε α'} {r : Except ε α}
    (h : Likewise same r' r) (weaker : ∀ {x' x}, same x' x → same₁ x' x) :
    Likewise same₁ r' r := by
  cases h with
  | ok alike => exact .ok (weaker alike)
  | error e => exact .error e

theorem Likewise.refl {same : α → α → Prop} (all : ∀ x, same x x) (r : Except ε α) :
    Likewise same r r := by
  cases r with
  | ok x => exact .ok (all x)
  | error e => exact .error e

/-- Two actions answer alike on two worlds, and the worlds stay related. -/
def Act.Matches (rel : S → W → Prop) (same : α' → α → Prop) (a' : Act S α') (a : Act W α) : Prop :=
  ∀ ⦃s w⦄, rel s w → same (a' s).1 (a w).1 ∧ rel (a' s).2 (a w).2

/-- An action answers on one world as another does on another world, and the worlds stay
related. -/
abbrev Act.Simulates (rel : S → W → Prop) (a' : Act S α) (a : Act W α) : Prop :=
  a'.Matches rel Eq a

namespace Act.Matches

variable {same : α' → α → Prop} {same₁ : β' → β → Prop} {a' : Act S α'} {a : Act W α}

theorem pure {x' : α'} {x : α} (alike : same x' x) :
    (Pure.pure x' : Act S α').Matches rel same (Pure.pure x : Act W α) :=
  fun _ _ related => ⟨alike, related⟩

theorem bind {f' : α' → Act S β'} {f : α → Act W β} (first : a'.Matches rel same a)
    (rest : ∀ {x' x}, same x' x → (f' x').Matches rel same₁ (f x)) :
    (a' >>= f').Matches rel same₁ (a >>= f) := by
  intro s w related
  obtain ⟨answers, moved⟩ := first related
  exact rest answers moved

theorem map {f' : α' → β'} {f : α → β} (h : a'.Matches rel same a)
    (alike : ∀ {x' x}, same x' x → same₁ (f' x') (f x)) :
    (f' <$> a').Matches rel same₁ (f <$> a) := by
  intro s w related
  obtain ⟨answers, moved⟩ := h related
  exact ⟨alike answers, moved⟩

theorem mono {weaker : α' → α → Prop} (h : a'.Matches rel same a)
    (weaken : ∀ {x' x}, same x' x → weaker x' x) : a'.Matches rel weaker a := by
  intro s w related
  obtain ⟨answers, moved⟩ := h related
  exact ⟨weaken answers, moved⟩

end Act.Matches

theorem Act.Simulates.bind {same : β' → β → Prop} {a' : Act S α} {a : Act W α}
    {f' : α → Act S β'} {f : α → Act W β} (first : a'.Simulates rel a)
    (rest : ∀ x, (f' x).Matches rel same (f x)) : (a' >>= f').Matches rel same (a >>= f) := by
  refine Act.Matches.bind first fun {x' x} answer => ?_
  subst answer
  exact rest x'

/-! ## Reading tokens -/

namespace Credential

variable {tok : String → String → Prop} {refs : List (Option SecretKey)}

/-- Of a secret that may be there or not, tokens are read under the keys that are referred to that
are alike. -/
def Alike (tok : String → String → Prop) (refs : List (Option SecretKey)) (name : String)
    (found' found : Option Data) : Prop :=
  ∀ ref, some ref ∈ refs → ref.name = name → Likewise tok (tokenOf ref found') (tokenOf ref found)

/-- The same secrets are known, and their tokens are alike. -/
def CacheAlike (tok : String → String → Prop) (refs : List (Option SecretKey))
    (cache' cache : Cache) : Prop :=
  ∀ name, Option.Rel (Alike tok refs name) (cache'.find? name) (cache.find? name)

/-- Of tokens that are alike, those at one place are, also where nothing stands there. -/
theorem alike_getD {tokens' tokens : List String} (alike : List.Forall₂ tok tokens' tokens)
    {blank' blank : String} (without : tok blank' blank) (n : Nat) :
    tok (tokens'.getD n blank') (tokens.getD n blank) := by
  induction alike generalizing n with
  | nil => exact without
  | cons head _ ih =>
    cases n with
    | zero => exact head
    | succ n => exact ih n

theorem CacheAlike.empty : CacheAlike tok refs [] [] := fun _ => .none

theorem CacheAlike.cons {cache' cache : Cache} (known : CacheAlike tok refs cache' cache)
    {name : String} {found' found : Option Data} (alike : Alike tok refs name found' found) :
    CacheAlike tok refs ((name, found') :: cache') ((name, found) :: cache) := by
  intro other
  by_cases same : name = other
  · subst same
    simpa [Cache.find?] using Option.Rel.some alike
  · simpa [Cache.find?, same] using known other

variable {secrets' : Secrets S} {secrets : Secrets W} {namespace_ : String}
  (reads : ∀ name, (secrets'.get namespace_ name).Matches rel (Likewise (Alike tok refs name))
    (secrets.get namespace_ name))
include reads

/-- One token is read alike, and the secrets that are known afterwards are. -/
theorem matches_resolve {ref : SecretKey} (mem : some ref ∈ refs) {cache' cache : Cache}
    (known : CacheAlike tok refs cache' cache) :
    (resolve secrets' namespace_ ref cache').Matches rel
      (fun r' r => Likewise tok r'.1 r.1 ∧ CacheAlike tok refs r'.2 r.2)
      (resolve secrets namespace_ ref cache) := by
  unfold resolve
  generalize kept' : cache'.find? ref.name = found'
  generalize kept : cache.find? ref.name = found
  have held := known ref.name
  rw [kept', kept] at held
  cases held with
  | some alike => exact .pure ⟨alike ref mem rfl, known⟩
  | none =>
    refine (reads ref.name).bind fun answers => ?_
    cases answers with
    | error cause => exact .pure ⟨.error _, known⟩
    | ok alike => exact .pure ⟨alike ref mem rfl, known.cons alike⟩

/-- Several tokens are read alike. -/
theorem matches_resolveAll (blank : tok "" "") {wanted : List (Option SecretKey)}
    (among : wanted ⊆ refs) {cache' cache : Cache} (known : CacheAlike tok refs cache' cache) :
    (resolveAll secrets' namespace_ wanted cache').Matches rel
      (fun r' r => Likewise (List.Forall₂ tok) r'.1 r.1 ∧ CacheAlike tok refs r'.2 r.2)
      (resolveAll secrets namespace_ wanted cache) := by
  induction wanted generalizing cache' cache with
  | nil => exact .pure ⟨.ok .nil, known⟩
  | cons ref rest ih =>
    obtain ⟨head, tail⟩ := List.cons_subset.1 among
    cases ref with
    | none =>
      rw [resolveAll, resolveAll]
      refine (ih tail known).bind fun {r' r} answers => ?_
      obtain ⟨tokens', known'⟩ := r'
      obtain ⟨tokens, known⟩ := r
      obtain ⟨tokensAlike, cacheAlike⟩ := answers
      cases tokensAlike with
      | error e => exact .pure ⟨.error e, cacheAlike⟩
      | ok tokens => exact .pure ⟨.ok (.cons blank tokens), cacheAlike⟩
    | some ref =>
      rw [resolveAll, resolveAll]
      refine (matches_resolve reads head known).bind fun {r' r} answers => ?_
      obtain ⟨token', known'⟩ := r'
      obtain ⟨token, known⟩ := r
      obtain ⟨tokenAlike, cacheAlike⟩ := answers
      cases tokenAlike with
      | error e => exact .pure ⟨.error e, cacheAlike⟩
      | ok token =>
        refine (ih tail cacheAlike).bind fun {r' r} answers => ?_
        obtain ⟨tokens', known'⟩ := r'
        obtain ⟨tokens, known⟩ := r
        obtain ⟨tokensAlike, cacheAlike⟩ := answers
        cases tokensAlike with
        | error e => exact .pure ⟨.error e, cacheAlike⟩
        | ok tokens => exact .pure ⟨.ok (.cons token tokens), cacheAlike⟩

end Credential

end HookRelay
