import HookRelay.Proofs.World.Drift
import Mathlib.Data.List.Forall2

/-!
# Tokens that are available

Where the secrets that are referred to hold texts under the keys that are asked for, and nobody
changes them meanwhile, every reference yields its token. That a secret is read once only makes no
difference: what is remembered is what would be read.

## Main definitions

* `Secrets.answers` : what reading secrets yields in a world
* `Available` : the token of a reference

## Main statements

* `resolveAll_available` : tokens that are available are found
* `resolveAll_congr` : where secrets hold the same, the same tokens are found
-/

namespace HookRelay.Credential

variable {W : Type} {secrets : Secrets W} {namespace_ : String}

/-- What reading the secrets of a namespace yields in a world. -/
def Secrets.answers (secrets : Secrets W) (namespace_ : String) (w : W) :
    String → Except String (Option Data) :=
  fun name => (secrets.get namespace_ name w).1

/-- **The token of a reference**, a `secretKeyRef`: the text under the key of the secret. An absent
reference stands for an empty one. -/
inductive Available (answers : String → Except String (Option Data)) :
    Option SecretKey → String → Prop where
  | absent : Available answers none ""
  | held {ref : SecretKey} {data : Data} {bytes : ByteArray} {token : String}
      (found : answers ref.name = .ok (some data)) (key : data.find? ref.key = some bytes)
      (text : String.fromUTF8? bytes = some token) : Available answers (some ref) token

/-- What is remembered is what would be read. -/
def Cache.Agrees (answers : String → Except String (Option Data)) (cache : Cache) : Prop :=
  ∀ name known, cache.find? name = some known → answers name = .ok known

theorem Cache.agrees_nil (answers : String → Except String (Option Data)) :
    Cache.Agrees answers [] := nofun

theorem Cache.Agrees.cons {answers : String → Except String (Option Data)} {cache : Cache}
    (h : cache.Agrees answers) {name : String} {found : Option Data}
    (read : answers name = .ok found) : Cache.Agrees answers ((name, found) :: cache) := by
  intro other known remembered
  rw [Cache.find?] at remembered
  split at remembered
  · next same =>
    subst same
    rw [read, Option.some.inj remembered]
  · exact h other known remembered

section Steady

variable {answers : String → Except String (Option Data)} {cache : Cache} {w : W}
  (steady : ∀ name, (secrets.get namespace_ name).Within
    (Drift.fixing (secrets.answers namespace_)))
include steady

theorem resolve_available {ref : SecretKey} {token : String}
    (now : secrets.answers namespace_ w = answers) (agrees : cache.Agrees answers)
    (available : Available answers (some ref) token) :
    ∃ cache' w', resolve secrets namespace_ ref cache w = ((.ok token, cache'), w') ∧
      secrets.answers namespace_ w' = answers ∧ cache'.Agrees answers := by
  cases available with
  | @held _ data _ _ found key text =>
    have yields : tokenOf ref (some data) = .ok token := by simp [tokenOf, key, text]
    rw [resolve]
    cases remembered : cache.find? ref.name with
    | some known =>
      -- what is remembered is still what would be read
      have same := agrees ref.name known remembered
      rw [found] at same
      cases same
      exact ⟨cache, w, by simp [yields], now, agrees⟩
    | none =>
      rcases read : secrets.get namespace_ ref.name w with ⟨answer, w'⟩
      have answered : answer = .ok (some data) := by
        rw [← found, ← now, Secrets.answers, read]
      subst answered
      have unchanged : secrets.answers namespace_ w' = secrets.answers namespace_ w :=
        (steady ref.name).moved read
      exact ⟨(ref.name, some data) :: cache, w', by simp [read, yields], unchanged.trans now,
        agrees.cons found⟩

/-- **Tokens that are available are found.** -/
theorem resolveAll_available {refs : List (Option SecretKey)} {tokens : List String}
    (now : secrets.answers namespace_ w = answers) (agrees : cache.Agrees answers)
    (available : List.Forall₂ (Available answers) refs tokens) :
    ∃ cache' w', resolveAll secrets namespace_ refs cache w = ((.ok tokens, cache'), w') := by
  induction available generalizing cache w with
  | nil => exact ⟨cache, w, rfl⟩
  | @cons ref token refs tokens head tail ih =>
    cases ref with
    | none =>
      cases head
      obtain ⟨cache', w', rest⟩ := ih now agrees
      exact ⟨cache', w', by rw [resolveAll, Act.bind_apply, rest]; rfl⟩
    | some ref =>
      obtain ⟨cache₁, w₁, first, now, agrees⟩ := resolve_available steady now agrees head
      obtain ⟨cache', w', rest⟩ := ih now agrees
      refine ⟨cache', w', ?_⟩
      rw [resolveAll, Act.bind_apply, first]
      simp only [Act.bind_apply, rest]
      rfl

omit steady in
theorem resolve_congr {w' : W} (ref : SecretKey) (cache : Cache)
    (same : secrets.answers namespace_ w' = secrets.answers namespace_ w) :
    (resolve secrets namespace_ ref cache w').1 = (resolve secrets namespace_ ref cache w).1 := by
  unfold resolve
  cases cache.find? ref.name with
  | some known => rfl
  | none =>
    have read : (secrets.get namespace_ ref.name w').1 = (secrets.get namespace_ ref.name w).1 :=
      congrFun same ref.name
    dsimp only
    rw [Act.bind_apply, Act.bind_apply, read]
    cases (secrets.get namespace_ ref.name w).1 <;> rfl

/-- **Where secrets hold the same, the same tokens are found**, or the same is wrong. -/
theorem resolveAll_congr {w' : W} (refs : List (Option SecretKey)) (cache : Cache)
    (same : secrets.answers namespace_ w' = secrets.answers namespace_ w) :
    (resolveAll secrets namespace_ refs cache w').1 =
      (resolveAll secrets namespace_ refs cache w).1 := by
  induction refs generalizing cache w w' with
  | nil => rfl
  | cons ref refs ih =>
    cases ref with
    | none =>
      rw [resolveAll, Act.bind_apply, Act.bind_apply, ih cache same]
      rcases (resolveAll secrets namespace_ refs cache w).1 with ⟨tokens, known⟩
      cases tokens <;> rfl
    | some ref =>
      have first := resolve_congr ref cache same
      have kept := within_resolve steady ref cache
      rw [resolveAll, Act.bind_apply, Act.bind_apply, first]
      -- reading the first secret left all of them as they were, in either world
      have still : secrets.answers namespace_ (resolve secrets namespace_ ref cache w').2 =
          secrets.answers namespace_ (resolve secrets namespace_ ref cache w).2 :=
        (kept w').trans (same.trans (kept w).symm)
      rcases (resolve secrets namespace_ ref cache w).1 with ⟨token, known⟩
      cases token with
      | error e => rfl
      | ok token =>
        dsimp only
        rw [Act.bind_apply, Act.bind_apply, ih known still]
        rcases (resolveAll secrets namespace_ refs known
          (resolve secrets namespace_ ref cache w).2).1 with ⟨tokens, known'⟩
        cases tokens <;> rfl

end Steady

end HookRelay.Credential
