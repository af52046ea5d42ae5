import HookRelay.Source.Basic
import HookRelay.World.Act

/-!
# Credentials

A token is the text under one key of a secret, which a source names by a `secretKeyRef`. While a
source is looked at, each secret is read at most once, also if it turned out not to exist; a failure
to read is not remembered.

## Main definitions

* `Secrets` : where secrets are read
* `Failure` : why a token is not available
* `Cache` : the secrets that were read
* `resolve`, `resolveAll` : the tokens under one key, and under several
-/

namespace HookRelay.Credential

/-- What a secret holds, under its keys: its `data`. -/
abbrev Data := List (String × ByteArray)

/-- Where secrets are read, the secret store; there may be no secret of a name, or reading may
fail. -/
structure Secrets (W : Type) where
  get : (namespace_ name : String) → Act W (Except String (Option Data))

/-- Why a token is not available. -/
inductive Failure where
  | secretNotFound (name : String)
  | keyNotFound (name key : String)
  /-- What stands under the key is no text. -/
  | notText (name key : String)
  /-- The secret could not be read. -/
  | store (name cause : String)
  deriving DecidableEq, Repr

namespace Failure

/-- The wording of a failure. -/
def message : Failure → String
  | secretNotFound name => "secret \"" ++ name ++ "\" not found"
  | keyNotFound name key => "key \"" ++ key ++ "\" not found in secret \"" ++ name ++ "\""
  | notText name key => "key \"" ++ key ++ "\" in secret \"" ++ name ++ "\" is not valid UTF-8"
  | store name cause => "failed to read secret \"" ++ name ++ "\": " ++ cause

/-- Whether the secret or its key is missing, which may appear later. -/
def isMissing : Failure → Bool
  | secretNotFound _ | keyNotFound .. => true
  | _ => false

end Failure

/-- The secrets that were read, and those that were found not to exist, with `none`. -/
abbrev Cache := List (String × Option Data)

/-- What is known about a secret. -/
def Cache.find? (name : String) : Cache → Option (Option Data)
  | [] => none
  | (n, d) :: rest => if n = name then some d else find? name rest

/-- The bytes under a key. -/
def Data.find? (key : String) (data : Data) : Option ByteArray :=
  (List.find? (fun e => e.1 = key) data).map Prod.snd

/-- The token under a key of what is known about a secret. -/
def tokenOf (ref : SecretKey) : Option Data → Except Failure String
  | none => .error (.secretNotFound ref.name)
  | some data =>
    match data.find? ref.key with
    | none => .error (.keyNotFound ref.name ref.key)
    | some bytes =>
      match String.fromUTF8? bytes with
      | some token => .ok token
      | none => .error (.notText ref.name ref.key)

variable {W : Type}

/-- The token under a key, with the secrets that are known afterwards. -/
def resolve (secrets : Secrets W) (namespace_ : String) (ref : SecretKey) (cache : Cache) :
    Act W (Except Failure String × Cache) := do
  match cache.find? ref.name with
  | some known => return (tokenOf ref known, cache)
  | none =>
    match ← secrets.get namespace_ ref.name with
    | .error cause => return (.error (.store ref.name cause), cache)
    | .ok found => return (tokenOf ref found, (ref.name, found) :: cache)

/-- The tokens under several keys in order, up to the first that is not available. An absent
reference, as `secretToken` may be, stands for an empty token. -/
def resolveAll (secrets : Secrets W) (namespace_ : String) :
    List (Option SecretKey) → Cache → Act W (Except Failure (List String) × Cache)
  | [], cache => return (.ok [], cache)
  | none :: refs, cache => do
    match ← resolveAll secrets namespace_ refs cache with
    | (.ok tokens, cache) => return (.ok ("" :: tokens), cache)
    | (.error e, cache) => return (.error e, cache)
  | some ref :: refs, cache => do
    match ← resolve secrets namespace_ ref cache with
    | (.error e, cache) => return (.error e, cache)
    | (.ok token, cache) =>
      match ← resolveAll secrets namespace_ refs cache with
      | (.ok tokens, cache) => return (.ok (token :: tokens), cache)
      | (.error e, cache) => return (.error e, cache)

/-- What is known in a namespace on one line; nothing of what the secrets hold is shown. -/
def describe (namespace_ : String) (cache : Cache) : String :=
  Text.recordInPart "CredentialResolver"
    [("namespace", Text.quote namespace_), ("cached", toString cache.length)]

end HookRelay.Credential
