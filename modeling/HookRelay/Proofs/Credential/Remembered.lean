import HookRelay.Credential.Basic
import HookRelay.Proofs.Pass.Calls

/-!
# What is remembered of secrets is not noticed

A resolver reads a secret at most once, and remembers what it found: also that there is no such
secret, but not that reading it failed. Whatever it is asked for, and in whatever order, it answers
as if every reference were looked up by itself in a store that holds still: one in which each secret
is as it was when it was first read, and cannot be read if that has failed so far.

The store is any at all, and may answer differently every time. So what it said is put on record:
the answers of the resolver, and the readings that it makes, are told from the record alone.

## Main definitions

* `Reading`, `Secrets.noted` : a reading of a secret, and a store whose readings are put on record
* `found?`, `heard` : what the store said of a secret, from the record
* `uncached` : a reference that is looked up by itself
* `session` : what a resolver is asked for, with its answers and its readings
* `Transparent` : an answer, and the readings for it, as the record has it

## Main statements

* `resolve_noted`, `resolveAll_noted` : one reference, and several
* `session_transparent` : everything that a resolver is asked for
-/

namespace HookRelay.Credential

variable {W : Type}

/-! ## The record -/

/-- A reading of a secret, with what the store answered. -/
structure Reading where
  namespace_ : String
  name : String
  answer : Except String (Option Data)

/-- A store whose readings are put on record, the latest first. -/
def Secrets.noted (secrets : Secrets W) : Secrets (W × List Reading) where
  get namespace_ name := (secrets.get namespace_ name).noted (⟨namespace_, name, ·⟩)

/-- What was found the first time that reading a secret did not fail. -/
def found? (name : String) (record : List Reading) : Option (Option Data) :=
  record.findSome? fun r => if r.name = name then r.answer.toOption else none

/-- **What the store said of a secret**: what was found the first time that reading it did not fail,
or else the latest failure. -/
def heard (record : List Reading) (name : String) : Except String (Option Data) :=
  match found? name record with
  | some found => .ok found
  | none => ((record.reverse.find? (·.name = name)).map Reading.answer).getD (.error "never read")

/-- If a reading did not fail, a later one is of another secret. -/
def Reading.Ahead (r later : Reading) : Prop := r.answer.isOk = true → later.name ≠ r.name

section Record

variable {record before after : List Reading} {r : Reading} {name : String} {found : Option Data}

theorem found?_append : found? name (before ++ after) =
    (found? name before).or (found? name after) :=
  List.findSome?_append

theorem found?_append_of_some (known : found? name before = some found) :
    found? name (before ++ after) = some found := by
  rw [found?_append, known, Option.some_or]

theorem found?_ok (ns name : String) (found : Option Data) (other : String) :
    found? other [⟨ns, name, .ok found⟩] = if name = other then some found else none := by
  rw [found?, List.findSome?_singleton]
  rfl

theorem found?_error (ns name cause other : String) :
    found? other [⟨ns, name, .error cause⟩] = none := by
  rw [found?, List.findSome?_singleton, Except.toOption, ite_self]

/-- A secret that was read without a failure was found. -/
theorem found?_ne_none (mem : r ∈ record) (read : r.answer.isOk = true) :
    found? r.name record ≠ none := by
  intro unknown
  have missed := List.findSome?_eq_none_iff.1 unknown r mem
  rw [if_pos rfl] at missed
  cases answered : r.answer with
  | error cause =>
    rw [answered] at read
    cases read
  | ok found =>
    rw [answered] at missed
    cases missed

/-- What is read because it was not found before is read behind failures only. -/
theorem ahead_of_unknown {later : Reading} (mem : r ∈ record)
    (unknown : found? later.name record = none) : r.Ahead later := fun read same =>
  found?_ne_none mem read (same ▸ unknown)

theorem heard_of_found (known : found? name record = some found) :
    heard record name = .ok found := by
  rw [heard, known]

/-- While a secret was never found, the latest failure is what the store says. -/
theorem heard_of_failure (unknown : found? name before = none) (ns cause : String) :
    heard (before ++ [⟨ns, name, .error cause⟩]) name = .error cause := by
  have still : found? name (before ++ [⟨ns, name, .error cause⟩]) = none := by
    rw [found?_append, unknown, found?_error, Option.or_none]
  rw [heard, still, List.reverse_append]
  simp

end Record

/-! ## Without a memory -/

/-- A store that holds still. -/
def Secrets.still (answers : String → Except String (Option Data)) : Secrets Unit where
  get _ name := pure (answers name)

/-- **A reference that is looked up by itself**, by `resolve` with an empty `Cache`, in a store that
holds still. An absent reference stands for an empty token. -/
def uncached (answers : String → Except String (Option Data)) :
    Option SecretKey → Except Failure String
  | none => .ok ""
  | some ref => (resolve (.still answers) "" ref [] ()).1.1

/-- The secrets that some references need, up to the first reference without a token. -/
def needed (answers : String → Except String (Option Data)) : List (Option SecretKey) → List String
  | [] => []
  | none :: refs => needed answers refs
  | some ref :: refs =>
    ref.name :: if (uncached answers (some ref)).isOk then needed answers refs else []

section Uncached

variable {answers : String → Except String (Option Data)} {ref : SecretKey} {found : Option Data}

theorem uncached_ok (said : answers ref.name = .ok found) :
    uncached answers (some ref) = tokenOf ref found := by
  simp [uncached, resolve, Cache.find?, Secrets.still, said]

theorem uncached_error {cause : String} (said : answers ref.name = .error cause) :
    uncached answers (some ref) = .error (.store ref.name cause) := by
  simp [uncached, resolve, Cache.find?, Secrets.still, said]

end Uncached

/-! ## A resolver -/

/-- What a resolver is asked for: the token of one reference (`resolve`), or those of several
(`resolveAll`). -/
inductive Request where
  | one (ref : SecretKey)
  | several (refs : List (Option SecretKey))

/-- The references of a request. -/
def Request.refs : Request → List (Option SecretKey)
  | one ref => [some ref]
  | several refs => refs

/-- What a resolver answers, with the secrets that are known afterwards; a single token counts as a
list of one. -/
def Request.look (secrets : Secrets W) (namespace_ : String) :
    Request → Cache → Act W (Except Failure (List String) × Cache)
  | one ref, cache => do
    let (token, cache) ← resolve secrets namespace_ ref cache
    return (token.map ([·]), cache)
  | several refs, cache => resolveAll secrets namespace_ refs cache

/-- What a resolver was asked for, what it answered, and what it read for that, in order. -/
structure Exchange where
  request : Request
  answer : Except Failure (List String)
  reads : List Reading

/-- What a resolver is asked for, with its answers and its readings. -/
def session (secrets : Secrets W) (namespace_ : String) :
    List Request → Cache → W → List Exchange
  | [], _, _ => []
  | request :: requests, cache, w =>
    let done := request.look secrets.noted namespace_ cache (w, [])
    ⟨request, done.1.1, done.2.2.reverse⟩ ::
      session secrets namespace_ requests done.1.2 done.2.1

/-- The answers of a resolver. -/
def replies (secrets : Secrets W) (namespace_ : String) :
    List Request → Cache → Act W (List (Except Failure (List String)))
  | [], _ => pure []
  | request :: requests, cache => do
    let (answer, cache) ← request.look secrets namespace_ cache
    return answer :: (← replies secrets namespace_ requests cache)

/-- **An answer to some references, and the readings for it, as the record has it**: every reference
is answered as if it were looked up by itself in a store that holds still at what it said, up to the
first reference without a token. The secrets that are read for that are those that are needed and
were not found before, each read once, in the order of the references, and all of them in one
namespace. -/
structure Transparent (namespace_ : String) (past : List Reading) (refs : List (Option SecretKey))
    (answer : Except Failure (List String)) (reads : List Reading) : Prop where
  answer : answer = refs.mapM (uncached (heard (past ++ reads)))
  names : reads.map Reading.name =
    ((needed (heard (past ++ reads)) refs).filter fun name => (found? name past).isNone).eraseDups
  inside : ∀ r ∈ reads, r.namespace_ = namespace_

/-! ## One reference -/

/-- What the `Cache` remembers is what the record says was found. -/
def Cache.Recalls (cache : Cache) (past : List Reading) : Prop :=
  ∀ name, cache.find? name = found? name past

theorem Cache.recalls_nil : Cache.Recalls [] [] := fun _ => rfl

variable {secrets : Secrets W} {namespace_ : String} {past : List Reading} {cache cache' : Cache}
  {ref : SecretKey} {token : Except Failure String} {reads : List Reading}

/-- **What one reference comes to**: what is remembered of its secret, or else a reading, which is
remembered unless it fails. -/
inductive Met (namespace_ : String) (past : List Reading) (ref : SecretKey) (cache : Cache) :
    Except Failure String → Cache → List Reading → Prop where
  | recalled {found : Option Data} (known : found? ref.name past = some found) :
    Met namespace_ past ref cache (tokenOf ref found) cache []
  | failed (cause : String) (unknown : found? ref.name past = none) :
    Met namespace_ past ref cache (.error (.store ref.name cause)) cache
      [⟨namespace_, ref.name, .error cause⟩]
  | read (found : Option Data) (unknown : found? ref.name past = none) :
    Met namespace_ past ref cache (tokenOf ref found) ((ref.name, found) :: cache)
      [⟨namespace_, ref.name, .ok found⟩]

variable (secrets namespace_) in
theorem resolve_noted (recalls : cache.Recalls past) (ref : SecretKey) (w : W)
    (log : List Reading) : ∃ token cache' w' reads,
      resolve secrets.noted namespace_ ref cache (w, log) =
        ((token, cache'), w', reads.reverse ++ log) ∧
      Met namespace_ past ref cache token cache' reads := by
  rw [resolve]
  have recalled := recalls ref.name
  cases known : cache.find? ref.name with
  | some found =>
    rw [known] at recalled
    exact ⟨tokenOf ref found, cache, w, [], rfl, .recalled recalled.symm⟩
  | none =>
    rw [known] at recalled
    dsimp only
    rw [Act.bind_apply]
    rcases answered : secrets.get namespace_ ref.name w with ⟨answer, w'⟩
    have noted : secrets.noted.get namespace_ ref.name (w, log) =
        (answer, w', ⟨namespace_, ref.name, answer⟩ :: log) := by
      simp only [Secrets.noted, Act.noted, answered]
    rw [noted]
    cases answer with
    | error cause => exact ⟨_, _, _, [_], rfl, .failed cause recalled.symm⟩
    | ok found => exact ⟨_, _, _, [_], rfl, .read found recalled.symm⟩

namespace Met

variable (met : Met namespace_ past ref cache token cache' reads)
include met

/-- What is remembered afterwards is what the record says then. -/
theorem recalls (recalls : cache.Recalls past) : cache'.Recalls (past ++ reads) := by
  intro name
  cases met with
  | recalled known => rw [List.append_nil, recalls name]
  | failed cause unknown => rw [found?_append, found?_error, Option.or_none, recalls name]
  | read found unknown =>
    rw [Cache.find?, found?_append, found?_ok]
    split
    · next same => rw [← same, unknown, Option.none_or]
    · rw [Option.or_none, recalls name]

/-- The reference is answered as if it were looked up by itself; later readings change nothing about
that, if there are any. -/
theorem uncached_eq (later : List Reading) (stops : token.isOk = false → later = []) :
    uncached (heard (past ++ reads ++ later)) (some ref) = token := by
  cases met with
  | recalled known =>
    rw [List.append_nil]
    exact uncached_ok (heard_of_found (found?_append_of_some known))
  | failed cause unknown =>
    rw [stops rfl, List.append_nil]
    exact uncached_error (heard_of_failure unknown _ cause)
  | read found unknown =>
    refine uncached_ok (heard_of_found (found?_append_of_some ?_))
    rw [found?_append, unknown, found?_ok, if_pos rfl]
    rfl

theorem inside : ∀ r ∈ reads, r.namespace_ = namespace_ := by
  cases met <;> simp

/-- Only a secret that was not found before is read. -/
theorem fresh : ∀ r ∈ reads, found? r.name past = none := by
  cases met with
  | recalled known => nofun
  | failed cause unknown => simpa using unknown
  | read found unknown => simpa using unknown

/-- There is one reading at most, and it is of the secret that the reference names. -/
theorem names : reads.map Reading.name =
    [ref.name].filter fun name => (found? name past).isNone := by
  cases met with
  | recalled known => simp [known]
  | failed cause unknown => simp [unknown]
  | read found unknown => simp [unknown]

theorem once : reads.Pairwise Reading.Ahead := by
  cases met with
  | recalled known => exact .nil
  | failed cause unknown => exact List.pairwise_singleton _ _
  | read found unknown => exact List.pairwise_singleton _ _

/-- A secret that has a token is not read for the references behind it. -/
theorem names_append (available : token.isOk = true) (names : List String) :
    reads.map Reading.name ++
        (names.filter fun name => (found? name (past ++ reads)).isNone).eraseDups =
      ((ref.name :: names).filter fun name => (found? name past).isNone).eraseDups := by
  cases met with
  | recalled known => simp [known]
  | failed cause unknown => cases available
  | read found unknown =>
    have unread : (fun name => (found? name (past ++
        [⟨namespace_, ref.name, .ok found⟩])).isNone) =
        fun name => !name == ref.name && (found? name past).isNone := by
      funext name
      rw [found?_append, found?_ok]
      by_cases same : ref.name = name
      · simp [same]
      · simp [same, Ne.symm same]
    rw [unread, List.filter_cons_of_pos (by rw [unknown]; rfl), List.eraseDups_cons,
      List.filter_filter]
    rfl

end Met

/-! ## Several references -/

/-- What some references come to, with the secrets that are known afterwards. -/
structure Looked (namespace_ : String) (past : List Reading) (refs : List (Option SecretKey))
    (answer : Except Failure (List String)) (cache' : Cache) (reads : List Reading) : Prop where
  transparent : Transparent namespace_ past refs answer reads
  fresh : ∀ r ∈ reads, found? r.name past = none
  once : reads.Pairwise Reading.Ahead
  recalls : cache'.Recalls (past ++ reads)

namespace Looked

variable {refs : List (Option SecretKey)} {answer : Except Failure (List String)}
  {cache'' : Cache} {later : List Reading}

theorem nil (recalls : cache.Recalls past) : Looked namespace_ past [] (.ok []) cache [] where
  transparent := ⟨rfl, rfl, nofun⟩
  fresh := nofun
  once := .nil
  recalls := by rwa [List.append_nil]

/-- An absent reference needs nothing. -/
theorem absent (rest : Looked namespace_ past refs answer cache' reads) :
    Looked namespace_ past (none :: refs) (answer.map ("" :: ·)) cache' reads where
  transparent := {
    answer := by
      rw [List.mapM_cons, ← rest.transparent.answer]
      cases answer <;> rfl
    names := rest.transparent.names
    inside := rest.transparent.inside }
  fresh := rest.fresh
  once := rest.once
  recalls := rest.recalls

/-- Behind a reference without a token nothing is looked up. -/
theorem stopped {e : Failure} (recalls : cache.Recalls past)
    (met : Met namespace_ past ref cache (.error e) cache' reads) :
    Looked namespace_ past (some ref :: refs) (.error e) cache' reads where
  transparent := {
    answer := by
      have first := met.uncached_eq [] fun _ => rfl
      rw [List.append_nil] at first
      rw [List.mapM_cons, first]
      rfl
    names := by
      have first := met.uncached_eq [] fun _ => rfl
      rw [List.append_nil] at first
      rw [needed, first, met.names]
      have single (p : String → Bool) : ([ref.name].filter p).eraseDups = [ref.name].filter p := by
        rw [List.filter_singleton]
        cases p ref.name <;> rfl
      exact (single _).symm
    inside := met.inside }
  fresh := met.fresh
  once := met.once
  recalls := met.recalls recalls

/-- Behind a reference with a token, the rest is looked up with what is known then. -/
theorem more {token : String} (met : Met namespace_ past ref cache (.ok token) cache' reads)
    (rest : Looked namespace_ (past ++ reads) refs answer cache'' later) :
    Looked namespace_ past (some ref :: refs) (answer.map (token :: ·)) cache''
      (reads ++ later) where
  transparent := {
    answer := by
      have first := met.uncached_eq later nofun
      rw [List.mapM_cons, ← List.append_assoc, first, ← rest.transparent.answer]
      cases answer <;> rfl
    names := by
      have first := met.uncached_eq later nofun
      rw [← List.append_assoc, needed, first, List.map_append, rest.transparent.names]
      exact met.names_append rfl _
    inside := List.forall_mem_append.2 ⟨met.inside, rest.transparent.inside⟩ }
  fresh := by
    refine List.forall_mem_append.2 ⟨met.fresh, fun r mem => ?_⟩
    have unknown := rest.fresh r mem
    rw [found?_append, Option.or_eq_none_iff] at unknown
    exact unknown.1
  once := by
    refine List.pairwise_append.2 ⟨met.once, rest.once, fun r mem r' mem' => ?_⟩
    exact ahead_of_unknown (List.mem_append_right _ mem) (rest.fresh r' mem')
  recalls := by
    rw [← List.append_assoc]
    exact rest.recalls

end Looked

variable (secrets namespace_) in
theorem resolveAll_noted (recalls : cache.Recalls past) (refs : List (Option SecretKey)) (w : W)
    (log : List Reading) : ∃ answer cache' w' reads,
      resolveAll secrets.noted namespace_ refs cache (w, log) =
        ((answer, cache'), w', reads.reverse ++ log) ∧
      Looked namespace_ past refs answer cache' reads := by
  induction refs generalizing past cache w log with
  | nil => exact ⟨.ok [], cache, w, [], rfl, .nil recalls⟩
  | cons ref refs ih =>
    cases ref with
    | none =>
      obtain ⟨answer, cache', w', reads, run, looked⟩ := ih recalls w log
      refine ⟨answer.map ("" :: ·), cache', w', reads, ?_, looked.absent⟩
      rw [resolveAll, Act.bind_apply, run]
      cases answer <;> rfl
    | some ref =>
      obtain ⟨token, cache₁, w₁, reads₁, first, met⟩ :=
        resolve_noted secrets namespace_ recalls ref w log
      cases token with
      | error e =>
        refine ⟨.error e, cache₁, w₁, reads₁, ?_, .stopped recalls met⟩
        rw [resolveAll, Act.bind_apply, first]
        rfl
      | ok token =>
        obtain ⟨answer, cache', w', later, rest, looked⟩ :=
          ih (met.recalls recalls) w₁ (reads₁.reverse ++ log)
        refine ⟨answer.map (token :: ·), cache', w', reads₁ ++ later, ?_, .more met looked⟩
        rw [resolveAll, Act.bind_apply, first]
        dsimp only
        rw [Act.bind_apply, rest, List.reverse_append, List.append_assoc]
        cases answer <;> rfl

/-! ## Everything that a resolver is asked for -/

/-- One reference is looked up as several are. -/
theorem look_eq (secrets : Secrets W) (namespace_ : String) (request : Request) (cache : Cache) :
    request.look secrets namespace_ cache =
      resolveAll secrets namespace_ request.refs cache := by
  cases request with
  | several refs => rfl
  | one ref =>
    funext w
    rw [Request.look, Request.refs, resolveAll, Act.bind_apply, Act.bind_apply]
    rcases resolve secrets namespace_ ref cache w with ⟨⟨token, cache'⟩, w'⟩
    cases token <;> rfl

theorem resolve_shadows (secrets : Secrets W) (namespace_ : String) (ref : SecretKey)
    (cache : Cache) : (resolve secrets.noted namespace_ ref cache).Shadows
      (resolve secrets namespace_ ref cache) := by
  unfold resolve
  cases cache.find? ref.name with
  | some known => exact .pure _
  | none =>
    refine .bind (.of_simulates (Act.simulates_noted _ _)) fun answer => ?_
    cases answer with
    | error cause => exact .pure _
    | ok found => exact .pure _

theorem resolveAll_shadows (secrets : Secrets W) (namespace_ : String)
    (refs : List (Option SecretKey)) (cache : Cache) :
    (resolveAll secrets.noted namespace_ refs cache).Shadows
      (resolveAll secrets namespace_ refs cache) := by
  induction refs generalizing cache with
  | nil => exact .pure _
  | cons ref refs ih =>
    cases ref with
    | none =>
      rw [resolveAll, resolveAll]
      refine .bind (ih cache) fun r => ?_
      rcases r with ⟨_ | tokens, cache'⟩ <;> exact .pure _
    | some ref =>
      rw [resolveAll, resolveAll]
      refine .bind (resolve_shadows secrets namespace_ ref cache) fun r => ?_
      rcases r with ⟨_ | token, cache'⟩
      · exact .pure _
      · refine .bind (ih cache') fun r => ?_
        rcases r with ⟨_ | tokens, cache''⟩ <;> exact .pure _

/-- Recording the readings changes no answer. -/
theorem map_answer_session (secrets : Secrets W) (namespace_ : String) (requests : List Request)
    (cache : Cache) (w : W) : (session secrets namespace_ requests cache w).map Exchange.answer =
      (replies secrets namespace_ requests cache w).1 := by
  induction requests generalizing cache w with
  | nil => rfl
  | cons request requests ih =>
    obtain ⟨same, world⟩ := resolveAll_shadows secrets namespace_ request.refs cache (w, [])
    rw [← look_eq, ← look_eq] at same world
    rw [session, replies, List.map_cons, ih, same, world]
    rfl

variable (secrets namespace_) in
/-- **Everything that a resolver is asked for**, from any state of its memory: what it reads was not
found before, nor is it read again once it was found, and every answer is as the record has it. -/
theorem session_remembered (recalls : cache.Recalls past) (requests : List Request) (w : W) :
    let exchanges := session secrets namespace_ requests cache w
    (∀ r ∈ exchanges.flatMap Exchange.reads, found? r.name past = none) ∧
    (exchanges.flatMap Exchange.reads).Pairwise Reading.Ahead ∧
    ∀ before e after, exchanges = before ++ e :: after →
      Transparent namespace_ (past ++ before.flatMap Exchange.reads) e.request.refs e.answer
        e.reads := by
  induction requests generalizing past cache w with
  | nil => exact ⟨nofun, .nil, fun before e after whole => by simp [session] at whole⟩
  | cons request requests ih =>
    obtain ⟨answer, cache', w', reads, run, looked⟩ :=
      resolveAll_noted secrets namespace_ recalls request.refs w []
    obtain ⟨fresh, once, transparent⟩ := ih looked.recalls w'
    rw [← look_eq, List.append_nil] at run
    rw [session, run]
    simp only [List.reverse_reverse, List.flatMap_cons]
    refine ⟨List.forall_mem_append.2 ⟨looked.fresh, fun r mem => ?_⟩,
      List.pairwise_append.2 ⟨looked.once, once, fun r mem r' mem' => ?_⟩,
      fun before e after whole => ?_⟩
    · have unknown := fresh r mem
      rw [found?_append, Option.or_eq_none_iff] at unknown
      exact unknown.1
    · exact ahead_of_unknown (List.mem_append_right _ mem) (fresh r' mem')
    · cases before with
      | nil =>
        obtain ⟨rfl, -⟩ := List.cons.inj whole
        rw [List.flatMap_nil, List.append_nil]
        exact looked.transparent
      | cons first before =>
        obtain ⟨rfl, rest⟩ := List.cons.inj whole
        rw [List.flatMap_cons, ← List.append_assoc]
        exact transparent before e after rest

theorem map_request_session (secrets : Secrets W) (namespace_ : String) (requests : List Request)
    (cache : Cache) (w : W) :
    (session secrets namespace_ requests cache w).map Exchange.request = requests := by
  induction requests generalizing cache w with
  | nil => rfl
  | cons request requests ih => rw [session, List.map_cons, ih]

/-- **What is remembered of secrets is not noticed.** A new resolver, whatever its store answers at
any time and whatever it is asked for, answers every reference as if it were looked up by itself
against what the store said of its secret: what was found the first time that reading it did not
fail, and the failure as long as there is no such time. It stops at the first reference without a
token. It reads the secrets that are needed and were not found so far, so it tries again what has
failed, and nothing else; it never reads a secret again once it was found, and it stays in its
namespace. -/
theorem session_transparent (secrets : Secrets W) (namespace_ : String) (requests : List Request)
    (w : W) :
    let exchanges := session secrets namespace_ requests [] w
    exchanges.map Exchange.request = requests ∧
    exchanges.map Exchange.answer = (replies secrets namespace_ requests [] w).1 ∧
    (∀ before e after, exchanges = before ++ e :: after →
      let past := before.flatMap Exchange.reads
      Transparent namespace_ past e.request.refs e.answer e.reads ∧
      ∀ name ∈ needed (heard (past ++ e.reads)) e.request.refs, found? name past = none →
        name ∈ e.reads.map Reading.name) ∧
    (exchanges.flatMap Exchange.reads).Pairwise Reading.Ahead := by
  obtain ⟨-, once, transparent⟩ :=
    session_remembered secrets namespace_ Cache.recalls_nil requests w
  refine ⟨map_request_session .., map_answer_session .., fun before e after whole => ?_, once⟩
  have told := transparent before e after whole
  rw [List.nil_append] at told
  refine ⟨told, fun name wanted unknown => ?_⟩
  rw [told.names, List.mem_eraseDups, List.mem_filter]
  exact ⟨wanted, by rw [unknown]; rfl⟩

example : (session (W := Unit) ⟨fun _ _ => pure (.ok none)⟩ "default"
    [.one ⟨"absent", "token"⟩, .several [none, some ⟨"absent", "other"⟩]] [] ()).map
      (fun e => e.reads.length) = [1, 0] := by decide

end HookRelay.Credential
