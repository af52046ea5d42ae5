import HookRelay.Proofs.Pass.Calls
import HookRelay.Proofs.World.InMemory

/-!
# Tokens are not told

What the secrets of a source hold goes to GitLab and nowhere else. Take two worlds that differ only
in the texts under the keys that the source refers to, and let GitLab not tell tokens apart. Then a
pass cannot be told from the same pass in the other world, but by the tokens that it hands to
GitLab: it ends with the same status and the same result, and asks the same of all collaborators
in the same order.

## Main definitions

* `Credential.SameBut` : two answers about a secret differ in the texts under some keys only
* `Collaborators.Discreet` : two worlds that differ in tokens only are answered alike
* `Pass.Call.hushed` : what was asked, without the tokens in it
* `InMemory.Alike` : two worlds in memory that differ in tokens only

## Main statements

* `Pass.tokens_unseen` : tokens are not told
* `InMemory.discreet` : the world in memory does not tell tokens apart
-/

namespace HookRelay

variable {S W α α' : Type}

/-! ## Two secrets that differ in tokens only -/

namespace Credential

/-- What stands under a key, unless it is a text and the key is one of some. -/
def veil (keys : List String) (key : String) (bytes : ByteArray) : Option ByteArray :=
  if key ∈ keys ∧ (String.fromUTF8? bytes).isSome then none else some bytes

/-- What a secret holds under its keys, without the texts under some of them. -/
def Data.veiled (keys : List String) (data : Data) : List (String × Option ByteArray) :=
  data.map fun e => (e.1, veil keys e.1 e.2)

/-- Two answers about a secret, which differ at most in the texts under some keys. -/
def SameBut (keys : List String) (answer' answer : Except String (Option Data)) : Prop :=
  answer'.map (Option.map (Data.veiled keys)) = answer.map (Option.map (Data.veiled keys))

theorem find?_veiled (keys : List String) (key : String) (data : Data) :
    ((data.veiled keys).find? fun e => e.1 = key).map Prod.snd =
      (data.find? key).map (veil keys key) := by
  induction data with
  | nil => rfl
  | cons e rest ih =>
    obtain ⟨k, bytes⟩ := e
    by_cases same : k = key
    · simp [Data.veiled, Data.find?, same]
    · simpa [Data.veiled, Data.find?, same] using ih

/-- Where two secrets hold the same but for some texts, each of these keys has a token in both or
in none. -/
theorem likewise_tokenOf {keys : List String} {found' found : Option Data}
    (same : found'.map (Data.veiled keys) = found.map (Data.veiled keys)) {ref : SecretKey}
    (mem : ref.key ∈ keys) :
    Likewise (fun _ _ => True) (tokenOf ref found') (tokenOf ref found) := by
  cases found' with
  | none =>
    cases found with
    | none => exact .error _
    | some data => cases same
  | some data' =>
    cases found with
    | none => cases same
    | some data =>
      have under := congrArg (fun d => (d.find? fun e => e.1 = ref.key).map Prod.snd)
        (Option.some.inj same)
      simp only [find?_veiled] at under
      unfold tokenOf
      cases there' : data'.find? ref.key with
      | none =>
        cases there : data.find? ref.key with
        | none => simpa only [there', there] using .error _
        | some bytes => simp [there', there] at under
      | some bytes' =>
        cases there : data.find? ref.key with
        | none => simp [there', there] at under
        | some bytes =>
          simp only [there', there]
          simp only [there', there, Option.map_some, Option.some.injEq, veil, mem, true_and]
            at under
          cases text' : String.fromUTF8? bytes' with
          | some token' =>
            cases text : String.fromUTF8? bytes with
            | some token => exact .ok trivial
            | none => simp [text', text] at under
          | none =>
            cases text : String.fromUTF8? bytes with
            | some token => simp [text', text] at under
            | none => exact .error _

end Credential

/-- The keys under which a source refers to texts of a secret, in `accessToken` and
`secretToken`. -/
def Source.keysIn (s : Source) (name : String) : List String :=
  (Pass.tokenKeys s).filterMap fun ref =>
    ref.bind fun r => if r.name = name then some r.key else none

theorem Source.mem_keysIn {s : Source} {ref : SecretKey} (mem : some ref ∈ Pass.tokenKeys s) :
    ref.key ∈ s.keysIn ref.name :=
  List.mem_filterMap.2 ⟨some ref, mem, by simp⟩

/-! ## Collaborators that do not tell tokens apart -/

/-- Collaborators answer alike on two worlds that differ in the tokens of a source only, and leave
two such worlds behind: secrets hold the same but for these tokens, GitLab does not tell tokens
apart, and nobody else sees them. -/
structure Collaborators.Discreet (differ : W → W → Prop) (s : Source) (team : Collaborators W) :
    Prop where
  secrets : ∀ name, (team.secrets.get s.namespaceOrEmpty name).Matches differ
    (Credential.SameBut (s.keysIn name)) (team.secrets.get s.namespaceOrEmpty name)
  hooks : team.hooks.Matches differ (fun _ _ => True) team.hooks
  lists : ∀ namespace_,
    (team.receivers.list namespace_).Simulates differ (team.receivers.list namespace_)
  creates : ∀ plan, (team.receivers.create plan).Simulates differ (team.receivers.create plan)
  sinks : ∀ namespace_ destination,
    (team.sinks.resolve namespace_ destination).Simulates differ
      (team.sinks.resolve namespace_ destination)
  notices : ∀ n, (team.notices.publish n).Simulates differ (team.notices.publish n)
  counters : ∀ n, (team.count n).Simulates differ (team.count n)

/-! ## What is asked, without tokens -/

/-- The fields of a hook without the secret that deliveries carry. -/
def Hook.Options.hushed (o : Hook.Options) : Hook.Options := { o with token := "" }

namespace Pass

/-- A call without the tokens in it: of a secret only the keys are left, and a client is asked for
and a hook written without their tokens. -/
def Call.hushed : Call → Call
  | readSecret namespace_ name answer =>
    readSecret namespace_ name (answer.map (Option.map (List.map fun e => (e.1, .empty))))
  | openClient scope _ refusal => openClient scope "" refusal
  | createHook options answer => createHook options.hushed answer
  | editHook id options answer => editHook id options.hushed answer
  | resolveSink namespace_ destination answer => resolveSink namespace_ destination answer
  | listAdapters namespace_ answer => listAdapters namespace_ answer
  | createAdapter plan answer => createAdapter plan answer
  | getHook id answer => getHook id answer
  | deleteHook id answer => deleteHook id answer
  | publish notice => publish notice
  | count counter => count counter

/-- The tokens in a call. -/
def Call.tokens : Call → List String
  | openClient _ token _ => [token]
  | createHook options _ | editHook _ options _ => [options.token]
  | _ => []

/-- Both worlds are related, and the records beside them are the same without tokens. -/
def Hushed (rel : S → W → Prop) (s : S × List Call) (t : W × List Call) : Prop :=
  rel s.1 t.1 ∧ s.2.map Call.hushed = t.2.map Call.hushed

end Pass

open Pass (Call Hushed)

/-- The keys of a secret are the same when the rest is. -/
theorem Credential.hushed_of_sameBut {keys : List String} {namespace_ name : String}
    {answer' answer : Except String (Option Data)} (same : SameBut keys answer' answer) :
    (Call.readSecret namespace_ name answer').hushed =
      (Call.readSecret namespace_ name answer).hushed := by
  have keysOnly (data : Data) : data.map (fun e => (e.1, ByteArray.empty)) =
      (data.veiled keys).map fun e => (e.1, ByteArray.empty) := by
    simp [Data.veiled, Function.comp_def]
  have all (a : Except String (Option Data)) :
      a.map (Option.map (List.map fun e => (e.1, ByteArray.empty))) =
        (a.map (Option.map (Data.veiled keys))).map
          (Option.map (List.map fun e => (e.1, ByteArray.empty))) := by
    obtain e | _ | data := a
    · rfl
    · rfl
    · exact congrArg (fun d => Except.ok (some d)) (keysOnly data)
  simp only [Call.hushed]
  rw [all answer', all answer, same]

section Recorded

variable {rel : S → W → Prop}

theorem Act.Matches.recorded {same : α' → α → Prop} {a' : Act S α'} {a : Act W α}
    (h : a'.Matches rel same a) {call' : α' → Call} {call : α → Call}
    (logged : ∀ {x' x}, same x' x → (call' x').hushed = (call x).hushed) :
    (a'.recorded call').Matches (Hushed rel) same (a.recorded call) := by
  intro s t related
  obtain ⟨worlds, logs⟩ := related
  obtain ⟨answers, moved⟩ := h worlds
  refine ⟨answers, moved, ?_⟩
  simp only [Act.recorded, List.map_cons]
  rw [logged answers, logs]

theorem Act.Matches.recorded_same {a' : Act S α} {a : Act W α} (h : a'.Simulates rel a)
    (call : α → Call) : (a'.recorded call).Simulates (Hushed rel) (a.recorded call) :=
  h.recorded fun {x' x} same => by rw [show x' = x from same]

theorem Hook.Client.Matches.recorded {c' : Client S} {c : Client W} {tok : String → String → Prop}
    (h : c'.Matches rel tok c) : c'.recorded.Matches (Hushed rel) tok c.recorded where
  get id := (h.get id).recorded_same _
  create o token' token tokens := by
    refine Act.Matches.recorded (h.create o tokens) fun {x' x} same => ?_
    rw [show x' = x from same]
    rfl
  edit id o token' token tokens := by
    refine Act.Matches.recorded (h.edit id o tokens) fun {x' x} same => ?_
    rw [show x' = x from same]
    rfl
  delete id := (h.delete id).recorded_same _

theorem Collaborators.Discreet.recorded {differ : W → W → Prop} {s : Source}
    {team : Collaborators W} (h : team.Discreet differ s) :
    team.recorded.Matches (Hushed differ) (fun _ _ => True) s team.recorded where
  secrets name := by
    refine Act.Matches.mono ((h.secrets name).recorded Credential.hushed_of_sameBut)
      fun {answer' answer} same => ?_
    cases answer' with
    | error cause' =>
      cases answer with
      | error cause =>
        obtain rfl := Except.error.inj same
        exact .error _
      | ok found => cases same
    | ok found' =>
      cases answer with
      | error cause => cases same
      | ok found =>
        refine .ok fun ref mem named => ?_
        subst named
        exact Credential.likewise_tokenOf (Except.ok.inj same) (Source.mem_keysIn mem)
  hooks scope token' token tokens := by
    refine Act.Matches.map (Act.Matches.recorded (h.hooks scope tokens) fun {r' r} handed => ?_)
      fun {r' r} handed => ?_
    · cases handed with
      | ok _ => rfl
      | error _ => rfl
    · cases handed with
      | ok both => exact .ok both.recorded
      | error e => exact .error e
  lists namespace_ := (h.lists namespace_).recorded_same _
  creates plan := (h.creates plan).recorded_same _
  sinks namespace_ destination := (h.sinks namespace_ destination).recorded_same _
  notices n := (h.notices n).recorded_same _
  counters n := (h.counters n).recorded_same _

end Recorded

/-- What a recorder changes nothing of is the same in two worlds when it is with the recorder. -/
theorem Act.Shadows.hushed {differ : W → W → Prop} {a' : Act (W × List Call) α} {a : Act W α}
    (shadows : a'.Shadows a) (alike : a'.Simulates (Hushed differ) a') {w₁ w₂ : W}
    (start : differ w₁ w₂) : (a w₁).1 = (a w₂).1 ∧ differ (a w₁).2 (a w₂).2 ∧
      (a' (w₁, [])).2.2.map Call.hushed = (a' (w₂, [])).2.2.map Call.hushed := by
  obtain ⟨answer₁, left₁⟩ := shadows (w₁, [])
  obtain ⟨answer₂, left₂⟩ := shadows (w₂, [])
  have related : Hushed differ (w₁, []) (w₂, []) := ⟨start, rfl⟩
  obtain ⟨answer, worlds, logs⟩ := alike related
  rw [answer₁, answer₂] at answer
  rw [left₁, left₂] at worlds
  exact ⟨answer, worlds, logs⟩

/-! ## The world in memory -/

theorem Hook.Options.url_of_hushed {o' o : Options} (same : o'.hushed = o.hushed) :
    o'.url = o.url := by
  show o'.hushed.url = o.hushed.url
  rw [same]

namespace Hook.Store

/-- A store without the secrets of its hooks, and without the record of what was asked. -/
def hushed (s : Store) : Store :=
  { s with hooks := s.hooks.map fun h => (h.1, h.2.hushed), calls := [] }

theorem find?_hushed (id : Int) (hooks : List (Int × Options)) :
    find? id (hooks.map fun h => (h.1, h.2.hushed)) = (find? id hooks).map Options.hushed := by
  induction hooks with
  | nil => rfl
  | cons h rest ih =>
    by_cases same : h.1 = id
    · simp [find?, same]
    · simpa [find?, same] using ih

theorem put_hushed (id : Int) (o : Options) (hooks : List (Int × Options)) :
    (put id o hooks).map (fun h => (h.1, h.2.hushed)) =
      put id o.hushed (hooks.map fun h => (h.1, h.2.hushed)) := by
  induction hooks with
  | nil => rfl
  | cons h rest ih =>
    by_cases same : h.1 = id
    · simp [put, same]
    · simpa [put, same] using ih

theorem drop_hushed (id : Int) (hooks : List (Int × Options)) :
    (drop id hooks).map (fun h => (h.1, h.2.hushed)) =
      drop id (hooks.map fun h => (h.1, h.2.hushed)) := by
  simp [drop, List.filter_map, Function.comp_def]

/-- Two stores differ in the secrets of their hooks only, and in the record of what was asked. -/
def Alike (s t : Store) : Prop := s.hushed = t.hushed

namespace Alike

variable {s t : Store} (alike : s.Alike t)
include alike

theorem error? (op : Operation) (id : Option Int) : s.error? op id = t.error? op id := by
  show s.hushed.error? op id = t.hushed.error? op id
  rw [alike]

theorem lastId : s.lastId = t.lastId := by
  show s.hushed.lastId = t.hushed.lastId
  rw [alike]

theorem clientError : s.clientError = t.clientError := by
  show s.hushed.clientError = t.hushed.clientError
  rw [alike]

theorem held (id : Int) : (s.held id).map Options.hushed = (t.held id).map Options.hushed := by
  have hooks : find? id s.hushed.hooks = find? id t.hushed.hooks := by rw [alike]
  simp only [hushed, find?_hushed] at hooks
  exact hooks

theorem record (c' c : Call) : (s.record c').Alike (t.record c) := alike

theorem put (id : Int) {o' o : Options} (same : o'.hushed = o.hushed) :
    Alike { s with hooks := Store.put id o' s.hooks }
      { t with hooks := Store.put id o t.hooks } := by
  have hooks := congrArg (fun u : Store => Store.put id o.hushed u.hooks) alike
  have rest := congrArg (fun u : Store => (u.mode, u.only, u.clientError, u.lastId)) alike
  simp only [hushed, Prod.mk.injEq] at hooks rest
  simp only [Alike, hushed, put_hushed, same, hooks, rest]

theorem drop (id : Int) :
    Alike { s with hooks := Store.drop id s.hooks } { t with hooks := Store.drop id t.hooks } := by
  have hooks := congrArg (fun u : Store => Store.drop id u.hooks) alike
  have rest := congrArg (fun u : Store => (u.mode, u.only, u.clientError, u.lastId)) alike
  simp only [hushed, Prod.mk.injEq] at hooks rest
  simp only [Alike, hushed, drop_hushed, hooks, rest]

end Alike

/-- A hook is there in two stores that are alike, or in neither; the two are then alike. -/
theorem Alike.held_cases {s t : Store} (alike : s.Alike t) (id : Int) :
    (s.held id = none ∧ t.held id = none) ∨
      ∃ o' o, s.held id = some o' ∧ t.held id = some o ∧ o'.hushed = o.hushed := by
  have same := alike.held id
  cases here' : s.held id with
  | none =>
    cases here : t.held id with
    | none => exact .inl ⟨rfl, rfl⟩
    | some o => simp [here', here] at same
  | some o' =>
    cases here : t.held id with
    | none => simp [here', here] at same
    | some o => exact .inr ⟨o', o, rfl, rfl, by simpa [here', here] using same⟩

theorem simulates_get (id : Int) : (get id).Simulates Alike (get id) := by
  intro s t alike
  rw [get_apply, get_apply, alike.error?]
  refine ⟨?_, alike.record _ _⟩
  cases t.error? .get (some id) with
  | some e => rfl
  | none =>
    obtain ⟨gone', gone⟩ | ⟨o', o, here', here, same⟩ := alike.held_cases id
    · rw [gone', gone]
    · rw [here', here]
      simp only [Options.url_of_hushed same]

theorem simulates_create {o' o : Options} (same : o'.hushed = o.hushed) :
    (create o').Simulates Alike (create o) := by
  intro s t alike
  have failing := alike.error? .create none
  cases fails : t.error? .create none with
  | some e =>
    rw [fails] at failing
    rw [create_of_error failing, create_of_error fails]
    exact ⟨rfl, alike.record _ _⟩
  | none =>
    rw [fails] at failing
    rw [create_of_healthy failing, create_of_healthy fails]
    rw [Options.url_of_hushed same, alike.lastId]
    refine ⟨rfl, ?_⟩
    have put := alike.put (t.lastId + 1) same
    exact congrArg (fun u : Store => { u with lastId := t.lastId + 1 }) put

theorem simulates_edit (id : Int) {o' o : Options} (same : o'.hushed = o.hushed) :
    (edit id o').Simulates Alike (edit id o) := by
  intro s t alike
  have failing := alike.error? .edit (some id)
  cases fails : t.error? .edit (some id) with
  | some e =>
    rw [fails] at failing
    rw [edit_of_error failing, edit_of_error fails]
    exact ⟨rfl, alike.record _ _⟩
  | none =>
    rw [fails] at failing
    obtain ⟨gone', gone⟩ | ⟨p', p, here', here, -⟩ := alike.held_cases id
    · rw [edit_of_missing failing gone', edit_of_missing fails gone]
      exact ⟨rfl, alike.record _ _⟩
    · rw [edit_of_found failing here', edit_of_found fails here]
      rw [Options.url_of_hushed same]
      exact ⟨rfl, alike.put id same⟩

theorem simulates_delete (id : Int) : (delete id).Simulates Alike (delete id) := by
  intro s t alike
  have failing := alike.error? .delete (some id)
  cases fails : t.error? .delete (some id) with
  | some e =>
    rw [fails] at failing
    rw [delete_of_error failing, delete_of_error fails]
    exact ⟨rfl, alike.record _ _⟩
  | none =>
    rw [fails] at failing
    obtain ⟨gone', gone⟩ | ⟨p', p, here', here, -⟩ := alike.held_cases id
    · rw [delete_of_missing failing gone', delete_of_missing fails gone]
      exact ⟨rfl, alike.record _ _⟩
    · rw [delete_of_found failing here', delete_of_found fails here]
      exact ⟨rfl, alike.drop id⟩

end Hook.Store

namespace InMemory

/-- Two worlds in memory differ in the tokens of a source only: in the texts that its secrets hold,
and in the secrets of hooks. -/
structure Alike (s : Source) (w' w : InMemory) : Prop where
  secrets : ∀ name, Credential.SameBut (s.keysIn name)
    (Credential.Memory.get s.namespaceOrEmpty name w'.secrets).1
    (Credential.Memory.get s.namespaceOrEmpty name w.secrets).1
  hooks : w'.hooks.Alike w.hooks
  receivers : w'.receivers = w.receivers
  sinks : w'.sinks = w.sinks
  notices : w'.notices = w.notices
  counters : w'.counters = w.counters

theorem simulates_hooksPart {s : Source} {a' a : Act Hook.Store α}
    (h : a'.Simulates Hook.Store.Alike a) :
    (hooksPart.act a').Simulates (Alike s) (hooksPart.act a) := by
  intro w' w alike
  obtain ⟨answer, hooks⟩ := h alike.hooks
  exact ⟨answer, { alike with hooks := hooks }⟩

theorem client_discreet (s : Source) (tok : String → String → Prop) :
    (Hook.Store.client hooksPart).Matches (Alike s) tok (Hook.Store.client hooksPart) where
  get id := simulates_hooksPart (Hook.Store.simulates_get id)
  create _ _ _ _ := simulates_hooksPart (Hook.Store.simulates_create rfl)
  edit id _ _ _ _ := simulates_hooksPart (Hook.Store.simulates_edit id rfl)
  delete id := simulates_hooksPart (Hook.Store.simulates_delete id)

theorem simulates_receiversPart {s : Source} (a : Act Receiver.Memory α) :
    (receiversPart.act a).Simulates (Alike s) (receiversPart.act a) := by
  intro w' w alike
  have answer := congrArg (fun m => (a m).1) alike.receivers
  have left := congrArg (fun m => (a m).2) alike.receivers
  exact ⟨answer, { alike with receivers := left }⟩

theorem simulates_sinksPart {s : Source} (a : Act Sink.Memory α) :
    (sinksPart.act a).Simulates (Alike s) (sinksPart.act a) := by
  intro w' w alike
  have answer := congrArg (fun m => (a m).1) alike.sinks
  have left := congrArg (fun m => (a m).2) alike.sinks
  exact ⟨answer, { alike with sinks := left }⟩

/-- **The world in memory does not tell tokens apart.** -/
theorem discreet (s : Source) : collaborators.Discreet (Alike s) s where
  secrets name w' w alike := ⟨alike.secrets name, { alike with secrets := alike.secrets }⟩
  hooks scope token' token _ w' w alike := by
    have refusal : (hooksPart.get w').clientError = (hooksPart.get w).clientError :=
      alike.hooks.clientError
    have left := alike.hooks.record (.client scope token') (.client scope token)
    rw [show collaborators.hooks = Hook.Store.provider hooksPart from rfl,
      Hook.Store.provider_apply, Hook.Store.provider_apply, refusal]
    refine ⟨?_, { alike with hooks := left }⟩
    cases (hooksPart.get w).clientError with
    | some e => exact .error e
    | none => exact .ok (client_discreet s _)
  lists namespace_ := simulates_receiversPart _
  creates plan := simulates_receiversPart _
  sinks namespace_ destination := simulates_sinksPart _
  notices n w' w alike := ⟨rfl, { alike with notices := congrArg (n :: ·) alike.notices }⟩
  counters c w' w alike := ⟨rfl, { alike with counters := congrArg (c :: ·) alike.counters }⟩

/-- A source that refers to a token for GitLab (`accessToken`) and to one for deliveries
(`secretToken`). -/
def guarded : Source :=
  { source with spec := { source.spec with secretToken := some ⟨"gitlab", "secret"⟩ } }

/-- A world in which these two tokens are given texts. -/
def keeping (token secret : String) : InMemory :=
  { untouched with secrets :=
      ⟨[("team/gitlab", [("token", token.toUTF8), ("secret", secret.toUTF8)])], none, []⟩ }

theorem get_keeping (token secret name : String) :
    (Credential.Memory.get guarded.namespaceOrEmpty name (keeping token secret).secrets).1 =
      .ok (if name = "gitlab" then some [("token", token.toUTF8), ("secret", secret.toUTF8)]
        else none) := by
  have place : Credential.Memory.place guarded.namespaceOrEmpty name = "team/" ++ name := by
    show "team" ++ "/" ++ name = "team/" ++ name
    rw [show "team" ++ "/" = "team/" by decide]
  have here : "team/gitlab" = "team/" ++ name ↔ name = "gitlab" := by
    rw [show "team/gitlab" = "team/" ++ "gitlab" by decide, String.append_right_inj, eq_comm]
  by_cases named : name = "gitlab"
  · rw [if_pos named]
    simp [Credential.Memory.get, Credential.Memory.find?, keeping, place, here.2 named]
  · rw [if_neg named]
    simp [Credential.Memory.get, Credential.Memory.find?, keeping, place, mt here.1 named]

theorem alike_keeping (token' secret' token secret : String) :
    Alike guarded (keeping token' secret') (keeping token secret) where
  secrets name := by
    have text (t : String) : (String.fromUTF8? t.toUTF8).isSome := by
      simp [String.fromUTF8?, t.isValidUTF8]
    have veiled (key t : String) (mem : key ∈ guarded.keysIn "gitlab") :
        Credential.veil (guarded.keysIn "gitlab") key t.toUTF8 = none :=
      if_pos ⟨mem, text t⟩
    rw [Credential.SameBut, get_keeping, get_keeping]
    by_cases named : name = "gitlab"
    · subst named
      have token : "token" ∈ guarded.keysIn "gitlab" := List.mem_cons_self ..
      have secret : "secret" ∈ guarded.keysIn "gitlab" :=
        List.mem_cons_of_mem _ (List.mem_cons_self ..)
      simp only [if_true, Except.map, Option.map, Credential.Data.veiled, List.map,
        veiled _ _ token, veiled _ _ secret]
    · simp only [named, if_false]
  hooks := rfl
  receivers := rfl
  sinks := rfl
  notices := rfl
  counters := rfl

end InMemory

/-! ## Tokens are not told -/

theorem Pass.through_team (p : Pass W) : p.through p.team = p := rfl

/-- **Tokens are not told.** In two worlds that differ in the tokens of a source only, a pass over
the source ends with the same status and the same result, leaves two such worlds behind, and asks
the same of all collaborators in the same order, but for the tokens in it. So does taking the
source down. -/
theorem Pass.tokens_unseen {differ : W → W → Prop} (p : Pass W)
    (discreet : p.team.Discreet differ p.source) {w₁ w₂ : W} (start : differ w₁ w₂) :
    ((p.converge w₁).1 = (p.converge w₂).1 ∧ differ (p.converge w₁).2 (p.converge w₂).2 ∧
      (p.calls w₁).map Call.hushed = (p.calls w₂).map Call.hushed) ∧
    (p.finalize w₁).1 = (p.finalize w₂).1 ∧ differ (p.finalize w₁).2 (p.finalize w₂).2 ∧
      (p.partings w₁).map Call.hushed = (p.partings w₂).map Call.hushed := by
  have alike : p.recorded.team.Matches (Hushed differ) (fun _ _ => True) p.recorded.source
    p.recorded.team := discreet.recorded
  have converges := matches_converge alike trivial
  have finalizes := matches_finalize alike
  rw [through_team] at converges finalizes
  exact ⟨p.converge_recorded.hushed converges start, p.finalize_recorded.hushed finalizes start⟩

open InMemory in
/-- Two tokens are given to GitLab, and nothing else can be told of them. -/
theorem Pass.tokens_unseen_keeping :
    ((passOver guarded).calls (keeping "one" "two")).flatMap Call.tokens = ["two", "one"] ∧
    ((passOver guarded).calls (keeping "three" "four")).flatMap Call.tokens = ["four", "three"] ∧
    ((passOver guarded).converge (keeping "one" "two")).1 =
      ((passOver guarded).converge (keeping "three" "four")).1 ∧
    ((passOver guarded).calls (keeping "one" "two")).map Call.hushed =
      ((passOver guarded).calls (keeping "three" "four")).map Call.hushed := by
  have unseen := tokens_unseen (passOver guarded) (discreet guarded)
    (alike_keeping "one" "two" "three" "four")
  refine ⟨by decide +kernel, by decide +kernel, unseen.1.1, unseen.1.2.2⟩

end HookRelay
