import HookRelay.Proofs.Pass.Simulation

/-!
# What a pass asks of its collaborators

A pass does everything through its collaborators. Put a recorder between the two, and what the
pass did is the list of what it asked, each with the answer. The recorder changes nothing: the
pass ends as it would without, in the same world.

## Main definitions

* `Pass.Call` : what was asked of a collaborator, with the answer
* `Act.recorded`, `Collaborators.recorded`, `Pass.recorded` : the recorder
* `Collaborators.noted` : a recorder that writes in another form
* `Pass.calls`, `Pass.partings` : what a whole pass asks, and what taking a source down asks

## Main statements

* `Collaborators.simulates_noted` : recorders change nothing
* `Pass.converge_recorded`, `Pass.finalize_recorded` : recorded passes end as they would without
* `Pass.converge_noted`, `Pass.finalize_noted` : what is recorded is the same in every form
-/

namespace HookRelay

/-- What was asked of one of the `Collaborators`, with the answer. -/
inductive Pass.Call where
  | resolveSink (namespace_ : String) (destination : Destination)
      (answer : Except Sink.Error String)
  | listAdapters (namespace_ : String) (answer : Except Receiver.Error (List Receiver))
  | createAdapter (plan : Receiver.Plan) (answer : Except Receiver.Error Receiver)
  | readSecret (namespace_ name : String) (answer : Except String (Option Credential.Data))
  /-- A client was asked for, and refused if there is an error. -/
  | openClient (scope : Scope) (accessToken : String) (refusal : Option Hook.Error)
  | getHook (id : Int) (answer : Except Hook.Error Hook.Reported)
  | createHook (options : Hook.Options) (answer : Except Hook.Error Hook.Reported)
  | editHook (id : Int) (options : Hook.Options) (answer : Except Hook.Error Hook.Reported)
  | deleteHook (id : Int) (answer : Except Hook.Error Unit)
  | publish (notice : Notice)
  | count (counter : Counter)

/-! ## The recorder -/

variable {W α β : Type}

/-- An action with a record of what it was and what it answered, the latest first. -/
def Act.recorded (call : α → Pass.Call) (a : Act W α) : Act (W × List Pass.Call) α := fun s =>
  ((a s.1).1, (a s.1).2, call (a s.1).1 :: s.2)

/-- A client that is recorded. -/
def Hook.Client.recorded (c : Hook.Client W) : Hook.Client (W × List Pass.Call) where
  get id := (c.get id).recorded (.getHook id)
  create options := (c.create options).recorded (.createHook options)
  edit id options := (c.edit id options).recorded (.editHook id options)
  delete id := (c.delete id).recorded (.deleteHook id)

/-- The error of a result, if it is one. -/
def errorOf? {ε : Type} : Except ε α → Option ε
  | .ok _ => none
  | .error e => some e

/-- Collaborators that are recorded, with the clients that they hand out. -/
def Collaborators.recorded (team : Collaborators W) : Collaborators (W × List Pass.Call) where
  secrets.get namespace_ name :=
    (team.secrets.get namespace_ name).recorded (.readSecret namespace_ name)
  hooks.client scope token :=
    Except.map Hook.Client.recorded <$>
      (team.hooks.client scope token).recorded fun r => .openClient scope token (errorOf? r)
  receivers.list namespace_ := (team.receivers.list namespace_).recorded (.listAdapters namespace_)
  receivers.create plan := (team.receivers.create plan).recorded (.createAdapter plan)
  sinks.resolve namespace_ destination :=
    (team.sinks.resolve namespace_ destination).recorded (.resolveSink namespace_ destination)
  notices.publish notice := (team.notices.publish notice).recorded fun _ => .publish notice
  count counter := (team.count counter).recorded fun _ => .count counter

/-- Asking for a client through the recorder. -/
theorem Collaborators.client_recorded (team : Collaborators W) (scope : Scope) (token : String)
    (s : W × List Pass.Call) : team.recorded.hooks.client scope token s =
      ((team.hooks.client scope token s.1).1.map Hook.Client.recorded,
        (team.hooks.client scope token s.1).2,
        .openClient scope token (errorOf? (team.hooks.client scope token s.1).1) :: s.2) := rfl

/-- The client that a recorded provider hands out is a recorded one. -/
theorem Collaborators.exists_client (team : Collaborators W) {scope : Scope} {token : String}
    {s s' : W × List Pass.Call} {c' : Hook.Client (W × List Pass.Call)}
    (run : team.recorded.hooks.client scope token s = (.ok c', s')) :
    ∃ c, team.hooks.client scope token s.1 = (.ok c, s'.1) ∧ c' = c.recorded := by
  rcases opened : team.hooks.client scope token s.1 with ⟨client, w₁⟩
  rw [team.client_recorded, opened] at run
  cases client with
  | error e => cases run
  | ok client =>
    cases run
    exact ⟨client, rfl, rfl⟩

/-- An action with a record in any form of what it was and what it answered, the latest first. -/
def Act.noted {E : Type} (entry : α → E) (a : Act W α) : Act (W × List E) α := fun s =>
  ((a s.1).1, (a s.1).2, entry (a s.1).1 :: s.2)

/-- A client whose calls are recorded in another form. -/
def Hook.Client.noted {E : Type} (entry : Pass.Call → E) (c : Hook.Client W) :
    Hook.Client (W × List E) where
  get id := (c.get id).noted fun r => entry (.getHook id r)
  create options := (c.create options).noted fun r => entry (.createHook options r)
  edit id options := (c.edit id options).noted fun r => entry (.editHook id options r)
  delete id := (c.delete id).noted fun r => entry (.deleteHook id r)

/-- Collaborators whose calls are recorded in another form, with the clients that they hand out. -/
def Collaborators.noted {E : Type} (entry : Pass.Call → E) (team : Collaborators W) :
    Collaborators (W × List E) where
  secrets.get namespace_ name :=
    (team.secrets.get namespace_ name).noted fun r => entry (.readSecret namespace_ name r)
  hooks.client scope token :=
    Except.map (Hook.Client.noted entry) <$>
      (team.hooks.client scope token).noted fun r => entry (.openClient scope token (errorOf? r))
  receivers.list namespace_ :=
    (team.receivers.list namespace_).noted fun r => entry (.listAdapters namespace_ r)
  receivers.create plan :=
    (team.receivers.create plan).noted fun r => entry (.createAdapter plan r)
  sinks.resolve namespace_ destination :=
    (team.sinks.resolve namespace_ destination).noted fun r =>
      entry (.resolveSink namespace_ destination r)
  notices.publish notice := (team.notices.publish notice).noted fun _ => entry (.publish notice)
  count counter := (team.count counter).noted fun _ => entry (.count counter)

namespace Pass

/-- A pass that is recorded. -/
def recorded (p : Pass W) : Pass (W × List Call) :=
  ⟨p.team.recorded, p.settings, p.now, p.source⟩

/-- What a whole pass, `Pass.converge`, asks of its collaborators, the latest first. -/
def calls (p : Pass W) (w : W) : List Call := (p.recorded.converge (w, [])).2.2

/-- What taking a source down, `Pass.finalize`, asks of its collaborators, the latest first. -/
def partings (p : Pass W) (w : W) : List Call := (p.recorded.finalize (w, [])).2.2

end Pass

namespace Hook

/-- The counter of recorded collaborators. -/
abbrev countRecorded (count : Counter → Act W Unit) (c : Counter) :
    Act (W × List Pass.Call) Unit :=
  (count c).recorded fun _ => .count c

end Hook

/-! ## Recorders change nothing -/

/-- An action on a world with a record does what another does on the world alone. -/
def Act.Shadows {R : Type} (a' : Act (W × R) α) (a : Act W α) : Prop :=
  ∀ s, (a' s).1 = (a s.1).1 ∧ (a' s).2.1 = (a s.1).2

namespace Act.Shadows

variable {R : Type} {a' : Act (W × R) α} {a : Act W α}

theorem pure (x : α) : (Pure.pure x : Act (W × R) α).Shadows (Pure.pure x : Act W α) := fun _ =>
  ⟨rfl, rfl⟩

theorem bind {f' : α → Act (W × R) β} {f : α → Act W β} (first : a'.Shadows a)
    (rest : ∀ x, (f' x).Shadows (f x)) : (a' >>= f').Shadows (a >>= f) := by
  intro s
  obtain ⟨answer, world⟩ := first s
  have second := rest (a' s).1 (a' s).2
  rw [answer, world] at second
  simpa only [Act.bind_apply, answer] using second

theorem of_simulates (h : a'.Simulates (fun s w => s.1 = w) a) : a'.Shadows a := fun _ => h rfl

theorem eq (h : a'.Shadows a) {s s' : W × R} {x : α} (run : a' s = (x, s')) :
    a s.1 = (x, s'.1) := by
  obtain ⟨answer, world⟩ := h s
  rw [run] at answer world
  exact Prod.ext answer.symm world.symm

theorem runs (h : a'.Shadows a) {s : W × R} {x : α} {w' : W} (run : a s.1 = (x, w')) :
    ∃ log, a' s = (x, w', log) := by
  obtain ⟨answer, world⟩ := h s
  rw [run] at answer world
  exact ⟨_, Prod.ext answer (Prod.ext world rfl)⟩

theorem recorded (call : α → Pass.Call) (a : Act W α) : (a.recorded call).Shadows a := fun _ =>
  ⟨rfl, rfl⟩

end Act.Shadows

section Noted

variable {E : Type}

theorem Act.simulates_noted (entry : α → E) (a : Act W α) :
    (a.noted entry).Simulates (fun s w => s.1 = w) a := by
  rintro s w rfl
  exact ⟨rfl, rfl⟩

variable (entry : Pass.Call → E)

theorem Hook.Client.simulates_noted (c : Hook.Client W) :
    (c.noted entry).Simulates (fun s w => s.1 = w) c where
  get id := Act.simulates_noted _ (c.get id)
  create options := Act.simulates_noted _ (c.create options)
  edit id options := Act.simulates_noted _ (c.edit id options)
  delete id := Act.simulates_noted _ (c.delete id)

/-- **Recorders change nothing**: recorded collaborators answer as without, and do to the world what
they would do without. -/
theorem Collaborators.simulates_noted (team : Collaborators W) :
    (team.noted entry).Simulates (fun s w => s.1 = w) team where
  secrets namespace_ name := Act.simulates_noted _ (team.secrets.get namespace_ name)
  hooks scope token := by
    rintro s w rfl
    refine ⟨?_, rfl⟩
    show Hook.Handed _ ((team.hooks.client scope token s.1).1.map (Hook.Client.noted entry)) _
    cases (team.hooks.client scope token s.1).1 with
    | error e => exact .refused e
    | ok c => exact .client (c.simulates_noted entry)
  lists namespace_ := Act.simulates_noted _ (team.receivers.list namespace_)
  creates plan := Act.simulates_noted _ (team.receivers.create plan)
  sinks namespace_ destination := Act.simulates_noted _ (team.sinks.resolve namespace_ destination)
  notices n := Act.simulates_noted _ (team.notices.publish n)
  counters n := Act.simulates_noted _ (team.count n)

/-! ### What is written in another form -/

/-- Both worlds are the same, and the record on one side is that on the other in another form,
behind what was written before. -/
def Copies (before : List E) (s : W × List E) (t : W × List Pass.Call) : Prop :=
  s.1 = t.1 ∧ s.2 = t.2.map entry ++ before

variable (before : List E)

theorem Act.simulates_copied (call : α → Pass.Call) (a : Act W α) :
    (a.noted fun r => entry (call r)).Simulates (Copies entry before) (a.recorded call) := by
  rintro ⟨w, copy⟩ ⟨w', log⟩ ⟨same, copied⟩
  have same : w = w' := same
  have copied : copy = log.map entry ++ before := copied
  subst same copied
  exact ⟨rfl, rfl, rfl⟩

theorem Hook.Client.simulates_copied (c : Hook.Client W) :
    (c.noted entry).Simulates (Copies entry before) c.recorded where
  get id := Act.simulates_copied entry before _ (c.get id)
  create options := Act.simulates_copied entry before _ (c.create options)
  edit id options := Act.simulates_copied entry before _ (c.edit id options)
  delete id := Act.simulates_copied entry before _ (c.delete id)

theorem Collaborators.simulates_copied (team : Collaborators W) :
    (team.noted entry).Simulates (Copies entry before) team.recorded where
  secrets namespace_ name :=
    Act.simulates_copied entry before _ (team.secrets.get namespace_ name)
  hooks scope token := by
    intro s t copied
    obtain ⟨-, moved⟩ := Act.simulates_copied entry before
      (fun r => .openClient scope token (errorOf? r)) (team.hooks.client scope token) copied
    refine ⟨?_, moved⟩
    show Hook.Handed _ ((team.hooks.client scope token s.1).1.map (Hook.Client.noted entry))
      ((team.hooks.client scope token t.1).1.map Hook.Client.recorded)
    rw [copied.1]
    cases (team.hooks.client scope token t.1).1 with
    | error e => exact .refused e
    | ok c => exact .client (c.simulates_copied entry before)
  lists namespace_ := Act.simulates_copied entry before _ (team.receivers.list namespace_)
  creates plan := Act.simulates_copied entry before _ (team.receivers.create plan)
  sinks namespace_ destination :=
    Act.simulates_copied entry before _ (team.sinks.resolve namespace_ destination)
  notices n := Act.simulates_copied entry before (fun _ => .publish n) (team.notices.publish n)
  counters n := Act.simulates_copied entry before (fun _ => .count n) (team.count n)

end Noted

/-- A recorded pass ends as it would without, and leaves the same world behind. -/
theorem Pass.converge_recorded (p : Pass W) : p.recorded.converge.Shadows p.converge :=
  .of_simulates (simulates_converge (p.team.simulates_noted id))

/-- A source is taken down as it would be without a recorder. -/
theorem Pass.finalize_recorded (p : Pass W) : p.recorded.finalize.Shadows p.finalize :=
  .of_simulates (simulates_finalize (p.team.simulates_noted id))

theorem Pass.converge_noted {E : Type} (entry : Call → E) (p : Pass W) (w : W) (before : List E) :
    (p.through (p.team.noted entry)).converge (w, before) =
      ((p.converge w).1, (p.converge w).2, (p.calls w).map entry ++ before) := by
  have copied : Copies entry before (w, before) (w, []) := ⟨rfl, rfl⟩
  have alike := p.team.simulates_copied entry before
  obtain ⟨answer, world, log⟩ := simulates_converge (p := p.recorded) alike copied
  obtain ⟨answered, left⟩ := p.converge_recorded (w, [])
  exact Prod.ext (answer.trans answered) (Prod.ext (world.trans left) log)

theorem Pass.finalize_noted {E : Type} (entry : Call → E) (p : Pass W) (w : W) (before : List E) :
    (p.through (p.team.noted entry)).finalize (w, before) =
      ((p.finalize w).1, (p.finalize w).2, (p.partings w).map entry ++ before) := by
  have copied : Copies entry before (w, before) (w, []) := ⟨rfl, rfl⟩
  have alike := p.team.simulates_copied entry before
  obtain ⟨answer, world, log⟩ := simulates_finalize (p := p.recorded) alike copied
  obtain ⟨answered, left⟩ := p.finalize_recorded (w, [])
  exact Prod.ext (answer.trans answered) (Prod.ext (world.trans left) log)

end HookRelay
