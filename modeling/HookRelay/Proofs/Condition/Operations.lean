import HookRelay.Proofs.Condition.Untouched

/-!
# Working on a list of conditions

A list of conditions is worked on by completing it and by judging conditions, in any order and at
any times. It may hold anything to begin with: several conditions of one name, names that nobody
declared, texts that are no status. Behind every operation readiness is the conjunction of the
conditions that contribute to it. The operation moves a time only together with a status, loses
nothing, and does nothing when it is repeated.

A condition is written at most once by an operation: judging writes the judged one and then that of
readiness, and these are two. Hence what holds of one writing holds of the operation.

## Main definitions

* `Operation`, `Set.perform` : what is done to a list
* `Set.conjunction` : what the contributing conditions make of readiness
* `Set.Effect` : what an operation makes of a list
* `Set.Leads` : the lists that operations lead to

## Main statements

* `Set.verdict_eq` : what follows for readiness is the conjunction
* `Set.effect_perform` : what one operation does
* `Set.Leads.next_effect` : what every operation does, however long the list was worked on before
-/

namespace HookRelay.Condition

variable {now later : Time.Instant} {name other : String} {f : Finding} {cs ds : List Condition}

/-! ## Conjunctions of findings -/

/-- The first finding that fails. -/
def firstFailing (fs : List Finding) : Option Finding := fs.find? fun f => f.status = fails

/-- The first finding that does not hold. -/
def firstOpen (fs : List Finding) : Option Finding := fs.find? fun f => f.status ≠ holds

/-- **The conjunction of findings**: it is `False` as the first one that fails, else `Unknown` for
the reason of the first one that does not hold, and else `True`. -/
def conjunctionOf (fs : List Finding) : Finding :=
  match firstFailing fs, firstOpen fs with
  | some f, _ => ⟨fails, f.reason, f.message⟩
  | none, some f => ⟨unknown, f.reason, f.message⟩
  | none, none => ⟨holds, none, none⟩

/-- What is said about a condition; one that is missing is unknown. -/
def saying (name : String) (cs : List Condition) : Finding :=
  (findingOf name cs).getD ⟨unknown, none, none⟩

theorem firstFailing_cons (f : Finding) (fs : List Finding) :
    firstFailing (f :: fs) = if f.status = fails then some f else firstFailing fs := by
  by_cases failing : f.status = fails <;> simp [firstFailing, failing]

theorem firstOpen_cons (f : Finding) (fs : List Finding) :
    firstOpen (f :: fs) = if f.status = holds then firstOpen fs else some f := by
  by_cases holding : f.status = holds <;> simp [firstOpen, holding]

/-! ## One writing -/

/-- A `lastTransitionTime` that moved together with the status, to the given time, or not at all. -/
def Stamped (now : Time.Instant) (c c' : Condition) : Prop :=
  c'.since = if c'.status = c.status then c.since else some now.render

theorem stamped_refl (c : Condition) : Stamped now c c := (if_pos rfl).symm

theorem stamped_update (c : Condition) : Stamped now c (update now f c) := by
  simp [Stamped, update, eq_comm]

/-- The first condition of a name is written, and none of the others. -/
theorem named_write_self {c : Condition} {rest : List Condition}
    (here : named name cs = c :: rest) :
    named name (write now name f cs) = update now f c :: rest := by
  induction cs with
  | nil => cases here
  | cons d ds ih =>
    rw [named_cons] at here
    by_cases first : d.name = name
    · rw [if_pos first] at here
      cases here
      rw [write, if_pos first, named_cons, if_pos (show (update now f c).name = name from first)]
    · rw [if_neg first] at here
      rw [write, if_neg first, named_cons, if_neg first, ih here]

/-- Nothing of a name is lost: the first condition may have been written, and its time moves with
its status; the others are as they were. -/
def Carried (now : Time.Instant) (name : String) (cs ds : List Condition) : Prop :=
  ∀ c rest, named name cs = c :: rest → ∃ c', named name ds = c' :: rest ∧ Stamped now c c'

theorem Carried.of_eq (same : named name ds = named name cs) : Carried now name cs ds :=
  fun c _ here => ⟨c, same.trans here, stamped_refl c⟩

theorem carried_write : Carried now name cs (write now name f cs) :=
  fun c _ here => ⟨_, named_write_self here, stamped_update c⟩

/-- What was left as it was before one writing is kept by it. -/
theorem Carried.write (same : named name cs = named name ds) :
    Carried now name ds (write now name f cs) :=
  fun c rest here => carried_write c rest (same.trans here)

/-! ## Operations -/

/-- What can be done to a list of conditions: `Set.complete`, `markTrue`, `markFalse` and
`markUnknown`. -/
inductive Operation where
  | complete
  | markTrue (name : String)
  | markFalse (name reason message : String)
  | markUnknown (name reason message : String)
  deriving DecidableEq, Repr

/-- What an operation says about which condition, if it judges one. -/
def Operation.judgement? : Operation → Option (String × Finding)
  | complete => none
  | markTrue name => some (name, ⟨holds, none, none⟩)
  | markFalse name reason message => some (name, ⟨fails, some reason, some message⟩)
  | markUnknown name reason message => some (name, ⟨unknown, some reason, some message⟩)

/-- An operation that does not judge the condition of the given name itself. -/
def Operation.Avoids (op : Operation) (name : String) : Prop := ∀ f, op.judgement? ≠ some (name, f)

theorem Operation.avoids_complete : Operation.complete.Avoids name := fun _ h => by cases h

theorem Operation.avoids_of_ne {op : Operation} (judges : op.judgement? = some (name, f))
    (ne : name ≠ other) : op.Avoids other := by
  intro g judges'
  cases judges.symm.trans judges'
  exact ne rfl

theorem Operation.Avoids.ne {op : Operation} (away : op.Avoids other)
    (judges : op.judgement? = some (name, f)) : name ≠ other := by
  rintro rfl
  exact away f judges

namespace Set

variable {s : Set} {op : Operation}

/-- Performs an operation. -/
def perform (s : Set) (now : Time.Instant) : Operation → List Condition → List Condition
  | .complete => s.complete now
  | .markTrue name => s.markTrue now name
  | .markFalse name reason message => s.markFalse now name reason message
  | .markUnknown name reason message => s.markUnknown now name reason message

/-- An operation completes the list, or judges one condition. -/
theorem perform_cases (op : Operation) :
    (op.judgement? = none ∧ ∀ now, s.perform now op = s.complete now) ∨
    ∃ name f, op.judgement? = some (name, f) ∧ ∀ now, s.perform now op = s.mark now name f := by
  cases op with
  | complete => exact .inl ⟨rfl, fun _ => rfl⟩
  | markTrue name => exact .inr ⟨name, _, rfl, fun _ => rfl⟩
  | markFalse name reason message => exact .inr ⟨name, _, rfl, fun _ => rfl⟩
  | markUnknown name reason message => exact .inr ⟨name, _, rfl, fun _ => rfl⟩

/-! ## Readiness as a conjunction -/

/-- The names of the conditions that contribute to readiness, in their order. -/
def contributing (s : Set) : List String :=
  (s.members.filter Member.contributes).map Member.name

/-- **What the contributing conditions make of readiness**, told without `Set.verdict`: their
conjunction. -/
def conjunction (s : Set) (cs : List Condition) : Finding :=
  conjunctionOf (s.contributing.map (saying · cs))

/-- What is said about the contributing ones of some conditions. -/
def sayings (cs : List Condition) (members : List Member) : List Finding :=
  (members.filter Member.contributes).map fun m => saying m.name cs

/-- The next condition decides, or leaves what was pending, or is pending itself. -/
theorem judge_cons (m : Member) (ms : List Member) (pending : Option Finding) :
    judge cs pending (m :: ms) =
      if m.contributes then
        if (saying m.name cs).status = fails then saying m.name cs
        else if (saying m.name cs).status = holds then judge cs pending ms
        else judge cs
          (pending <|> some ⟨unknown, (saying m.name cs).reason, (saying m.name cs).message⟩) ms
      else judge cs pending ms := by
  rw [judge, saying, findingOf]
  cases m.contributes with
  | false => rfl
  | true =>
    cases find? m.name cs with
    | none => rfl
    | some c =>
      by_cases failing : c.status = fails
      · simp [finding, failing]
      · simp [finding, failing]

/-- Once a condition is pending, only one that fails still counts. -/
theorem judge_pending (members : List Member) (g : Finding) :
    judge cs (some g) members = (firstFailing (sayings cs members)).getD g := by
  induction members with
  | nil => rfl
  | cons m ms ih =>
    rw [judge_cons, sayings, List.filter_cons]
    cases m.contributes with
    | false => exact ih
    | true =>
      rw [if_pos rfl, if_pos rfl, List.map_cons, firstFailing_cons]
      split
      · rfl
      · split
        · exact ih
        · exact ih

/-- **What follows for readiness is the conjunction.** -/
theorem verdict_eq (s : Set) (cs : List Condition) : s.verdict cs = s.conjunction cs := by
  rw [verdict, conjunction, contributing, List.map_map]
  show judge cs none s.members = conjunctionOf (sayings cs s.members)
  induction s.members with
  | nil => rfl
  | cons m ms ih =>
    rw [judge_cons, sayings, List.filter_cons]
    cases m.contributes with
    | false => exact ih
    | true =>
      rw [if_pos rfl, if_pos rfl, List.map_cons, conjunctionOf, firstFailing_cons, firstOpen_cons]
      by_cases failing : (saying m.name cs).status = fails
      · rw [if_pos failing, if_pos failing]
        dsimp only
        rw [← failing]
      · rw [if_neg failing, if_neg failing]
        by_cases holding : (saying m.name cs).status = holds
        · rw [if_pos holding, if_pos holding]
          exact ih
        · -- from here on this one is pending
          rw [if_neg holding, if_neg holding]
          refine (judge_pending ms _).trans ?_
          have fails_of : ∀ f, firstFailing (sayings cs ms) = some f → f.status = fails :=
            fun f first => by simpa using List.find?_some first
          show _ = match firstFailing (sayings cs ms), some (saying m.name cs) with
            | some f, _ => _
            | none, some f => _
            | none, none => _
          cases first : firstFailing (sayings cs ms) with
          | none => rfl
          | some f =>
            dsimp only [Option.getD_some]
            rw [← fails_of f first]

/-- Only what is said about contributing conditions counts. -/
theorem conjunction_congr (same : ∀ n ∈ s.contributing, saying n ds = saying n cs) :
    s.conjunction ds = s.conjunction cs := by
  rw [conjunction, conjunction, List.map_congr_left same]

theorem find?_eq_head? (name : String) (cs : List Condition) :
    find? name cs = (named name cs).head? :=
  List.head?_filter.symm

/-- A condition that is left alone, or added as unknown, says what it said. -/
theorem Leaves.saying_eq (leaves : s.Leaves now name cs ds) : saying name ds = saying name cs := by
  rw [saying, saying, findingOf, findingOf, find?_eq_head?, find?_eq_head?]
  cases leaves with
  | same same => rw [same]
  | added declared missing unknown =>
    rw [missing, unknown]
    rfl

/-! ## One operation -/

/-- **What an operation makes of a list of conditions**: one step of `Leads`. -/
structure Effect (s : Set) (now : Time.Instant) (op : Operation) (before after : List Condition) :
    Prop where
  /-- Readiness is the conjunction of the contributing conditions. -/
  conjunct : findingOf s.ready after = some (s.conjunction after)
  /-- Conditions that do not contribute have no part in it. -/
  unswayed : ∀ (at_ : Time.Instant) (others : List Condition),
    (∀ n ∈ s.contributing, findingOf n others = findingOf n before) →
      findingOf s.ready (s.perform at_ op others) = findingOf s.ready after
  /-- The condition that is judged says so. -/
  said : ∀ name f, op.judgement? = some (name, f) → findingOf name after = some f
  /-- All others are as they were; a declared one that was missing may have been added. -/
  others : ∀ name, name ≠ s.ready → op.Avoids name → s.Leaves now name before after
  /-- No condition is lost, and its time has moved exactly if its status has changed. -/
  carried : ∀ name, Carried now name before after
  /-- The same operation changes nothing later on. -/
  again : ∀ later, s.perform later op after = after

theorem ne_ready_of_contributing (apart : s.Apart) (mem : name ∈ s.contributing) :
    name ≠ s.ready := by
  obtain ⟨m, listed, rfl⟩ := List.mem_map.1 mem
  exact apart m (List.mem_filter.1 listed).1

/-- What is said by the conditions that an operation leaves, told by what was said before. -/
theorem saying_perform_congr (ne : name ≠ s.ready) (away : op.Avoids s.ready) (now' : Time.Instant)
    (same : findingOf name ds = findingOf name cs) :
    saying name (s.perform now' op ds) = saying name (s.perform now op cs) := by
  have same' : saying name ds = saying name cs := by rw [saying, same, saying]
  obtain ⟨-, performs⟩ | ⟨judged, f, judges, performs⟩ := perform_cases (s := s) op
  · rw [performs, performs, (leaves_complete ne).saying_eq, (leaves_complete ne).saying_eq, same']
  · have notReady : judged ≠ s.ready := away.ne judges
    rw [performs, performs]
    by_cases here : name = judged
    · rw [here, saying, saying, findingOf_mark_self notReady, findingOf_mark_self notReady]
    · rw [saying, saying, findingOf_mark_of_ne notReady ne here,
        findingOf_mark_of_ne notReady ne here, ← saying, ← saying, same']

/-- An operation brings readiness in line with the contributing conditions. -/
theorem derived_perform (apart : s.Apart) (away : op.Avoids s.ready) :
    findingOf s.ready (s.perform now op cs) = some (s.conjunction (s.perform now op cs)) := by
  rw [← verdict_eq]
  obtain ⟨-, performs⟩ | ⟨judged, f, judges, performs⟩ := perform_cases (s := s) op
  · rw [performs]
    exact derived_derive apart
  · rw [performs, mark, if_neg (away.ne judges)]
    exact derived_derive apart

theorem unswayed_perform (apart : s.Apart) (away : op.Avoids s.ready) (now' : Time.Instant)
    (same : ∀ n ∈ s.contributing, findingOf n ds = findingOf n cs) :
    findingOf s.ready (s.perform now' op ds) = findingOf s.ready (s.perform now op cs) := by
  rw [derived_perform apart away, derived_perform apart away]
  refine congrArg some (conjunction_congr fun n mem => ?_)
  exact saying_perform_congr (ne_ready_of_contributing apart mem) away now' (same n mem)

/-- **Completing a list keeps all conditions.** -/
theorem carried_complete : Carried now name cs (s.complete now cs) := by
  intro c rest here
  have listed : named name (s.arrange (addMissing now s.names cs)) = named name cs := by
    rw [named_arrange, named_addMissing_of_ne_nil _ (by rw [here]; exact List.cons_ne_nil _ _)]
  rw [complete, derive]
  by_cases ready : name = s.ready
  · rw [← ready]
    exact Carried.write listed c rest here
  · exact Carried.of_eq ((named_write_of_ne ready).trans listed) c rest here

/-- **Judging a condition keeps all conditions**: that of readiness and the judged one are written
once each. -/
theorem carried_mark (ne : name ≠ s.ready) : Carried now other cs (s.mark now name f cs) := by
  rw [mark, if_neg ne, derive]
  by_cases ready : other = s.ready
  · rw [ready]
    exact Carried.write (named_write_of_ne ne.symm)
  · by_cases judged : other = name
    · rw [judged]
      intro c rest here
      rw [named_write_of_ne ne]
      exact carried_write c rest here
    · exact .of_eq ((named_write_of_ne ready).trans (named_write_of_ne judged))

/-- Judging a condition in the same way again changes nothing, whatever the list holds. -/
theorem mark_mark (apart : s.Apart) (ne : name ≠ s.ready) :
    s.mark later name f (s.mark now name f cs) = s.mark now name f cs := by
  have said : findingOf name (s.mark now name f cs) = some f := findingOf_mark_self ne
  have derived : findingOf s.ready (s.mark now name f cs) =
      some (s.verdict (s.mark now name f cs)) := by
    rw [mark, if_neg ne]
    exact derived_derive apart
  rw [mark, if_neg ne, write_eq said, derive, write_eq derived]

/-- **What one operation does**, whatever the list holds. -/
theorem effect_perform (apart : s.Apart) (away : op.Avoids s.ready) :
    s.Effect now op cs (s.perform now op cs) where
  conjunct := derived_perform apart away
  unswayed now' _ := unswayed_perform apart away now'
  said name f judges := by
    obtain ⟨none, -⟩ | ⟨judged, g, judges', performs⟩ := perform_cases (s := s) op
    · cases none.symm.trans judges
    · cases judges'.symm.trans judges
      rw [performs, findingOf_mark_self (away.ne judges)]
  others other ne avoids := by
    obtain ⟨-, performs⟩ | ⟨judged, f, judges, performs⟩ := perform_cases (s := s) op
    · rw [performs]
      exact leaves_complete ne
    · rw [performs]
      exact .same (named_mark_of_ne (avoids.ne judges).symm ne)
  carried other := by
    obtain ⟨-, performs⟩ | ⟨judged, f, judges, performs⟩ := perform_cases (s := s) op
    · rw [performs]
      exact carried_complete
    · rw [performs]
      exact carried_mark (away.ne judges)
  again later := by
    obtain ⟨-, performs⟩ | ⟨judged, f, judges, performs⟩ := perform_cases (s := s) op
    · rw [performs, performs]
      exact (settled_complete apart).complete_eq
    · rw [performs, performs]
      exact mark_mark apart (away.ne judges)

/-! ## Any number of operations -/

/-- **The lists that operations lead to**, each performed at a time of its own; none of them judges
readiness itself. -/
inductive Leads (s : Set) (cs : List Condition) : List Condition → Prop
  | start : Leads s cs cs
  | step {ds : List Condition} {op : Operation} (led : Leads s cs ds) (now : Time.Instant)
      (away : op.Avoids s.ready) : Leads s cs (s.perform now op ds)

/-- No condition is lost on the way. -/
theorem Leads.exists_named (apart : s.Apart) (led : s.Leads cs ds) {c : Condition}
    {rest : List Condition} (here : named name cs = c :: rest) :
    ∃ c', named name ds = c' :: rest := by
  induction led with
  | start => exact ⟨c, here⟩
  | @step ds op led now away ih =>
    obtain ⟨c', there⟩ := ih
    have effect : s.Effect now op ds (s.perform now op ds) := effect_perform apart away
    obtain ⟨c'', kept, -⟩ := effect.carried name c' rest there
    exact ⟨c'', kept⟩

theorem apart_of_nodup (distinct : s.names.Nodup) : s.Apart := by
  intro m mem same
  exact (List.nodup_cons.1 distinct).1 (same ▸ List.mem_map_of_mem mem)

/-- **Readiness is the conjunction behind every operation**, however long a list was worked on
before and whatever it held to begin with. The operation moves the time of a condition exactly if it
changes the status, repeating it changes nothing, and nothing of the list is ever lost. -/
theorem Leads.next_effect (distinct : s.names.Nodup) (led : s.Leads cs ds)
    (away : op.Avoids s.ready) (now : Time.Instant) :
    s.Effect now op ds (s.perform now op ds) ∧
      ∀ name c rest, named name cs = c :: rest →
        ∃ c', named name (s.perform now op ds) = c' :: rest := by
  have apart : s.Apart := apart_of_nodup distinct
  exact ⟨effect_perform apart away, fun _ _ _ => (led.step now away).exists_named apart⟩

/-- Conditions of which one does not contribute. -/
def parcel : Set := ⟨"Ready", [⟨"Packed", true⟩, ⟨"Weighed", false⟩, ⟨"Sent", true⟩]⟩

/-- A list that holds a condition twice, one that is not declared, a status that is none, and a
readiness that does not follow. -/
def unkempt : List Condition := [
  ⟨"Sent", "Soon", none, some "Waiting", none⟩,
  ⟨"Colour", "Red", none, none, none⟩,
  ⟨"Ready", holds, some "1970-01-01T00:00:00Z", none, none⟩,
  ⟨"Sent", fails, none, some "Lost", none⟩]

/-- The list once it was completed and the weight was found wanting. -/
def repacked : List Condition :=
  parcel.perform ⟨60⟩ (.markFalse "Weighed" "Broken" "no scales")
    (parcel.perform ⟨5⟩ .complete unkempt)

/-- Readiness is open for the reason of the first entry on sending, whatever the weight. -/
theorem effect_unkempt :
    parcel.names.Nodup ∧ parcel.Leads unkempt repacked ∧
    Operation.Avoids (.markTrue "Packed") parcel.ready ∧
    ∃ after, after = parcel.perform ⟨90⟩ (.markTrue "Packed") repacked ∧
      findingOf "Ready" after = some ⟨unknown, some "Waiting", none⟩ ∧
      parcel.Effect ⟨90⟩ (.markTrue "Packed") repacked after ∧
      ∃ c', named "Sent" after = [c', ⟨"Sent", fails, none, some "Lost", none⟩] := by
  have distinct : parcel.names.Nodup := by decide
  have led : parcel.Leads unkempt repacked :=
    (Leads.start.step ⟨5⟩ Operation.avoids_complete).step ⟨60⟩
      (Operation.avoids_of_ne rfl (by decide))
  have away : Operation.Avoids (.markTrue "Packed") parcel.ready :=
    Operation.avoids_of_ne rfl (by decide)
  obtain ⟨effect, kept⟩ := Leads.next_effect distinct led away ⟨90⟩
  exact ⟨distinct, led, away, _, rfl, by decide +kernel, effect, kept "Sent" _ _ rfl⟩

end Set

end HookRelay.Condition
