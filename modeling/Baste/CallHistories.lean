import Baste.TransactionSafety

/-!
# What a call has changed so far

`Safe` says which changes a call may make, but not how many, nor what they have
to do with its result.  This file follows the history of each call: the
changes that it has made to the committed state, in their order.  The
obligation `Leads` of a program is defined by recursion on the program, like
`Safe`: at every point the history and the result, if there is one, have to be
allowed, whatever the other calls do in between.

What the other calls do is bounded by an `Environment`: an invariant, and a
relation that every step of the run keeps.  A run whose steps all keep the
relation has the histories that its calls lead to.
-/

namespace Transaction

/-- A change of the committed state, and the rows that it wrote. -/
structure Recorded (State Key : Type) where
  before : State
  after : State
  rows : List Key

/-- What holds in every state and of every step, besides the locks. -/
structure Environment {State Key : Type} (view : View State Key) where
  invariant : State → Prop
  stable : State → State → Prop
  invariant_of_quiet : ∀ {before after}, invariant before →
    view.Quiet before after → invariant after
  stable_of_quiet : ∀ {before after}, view.Quiet before after →
    stable before after
  stable_trans : ∀ {before mid after}, stable before mid → stable mid after →
    stable before after

namespace Environment

variable {State Key : Type} {view : View State Key}

/-- Nothing but an invariant is known. -/
def unconditional (invariant : State → Prop)
    (quietKept : ∀ before after, invariant before →
      view.Quiet before after → invariant after) : Environment view where
  invariant := invariant
  stable _ _ := True
  invariant_of_quiet := quietKept _ _
  stable_of_quiet _ := trivial
  stable_trans _ _ := trivial

variable (environment : Environment view)

/-- What a call may rely on between two of its commands. -/
structure Relies (held : List Key) (before now : State) : Prop where
  kept : view.Rely held before now
  stable : environment.stable before now
  holds : environment.invariant now

/-- What is allowed of a call stays allowed while others go on. -/
def Lasting {Result : Type}
    (allowed : State → List (Recorded State Key) → Option Result → Prop) : Prop :=
  ∀ {before after past result}, environment.stable before after →
    allowed before past result → allowed after past result

end Environment

namespace Program

variable {State Key Result : Type} {view : View State Key}

/-- The obligation of a program whose call has the given history. -/
def Leads (environment : Environment view)
    (allowed : State → List (Recorded State Key) → Option Result → Prop) :
    Program State Key Result → Option (State → State) → List Key → State →
      List (Recorded State Key) → Prop
  | .done result, _, _, state, past => allowed state past (some result)
  | .lost, _, _, state, past => allowed state past none
  | .statement action next, none, held, state, past =>
      allowed state past none ∧
        ∀ now, environment.Relies held state now →
          let act := action now
          let after := act.effect (act.reserve now)
          if act.rows = [] then
            view.Quiet now after ∧
              Leads environment allowed (next now) none held after past
          else
            view.Frame act.rows now after ∧
              (environment.stable now after →
                environment.invariant after ∧
                Leads environment allowed (next now) none held after
                  (past ++ [⟨now, after, act.rows⟩]))
  | .statement action next, some pending, held, state, past =>
      allowed state past none ∧
        ∀ now, environment.Relies held state now →
          let act := action (pending now)
          view.Quiet now (act.reserve now) ∧
            Leads environment allowed (next (pending now))
              (some fun later => act.effect (pending later))
              (act.rows ++ held) (act.reserve now) past
  | .begin next, none, held, state, past =>
      allowed state past none ∧
        Leads environment allowed next (some id) held state past
  | .commit next, some pending, held, state, past =>
      allowed state past none ∧
        ∀ now, environment.Relies held state now →
          view.Frame held now (pending now) ∧
            (environment.stable now (pending now) →
              environment.invariant (pending now) ∧
              Leads environment allowed next none [] (pending now)
                (past ++ [⟨now, pending now, held⟩]))
  | .rollback next, some _, held, state, past =>
      allowed state past none ∧
        ∀ now, environment.Relies held state now →
          Leads environment allowed next none [] now past
  | .begin _, some _, _, state, past => allowed state past none
  | .commit _, none, _, state, past => allowed state past none
  | .rollback _, none, _, state, past => allowed state past none

variable {environment : Environment view}
variable {allowed : State → List (Recorded State Key) → Option Result → Prop}

theorem Leads.of_relies {program : Program State Key Result}
    {pending : Option (State → State)} {held : List Key}
    {before after : State} {past : List (Recorded State Key)}
    (lasting : environment.Lasting allowed)
    (kept : view.Rely held before after)
    (stable : environment.stable before after)
    (leads : program.Leads environment allowed pending held before past) :
    program.Leads environment allowed pending held after past := by
  have later : ∀ {now}, environment.Relies held after now →
      environment.Relies held before now := fun relies =>
    ⟨kept.trans relies.kept, environment.stable_trans stable relies.stable,
      relies.holds⟩
  induction program generalizing pending held before after with
  | done result => exact lasting stable leads
  | lost => exact lasting stable leads
  | statement action next ih =>
      cases pending with
      | none =>
          exact ⟨lasting stable leads.1, fun now relies =>
            leads.2 now (later relies)⟩
      | some changes =>
          exact ⟨lasting stable leads.1, fun now relies =>
            leads.2 now (later relies)⟩
  | begin next ih =>
      cases pending with
      | none => exact ⟨lasting stable leads.1, ih kept stable leads.2 later⟩
      | some changes => exact lasting stable leads
  | commit next ih =>
      cases pending with
      | none => exact lasting stable leads
      | some changes =>
          exact ⟨lasting stable leads.1, fun now relies =>
            leads.2 now (later relies)⟩
  | rollback next ih =>
      cases pending with
      | none => exact lasting stable leads
      | some changes =>
          exact ⟨lasting stable leads.1, fun now relies =>
            leads.2 now (later relies)⟩

/-- What a call has done so far is allowed before it ends. -/
theorem Leads.isAllowed {program : Program State Key Result}
    {pending : Option (State → State)} {held : List Key} {state : State}
    {past : List (Recorded State Key)}
    (leads : program.Leads environment allowed pending held state past) :
    (∃ result, program = .done result ∧ allowed state past (some result)) ∨
      allowed state past none := by
  cases program with
  | done result => exact .inl ⟨result, rfl, leads⟩
  | lost => exact .inr leads
  | statement action next => cases pending <;> exact .inr leads.1
  | begin next =>
      cases pending with
      | none => exact .inr leads.1
      | some changes => exact .inr leads
  | commit next =>
      cases pending with
      | none => exact .inr leads
      | some changes => exact .inr leads.1
  | rollback next =>
      cases pending with
      | none => exact .inr leads
      | some changes => exact .inr leads.1

/-- All changes of a history are related. -/
def AllRelated (relation : State → State → Prop)
    (past : List (Recorded State Key)) : Prop :=
  ∀ change ∈ past, relation change.before change.after

theorem AllRelated.concat {relation : State → State → Prop}
    {past : List (Recorded State Key)} {before after : State}
    {rows : List Key} (related : AllRelated relation past)
    (last : relation before after) :
    AllRelated relation (past ++ [⟨before, after, rows⟩]) := by
  intro change member
  rcases List.mem_append.mp member with earlier | isLast
  · exact related change earlier
  · rw [List.mem_singleton.mp isLast]
    exact last

/-- What a step of the guarantee does: it keeps the invariant, and what it
changes is related to what was there. -/
structure Follows (environment : Environment view)
    (relation : State → State → Prop) (guarantee : Guarantee State) :
    Prop where
  quiet : ∀ before after, environment.invariant before →
    view.Quiet before after → relation before after
  writes : ∀ before after, environment.invariant before →
    guarantee.writes before after →
    environment.invariant after ∧ relation before after
  commits : ∀ before after, environment.invariant before →
    guarantee.commits before after →
    environment.invariant after ∧ relation before after

/-- The history of a safe program consists of changes that its guarantee
describes. -/
theorem Safe.leads {guarantee : Guarantee State}
    {relation : State → State → Prop}
    {program : Program State Key Result} {pending : Option (State → State)}
    {held : List Key} {state : State} {past : List (Recorded State Key)}
    (follows : Follows environment relation guarantee)
    (related : AllRelated relation past)
    (safe : program.Safe view environment.invariant guarantee
      pending held state) :
    program.Leads environment (fun _ past _ => AllRelated relation past)
      pending held state past := by
  induction program generalizing pending held state past with
  | done result => exact related
  | lost => exact related
  | statement action next ih =>
      cases pending with
      | none =>
          refine ⟨related, fun now relies => ?_⟩
          obtain ⟨change, rest⟩ := safe now relies.kept relies.holds
          dsimp only
          split_ifs with nothing
          · refine ⟨?_, ih _ related rest⟩
            rcases change with quiet | ⟨frame, -⟩
            · exact quiet
            · exact frame.mono fun key _ => by simp [nothing]
          · rcases change with quiet | ⟨frame, writes⟩
            · have step := follows.quiet _ _ relies.holds quiet
              exact ⟨quiet.mono fun _ _ => trivial, fun _ =>
                ⟨environment.invariant_of_quiet relies.holds quiet,
                  ih _ (related.concat step) rest⟩⟩
            · have step := follows.writes _ _ relies.holds writes
              exact ⟨frame, fun _ =>
                ⟨step.1, ih _ (related.concat step.2) rest⟩⟩
      | some changes =>
          refine ⟨related, fun now relies => ?_⟩
          obtain ⟨quiet, rest⟩ := safe now relies.kept relies.holds
          exact ⟨quiet, ih _ related rest⟩
  | begin next ih =>
      cases pending with
      | none => exact ⟨related, ih related safe⟩
      | some changes => exact related
  | commit next ih =>
      cases pending with
      | none => exact related
      | some changes =>
          refine ⟨related, fun now relies => ?_⟩
          obtain ⟨frame, commits⟩ := safe.1 now relies.kept relies.holds
          have step := follows.commits _ _ relies.holds commits
          exact ⟨frame, fun _ =>
            ⟨step.1, ih (related.concat step.2) (safe.2 _)⟩⟩
  | rollback next ih =>
      cases pending with
      | none => exact related
      | some changes => exact ⟨related, fun now _ => ih related (safe now)⟩

section Rules

variable {held : List Key} {state : State} {pending : State → State}
variable {past : List (Recorded State Key)}

theorem leads_select {next : State → Program State Key Result}
    (soFar : allowed state past none)
    (leads : ∀ now, environment.Relies held state now →
      (next now).Leads environment allowed none held now past) :
    (select next).Leads environment allowed none held state past := by
  refine ⟨soFar, fun now relies => ?_⟩
  dsimp only
  rw [if_pos rfl]
  exact ⟨.refl now, leads now relies⟩

theorem Leads.checksPending (soFar : ∀ state, allowed state past none) :
    ChecksPending view environment.invariant
      fun (program : Program State Key Result) pending held state =>
        program.Leads environment allowed (some pending) held state past :=
  ⟨fun checked => ⟨soFar _, fun now relies =>
    checked now relies.kept relies.holds⟩⟩

theorem leads_selectForUpdate {rows : State → List Key}
    {next : State → Program State Key Result}
    (soFar : ∀ state, allowed state past none)
    (leads : ∀ now, view.Rely held state now →
      environment.invariant now →
      (next (pending now)).Leads environment allowed (some pending)
        (rows (pending now) ++ held) now past) :
    (selectForUpdate rows next).Leads environment allowed (some pending)
      held state past :=
  (Leads.checksPending soFar).selectForUpdate leads

theorem leads_rollback {next : Program State Key Result}
    (soFar : allowed state past none)
    (leads : ∀ now, environment.Relies held state now →
      next.Leads environment allowed none [] now past) :
    (rollback next).Leads environment allowed (some pending) held state
      past :=
  ⟨soFar, leads⟩

end Rules

end Program

namespace System

variable {Call State Key Result : Type} [DecidableEq Call] [DecidableEq Key]
variable {view : View State Key}

/-- The event lets its call commit, or execute a statement that writes rows
outside a transaction. -/
def recordsNow (system : System Call State Key Result) : Event Call → Bool
  | .advance call =>
      match system.process call with
      | ⟨.commit _, some _⟩ => true
      | ⟨.statement action _, none⟩ =>
          decide (system.Free call (action system.state).rows) &&
            !(action system.state).rows.isEmpty
      | _ => false
  | .lose _ => false

/-- The rows that an event lets its call write. -/
def writtenNow (system : System Call State Key Result) :
    Event Call → List Key
  | .advance call =>
      match system.process call with
      | ⟨.commit _, some _⟩ => heldBy system.locks call
      | ⟨.statement action _, none⟩ =>
          if system.Free call (action system.state).rows then
            (action system.state).rows
          else []
      | _ => []
  | .lose _ => []

/-- What an event adds to the history of a call. -/
def record (system : System Call State Key Result) (event : Event Call)
    (call : Call) : List (Recorded State Key) :=
  if event.call = call ∧ system.recordsNow event = true then
    [⟨system.state, (system.step event).state, system.writtenNow event⟩]
  else []

/-- The changes that a call makes in a run. -/
def history (system : System Call State Key Result) (call : Call) :
    List (Event Call) → List (Recorded State Key)
  | [] => []
  | event :: events =>
      system.record event call ++ (system.step event).history call events

/-- Every call leads from where it is and what it has done so far to allowed
histories. -/
structure Led (environment : Environment view)
    (allowed : Call → State → List (Recorded State Key) → Option Result → Prop)
    (system : System Call State Key Result)
    (past : Call → List (Recorded State Key)) : Prop where
  holds : environment.invariant system.state
  exclusive : ∀ key first second, (key, first) ∈ system.locks →
    (key, second) ∈ system.locks → first = second
  lasting : ∀ call, environment.Lasting (allowed call)
  leads : ∀ call, (system.process call).program.Leads environment
    (allowed call) (system.process call).pending (heldBy system.locks call)
    system.state (past call)

variable {environment : Environment view}
variable {allowed : Call → State → List (Recorded State Key) → Option Result → Prop}
variable {system : System Call State Key Result}
variable {past : Call → List (Recorded State Key)}

omit [DecidableEq Key] in
theorem Led.start {state : State}
    {programs : Call → Program State Key Result}
    (lasting : ∀ call, environment.Lasting (allowed call))
    (holds : environment.invariant state)
    (leads : ∀ call, (programs call).Leads environment (allowed call) none
      [] state []) :
    Led environment allowed (start state programs) fun _ => [] where
  holds := holds
  exclusive := by
    intro key first second firstHeld
    simp [System.start] at firstHeld
  lasting := lasting
  leads call := leads call

omit [DecidableEq Key] in
/-- One call goes on while all others stay where they are. -/
theorem Led.resume (led : Led environment allowed system past)
    {call : Call} {state : State} {locks : List (Key × Call)}
    {rest : Process State Key Result} {added : List (Recorded State Key)}
    (holds : environment.invariant state)
    (stable : environment.stable system.state state)
    (exclusive : ∀ key first second, (key, first) ∈ locks →
      (key, second) ∈ locks → first = second)
    (others : ∀ other, other ≠ call →
      heldBy locks other = heldBy system.locks other)
    (relies : ∀ other, other ≠ call →
      view.Rely (heldBy system.locks other) system.state state)
    (leads : rest.program.Leads environment (allowed call) rest.pending
      (heldBy locks call) state (past call ++ added)) :
    Led environment allowed ⟨state, locks, system.resume call rest⟩
      (Function.update past call (past call ++ added)) where
  holds := holds
  exclusive := exclusive
  lasting := led.lasting
  leads other := by
    by_cases same : other = call
    · subst same
      simpa [System.resume] using leads
    · have unchanged : system.resume call rest other = system.process other :=
        Function.update_of_ne same _ _
      simp only [unchanged, others other same, Function.update_of_ne same]
      exact (led.leads other).of_relies (led.lasting other)
        (relies other same) stable

/-- The histories after an event. -/
def extended (system : System Call State Key Result)
    (past : Call → List (Recorded State Key)) (event : Event Call) (call : Call) :
    List (Recorded State Key) :=
  past call ++ system.record event call

theorem extended_of_ne {event : Event Call} {other : Call}
    (different : other ≠ event.call) :
    system.extended past event other = past other := by
  rw [extended, record, if_neg (by simp [Ne.symm different]), List.append_nil]

theorem extended_eq_update {event : Event Call}
    {added : List (Recorded State Key)}
    (records : system.record event event.call = added) :
    system.extended past event =
      Function.update past event.call (past event.call ++ added) := by
  funext other
  by_cases same : other = event.call
  · subst same
    simp [extended, records]
  · rw [extended_of_ne same, Function.update_of_ne same]

theorem extended_of_not_recordsNow {event : Event Call}
    (quiet : system.recordsNow event = false) :
    system.extended past event = past := by
  funext other
  simp [extended, record, quiet]

theorem Led.step_advance (led : Led environment allowed system past)
    (call : Call)
    (stable : environment.stable system.state
      (system.step (.advance call)).state) :
    Led environment allowed (system.step (.advance call))
      (system.extended past (.advance call)) := by
  have leads := led.leads call
  have now : ∀ held, environment.Relies held system.state system.state :=
    fun held => ⟨.refl _, environment.stable_of_quiet (.refl _), led.holds⟩
  have stays : system.step (.advance call) = system →
      system.recordsNow (.advance call) = false →
      Led environment allowed (system.step (.advance call))
        (system.extended past (.advance call)) := by
    intro same quiet
    rw [same, extended_of_not_recordsNow quiet]
    exact led
  -- A step that adds these changes to the history of its call.
  have moves : ∀ {added : List (Recorded State Key)},
      system.record (.advance call) call = added →
      Led environment allowed (system.step (.advance call))
        (Function.update past call (past call ++ added)) →
      Led environment allowed (system.step (.advance call))
        (system.extended past (.advance call)) := by
    intro added records next
    rw [extended_eq_update records]
    exact next
  cases found : system.process call with
  | mk program pending =>
      rw [found] at leads
      cases program with
      | done result =>
          exact stays (by simp [step, found]) (by simp [recordsNow, found])
      | lost =>
          exact stays (by simp [step, found]) (by simp [recordsNow, found])
      | statement action next =>
          cases pending with
          | none =>
              by_cases free : system.Free call (action system.state).rows
              · have rest := leads.2 system.state (now _)
                dsimp only at rest
                have stepped := step_statement found free
                split_ifs at rest with nothing
                · have records : system.record (.advance call) call = [] := by
                    simp [record, recordsNow, found, nothing]
                  refine moves records ?_
                  rw [stepped]
                  refine led.resume
                    (environment.invariant_of_quiet led.holds rest.1)
                    (environment.stable_of_quiet rest.1)
                    led.exclusive (fun _ _ => rfl)
                    (fun _ _ => View.rely_of_quiet rest.1) ?_
                  rw [List.append_nil]
                  exact rest.2
                · have records : system.record (.advance call) call =
                      [⟨system.state, (system.step (.advance call)).state,
                        (action system.state).rows⟩] := by
                    simp [record, recordsNow, writtenNow, found, free, nothing,
                      Event.call]
                  refine moves records ?_
                  rw [stepped] at stable ⊢
                  obtain ⟨frame, rest⟩ := rest
                  obtain ⟨holds, leads⟩ := rest stable
                  exact led.resume holds stable led.exclusive (fun _ _ => rfl)
                    (fun _ different => rely_of_frame free different frame)
                    leads
              · exact stays (step_waiting found free)
                  (by simp [recordsNow, found, free])
          | some pending =>
              by_cases free :
                  system.Free call (action (pending system.state)).rows
              · obtain ⟨quiet, rest⟩ := leads.2 system.state (now _)
                have stepped := step_pending_statement found free
                have records : system.record (.advance call) call = [] := by
                  simp [record, recordsNow, found]
                refine moves records ?_
                rw [stepped]
                refine led.resume
                  (environment.invariant_of_quiet led.holds quiet)
                  (environment.stable_of_quiet quiet)
                  (exclusive_lock led.exclusive free)
                  (fun _ different => heldBy_append_ne different _)
                  (fun _ _ => View.rely_of_quiet quiet) ?_
                rw [heldBy_append_self, List.append_nil]
                exact rest
              · exact stays (step_pending_waiting found free)
                  (by simp [recordsNow, found])
      | begin next =>
          cases pending with
          | none =>
              have stepped := step_begin found
              have records : system.record (.advance call) call = [] := by
                simp [record, recordsNow, found]
              refine moves records ?_
              rw [stepped]
              refine led.resume led.holds (now []).stable led.exclusive
                (fun _ _ => rfl) (fun _ _ => .refl _) ?_
              rw [List.append_nil]
              exact leads.2
          | some pending =>
              exact stays (by simp [step, found])
                (by simp [recordsNow, found])
      | commit next =>
          cases pending with
          | none =>
              exact stays (by simp [step, found])
                (by simp [recordsNow, found])
          | some pending =>
              obtain ⟨frame, rest⟩ := leads.2 system.state (now _)
              have stepped := step_commit found
              have records : system.record (.advance call) call =
                  [⟨system.state, (system.step (.advance call)).state,
                    heldBy system.locks call⟩] := by
                simp [record, recordsNow, writtenNow, found, Event.call]
              refine moves records ?_
              rw [stepped] at stable ⊢
              obtain ⟨holds, rest⟩ := rest stable
              refine led.resume holds stable
                (exclusive_release led.exclusive call)
                (fun _ different => heldBy_release_ne different)
                (fun other different =>
                  rely_of_frame (free_own led.exclusive call) different
                    frame) ?_
              rw [heldBy_release_self]
              exact rest
      | rollback next =>
          cases pending with
          | none =>
              exact stays (by simp [step, found])
                (by simp [recordsNow, found])
          | some pending =>
              have stepped := step_rollback found
              have records : system.record (.advance call) call = [] := by
                simp [record, recordsNow, found]
              refine moves records ?_
              rw [stepped]
              refine led.resume led.holds (now []).stable
                (exclusive_release led.exclusive call)
                (fun _ different => heldBy_release_ne different)
                (fun _ _ => .refl _) ?_
              rw [heldBy_release_self, List.append_nil]
              exact leads.2 _ (now _)

theorem Led.step_lose (led : Led environment allowed system past)
    (call : Call) :
    Led environment allowed (system.step (.lose call))
      (system.extended past (.lose call)) := by
  rw [extended_of_not_recordsNow rfl]
  have dropped : allowed call system.state (past call) none →
      Led environment allowed
        ⟨system.state, release system.locks call,
          system.resume call ⟨.lost, none⟩⟩ past := by
    intro soFar
    have resumed : Led environment allowed
        ⟨system.state, release system.locks call,
          system.resume call ⟨.lost, none⟩⟩
        (Function.update past call (past call ++ [])) :=
      led.resume led.holds (environment.stable_of_quiet (.refl _))
        (exclusive_release led.exclusive call)
      (fun _ different => heldBy_release_ne different)
      (fun _ _ => .refl _) (by rw [List.append_nil]; exact soFar)
    rwa [List.append_nil, Function.update_eq_self] at resumed
  rcases (led.leads call).isAllowed with ⟨result, isDone, -⟩ | soFar
  · have stays : system.step (.lose call) = system := by
      simp [step, isDone]
    rw [stays]
    exact led
  · have stepped : system.step (.lose call) = system ∨
        system.step (.lose call) =
          ⟨system.state, release system.locks call,
            system.resume call ⟨.lost, none⟩⟩ := by
      cases found : (system.process call).program <;> simp [step, found]
    rcases stepped with stepped | stepped
    · rw [stepped]
      exact led
    · rw [stepped]
      exact dropped soFar

/-- A step changes only the rows that it writes. -/
theorem Led.frame (led : Led environment allowed system past)
    (event : Event Call) :
    view.Frame (system.writtenNow event) system.state
      (system.step event).state := by
  have now : ∀ held, environment.Relies held system.state system.state :=
    fun held => ⟨.refl _, environment.stable_of_quiet (.refl _), led.holds⟩
  have stays : ∀ {rows}, system.step event = system →
      view.Frame rows system.state (system.step event).state := by
    intro rows same
    rw [same]
    exact .refl _
  cases event with
  | lose call =>
      cases found : (system.process call).program <;>
        simp only [step, found] <;> exact .refl _
  | advance call =>
      have leads := led.leads call
      cases found : system.process call with
      | mk program pending =>
          rw [found] at leads
          cases program with
          | done result => exact stays (by simp [step, found])
          | lost => exact stays (by simp [step, found])
          | statement action next =>
              cases pending with
              | none =>
                  by_cases free : system.Free call (action system.state).rows
                  · have rest := leads.2 system.state (now _)
                    have written : system.writtenNow (.advance call) =
                        (action system.state).rows := by
                      simp [writtenNow, found, free]
                    dsimp only at rest
                    rw [step_statement found free, written]
                    split_ifs at rest with nothing
                    · exact rest.1.mono fun _ _ => trivial
                    · exact rest.1
                  · exact stays (step_waiting found free)
              | some pending =>
                  by_cases free :
                      system.Free call (action (pending system.state)).rows
                  · rw [step_pending_statement found free]
                    have quiet := (leads.2 system.state (now _)).1
                    exact quiet.mono fun _ _ => trivial
                  · exact stays (step_pending_waiting found free)
          | begin next =>
              cases pending <;> simp only [step, found] <;> exact .refl _
          | commit next =>
              cases pending with
              | none => exact stays (by simp [step, found])
              | some pending =>
                  have written : system.writtenNow (.advance call) =
                      heldBy system.locks call := by
                    simp [writtenNow, found]
                  rw [step_commit found, written]
                  rw [found] at *
                  exact (leads.2 system.state (now _)).1
          | rollback next =>
              cases pending <;> simp only [step, found] <;> exact .refl _

/-- A step that no history records changes no row. -/
theorem Led.quiet (led : Led environment allowed system past)
    {event : Event Call} (notRecorded : system.recordsNow event = false) :
    view.Quiet system.state (system.step event).state := by
  have nothing : system.writtenNow event = [] := by
    cases event with
    | lose call => rfl
    | advance call =>
        cases found : system.process call with
        | mk program pending =>
            cases program <;> cases pending <;>
              simp_all only [writtenNow, recordsNow, Bool.and_eq_false_iff,
                decide_eq_false_iff_not, Bool.not_eq_eq_eq_not, Bool.not_false,
                List.isEmpty_iff, reduceCtorEq, ite_eq_right_iff]
            exact fun free => notRecorded.resolve_left (not_not.mpr free)
  refine (led.frame event).mono fun key _ => ?_
  simp [nothing]

/-- Whatever happens next, every call still leads to allowed histories. -/
theorem Led.step (led : Led environment allowed system past)
    (event : Event Call)
    (stable : environment.stable system.state (system.step event).state) :
    Led environment allowed (system.step event)
      (system.extended past event) := by
  cases event with
  | advance call => exact led.step_advance call stable
  | lose call => exact led.step_lose call

/-- Every step of the run is one that the calls may rely on. -/
abbrev StableRun (environment : Environment view) :
    System Call State Key Result → List (Event Call) → Prop :=
  StepRuns.Along System.step fun system event =>
    environment.stable system.state (system.step event).state

theorem stableRun_unconditional {invariant : State → Prop}
    {quietKept : ∀ before after, invariant before →
      view.Quiet before after → invariant after}
    (system : System Call State Key Result) (events : List (Event Call)) :
    StableRun (.unconditional invariant quietKept) system events :=
  StepRuns.along_true events

/-- In every run the histories of all calls are allowed. -/
theorem Led.run (led : Led environment allowed system past)
    {events : List (Event Call)}
    (stable : StableRun environment system events) :
    Led environment allowed (StepRuns.final System.step system events)
      fun call => past call ++ system.history call events := by
  induction events generalizing system past with
  | nil => simpa [history] using led
  | cons event events ih =>
      have later := ih (led.step event stable.1) stable.2
      simpa [history, extended] using later

/-- What the call has returned or raised. -/
def result (system : System Call State Key Result) (call : Call) :
    Option Result :=
  match (system.process call).program with
  | .done result => some result
  | _ => none

omit [DecidableEq Key] in
/-- The history of a call is allowed with its result. -/
theorem Led.isAllowed (led : Led environment allowed system past)
    (call : Call) :
    allowed call system.state (past call) (system.result call) := by
  have leads := led.leads call
  rcases leads.isAllowed with ⟨result, isDone, soFar⟩ | soFar
  · rw [System.result, isDone]
    exact soFar
  · cases found : (system.process call).program with
    | done result =>
        rw [found] at leads
        rw [System.result, found]
        exact leads
    | _ => rw [System.result, found]; exact soFar

/-- Steps that no history records change no row, in all runs. -/
theorem Led.quiet_along (led : Led environment allowed system past)
    {events : List (Event Call)}
    (stable : StableRun environment system events) :
    StepRuns.Along System.step
      (fun system event => system.recordsNow event = false →
        view.Quiet system.state (system.step event).state)
      system events := by
  induction events generalizing system past with
  | nil => trivial
  | cons event events ih =>
      exact ⟨led.quiet, ih (led.step event stable.1) stable.2⟩

/-- The call's last change, or the beginning of the run. -/
def lastState (start : State) (changes : List (Recorded State Key)) : State :=
  (changes.getLast?.map (·.after)).getD start

/-- What only one call changes is, at the end of a run, what the last change of
that call has made of it. -/
theorem Led.observe_run {Seen : Type} (observe : State → Seen) {call : Call}
    (led : Led environment allowed system past)
    (unseen : ∀ before after, view.Quiet before after →
      observe after = observe before)
    (others : ∀ other, other ≠ call → ∀ state changes result,
      allowed other state changes result → ∀ change ∈ changes,
        observe change.after = observe change.before)
    {events : List (Event Call)}
    (stable : StableRun environment system events) :
    observe (StepRuns.final System.step system events).state =
      observe (lastState system.state (system.history call events)) := by
  induction events generalizing system past with
  | nil => rfl
  | cons event events ih =>
      have nextLed := led.step event stable.1
      rw [StepRuns.final_cons, ih nextLed stable.2, history]
      by_cases own : event.call = call ∧ system.recordsNow event = true
      · rw [record, if_pos own]
        cases later : (system.step event).history call events with
        | nil => rfl
        | cons change changes =>
            simp [lastState, List.getLast?_cons]
      · rw [record, if_neg own, List.nil_append]
        have same : observe (system.step event).state =
            observe system.state := by
          cases recorded : system.recordsNow event with
          | false => exact unseen _ _ (led.quiet recorded)
          | true =>
              have different : event.call ≠ call := fun is =>
                own ⟨is, recorded⟩
              have member : (⟨system.state, (system.step event).state,
                    system.writtenNow event⟩ : Recorded State Key) ∈
                  system.extended past event event.call := by
                simp [extended, record, recorded]
              exact others _ different _ _ _ (nextLed.isAllowed event.call) _
                member
        cases (system.step event).history call events with
        | nil => exact same
        | cons change changes => simp [lastState, List.getLast?_cons]

end System

end Transaction
