import Baste.TransactionSafety
import Mathlib.Data.List.Induction
import Mathlib.Data.List.Nodup

/-!
# Serial executions

A call that is one transaction, and that reads nothing but rows it has locked,
takes effect as if it ran alone at the moment it ends.  The obligation
`Atomic` of a program says so for one call: whatever the others do to the rows
it has not locked, its commit or rollback does to what is known of the state
what an `effect` on that knowledge says, and returns the same result.

`exists_order` shows that such calls may be run in any interleaving: what is
known of the state and all results are those of the same programs run one
after another, in the order in which they ended.
-/

namespace Transaction

section InTurn

variable {Call Known Result : Type}

/-- The effects of some calls one after another, with their results. -/
def inTurn (effect : Call → Known → Known × Result) (order : List Call)
    (known : Known) : Known × List (Call × Result) :=
  order.foldl (fun reached call =>
    ((effect call reached.1).1,
      reached.2 ++ [(call, (effect call reached.1).2)])) (known, [])

variable {effect : Call → Known → Known × Result} {order : List Call}
variable {known : Known} {call : Call}

@[simp]
theorem inTurn_nil : inTurn effect [] known = (known, []) :=
  rfl

theorem inTurn_concat :
    inTurn effect (order ++ [call]) known =
      ((effect call (inTurn effect order known).1).1,
        (inTurn effect order known).2 ++
          [(call, (effect call (inTurn effect order known).1).2)]) := by
  simp [inTurn, List.foldl_append]

theorem map_fst_inTurn (effect : Call → Known → Known × Result)
    (order : List Call) (known : Known) :
    (inTurn effect order known).2.map Prod.fst = order := by
  induction order using List.reverseRecOn with
  | nil => rfl
  | append_singleton order call ih => simp [inTurn_concat, ih]

theorem mem_of_mem_inTurn {result : Result}
    (member : (call, result) ∈ (inTurn effect order known).2) :
    call ∈ order := by
  rw [← map_fst_inTurn effect order known]
  exact List.mem_map_of_mem member

/-- A call that runs once has one result. -/
theorem result_unique (nodup : order.Nodup) {first second : Result}
    (firstMember : (call, first) ∈ (inTurn effect order known).2)
    (secondMember : (call, second) ∈ (inTurn effect order known).2) :
    first = second := by
  rw [← map_fst_inTurn effect order known]
    at nodup
  have same := List.inj_on_of_nodup_map nodup firstMember secondMember rfl
  exact congrArg Prod.snd same

end InTurn

namespace Program

variable {State Key Result Known : Type}

/-- The obligation of a program whose transaction has the given pending
changes and locks, when the committed state was last seen as `state`. -/
def Atomic (view : View State Key) (invariant : State → Prop)
    (know : State → Known) (effect : Known → Known × Result) :
    Program State Key Result → Option (State → State) → List Key → State →
      Prop
  | .begin next, none, held, state =>
      Atomic view invariant know effect next (some id) held state
  | .statement action next, some pending, held, state =>
      ∀ now, view.Rely held state now → invariant now →
        let act := action (pending now)
        view.Quiet now (act.reserve now) ∧
        Atomic view invariant know effect (next (pending now))
          (some fun later => act.effect (pending later))
          (act.rows ++ held) (act.reserve now)
  | .commit next, some pending, held, state =>
      ∃ result, next = .done result ∧
        ∀ now, view.Rely held state now → invariant now →
          view.Frame held now (pending now) ∧
          effect (know now) = (know (pending now), result)
  | .rollback next, some _, held, state =>
      ∃ result, next = .done result ∧
        ∀ now, view.Rely held state now → invariant now →
          effect (know now) = (know now, result)
  | _, _, _, _ => False

variable {view : View State Key} {invariant : State → Prop}
variable {know : State → Known} {effect : Known → Known × Result}

theorem Atomic.of_rely {program : Program State Key Result}
    {pending : Option (State → State)} {held : List Key}
    {before after : State} (kept : view.Rely held before after)
    (atomic : program.Atomic view invariant know effect pending held before) :
    program.Atomic view invariant know effect pending held after := by
  induction program generalizing pending held before after with
  | done result => cases pending <;> exact atomic
  | lost => cases pending <;> exact atomic
  | statement action next ih =>
      cases pending with
      | none => exact atomic
      | some changes => exact fun now relies => atomic now (kept.trans relies)
  | begin next ih =>
      cases pending with
      | none => exact ih kept atomic
      | some changes => exact atomic
  | commit next ih =>
      cases pending with
      | none => exact atomic
      | some changes =>
          obtain ⟨result, ends, change⟩ := atomic
          exact ⟨result, ends, fun now relies =>
            change now (kept.trans relies)⟩
  | rollback next ih =>
      cases pending with
      | none => exact atomic
      | some changes =>
          obtain ⟨result, ends, change⟩ := atomic
          exact ⟨result, ends, fun now relies =>
            change now (kept.trans relies)⟩

theorem Atomic.begin {next : Program State Key Result} {held : List Key}
    {state : State}
    (atomic : next.Atomic view invariant know effect (some id) held state) :
    (Program.begin next).Atomic view invariant know effect none held state :=
  atomic

theorem Atomic.selectForUpdate {rows : State → List Key}
    {next : State → Program State Key Result} {pending : State → State}
    {held : List Key} {state : State}
    (atomic : ∀ now, view.Rely held state now → invariant now →
      (next (pending now)).Atomic view invariant know effect (some pending)
        (rows (pending now) ++ held) now) :
    (Program.selectForUpdate rows next).Atomic view invariant know effect
      (some pending) held state :=
  fun now relies holds => ⟨.refl now, atomic now relies holds⟩

/-- What an atomic program guarantees to the others. -/
def atomicGuarantee (view : View State Key) : Guarantee State where
  writes _ _ := False
  commits before after := ∃ held, view.Frame held before after

/-- An atomic program is safe to run among others. -/
theorem Atomic.safe {program : Program State Key Result}
    {pending : Option (State → State)} {held : List Key} {state : State}
    (atomic : program.Atomic view invariant know effect pending held state) :
    program.Safe view invariant (atomicGuarantee view) pending held state := by
  induction program generalizing pending held state with
  | done result => trivial
  | lost => trivial
  | statement action next ih =>
      cases pending with
      | none => exact atomic.elim
      | some changes =>
          intro now relies holds
          obtain ⟨quiet, rest⟩ := atomic now relies holds
          exact ⟨quiet, ih _ rest⟩
  | begin next ih =>
      cases pending with
      | none => exact ih atomic
      | some changes => trivial
  | commit next ih =>
      cases pending with
      | none => trivial
      | some changes =>
          obtain ⟨result, rfl, change⟩ := atomic
          refine ⟨fun now relies holds => ?_, fun _ => trivial⟩
          obtain ⟨frame, _⟩ := change now relies holds
          exact ⟨frame, held, frame⟩
  | rollback next ih =>
      cases pending with
      | none => trivial
      | some changes =>
          obtain ⟨result, rfl, _⟩ := atomic
          exact fun _ => trivial

/-- An atomic program that runs alone has its effect. -/
theorem Atomic.runAlone
    (stable : ∀ held before after, view.Frame held before after →
      invariant before → invariant after)
    (quietKnow : ∀ before after, view.Quiet before after →
      know before = know after)
    {program : Program State Key Result} {pending : Option (State → State)}
    {held : List Key} {state : State}
    (atomic : program.Atomic view invariant know effect pending held state)
    (holds : invariant state) :
    invariant (program.runAlone pending state).1 ∧
      ∃ result, (program.runAlone pending state).2 = some result ∧
        effect (know state) =
          (know (program.runAlone pending state).1, result) := by
  induction program generalizing pending held state with
  | done result => cases pending <;> exact atomic.elim
  | lost => cases pending <;> exact atomic.elim
  | statement action next ih =>
      cases pending with
      | none => exact atomic.elim
      | some changes =>
          obtain ⟨quiet, rest⟩ := atomic state (.refl state) holds
          have kept := stable [] _ _ (quiet.mono fun _ _ => trivial) holds
          rw [quietKnow _ _ quiet]
          exact ih _ rest kept
  | begin next ih =>
      cases pending with
      | none => exact ih atomic holds
      | some changes => exact atomic.elim
  | commit next ih =>
      cases pending with
      | none => exact atomic.elim
      | some changes =>
          obtain ⟨result, rfl, change⟩ := atomic
          obtain ⟨frame, ends⟩ := change state (.refl state) holds
          exact ⟨stable held _ _ frame holds, result, rfl, ends⟩
  | rollback next ih =>
      cases pending with
      | none => exact atomic.elim
      | some changes =>
          obtain ⟨result, rfl, change⟩ := atomic
          exact ⟨holds, result, rfl, change state (.refl state) holds⟩

end Program

section Alone

variable {Call State Key Result Known : Type}

/-- The programs one after another, each alone. -/
def aloneInTurn (programs : Call → Program State Key Result)
    (order : List Call) (state : State) : State × List (Call × Option Result) :=
  order.foldl (fun reached call =>
    (((programs call).runAlone none reached.1).1,
      reached.2 ++ [(call, ((programs call).runAlone none reached.1).2)]))
    (state, [])

variable {view : View State Key} {invariant : State → Prop}
variable {know : State → Known} {effect : Call → Known → Known × Result}
variable {programs : Call → Program State Key Result}

theorem aloneInTurn_eq
    (stable : ∀ held before after, view.Frame held before after →
      invariant before → invariant after)
    (quietKnow : ∀ before after, view.Quiet before after →
      know before = know after)
    (atomic : ∀ call state, (programs call).Atomic view invariant know
      (effect call) none [] state)
    (order : List Call) {state : State} (holds : invariant state) :
    invariant (aloneInTurn programs order state).1 ∧
      know (aloneInTurn programs order state).1 =
        (inTurn effect order (know state)).1 ∧
      (aloneInTurn programs order state).2 =
        (inTurn effect order (know state)).2.map
          fun ended => (ended.1, some ended.2) := by
  induction order using List.reverseRecOn with
  | nil => exact ⟨holds, rfl, rfl⟩
  | append_singleton order call ih =>
      obtain ⟨reached, sameKnown, sameLog⟩ := ih
      obtain ⟨kept, result, returned, ends⟩ :=
        (atomic call (aloneInTurn programs order state).1).runAlone stable
          quietKnow reached
      have last : aloneInTurn programs (order ++ [call]) state =
          (((programs call).runAlone none
              (aloneInTurn programs order state).1).1,
            (aloneInTurn programs order state).2 ++
              [(call, ((programs call).runAlone none
                (aloneInTurn programs order state).1).2)]) := by
        simp [aloneInTurn, List.foldl_append]
      rw [last, inTurn_concat, ← sameKnown, ends, returned]
      exact ⟨kept, rfl, by simp [sameLog]⟩

end Alone

namespace System

variable {Call State Key Result Known : Type} [DecidableEq Call]

/-- The calls in the list have ended, in this order; the others have not ended
and are still atomic from where they are, or they are lost. -/
structure Serial (view : View State Key) (invariant : State → Prop)
    (know : State → Known) (effect : Call → Known → Known × Result)
    (known : Known) (system : System Call State Key Result)
    (order : List Call) : Prop where
  sound : Sound view invariant
    (fun _ => Program.atomicGuarantee view) system
  nodup : order.Nodup
  reached : know system.state = (inTurn effect order known).1
  ended : ∀ call ∈ order, ∃ result,
    system.process call = ⟨.done result, none⟩ ∧
    (call, result) ∈ (inTurn effect order known).2
  running : ∀ call ∉ order, system.process call = ⟨.lost, none⟩ ∨
    (system.process call).program.Atomic view invariant know (effect call)
      (system.process call).pending (heldBy system.locks call) system.state

variable {view : View State Key} {invariant : State → Prop}
variable {know : State → Known} {effect : Call → Known → Known × Result}
variable {known : Known} {system : System Call State Key Result}
variable {order : List Call}

/-- The calls that have ended are those in the list, with their results. -/
theorem Serial.done_iff (serial : Serial view invariant know effect known
    system order) {call : Call} {result : Result} :
    system.process call = ⟨.done result, none⟩ ↔
      (call, result) ∈ (inTurn effect order known).2 := by
  constructor
  · intro done
    by_cases member : call ∈ order
    · obtain ⟨other, otherDone, found⟩ := serial.ended call member
      cases done.symm.trans otherDone
      exact found
    · rcases serial.running call member with lost | atomic
      · cases done.symm.trans lost
      · rw [done] at atomic
        exact atomic.elim
  · intro member
    obtain ⟨other, otherDone, found⟩ :=
      serial.ended call (mem_of_mem_inTurn member)
    rw [otherDone, result_unique serial.nodup member found]

section OneCall

variable {call : Call} {state : State} {locks : List (Key × Call)}
variable {rest : Process State Key Result}

/-- The calls that have ended stay as they are when another one goes on. -/
theorem Serial.ended_resume (serial : Serial view invariant know effect known
    system order) (notEnded : call ∉ order) (rest : Process State Key Result)
    {other : Call} (member : other ∈ order) :
    ∃ result, system.resume call rest other = ⟨.done result, none⟩ ∧
      (other, result) ∈ (inTurn effect order known).2 := by
  have different : other ≠ call := by
    rintro rfl
    exact notEnded member
  obtain ⟨result, done, found⟩ := serial.ended other member
  refine ⟨result, ?_, found⟩
  rw [System.resume, Function.update_of_ne different]
  exact done

/-- So do the calls that are still running. -/
theorem Serial.running_resume (serial : Serial view invariant know effect known
    system order)
    (others : ∀ other, other ≠ call →
      heldBy locks other = heldBy system.locks other)
    (relies : ∀ other, other ≠ call →
      view.Rely (heldBy system.locks other) system.state state)
    {other : Call} (different : other ≠ call) (notEnded : other ∉ order) :
    system.resume call rest other = ⟨.lost, none⟩ ∨
      (system.resume call rest other).program.Atomic view invariant know
        (effect other) (system.resume call rest other).pending
        (heldBy locks other) state := by
  rw [System.resume, Function.update_of_ne different, others other different]
  rcases serial.running other notEnded with lost | atomic
  · exact .inl lost
  · exact .inr (atomic.of_rely (relies other different))

/-- A call goes on, or is lost, and nothing is known of it yet. -/
theorem Serial.resume (serial : Serial view invariant know effect known system
    order) (notEnded : call ∉ order)
    (sound : Sound view invariant (fun _ => Program.atomicGuarantee view)
      ⟨state, locks, system.resume call rest⟩)
    (others : ∀ other, other ≠ call →
      heldBy locks other = heldBy system.locks other)
    (relies : ∀ other, other ≠ call →
      view.Rely (heldBy system.locks other) system.state state)
    (sameKnown : know system.state = know state)
    (goesOn : rest = ⟨.lost, none⟩ ∨
      rest.program.Atomic view invariant know (effect call) rest.pending
        (heldBy locks call) state) :
    Serial view invariant know effect known
      ⟨state, locks, system.resume call rest⟩ order where
  sound := sound
  nodup := serial.nodup
  reached := sameKnown.symm.trans serial.reached
  ended _ member := serial.ended_resume notEnded rest member
  running other otherNotEnded := by
    by_cases same : other = call
    · subst same
      simpa [System.resume] using goesOn
    · exact serial.running_resume others relies same otherNotEnded

/-- A call ends, and takes effect. -/
theorem Serial.finish (serial : Serial view invariant know effect known system
    order) (notEnded : call ∉ order) {result : Result}
    (sound : Sound view invariant (fun _ => Program.atomicGuarantee view)
      ⟨state, locks, system.resume call ⟨.done result, none⟩⟩)
    (others : ∀ other, other ≠ call →
      heldBy locks other = heldBy system.locks other)
    (relies : ∀ other, other ≠ call →
      view.Rely (heldBy system.locks other) system.state state)
    (ends : effect call (know system.state) = (know state, result)) :
    Serial view invariant know effect known
      ⟨state, locks, system.resume call ⟨.done result, none⟩⟩
      (order ++ [call]) where
  sound := sound
  nodup := by
    rw [List.nodup_append]
    refine ⟨serial.nodup, List.nodup_singleton call, ?_⟩
    rintro other member _ last rfl
    exact notEnded (List.mem_singleton.mp last ▸ member)
  reached := by rw [inTurn_concat, ← serial.reached, ends]
  ended other member := by
    rw [inTurn_concat, ← serial.reached, ends]
    rcases List.mem_append.mp member with earlier | last
    · obtain ⟨other', done, found⟩ :=
        serial.ended_resume notEnded ⟨.done result, none⟩ earlier
      exact ⟨other', done, List.mem_append_left _ found⟩
    · cases List.mem_singleton.mp last
      exact ⟨result, by simp [System.resume], by simp⟩
  running other otherNotEnded := by
    have notMember : other ∉ order := fun member =>
      otherNotEnded (List.mem_append_left _ member)
    have different : other ≠ call := by
      rintro rfl
      exact otherNotEnded (by simp)
    exact serial.running_resume others relies different notMember

end OneCall

section Steps

variable [DecidableEq Key]

/-- One step keeps the calls in turn, and at most one of them ends. -/
theorem Serial.step
    (stable : ∀ held before after, view.Frame held before after →
      invariant before → invariant after)
    (quietKnow : ∀ before after, view.Quiet before after →
      know before = know after)
    (serial : Serial view invariant know effect known system order)
    (event : Event Call) :
    ∃ later, Serial view invariant know effect known (system.step event)
      later := by
  have preserves : Preserves view invariant
      (fun _ : Call => Program.atomicGuarantee view) := by
    constructor
    · intro before after holds quiet
      exact stable [] _ _ (quiet.mono fun _ _ => trivial) holds
    · intro call before after holds impossible
      exact impossible.elim
    · rintro call before after holds ⟨held, frame⟩
      exact stable held _ _ frame holds
  have soundAfter := (serial.sound.step preserves event).1
  have stays : system.step event = system → ∃ later,
      Serial view invariant know effect known (system.step event) later := by
    intro same
    rw [same]
    exact ⟨order, serial⟩
  cases event with
  | lose call =>
      by_cases member : call ∈ order
      · obtain ⟨result, done, _⟩ := serial.ended call member
        exact stays (by simp [System.step, done])
      · have stepped : system.step (.lose call) = system ∨
            system.step (.lose call) =
              ⟨system.state, release system.locks call,
                system.resume call ⟨.lost, none⟩⟩ := by
          cases found : (system.process call).program <;>
            simp [System.step, found]
        rcases stepped with same | stepped
        · exact stays same
        · rw [stepped] at soundAfter ⊢
          exact ⟨order, serial.resume member soundAfter
            (fun _ different => heldBy_release_ne different)
            (fun _ _ => .refl _) rfl (.inl rfl)⟩
  | advance call =>
      by_cases member : call ∈ order
      · obtain ⟨result, done, _⟩ := serial.ended call member
        exact stays (by simp [System.step, done])
      rcases serial.running call member with lost | atomic
      · exact stays (by simp [System.step, lost])
      cases found : system.process call with
      | mk program pending =>
          rw [found] at atomic
          cases program with
          | done result => cases pending <;> exact atomic.elim
          | lost => cases pending <;> exact atomic.elim
          | begin next =>
              cases pending with
              | some changes => exact atomic.elim
              | none =>
                  have stepped := step_begin found
                  rw [stepped] at soundAfter ⊢
                  exact ⟨order, serial.resume member soundAfter
                    (fun _ _ => rfl) (fun _ _ => .refl _) rfl (.inr atomic)⟩
          | statement action next =>
              cases pending with
              | none => exact atomic.elim
              | some changes =>
                  by_cases free : system.Free call
                      (action (changes system.state)).rows
                  · obtain ⟨quiet, rest⟩ :=
                      atomic system.state (.refl _) serial.sound.holds
                    have stepped := step_pending_statement found free
                    rw [stepped] at soundAfter ⊢
                    refine ⟨order, serial.resume member soundAfter
                      (fun _ different => heldBy_append_ne different _)
                      (fun _ _ => View.rely_of_quiet quiet)
                      (quietKnow _ _ quiet) (.inr ?_)⟩
                    rw [heldBy_append_self]
                    exact rest
                  · exact stays (step_pending_waiting found free)
          | commit next =>
              cases pending with
              | none => exact atomic.elim
              | some changes =>
                  obtain ⟨result, rfl, change⟩ := atomic
                  obtain ⟨frame, ends⟩ :=
                    change system.state (.refl _) serial.sound.holds
                  have stepped := step_commit found
                  rw [stepped] at soundAfter ⊢
                  exact ⟨order ++ [call], serial.finish member soundAfter
                    (fun _ different => heldBy_release_ne different)
                    (fun _ different => rely_of_frame
                      (free_own serial.sound.exclusive call) different frame) ends⟩
          | rollback next =>
              cases pending with
              | none => exact atomic.elim
              | some changes =>
                  obtain ⟨result, rfl, change⟩ := atomic
                  have ends := change system.state (.refl _) serial.sound.holds
                  have stepped := step_rollback found
                  rw [stepped] at soundAfter ⊢
                  exact ⟨order ++ [call], serial.finish member soundAfter
                    (fun _ different => heldBy_release_ne different)
                    (fun _ _ => .refl _) ends⟩

/-- In every interleaving of atomic programs, what is known of the state and
the results of the calls that have ended are those of the same programs run
one after another. -/
theorem exists_order {programs : Call → Program State Key Result}
    (stable : ∀ held before after, view.Frame held before after →
      invariant before → invariant after)
    (quietKnow : ∀ before after, view.Quiet before after →
      know before = know after)
    (atomic : ∀ call state, (programs call).Atomic view invariant know
      (effect call) none [] state)
    {state : State} (holds : invariant state) (events : List (Event Call)) :
    ∃ order, Serial view invariant know effect (know state)
      (StepRuns.final System.step (start state programs) events) order := by
  have started : Serial view invariant know effect (know state)
      (start state programs) [] :=
    { sound := .start holds fun call => (atomic call state).safe
      nodup := List.nodup_nil
      reached := rfl
      ended := by simp
      running := fun call _ => .inr (atomic call state) }
  apply StepRuns.final_of_invariant
    (fun system => ∃ order,
      Serial view invariant know effect (know state) system order)
  · rintro system event ⟨order, serial⟩
    exact serial.step stable quietKnow event
  · exact ⟨[], started⟩

end Steps

end System

end Transaction
