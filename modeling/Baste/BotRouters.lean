import Baste.BotManager
import Baste.StepRuns

/-!
# Routers of several dispatchers

The routers are objects of their modules, so all dispatchers of the process
share them.  The first dispatcher attaches every router to itself; from then
on no dispatcher can be built, and no stop detaches a router.
-/

namespace Baste

/-- The routers of a dispatcher, in the order in which it includes them. -/
def dispatcherRouters : List BotRouter :=
  resellerRouters ++ operatorRouters ++ customerRouters

namespace BotProcess

/-- A new dispatcher of the reseller, without routers. -/
def withDispatcher (process : BotProcess) (resellerId : Nat) : BotProcess :=
  { process with dispatchers := process.dispatchers ++ [resellerId] }

/-- These routers are attached to the dispatcher. -/
def attach (process : BotProcess) (dispatcher : Nat)
    (routers : List BotRouter) : BotProcess :=
  { process with
    parent := fun router =>
      if router ∈ routers then some dispatcher else process.parent router }

/-- No dispatcher has been built. -/
def Fresh (process : BotProcess) : Prop :=
  ∀ router, process.parent router = none

/-- The first router that a new dispatcher includes has a dispatcher. -/
def Attached (process : BotProcess) : Prop :=
  process.parent .resellerStart ≠ none

end BotProcess

open BotProcess

section Includes

variable {process : BotProcess} {dispatcher : Nat}

theorem runOn_includeRouter {router : BotRouter}
    (free : process.parent router = none) :
    (includeRouter dispatcher router).runOn process =
      (.ok (), process.attach dispatcher [router]) := by
  have update : Function.update process.parent router (some dispatcher) =
      fun other =>
        if other ∈ [router] then some dispatcher else process.parent other := by
    funext other
    rw [Function.update_apply]
    exact if_congr List.mem_singleton.symm rfl rfl
  rw [includeRouter, Failing.runOn_bind, Failing.runOn_get]
  dsimp only
  rw [free, attach, ← update]
  rfl

theorem runOn_includeRouter_attached {router : BotRouter}
    (attached : process.parent router ≠ none) :
    (includeRouter dispatcher router).runOn process =
      (.error .routerAttached, process) := by
  obtain ⟨other, found⟩ := Option.ne_none_iff_exists'.mp attached
  rw [includeRouter, Failing.runOn_bind, Failing.runOn_get]
  dsimp only
  rw [found]
  rfl

theorem attach_nil : process.attach dispatcher [] = process := by
  simp [attach]

theorem attach_attach {first second : List BotRouter} :
    (process.attach dispatcher first).attach dispatcher second =
      process.attach dispatcher (first ++ second) := by
  simp only [attach, BotProcess.mk.injEq, true_and]
  funext router
  by_cases isSecond : router ∈ second
  · simp [isSecond]
  · simp [isSecond]

/-- Routers without a dispatcher can be included one after the other. -/
theorem runOn_includes {routers : List BotRouter} (distinct : routers.Nodup)
    (free : ∀ router ∈ routers, process.parent router = none) :
    Failing.runOn (routers.forM (includeRouter dispatcher)) process =
      (.ok (), process.attach dispatcher routers) := by
  induction routers generalizing process with
  | nil =>
      rw [attach_nil]
      rfl
  | cons router routers ih =>
      obtain ⟨isNew, distinct⟩ := List.nodup_cons.mp distinct
      have stillFree : ∀ other ∈ routers,
          (process.attach dispatcher [router]).parent other = none := by
        intro other member
        have different : other ∉ [router] := by
          rw [List.mem_singleton]
          rintro rfl
          exact isNew member
        exact (if_neg different).trans
          (free other (List.mem_cons_of_mem _ member))
      have first := @runOn_includeRouter process dispatcher router
        (free router List.mem_cons_self)
      rw [Failing.forM_cons, Failing.runOn_bind, first]
      dsimp only
      rw [ih distinct stillFree, attach_attach]
      rfl

/-- The first router that has a dispatcher already ends the loop. -/
theorem runOn_includes_attached {router : BotRouter}
    {routers : List BotRouter} (attached : process.parent router ≠ none) :
    Failing.runOn ((router :: routers).forM (includeRouter dispatcher))
      process = (.error .routerAttached, process) := by
  have first := @runOn_includeRouter_attached process dispatcher router
    attached
  rw [Failing.forM_cons, Failing.runOn_bind, first]

end Includes

section Builds

variable {process : BotProcess} {resellerId : Nat}

theorem runOn_build :
    (buildDispatcherForReseller resellerId).runOn process =
      Failing.runOn (do
        registerResellerHandlers process.dispatchers.length
        registerOperatorHandlers process.dispatchers.length
        registerCustomerHandlers process.dispatchers.length
        return process.dispatchers.length) (process.withDispatcher resellerId) :=
  rfl

/-- The first dispatcher of a process gets all routers. -/
theorem runOn_build_fresh (fresh : process.Fresh) :
    (buildDispatcherForReseller resellerId).runOn process =
      (.ok process.dispatchers.length,
        (process.withDispatcher resellerId).attach process.dispatchers.length
          dispatcherRouters) := by
  have opens : (process.withDispatcher resellerId).Fresh := fresh
  rw [runOn_build]
  generalize process.withDispatcher resellerId = opened at opens
  generalize process.dispatchers.length = dispatcher
  have reseller : (registerResellerHandlers dispatcher).runOn opened =
      (.ok (), opened.attach dispatcher resellerRouters) :=
    runOn_includes (by decide) fun router _ => opens router
  have operator : (registerOperatorHandlers dispatcher).runOn
      (opened.attach dispatcher resellerRouters) =
      (.ok (), opened.attach dispatcher
        (resellerRouters ++ operatorRouters)) := by
    rw [← attach_attach]
    have distinct : operatorRouters.Nodup := by decide
    refine runOn_includes distinct fun router isOperator => ?_
    have different : router ∉ resellerRouters := by
      revert isOperator
      cases router <;> decide
    exact (if_neg different).trans (opens router)
  have customer : (registerCustomerHandlers dispatcher).runOn
      (opened.attach dispatcher (resellerRouters ++ operatorRouters)) =
      (.ok (), opened.attach dispatcher dispatcherRouters) := by
    rw [dispatcherRouters,
      ← @attach_attach opened dispatcher _ customerRouters]
    have distinct : customerRouters.Nodup := by decide
    refine runOn_includes distinct fun router isCustomer => ?_
    have different : router ∉ resellerRouters ++ operatorRouters := by
      revert isCustomer
      cases router <;> decide
    exact (if_neg different).trans (opens router)
  simp only [Failing.runOn_bind, reseller, operator, customer,
    Failing.runOn_pure]

/-- No other dispatcher gets one. -/
theorem runOn_build_attached (attached : process.Attached) :
    (buildDispatcherForReseller resellerId).runOn process =
      (.error .routerAttached, process.withDispatcher resellerId) := by
  have fails : (registerResellerHandlers process.dispatchers.length).runOn
      (process.withDispatcher resellerId) =
      (.error .routerAttached, process.withDispatcher resellerId) :=
    runOn_includes_attached attached
  simp only [runOn_build, Failing.runOn_bind, fails]

/-- The dispatcher is built, is the reseller's, and has all routers. -/
def BuildsAll (process : BotProcess) (resellerId : Nat) : Prop :=
  match (buildDispatcherForReseller resellerId).runOn process with
  | (.ok dispatcher, after) =>
      after.dispatchers[dispatcher]? = some resellerId ∧
        ∀ router ∈ dispatcherRouters, after.parent router = some dispatcher
  | (.error _, _) => False

theorem buildsAll_of_fresh (fresh : process.Fresh) :
    BuildsAll process resellerId := by
  rw [BuildsAll, runOn_build_fresh fresh]
  refine ⟨?_, fun router member => if_pos member⟩
  exact List.getElem?_concat_length

theorem not_buildsAll_of_attached (attached : process.Attached) :
    ¬ BuildsAll process resellerId := by
  rw [BuildsAll, runOn_build_attached attached]
  exact id

end Builds

/-- The calls of the manager's methods, with what the outside says to them. -/
inductive BotCall where
  | start (resellerId : Nat) (token commands : Option BotError)
  | stop (resellerId : Nat) (closed : Option BotError)

def BotCall.step (process : BotProcess) : BotCall → BotProcess
  | .start resellerId token commands =>
      ((startBot (openBot token commands resellerId) resellerId).runOn
        process).2
  | .stop resellerId closed => ((stopBot closed resellerId).runOn process).2

/-- The call builds a dispatcher: it starts a bot that has no entry and whose
token can be decrypted. -/
def BotCall.Builds (process : BotProcess) : BotCall → Prop
  | .start resellerId token _ =>
      process.isRunning resellerId = false ∧ token = none
  | .stop .. => False

instance (process : BotProcess) : DecidablePred (BotCall.Builds process)
  | .start .. => inferInstanceAs (Decidable (_ ∧ _))
  | .stop .. => inferInstanceAs (Decidable False)

def BotCall.resellerId : BotCall → Nat
  | .start resellerId .. => resellerId
  | .stop resellerId _ => resellerId

/-- If the call builds a dispatcher, it gets one with all routers. -/
def BotCall.ServesAll (process : BotProcess) (call : BotCall) : Prop :=
  call.Builds process → BuildsAll process call.resellerId

/-- How many dispatchers the calls build. -/
def buildCount (process : BotProcess) (calls : List BotCall) : Nat :=
  StepRuns.tally BotCall.step
    (fun process call => if call.Builds process then 1 else 0) process calls

section Calls

variable {process : BotProcess} {call : BotCall}

theorem keeps_answered {Seen : Type} {observe : BotProcess → Seen}
    (answer : Option BotError) : Failing.Keeps observe (answered answer) := by
  cases answer with
  | none => exact Failing.keeps_pure _
  | some error => exact Failing.keeps_throw _

theorem runOn_startBot (opened : BotProgram Unit) (resellerId : Nat) :
    (startBot opened resellerId).runOn process =
      if process.isRunning resellerId then (.ok (), process)
      else Failing.runOn (do
        opened
        modify (·.withTask resellerId)) process := by
  rw [startBot, Failing.runOn_bind, Failing.runOn_get]
  dsimp only
  split_ifs
  · rfl
  · rfl

/-- A stop detaches no router. -/
theorem keeps_stopBot (closed : Option BotError) (resellerId : Nat) :
    Failing.Keeps parent (stopBot closed resellerId) := by
  intro process
  rw [stopBot, Failing.runOn_bind, Failing.runOn_get]
  dsimp only
  cases process.running.lookup resellerId with
  | none => rfl
  | some task => exact keeps_answered closed _

/-- Only a build attaches routers. -/
theorem parent_step_of_not_builds (none : ¬ call.Builds process) :
    (call.step process).parent = process.parent := by
  cases call with
  | stop resellerId closed => exact keeps_stopBot closed resellerId process
  | start resellerId token commands =>
      rw [BotCall.step, runOn_startBot]
      split_ifs with running
      · rfl
      · cases token with
        | some error => rfl
        | none => exact absurd ⟨Bool.eq_false_iff.mpr running, rfl⟩ none

theorem parent_step_of_builds (builds : call.Builds process) :
    (call.step process).parent =
      ((buildDispatcherForReseller call.resellerId).runOn process).2.parent := by
  cases call with
  | stop resellerId closed => exact builds.elim
  | start resellerId token commands =>
      obtain ⟨notRunning, rfl⟩ := builds
      have entered : Failing.Keeps parent
          (modify (·.withTask resellerId) : BotProgram Unit) :=
        Failing.keeps_modify fun _ => rfl
      rw [BotCall.step, runOn_startBot, notRunning,
        if_neg Bool.false_ne_true,
        Failing.observe_bind_of_keeps fun _ => entered]
      exact Failing.observe_bind_of_keeps
        (fun _ => keeps_answered commands) process

theorem attached_step_of_builds (builds : call.Builds process)
    (fresh : process.Fresh) : (call.step process).Attached := by
  rw [Attached, parent_step_of_builds builds, runOn_build_fresh fresh]
  exact Option.some_ne_none _

theorem attached_step (attached : process.Attached) :
    (call.step process).Attached := by
  rw [Attached]
  by_cases builds : call.Builds process
  · rw [parent_step_of_builds builds, runOn_build_attached attached]
    exact attached
  · rw [parent_step_of_not_builds builds]
    exact attached

theorem buildCount_cons (calls : List BotCall) :
    buildCount process (call :: calls) =
      (if call.Builds process then 1 else 0) +
        buildCount (call.step process) calls :=
  rfl

end Calls

/-- With the routers attached, no build gets all of them. -/
theorem along_of_attached {process : BotProcess} (attached : process.Attached)
    (calls : List BotCall) :
    StepRuns.Along BotCall.step BotCall.ServesAll process calls ↔
      buildCount process calls = 0 := by
  induction calls generalizing process with
  | nil => exact iff_of_true trivial rfl
  | cons call calls ih =>
      have later := ih (@attached_step process call attached)
      rw [StepRuns.Along, later, buildCount_cons]
      by_cases builds : call.Builds process
      · have fails : ¬ call.ServesAll process := fun serves =>
          not_buildsAll_of_attached attached (serves builds)
        simp [fails, builds]
      · have serves : call.ServesAll process := fun built =>
          absurd built builds
        simp [serves, builds]

theorem along_of_fresh {process : BotProcess} (fresh : process.Fresh)
    (calls : List BotCall) :
    StepRuns.Along BotCall.step BotCall.ServesAll process calls ↔
      buildCount process calls ≤ 1 := by
  induction calls generalizing process with
  | nil => exact iff_of_true trivial (Nat.zero_le 1)
  | cons call calls ih =>
      have serves : call.ServesAll process := fun _ =>
        buildsAll_of_fresh fresh
      rw [StepRuns.Along, and_iff_right serves, buildCount_cons]
      by_cases builds : call.Builds process
      · rw [along_of_attached (attached_step_of_builds builds fresh),
          if_pos builds]
        omega
      · have stillFresh : (call.step process).Fresh := by
          intro router
          rw [parent_step_of_not_builds builds]
          exact fresh router
        rw [ih stillFresh, if_neg builds, Nat.zero_add]

/-- Every dispatcher that a process builds gets all routers if and only if the
process builds at most one: over all its starts and stops, of any number of
resellers, a running one's and a stopped one's again. -/
theorem buildsAll_iff (calls : List BotCall) :
    StepRuns.Along BotCall.step BotCall.ServesAll .empty calls ↔
      buildCount .empty calls ≤ 1 :=
  along_of_fresh (fun _ => rfl) calls

/-- A second reseller gets no dispatcher, and a stopped one gets none
again. -/
theorem second_start_fails :
    ¬ StepRuns.Along BotCall.step BotCall.ServesAll .empty
        [.start 1 none none, .start 2 none none] ∧
      ¬ StepRuns.Along BotCall.step BotCall.ServesAll .empty
        [.start 1 none none, .stop 1 none, .start 1 none none] := by
  have fresh : BotProcess.empty.Fresh := fun _ => rfl
  rw [along_of_fresh fresh, along_of_fresh fresh]
  decide +kernel

end Baste
