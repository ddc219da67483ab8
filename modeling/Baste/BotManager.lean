import Baste.FailingPrograms
import Baste.KeyedTable

/-!
# The manager of the reseller bots

One process runs the bots of all active resellers.  The manager keeps, for each
reseller, the task that polls for its bot, and compares this table with the
active resellers in the database from time to time.

What a start needs from outside the process is a program of its own: the token,
the dispatcher, and the first request to Telegram.
-/

namespace Baste

inductive BotError where
  | invalidToken
  | routerAttached
  | telegram
  | session
  deriving DecidableEq, Repr

/-- The routers of a reseller bot.  Each is one object of its module. -/
inductive BotRouter where
  | resellerStart
  | resellerOrders
  | resellerCatalog
  | resellerChargeStock
  | resellerWallet
  | resellerSettings
  | resellerReports
  | resellerStats
  | resellerPaymentMethods
  | operatorOrders
  | customerOrders
  | customerCharge
  | customerWallet
  deriving DecidableEq, Repr

structure PollingTask where
  resellerId : Nat
  live : Bool
  deriving DecidableEq, Repr

/-- `running` is the table of the manager in the order of insertion: resellers
and their tasks.  A dispatcher is known by its number, and stores its
reseller. -/
structure BotProcess where
  running : List (Nat × Nat)
  tasks : KeyedTable PollingTask
  dispatchers : List Nat
  parent : BotRouter → Option Nat

abbrev BotProgram (Result : Type) := Failing BotError BotProcess Result

namespace BotProcess

def empty : BotProcess where
  running := []
  tasks := .ofRows []
  dispatchers := []
  parent _ := none

def isRunning (process : BotProcess) (resellerId : Nat) : Bool :=
  process.running.any (·.1 = resellerId)

/-- A new task for the reseller. -/
def withTask (process : BotProcess) (resellerId : Nat) : BotProcess :=
  let task := process.tasks.nextId
  { process with
    running := process.running ++ [(resellerId, task)]
    tasks := process.tasks.reserve.put task ⟨resellerId, true⟩ }

/-- The task has ended: it was cancelled, or its polling has failed. -/
def endTask (process : BotProcess) (task : Nat) : BotProcess :=
  { process with
    tasks := process.tasks.modify task fun task => { task with live := false } }

def withoutEntry (process : BotProcess) (resellerId : Nat) : BotProcess :=
  { process with
    running := process.running.filter fun entry => entry.1 ≠ resellerId }

end BotProcess

/-- A router can be included once. -/
def includeRouter (dispatcher : Nat) (router : BotRouter) : BotProgram Unit := do
  let process ← get
  match process.parent router with
  | some _ => throw .routerAttached
  | none =>
      set { process with
        parent := Function.update process.parent router (some dispatcher) }

def resellerRouters : List BotRouter :=
  [.resellerStart, .resellerOrders, .resellerCatalog, .resellerChargeStock,
    .resellerWallet, .resellerSettings, .resellerReports, .resellerStats,
    .resellerPaymentMethods]

def operatorRouters : List BotRouter :=
  [.operatorOrders]

def customerRouters : List BotRouter :=
  [.customerOrders, .customerCharge, .customerWallet]

def registerResellerHandlers (dispatcher : Nat) : BotProgram Unit :=
  resellerRouters.forM (includeRouter dispatcher)

def registerOperatorHandlers (dispatcher : Nat) : BotProgram Unit :=
  operatorRouters.forM (includeRouter dispatcher)

def registerCustomerHandlers (dispatcher : Nat) : BotProgram Unit :=
  customerRouters.forM (includeRouter dispatcher)

def buildDispatcherForReseller (resellerId : Nat) : BotProgram Nat := do
  let process ← get
  let dispatcher := process.dispatchers.length
  set { process with dispatchers := process.dispatchers ++ [resellerId] }
  registerResellerHandlers dispatcher
  registerOperatorHandlers dispatcher
  registerCustomerHandlers dispatcher
  return dispatcher

/-- What the outside says to a request. -/
def answered : Option BotError → BotProgram Unit
  | none => pure ()
  | some error => throw error

/-- What comes before the task of a new bot: its token, its dispatcher and its
commands. -/
def openBot (token commands : Option BotError) (resellerId : Nat) :
    BotProgram Unit := do
  answered token
  let _ ← buildDispatcherForReseller resellerId
  answered commands

def startBot (opened : BotProgram Unit) (resellerId : Nat) :
    BotProgram Unit := do
  let process ← get
  if process.isRunning resellerId then
    return ()
  opened
  modify (·.withTask resellerId)

def stopBot (closed : Option BotError) (resellerId : Nat) :
    BotProgram Unit := do
  let process ← get
  match process.running.lookup resellerId with
  | none => return ()
  | some task =>
      set ((process.withoutEntry resellerId).endTask task)
      answered closed

/-- The first loop of a comparison: start what has no entry. -/
def startNew (opened : Nat → BotProgram Unit) (active : List Nat) :
    BotProgram Unit :=
  active.forM fun resellerId => do
    let process ← get
    if process.isRunning resellerId then
      return ()
    startBot (opened resellerId) resellerId

/-- The second loop: stop what is not active. -/
def stopInactive (closed : Nat → Option BotError) (active : List Nat) :
    BotProgram Unit := do
  let process ← get
  (process.running.map (·.1)).forM fun resellerId =>
    if active.contains resellerId then
      return ()
    else
      stopBot (closed resellerId) resellerId

/-- `active` is what the query for the active resellers returns. -/
def syncOnce (opened : Nat → BotProgram Unit) (closed : Nat → Option BotError)
    (active : List Nat) : BotProgram Unit := do
  startNew opened active
  stopInactive closed active

end Baste
