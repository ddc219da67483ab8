import Baste.DiscountCommands

/-!
# The limit of a discount code

A command reads the code, overwrites the price of the order and counts the use
in three statements, with nothing that keeps the uses that are left.  The
limit and the count are right as long as every command that finds the code
valid finds a use that no other command is about to take, and no command is
lost between the price and the count.
-/

namespace Baste

open Database Transaction ShopBot.CustomerOrders DiscountEvent

/-- How far a command has come. -/
inductive DiscountPoint where
  | started
  | orderRead (order : Option OrderRow)
  | validated (orderId : Nat) (price : Cents) (codeId : Nat)
  | priced (codeId : Nat)
  | ended (result : Except HandlerError Unit)
  | lost
  deriving DecidableEq

namespace DiscountPoint

/-- The statements that are left, of a command that finishes with a result. -/
def program {Result : Type} (command : DiscountCommand)
    (finish : Except HandlerError Unit → Result) :
    DiscountPoint → Program Result
  | started => command.program fun result => .done (finish result)
  | orderRead order => command.validating order fun result =>
      .done (finish result)
  | validated orderId price codeId =>
      DiscountCommand.pricing orderId price codeId (.done (finish (.ok ())))
  | priced codeId => DiscountCommand.counting codeId (.done (finish (.ok ())))
  | ended result => .done (finish result)
  | lost => .lost

/-- The rows that the next statement writes. -/
def rows : DiscountPoint → List RowKey
  | validated orderId _ _ => [.row .orders orderId]
  | priced codeId => [.row .discountCodes codeId]
  | _ => []

/-- Where the command goes after it has read the code. -/
def afterValidation (command : DiscountCommand) (order : Option OrderRow)
    (db : Db) : DiscountPoint :=
  match command.validCode db, command.orderId, order with
  | none, _, _ => ended (.ok ())
  | some (codeId, row), some orderId, some order =>
      validated orderId (discountOf order.packagePrice row) codeId
  | some _, _, _ => ended (.error .typeError)

/-- The next statement. -/
def advance (command : DiscountCommand) (db : Db) :
    DiscountPoint → Db × DiscountPoint
  | started => (db, orderRead (command.order db))
  | orderRead order => (db, afterValidation command order db)
  | validated orderId price codeId =>
      (db.modify .orders orderId (·.withPrice price), priced codeId)
  | priced codeId =>
      (db.modify .discountCodes codeId (·.counted), ended (.ok ()))
  | ended result => (db, ended result)
  | lost => (db, lost)

/-- A command that is lost keeps what it has done. -/
def lose : DiscountPoint → DiscountPoint
  | ended result => ended result
  | _ => lost

/-- The command has found the code valid and has not lowered a price yet. -/
def IsToPrice (codeId : Nat) : DiscountPoint → Prop
  | validated _ _ id => id = codeId
  | _ => False

/-- The command has lowered a price and has not counted it yet. -/
def IsToCount (codeId : Nat) : DiscountPoint → Prop
  | priced id => id = codeId
  | _ => False

/-- A command that is going to lower a price has read its order and a valid
code. -/
theorem valid_of_isToPrice {command : DiscountCommand}
    {order : Option OrderRow} {db : Db} {codeId : Nat}
    (takes : (afterValidation command order db).IsToPrice codeId) :
    ∃ found row, order = some found ∧
      command.validCode db = some (codeId, row) := by
  unfold afterValidation at takes
  rcases valid : command.validCode db with _ | ⟨id, row⟩
  · rw [valid] at takes
    exact takes.elim
  · rw [valid] at takes
    cases about : command.orderId with
    | none =>
        rw [about] at takes
        exact takes.elim
    | some orderId =>
        rw [about] at takes
        cases order with
        | none => exact takes.elim
        | some found =>
            have same : id = codeId := takes
            exact ⟨found, row, rfl, by rw [same]⟩

instance (codeId : Nat) : DecidablePred (IsToPrice codeId)
  | validated _ _ id => inferInstanceAs (Decidable (id = codeId))
  | started | orderRead _ | priced _ | ended _ | lost =>
      inferInstanceAs (Decidable False)

instance (codeId : Nat) : DecidablePred (IsToCount codeId)
  | priced id => inferInstanceAs (Decidable (id = codeId))
  | started | orderRead _ | validated _ _ _ | ended _ | lost =>
      inferInstanceAs (Decidable False)

section Systems

variable {Caller Result : Type} [DecidableEq Caller]
variable {system : System Caller Db RowKey Result} {caller : Caller}
variable {command : DiscountCommand}
variable {finish : Except HandlerError Unit → Result} {point : DiscountPoint}

/-- The next statement of a command among other calls. -/
theorem step_statement {action : Db → Action Db RowKey}
    {next : Db → Program Result}
    (isAt : system.process caller = ⟨point.program command finish, none⟩)
    (isNext : point.program command finish = .statement action next)
    (sameRows : (action system.state).rows = point.rows)
    (effect : (action system.state).effect
      ((action system.state).reserve system.state) =
        (point.advance command system.state).1)
    (rest : next system.state =
      (point.advance command system.state).2.program command finish)
    (free : system.Free caller point.rows) :
    system.step (.advance caller) =
      { state := (point.advance command system.state).1
        locks := system.locks
        process := system.resume caller
          ⟨(point.advance command system.state).2.program command finish,
            none⟩ } := by
  rw [isNext] at isAt
  rw [← sameRows] at free
  rw [System.step_statement isAt free, effect, rest]

theorem step_stays
    (isAt : system.process caller = ⟨point.program command finish, none⟩)
    (ends : (∃ result, point.program command finish = .done result) ∨
      point.program command finish = .lost)
    (stays : point.advance command system.state = (system.state, point)) :
    system.step (.advance caller) =
      { state := (point.advance command system.state).1
        locks := system.locks
        process := system.resume caller
          ⟨(point.advance command system.state).2.program command finish,
            none⟩ } := by
  rw [stays, System.resume]
  dsimp only
  rw [← isAt, Function.update_eq_self]
  rcases ends with ⟨result, isDone⟩ | isLost
  · rw [isDone] at isAt
    simp [System.step, isAt]
  · rw [isLost] at isAt
    simp [System.step, isAt]

/-- A command whose rows are free goes on to its next point. -/
theorem step_advance
    (isAt : system.process caller = ⟨point.program command finish, none⟩)
    (free : system.Free caller point.rows) :
    system.step (.advance caller) =
      { state := (point.advance command system.state).1
        locks := system.locks
        process := system.resume caller
          ⟨(point.advance command system.state).2.program command finish,
            none⟩ } := by
  cases point with
  | started => exact step_statement isAt rfl rfl rfl rfl free
  | orderRead order =>
      refine step_statement isAt rfl rfl rfl ?_ free
      dsimp only [advance]
      unfold afterValidation
      rcases command.validCode system.state with _ | valid
      · rfl
      · cases command.orderId <;> cases order <;> rfl
  | validated orderId price codeId =>
      exact step_statement isAt rfl rfl rfl rfl free
  | priced codeId => exact step_statement isAt rfl rfl rfl rfl free
  | ended result => exact step_stays isAt (.inl ⟨_, rfl⟩) rfl
  | lost => exact step_stays isAt (.inr rfl) rfl

/-- A command whose rows are locked waits. -/
theorem step_waiting
    (isAt : system.process caller = ⟨point.program command finish, none⟩)
    (waits : ¬ system.Free caller point.rows) :
    system.step (.advance caller) = system := by
  have locked : point.rows ≠ [] := by
    intro nothing
    rw [nothing] at waits
    exact waits fun _ _ member => absurd member List.not_mem_nil
  cases point with
  | validated orderId price codeId => exact System.step_waiting isAt waits
  | priced codeId => exact System.step_waiting isAt waits
  | started => exact absurd rfl locked
  | orderRead order => exact absurd rfl locked
  | ended result => exact absurd rfl locked
  | lost => exact absurd rfl locked

/-- A command that is lost leaves the database as it is. -/
theorem step_lose
    (isAt : system.process caller = ⟨point.program command finish, none⟩) :
    ∃ locks, (locks = system.locks ∨ locks = release system.locks caller) ∧
      system.step (.lose caller) =
        { state := system.state
          locks := locks
          process := system.resume caller
            ⟨point.lose.program command finish, none⟩ } := by
  have stays : point.lose = point →
      system.resume caller ⟨point.lose.program command finish, none⟩ =
        system.process := by
    intro same
    rw [same, ← isAt, System.resume, Function.update_eq_self]
  cases point with
  | ended result =>
      refine ⟨system.locks, .inl rfl, ?_⟩
      rw [stays rfl]
      simp [System.step, isAt, program]
  | lost =>
      refine ⟨system.locks, .inl rfl, ?_⟩
      rw [stays rfl]
      simp [System.step, isAt, program]
  | started =>
      refine ⟨_, .inr rfl, ?_⟩
      simp only [System.step, isAt]
      rfl
  | orderRead order =>
      refine ⟨_, .inr rfl, ?_⟩
      simp only [System.step, isAt]
      rfl
  | validated orderId price codeId =>
      refine ⟨_, .inr rfl, ?_⟩
      simp only [System.step, isAt]
      rfl
  | priced codeId =>
      refine ⟨_, .inr rfl, ?_⟩
      simp only [System.step, isAt]
      rfl

end Systems

end DiscountPoint

/-- Any number of commands that run against one database. -/
structure DiscountRun (Caller : Type) where
  db : Db
  point : Caller → DiscountPoint

namespace DiscountRun

variable {Caller : Type}

def start (db : Db) : DiscountRun Caller where
  db := db
  point _ := .started

/-- The commands as programs over the transactional store. -/
def system (commands : Caller → DiscountCommand) (run : DiscountRun Caller) :
    System Caller Db RowKey (Except HandlerError Unit) where
  state := run.db
  locks := []
  process caller := ⟨(run.point caller).program (commands caller) id, none⟩

variable [DecidableEq Caller] (commands : Caller → DiscountCommand)

def step (run : DiscountRun Caller) : Event Caller → DiscountRun Caller
  | .advance caller =>
      let (db, point) := (run.point caller).advance (commands caller) run.db
      ⟨db, Function.update run.point caller point⟩
  | .lose caller =>
      { run with
        point := Function.update run.point caller (run.point caller).lose }

/-- The number of price reductions that a step makes with the code. -/
def reductionsBy (codeId : Nat) (run : DiscountRun Caller) :
    Event Caller → Nat
  | .advance caller =>
      if (run.point caller).IsToPrice codeId then 1 else 0
  | .lose _ => 0

section Refinement

variable {commands} {run : DiscountRun Caller}

theorem process_update (caller : Caller) (point : DiscountPoint) :
    (fun other => (⟨(Function.update run.point caller point other).program
        (commands other) id, none⟩ :
          Process Db RowKey (Except HandlerError Unit))) =
      (run.system commands).resume caller
        ⟨point.program (commands caller) id, none⟩ := by
  funext other
  by_cases same : other = caller
  · subst same
    rw [System.resume, Function.update_self, Function.update_self]
  · rw [System.resume, Function.update_of_ne same, Function.update_of_ne same]
    rfl

/-- The steps of the run are those of the programs. -/
theorem system_step (event : Event Caller) :
    (run.step commands event).system commands =
      (run.system commands).step event := by
  cases event with
  | advance caller =>
      have free : (run.system commands).Free caller (run.point caller).rows :=
        fun _ member => absurd member List.not_mem_nil
      rw [DiscountPoint.step_advance rfl free, step]
      dsimp only [system]
      rw [process_update]
      rfl
  | lose caller =>
      obtain ⟨locks, kept, stepped⟩ := DiscountPoint.step_lose
        (rfl : (run.system commands).process caller =
          ⟨(run.point caller).program (commands caller) id, none⟩)
      have none_ : locks = [] := by
        rcases kept with rfl | rfl
        · rfl
        · rfl
      rw [stepped, none_, step]
      dsimp only [system]
      rw [process_update]
      rfl

/-- A run of the commands is a run of their programs. -/
theorem system_final (db : Db) (events : List (Event Caller)) :
    (StepRuns.final (step commands) (start db) events).system commands =
      StepRuns.final System.step
        (System.start db fun caller => (commands caller).program .done)
        events := by
  have begins : (start db : DiscountRun Caller).system commands =
      System.start db fun caller => (commands caller).program .done :=
    rfl
  rw [← begins]
  generalize (start db : DiscountRun Caller) = run
  induction events generalizing run with
  | nil => rfl
  | cons event events ih =>
      rw [StepRuns.final_cons, StepRuns.final_cons, ih, system_step]

end Refinement

/-- The step respects the uses of the code.  A command that finds the code
valid finds a use that is not yet counted and that no command at work on the
code is about to count; and no command is lost between the two statements. -/
def LeavesUse (codeId : Nat) (run : DiscountRun Caller) : Event Caller → Prop
  | .advance caller => ∀ order row,
      run.point caller = .orderRead (some order) →
      (commands caller).validCode run.db = some (codeId, row) →
      ∃ users : Finset Caller,
        (∀ other, other ∈ users ↔ (run.point other).IsToPrice codeId ∨
          (run.point other).IsToCount codeId) ∧
        row.usageCount + users.card < row.usageLimit
  | .lose caller => ¬ (run.point caller).IsToCount codeId

/-- The count is within the limit.  When no command stands between its two
statements, it is what it was at the start and the price reductions. -/
def UsesRight (codeId : Nat) (start : DiscountCodeRow) (reductions : Nat)
    (run : DiscountRun Caller) : Prop :=
  ∃ row, run.db.row .discountCodes codeId = some row ∧
    row.usageCount ≤ row.usageLimit ∧
    ((∀ caller, ¬ (run.point caller).IsToCount codeId) →
      row.usageCount = start.usageCount + reductions)

/-- The uses that are counted and those that are about to be. -/
structure Accounted (codeId : Nat) (start : DiscountCodeRow)
    (reductions : Nat) (run : DiscountRun Caller) (toPrice toCount : Finset Caller)
    (row : DiscountCodeRow) : Prop where
  found : run.db.row .discountCodes codeId = some row
  mem_toPrice : ∀ caller,
    caller ∈ toPrice ↔ (run.point caller).IsToPrice codeId
  mem_toCount : ∀ caller,
    caller ∈ toCount ↔ (run.point caller).IsToCount codeId
  within : row.usageCount + toPrice.card + toCount.card ≤ row.usageLimit
  counted : row.usageCount + toCount.card = start.usageCount + reductions

section Limits

variable {commands} {run : DiscountRun Caller} {codeId reductions : Nat}
variable {start row : DiscountCodeRow} {toPrice toCount : Finset Caller}
variable {caller : Caller}

omit [DecidableEq Caller] in
theorem Accounted.usesRight
    (accounted : Accounted codeId start reductions run toPrice toCount row) :
    UsesRight codeId start reductions run := by
  have within := accounted.within
  have counted := accounted.counted
  refine ⟨row, accounted.found, by omega, fun none_ => ?_⟩
  have empty : toCount = ∅ := by
    apply Finset.eq_empty_of_forall_notMem
    intro caller member
    exact none_ caller ((accounted.mem_toCount caller).mp member)
  rw [empty, Finset.card_empty] at counted
  omega

/-- What a step has to do to the sets of commands. -/
theorem accounted_update {db : Db} {point : DiscountPoint}
    {nextPrice nextCount : Finset Caller}
    (accounted : Accounted codeId start reductions run toPrice toCount row)
    (othersPrice : ∀ other, other ≠ caller →
      (other ∈ nextPrice ↔ other ∈ toPrice))
    (othersCount : ∀ other, other ≠ caller →
      (other ∈ nextCount ↔ other ∈ toCount))
    (ownPrice : caller ∈ nextPrice ↔ point.IsToPrice codeId)
    (ownCount : caller ∈ nextCount ↔ point.IsToCount codeId)
    {next : DiscountCodeRow} {later : Nat}
    (found : db.row .discountCodes codeId = some next)
    (within : next.usageCount + nextPrice.card + nextCount.card ≤
      next.usageLimit)
    (counted : next.usageCount + nextCount.card = start.usageCount + later) :
    Accounted codeId start later
      ⟨db, Function.update run.point caller point⟩ nextPrice nextCount next where
  found := found
  mem_toPrice other := by
    dsimp only
    by_cases same : other = caller
    · subst same
      rw [ownPrice, Function.update_self]
    · rw [othersPrice other same, Function.update_of_ne same]
      exact accounted.mem_toPrice other
  mem_toCount other := by
    dsimp only
    by_cases same : other = caller
    · subst same
      rw [ownCount, Function.update_self]
    · rw [othersCount other same, Function.update_of_ne same]
      exact accounted.mem_toCount other
  within := within
  counted := counted

/-- A step that neither takes nor counts a use of the code. -/
theorem Accounted.elsewhere {db : Db} {point : DiscountPoint}
    (accounted : Accounted codeId start reductions run toPrice toCount row)
    (sameRow : db.row .discountCodes codeId =
      run.db.row .discountCodes codeId)
    (samePrice : point.IsToPrice codeId ↔
      (run.point caller).IsToPrice codeId)
    (sameCount : point.IsToCount codeId ↔
      (run.point caller).IsToCount codeId) :
    Accounted codeId start reductions
      ⟨db, Function.update run.point caller point⟩ toPrice toCount row :=
  accounted_update accounted (fun _ _ => Iff.rfl) (fun _ _ => Iff.rfl)
    ((accounted.mem_toPrice caller).trans samePrice.symm)
    ((accounted.mem_toCount caller).trans sameCount.symm)
    (sameRow.trans accounted.found) accounted.within accounted.counted

omit [DecidableEq Caller] in
/-- The commands at work on the code. -/
theorem Accounted.card_users
    (accounted : Accounted codeId start reductions run toPrice toCount row)
    {users : Finset Caller}
    (isUser : ∀ other, other ∈ users ↔ (run.point other).IsToPrice codeId ∨
      (run.point other).IsToCount codeId) :
    users.card = toPrice.card + toCount.card := by
  classical
  have disjoint : Disjoint toPrice toCount := by
    rw [Finset.disjoint_left]
    intro other priced counted
    have isToPrice := (accounted.mem_toPrice other).mp priced
    have isToCount := (accounted.mem_toCount other).mp counted
    cases isAt : run.point other <;> rw [isAt] at isToPrice isToCount <;>
      first | exact isToPrice | exact isToCount
  rw [← Finset.card_union_of_disjoint disjoint]
  congr 1
  ext other
  rw [isUser, Finset.mem_union, accounted.mem_toPrice, accounted.mem_toCount]

/-- The command takes a use of the code. -/
theorem Accounted.take {point : DiscountPoint}
    (accounted : Accounted codeId start reductions run toPrice toCount row)
    (notToPrice : ¬ (run.point caller).IsToPrice codeId)
    (notToCount : ¬ (run.point caller).IsToCount codeId)
    (toPriceNow : point.IsToPrice codeId)
    (notToCountNow : ¬ point.IsToCount codeId)
    (left : row.usageCount + toPrice.card + toCount.card < row.usageLimit) :
    Accounted codeId start reductions
      ⟨run.db, Function.update run.point caller point⟩
      (insert caller toPrice) toCount row := by
  have new : caller ∉ toPrice := fun member =>
    notToPrice ((accounted.mem_toPrice caller).mp member)
  have notCounting : caller ∉ toCount := fun member =>
    notToCount ((accounted.mem_toCount caller).mp member)
  refine accounted_update accounted (fun other different => ?_)
    (fun _ _ => Iff.rfl) ?_ ?_ accounted.found ?_ accounted.counted
  · rw [Finset.mem_insert, or_iff_right different]
  · exact iff_of_true (Finset.mem_insert_self _ _) toPriceNow
  · exact iff_of_false notCounting notToCountNow
  · rw [Finset.card_insert_of_notMem new]
    push_cast
    omega

/-- The command lowers the price of its order. -/
theorem Accounted.price {db : Db} {point : DiscountPoint}
    (accounted : Accounted codeId start reductions run toPrice toCount row)
    (sameRow : db.row .discountCodes codeId =
      run.db.row .discountCodes codeId)
    (toPriceBefore : (run.point caller).IsToPrice codeId)
    (notToCount : ¬ (run.point caller).IsToCount codeId)
    (notToPriceNow : ¬ point.IsToPrice codeId)
    (toCountNow : point.IsToCount codeId) :
    Accounted codeId start (reductions + 1)
      ⟨db, Function.update run.point caller point⟩
      (toPrice.erase caller) (insert caller toCount) row := by
  have member : caller ∈ toPrice :=
    (accounted.mem_toPrice caller).mpr toPriceBefore
  have new : caller ∉ toCount := fun listed =>
    notToCount ((accounted.mem_toCount caller).mp listed)
  have fewer := Finset.card_erase_add_one member
  have within := accounted.within
  have counted := accounted.counted
  refine accounted_update accounted (fun other different => ?_)
    (fun other different => ?_) ?_ ?_ (sameRow.trans accounted.found) ?_ ?_
  · rw [Finset.mem_erase, and_iff_right different]
  · rw [Finset.mem_insert, or_iff_right different]
  · exact iff_of_false (Finset.notMem_erase _ _) notToPriceNow
  · exact iff_of_true (Finset.mem_insert_self _ _) toCountNow
  · rw [Finset.card_insert_of_notMem new]
    push_cast
    omega
  · rw [Finset.card_insert_of_notMem new]
    push_cast
    omega

/-- The command counts the use. -/
theorem Accounted.count {db : Db} {point : DiscountPoint}
    (accounted : Accounted codeId start reductions run toPrice toCount row)
    (countedRow : db.row .discountCodes codeId = some row.counted)
    (notToPrice : ¬ (run.point caller).IsToPrice codeId)
    (toCountBefore : (run.point caller).IsToCount codeId)
    (notToPriceNow : ¬ point.IsToPrice codeId)
    (notToCountNow : ¬ point.IsToCount codeId) :
    Accounted codeId start reductions
      ⟨db, Function.update run.point caller point⟩
      toPrice (toCount.erase caller) row.counted := by
  have member : caller ∈ toCount :=
    (accounted.mem_toCount caller).mpr toCountBefore
  have notPricing : caller ∉ toPrice := fun listed =>
    notToPrice ((accounted.mem_toPrice caller).mp listed)
  have fewer := Finset.card_erase_add_one member
  have within := accounted.within
  have counted := accounted.counted
  refine accounted_update accounted (fun _ _ => Iff.rfl)
    (fun other different => ?_) ?_ ?_ countedRow ?_ ?_
  · rw [Finset.mem_erase, and_iff_right different]
  · exact iff_of_false notPricing notToPriceNow
  · exact iff_of_false (Finset.notMem_erase _ _) notToCountNow
  · dsimp only [DiscountCodeRow.counted]
    omega
  · dsimp only [DiscountCodeRow.counted]
    omega

/-- The command is lost before it lowers the price. -/
theorem Accounted.lose {point : DiscountPoint}
    (accounted : Accounted codeId start reductions run toPrice toCount row)
    (notToCount : ¬ (run.point caller).IsToCount codeId)
    (notToPriceNow : ¬ point.IsToPrice codeId)
    (notToCountNow : ¬ point.IsToCount codeId) :
    Accounted codeId start reductions
      ⟨run.db, Function.update run.point caller point⟩
      (toPrice.erase caller) toCount row := by
  have notCounting : caller ∉ toCount := fun listed =>
    notToCount ((accounted.mem_toCount caller).mp listed)
  have fewer : (toPrice.erase caller).card ≤ toPrice.card :=
    Finset.card_erase_le
  have within := accounted.within
  refine accounted_update accounted (fun other different => ?_)
    (fun _ _ => Iff.rfl) ?_ ?_ accounted.found ?_ accounted.counted
  · rw [Finset.mem_erase, and_iff_right different]
  · exact iff_of_false (Finset.notMem_erase _ _) notToPriceNow
  · exact iff_of_false notCounting notToCountNow
  · omega

theorem step_advance {db : Db} {point : DiscountPoint}
    (goesOn : (run.point caller).advance (commands caller) run.db =
      (db, point)) :
    run.step commands (.advance caller) =
      ⟨db, Function.update run.point caller point⟩ := by
  rw [step, goesOn]

omit [DecidableEq Caller] in
theorem reductionsBy_pos (toPrice : (run.point caller).IsToPrice codeId) :
    run.reductionsBy codeId (.advance caller) = 1 :=
  if_pos toPrice

omit [DecidableEq Caller] in
theorem reductionsBy_neg (other : ¬ (run.point caller).IsToPrice codeId) :
    run.reductionsBy codeId (.advance caller) = 0 :=
  if_neg other

/-- A statement that neither takes nor counts a use of the code. -/
theorem Accounted.advance_elsewhere {db : Db} {point : DiscountPoint}
    (accounted : Accounted codeId start reductions run toPrice toCount row)
    (goesOn : (run.point caller).advance (commands caller) run.db =
      (db, point))
    (sameRow : db.row .discountCodes codeId =
      run.db.row .discountCodes codeId)
    (notToPrice : ¬ (run.point caller).IsToPrice codeId)
    (notToCount : ¬ (run.point caller).IsToCount codeId)
    (notToPriceNow : ¬ point.IsToPrice codeId)
    (notToCountNow : ¬ point.IsToCount codeId) :
    ∃ toPrice toCount row, Accounted codeId start
      (reductions + run.reductionsBy codeId (.advance caller))
      (run.step commands (.advance caller)) toPrice toCount row := by
  rw [step_advance goesOn, reductionsBy_neg notToPrice]
  exact ⟨toPrice, toCount, row, accounted.elsewhere sameRow
    (iff_of_false notToPriceNow notToPrice)
    (iff_of_false notToCountNow notToCount)⟩

/-- A command that validates the code takes a use that is left. -/
theorem Accounted.advance_validation {order : Option OrderRow}
    (accounted : Accounted codeId start reductions run toPrice toCount row)
    (leaves : LeavesUse commands codeId run (.advance caller))
    (isAt : run.point caller = .orderRead order) :
    ∃ toPrice toCount row, Accounted codeId start
      (reductions + run.reductionsBy codeId (.advance caller))
      (run.step commands (.advance caller)) toPrice toCount row := by
  have notToPrice : ¬ (run.point caller).IsToPrice codeId := by
    rw [isAt]
    exact id
  have notToCount : ¬ (run.point caller).IsToCount codeId := by
    rw [isAt]
    exact id
  have goesOn : (run.point caller).advance (commands caller) run.db =
      (run.db, DiscountPoint.afterValidation (commands caller) order run.db) := by
    rw [isAt]
    rfl
  have notToCountNow : ¬ (DiscountPoint.afterValidation (commands caller) order
      run.db).IsToCount codeId := by
    unfold DiscountPoint.afterValidation
    split <;> exact id
  by_cases takes : (DiscountPoint.afterValidation (commands caller) order
      run.db).IsToPrice codeId
  · obtain ⟨found, validRow, rfl, valid⟩ :=
      DiscountPoint.valid_of_isToPrice takes
    obtain ⟨users, isUser, left⟩ := leaves found validRow isAt valid
    have isRow := DiscountCommand.row_of_validCode valid
    cases isRow.symm.trans accounted.found
    rw [accounted.card_users isUser] at left
    push_cast at left
    rw [step_advance goesOn, reductionsBy_neg notToPrice]
    exact ⟨_, _, _, accounted.take notToPrice notToCount takes notToCountNow
      (by omega)⟩
  · exact accounted.advance_elsewhere goesOn rfl notToPrice notToCount takes
      notToCountNow

/-- The next statement of a command keeps the account. -/
theorem Accounted.advance
    (accounted : Accounted codeId start reductions run toPrice toCount row)
    (leaves : LeavesUse commands codeId run (.advance caller)) :
    ∃ toPrice toCount row, Accounted codeId start
      (reductions + run.reductionsBy codeId (.advance caller))
      (run.step commands (.advance caller)) toPrice toCount row := by
  cases isAt : run.point caller with
  | started =>
      refine accounted.advance_elsewhere (by rw [isAt]; rfl) rfl ?_ ?_ ?_ ?_ <;>
        first | exact not_false | (rw [isAt]; exact not_false)
  | orderRead order => exact accounted.advance_validation leaves isAt
  | validated orderId price id =>
      have goesOn : (run.point caller).advance (commands caller) run.db =
          (run.db.modify .orders orderId (·.withPrice price), .priced id) := by
        rw [isAt]
        rfl
      have notToCount : ¬ (run.point caller).IsToCount codeId := by
        rw [isAt]
        exact not_false
      have sameRow : (run.db.modify .orders orderId (·.withPrice price)).row
          .discountCodes codeId = run.db.row .discountCodes codeId :=
        row_modify_of_ne (by decide)
      by_cases toPriceNow : (run.point caller).IsToPrice codeId
      · have toCountNow : (DiscountPoint.priced id).IsToCount codeId := by
          rwa [isAt] at toPriceNow
        rw [step_advance goesOn, reductionsBy_pos toPriceNow]
        exact ⟨_, _, _, accounted.price sameRow toPriceNow notToCount
          not_false toCountNow⟩
      · apply accounted.advance_elsewhere goesOn sameRow toPriceNow notToCount
          not_false
        rwa [isAt] at toPriceNow
  | priced id =>
      have goesOn : (run.point caller).advance (commands caller) run.db =
          (run.db.modify .discountCodes id (·.counted),
            .ended (.ok ())) := by
        rw [isAt]
        rfl
      have notToPrice : ¬ (run.point caller).IsToPrice codeId := by
        rw [isAt]
        exact not_false
      by_cases toCountNow : (run.point caller).IsToCount codeId
      · have same : id = codeId := by
          rwa [isAt] at toCountNow
        have countedRow : (run.db.modify .discountCodes id (·.counted)).row
            .discountCodes codeId = some row.counted := by
          rw [same, row_modify_self, accounted.found]
          rfl
        rw [step_advance goesOn, reductionsBy_neg notToPrice]
        exact ⟨_, _, _, accounted.count countedRow notToPrice toCountNow
          not_false not_false⟩
      · have other : codeId ≠ id := by
          rw [isAt] at toCountNow
          exact fun same => toCountNow same.symm
        exact accounted.advance_elsewhere goesOn (row_modify_ne other)
          notToPrice toCountNow not_false not_false
  | ended result =>
      refine accounted.advance_elsewhere (by rw [isAt]; rfl) rfl ?_ ?_ ?_ ?_ <;>
        first | exact not_false | (rw [isAt]; exact not_false)
  | lost =>
      refine accounted.advance_elsewhere (by rw [isAt]; rfl) rfl ?_ ?_ ?_ ?_ <;>
        first | exact not_false | (rw [isAt]; exact not_false)

theorem Accounted.step (event : Event Caller)
    (accounted : Accounted codeId start reductions run toPrice toCount row)
    (leaves : LeavesUse commands codeId run event) :
    ∃ toPrice toCount row, Accounted codeId start
      (reductions + run.reductionsBy codeId event)
      (run.step commands event) toPrice toCount row := by
  cases event with
  | advance caller => exact accounted.advance leaves
  | lose caller =>
      have notToPriceNow : ¬ (run.point caller).lose.IsToPrice codeId := by
        cases run.point caller <;> exact not_false
      have notToCountNow : ¬ (run.point caller).lose.IsToCount codeId := by
        cases run.point caller <;> exact not_false
      exact ⟨_, _, _, accounted.lose leaves notToPriceNow notToCountNow⟩

omit [DecidableEq Caller] in
/-- A command that finds no other at work on the code respects its uses. -/
theorem leavesUse_of_idle
    (found : run.db.row .discountCodes codeId = some row)
    (limited : 0 < row.usageLimit)
    (idle : ∀ other, ¬ (run.point other).IsToPrice codeId ∧
      ¬ (run.point other).IsToCount codeId) :
    LeavesUse commands codeId run (.advance caller) := by
  intro order validRow isAt valid
  have isRow := DiscountCommand.row_of_validCode valid
  cases isRow.symm.trans found
  refine ⟨∅, fun other => iff_of_false (Finset.notMem_empty other) ?_, ?_⟩
  · exact not_or.mpr (idle other)
  · obtain ⟨-, isValid⟩ := Option.filter_eq_some_iff.mp valid
    simp only [Bool.and_eq_true, Bool.or_eq_true, decide_eq_true_eq] at isValid
    rw [Finset.card_empty, Nat.cast_zero, add_zero]
    exact isValid.2.resolve_left (by omega)

theorem Accounted.final {events : List (Event Caller)}
    (accounted : Accounted codeId start reductions run toPrice toCount row)
    (leaves : StepRuns.Along (DiscountRun.step commands)
      (LeavesUse commands codeId) run events) :
    ∃ toPrice toCount row, Accounted codeId start
      (reductions + StepRuns.tally (DiscountRun.step commands)
        (reductionsBy codeId) run events)
      (StepRuns.final (DiscountRun.step commands) run events) toPrice toCount
      row := by
  induction events generalizing run reductions toPrice toCount row with
  | nil => exact ⟨_, _, _, accounted⟩
  | cons event events ih =>
      obtain ⟨nextPrice, nextCount, nextRow, next⟩ :=
        accounted.step event leaves.1
      rw [StepRuns.tally, ← Nat.add_assoc]
      exact ih next leaves.2

/-- The limit of a code and the count of its uses are right after every step
of a run all of whose steps respect its uses. -/
theorem usesRight_of_leavesUse {db : Db}
    (found : db.row .discountCodes codeId = some start)
    (within : start.usageCount ≤ start.usageLimit)
    {events : List (Event Caller)}
    (leaves : StepRuns.Along (DiscountRun.step commands)
      (LeavesUse commands codeId) (DiscountRun.start db) events) :
    ∀ past, past <+: events → UsesRight codeId start
      (StepRuns.tally (DiscountRun.step commands) (reductionsBy codeId)
        (DiscountRun.start db) past)
      (StepRuns.final (DiscountRun.step commands) (DiscountRun.start db)
        past) := by
  rintro past ⟨rest, rfl⟩
  have atStart : Accounted codeId start 0 (DiscountRun.start db)
      (∅ : Finset Caller) ∅ start :=
    { found := found
      mem_toPrice := fun caller =>
        iff_of_false (Finset.notMem_empty caller) not_false
      mem_toCount := fun caller =>
        iff_of_false (Finset.notMem_empty caller) not_false
      within := by simpa using within
      counted := by simp }
  have leavesPast := (StepRuns.along_append.mp leaves).1
  obtain ⟨toPrice, toCount, row, accounted⟩ := atStart.final leavesPast
  rw [Nat.zero_add] at accounted
  exact accounted.usesRight

end Limits

section Examples

/-- A code that can be used once. -/
def lastUse : DiscountCodeRow :=
  { shopDiscount 1000 with usageLimit := 1 }

/-- One command after the other. -/
def turns : List (Event (Fin 2)) :=
  [.advance 0, .advance 0, .advance 0, .advance 0, .advance 1, .advance 1]

/-- Both commands validate the code before one of them counts. -/
def overlap : List (Event (Fin 2)) :=
  [.advance 0, .advance 0, .advance 1, .advance 1, .advance 0, .advance 0,
    .advance 1, .advance 1]

/-- The first command is lost before it counts. -/
def interrupted : List (Event (Fin 2)) :=
  [.advance 0, .advance 0, .advance 0, .lose 0]

/-- A code that can be used once, and two orders of 80,000. -/
def lastUseDb : Db :=
  .filled fun
    | .resellers => [shopReseller]
    | .customers => [shopCustomer]
    | .packages => [shopPackage]
    | .orders =>
        [orderedRow, { orderedRow with orderCode := "AR-240131-120000A2" }]
    | .discountCodes => [lastUse]
    | _ => []

/-- Two customers send the code, each for an order. -/
def bothSend (caller : Fin 2) : DiscountCommand where
  shop := ⟨shopSettings, shopSurroundings⟩
  code := "EID10"
  orderId := some (caller + 1)

theorem usesRight_of_leavesUse_turns :
    UsesRight 1 lastUse
      (StepRuns.tally (DiscountRun.step bothSend) (reductionsBy 1)
        (DiscountRun.start lastUseDb) turns)
      (StepRuns.final (DiscountRun.step bothSend) (DiscountRun.start lastUseDb)
        turns) := by
  have found : lastUseDb.row .discountCodes 1 = some lastUse := by
    decide +kernel
  have limited : 0 < lastUse.usageLimit := by decide
  have stillLimited :
      0 < ({ lastUse with usageCount := 1 } : DiscountCodeRow).usageLimit := by
    decide
  refine usesRight_of_leavesUse found (by decide) ?_ turns List.prefix_rfl
  refine ⟨?_, ?_, fun order row isAt => ?_, fun order row isAt => ?_, ?_, ?_,
    trivial⟩
  · exact leavesUse_of_idle found limited (by decide +kernel)
  · exact leavesUse_of_idle found limited (by decide +kernel)
  · cases isAt
  · cases isAt
  · exact leavesUse_of_idle (by decide +kernel) stillLimited (by decide +kernel)
  · exact leavesUse_of_idle (by decide +kernel) stillLimited (by decide +kernel)

/-- Two commands validate the last use of the code, and both take it.  A
command that is lost has lowered a price without counting it. -/
theorem last_use_taken_twice :
    ¬ UsesRight 1 lastUse
        (StepRuns.tally (DiscountRun.step bothSend) (reductionsBy 1)
          (DiscountRun.start lastUseDb) overlap)
        (StepRuns.final (DiscountRun.step bothSend)
          (DiscountRun.start lastUseDb) overlap) ∧
      ¬ UsesRight 1 lastUse
        (StepRuns.tally (DiscountRun.step bothSend) (reductionsBy 1)
          (DiscountRun.start lastUseDb) interrupted)
        (StepRuns.final (DiscountRun.step bothSend)
          (DiscountRun.start lastUseDb) interrupted) := by
  constructor
  · rintro ⟨row, found, within, -⟩
    have reached : (StepRuns.final (DiscountRun.step bothSend)
        (DiscountRun.start lastUseDb) overlap).db.row .discountCodes 1 =
          some { lastUse with usageCount := 2 } := by
      decide +kernel
    cases found.symm.trans reached
    exact absurd within (by decide)
  · rintro ⟨row, found, -, counted⟩
    have reached : (StepRuns.final (DiscountRun.step bothSend)
        (DiscountRun.start lastUseDb) interrupted).db.row .discountCodes 1 =
          some lastUse := by
      decide +kernel
    have reductions : StepRuns.tally (DiscountRun.step bothSend)
        (reductionsBy 1) (DiscountRun.start lastUseDb) interrupted = 1 := by
      decide +kernel
    cases found.symm.trans reached
    rw [reductions] at counted
    exact absurd (counted (by decide +kernel)) (by decide)

end Examples

end DiscountRun

end Baste
