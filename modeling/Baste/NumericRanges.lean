import Baste.BotFootprints

/-!
# Ranges of the numbers in the database

The columns whose numbers people type: prices, percentages, credit limits and
usage limits.  What the service functions write keeps them in their ranges, and
so does every script that writes to other tables only.
-/

namespace Baste

open BotScripts Database Transaction

section Columns

/-- Between nothing and all, in hundredths. -/
def IsPercent (cents : Cents) : Prop :=
  0 ≤ cents ∧ cents ≤ 10000

/-- The numbers of a row are in their ranges. -/
def RowInRange : (name : TableName) → RowOf name → Prop
  | .packages, package =>
      0 ≤ PackageRow.salePrice package ∧
        ∀ cost, PackageRow.costPrice package = some cost → 0 ≤ cost
  | .resellers, reseller =>
      IsPercent (ResellerRow.commissionPercent reseller) ∧
        0 ≤ ResellerRow.creditLimitNegative reseller
  | .referrals, row => IsPercent (ReferralRow.profitPercent row)
  | .discountCodes, row =>
      IsPercent (DiscountCodeRow.percent row) ∧
        0 ≤ DiscountCodeRow.usageLimit row
  | _, _ => True

/-- All numbers that people type are in their ranges. -/
abbrev RowsInRange (db : Db) : Prop :=
  db.AllRows RowInRange

/-- The tables with these numbers. -/
def numberTables : List TableName :=
  [.packages, .resellers, .referrals, .discountCodes]

theorem rowInRange_of_notMem {name : TableName} (other : name ∉ numberTables)
    (row : RowOf name) : RowInRange name row := by
  cases name with
  | packages | resellers | referrals | discountCodes =>
      exact absurd (by decide) other
  | _ => trivial

/-- A stored percentage. -/
theorem isPercent_storeDecimal {percent : Rat} (low : 0 ≤ percent)
    (high : percent ≤ 100) : IsPercent (storeDecimal percent) := by
  refine ⟨storeDecimal_nonneg low, ?_⟩
  have bound : (-10000 : Int) ≤ roundHalfAway (-(percent * 100)) := by
    rw [le_roundHalfAway_iff (by decide)]
    push_cast
    linarith
  rw [roundHalfAway_neg] at bound
  change roundHalfAway (percent * 100) ≤ 10000
  linarith

end Columns

section Writes

variable {db after : Db}

theorem RowsInRange.of_sameOutside {tables : List TableName}
    (inRange : RowsInRange db) (same : SameOutside tables db after)
    (others : ∀ name ∈ tables, name ∉ numberTables) : RowsInRange after :=
  AllRows.of_sameOutside inRange same fun name inside =>
    rowInRange_of_notMem (others name inside)

theorem RowsInRange.modify {name : TableName} {id : Nat}
    {change : RowOf name → RowOf name} (inRange : RowsInRange db)
    (other : name ∉ numberTables) : RowsInRange (db.modify name id change) :=
  AllRows.modify inRange fun _ _ => rowInRange_of_notMem other _

theorem RowsInRange.put {name : TableName} {id : Nat} {new : RowOf name}
    (inRange : RowsInRange db) (other : name ∉ numberTables) :
    RowsInRange (db.put name id new) :=
  AllRows.put inRange (rowInRange_of_notMem other _)

/-- A change of the credit or of the test mode keeps the terms of a
reseller. -/
theorem RowsInRange.modify_reseller {id : Nat}
    {change : ResellerRow → ResellerRow} (inRange : RowsInRange db)
    (terms : ∀ row, (change row).commissionPercent = row.commissionPercent ∧
      (change row).creditLimitNegative = row.creditLimitNegative) :
    RowsInRange (db.modify .resellers id change) := by
  apply AllRows.modify inRange
  intro row holds
  change IsPercent (change row).commissionPercent ∧
    0 ≤ (change row).creditLimitNegative
  rw [(terms row).1, (terms row).2]
  exact holds

theorem RowsInRange.withLedgerEntry {resellerId id : Nat} {balance : Cents}
    {entry : WalletTransactionRow} (inRange : RowsInRange db) :
    RowsInRange (db.withLedgerEntry resellerId balance id entry) := by
  have charged : RowsInRange
      (db.modify .resellers resellerId (·.withCreditBalance balance)) :=
    inRange.modify_reseller fun _ => ⟨rfl, rfl⟩
  exact charged.put (by decide)

end Writes

namespace ServiceCall

variable {invariant : Db → Prop} {call : ServiceCall} {before after : Db}

theorem rowsInRange_of_writes
    (writes : (call.guarantee invariant).writes before after)
    (inRange : RowsInRange before) : RowsInRange after := by
  have outside : (∀ name ∈ call.tables, name ∉ numberTables) →
      RowsInRange after :=
    inRange.of_sameOutside (sameOutside_of_writes writes)
  cases call with
  | activateOrder =>
      rcases writes with rfl | ⟨_, -, rfl⟩
      · exact inRange.modify (by decide)
      · exact inRange.modify_reseller fun _ => ⟨rfl, rfl⟩
  | approveDispute =>
      obtain ⟨_, _, -, -, rfl | rfl | ⟨_, rfl⟩⟩ := writes
      · exact inRange.modify (by decide)
      · exact inRange.modify (by decide)
      · exact RowsInRange.put (AllRows.reserve inRange) (by decide)
  | deductCommission | refundCommission | confirmTopup | submitReceipt
  | confirmCustomerTopup => exact writes.elim
  | _ => exact outside (by simp [tables, numberTables])

theorem rowsInRange_of_commits
    (commits : (call.guarantee invariant).commits before after)
    (inRange : RowsInRange before) : RowsInRange after := by
  have outside : (∀ name ∈ call.tables, name ∉ numberTables) →
      RowsInRange after :=
    inRange.of_sameOutside (sameOutside_of_commits commits)
  cases call with
  | deductCommission =>
      obtain ⟨_, _, _, _, _, rfl⟩ := commits
      exact inRange.withLedgerEntry
  | refundCommission =>
      obtain ⟨_, _, _, _, rfl⟩ := commits
      exact inRange.withLedgerEntry
  | confirmTopup =>
      obtain ⟨_, _, _, _, _, rfl⟩ := commits
      exact (inRange.modify (by decide)).modify_reseller fun _ => ⟨rfl, rfl⟩
  | submitReceipt =>
      cases commits with
      | testOrder | failed => exact inRange.modify (by decide)
      | charged => exact inRange.withLedgerEntry.modify (by decide)
  | confirmCustomerTopup =>
      cases commits with
      | confirmed topup =>
          have credited : RowsInRange
              (CustomerWalletService.credited topup before) :=
            inRange.modify (by decide)
          exact credited.withLedgerEntry.modify (by decide)
      | insufficientCredit =>
          exact (inRange.modify (by decide)).modify (by decide)
  | approveDispute =>
      obtain ⟨_, _, _, _, _, _, _, _, rfl⟩ := commits
      exact inRange.withLedgerEntry
  | activateOrder => exact commits.elim
  | _ => exact outside (by simp [tables, numberTables])

/-- No service function takes a number out of its range. -/
theorem rowsInRange_runAlone (call : ServiceCall) {db : Db}
    (inRange : RowsInRange db) : RowsInRange (call.runAlone db) := by
  have preserves : System.Preserves dbView RowsInRange
      fun _ : Unit => call.guarantee RowsInRange :=
    { quiet := fun _ _ holds quiet =>
        AllRows.of_rows holds fun name id => (quiet_row quiet name id).symm
      writes := fun _ _ _ holds writes => rowsInRange_of_writes writes holds
      commits := fun _ _ _ holds commits =>
        rowsInRange_of_commits commits holds }
  exact (call.safe_program RowsInRange db).runAlone preserves inRange

end ServiceCall

section Scripts

/-- A column for prices or credit holds the amount, and is meant to hold what
it becomes there. -/
def IsAmount : Numerals.Decimal → Prop
  | .finite amount =>
      0 ≤ storeDecimal amount ∧ storeDecimal amount ≤ 99999999999999
  | _ => False

/-- What becomes of the number in a column is a percentage. -/
def IsPercentage : Numerals.Decimal → Prop
  | .finite percent => IsPercent (storeDecimal percent)
  | _ => False

/-- The number is a percentage before it is rounded. -/
def IsExactPercentage : Numerals.Decimal → Prop
  | .finite percent => 0 ≤ percent ∧ percent ≤ 100
  | _ => False

theorem IsAmount.exists_finite {amount : Numerals.Decimal}
    (isAmount : IsAmount amount) : ∃ value, amount = .finite value := by
  cases amount with
  | finite value => exact ⟨value, rfl⟩
  | infinity | nan => exact isAmount.elim

theorem IsPercentage.exists_finite {percent : Numerals.Decimal}
    (isPercentage : IsPercentage percent) :
    ∃ value, percent = .finite value := by
  cases percent with
  | finite value => exact ⟨value, rfl⟩
  | infinity | nan => exact isPercentage.elim

theorem IsExactPercentage.exists_finite {percent : Numerals.Decimal}
    (isPercentage : IsExactPercentage percent) :
    ∃ value, percent = .finite value ∧ 0 ≤ value ∧ value ≤ 100 := by
  cases percent with
  | finite value => exact ⟨value, rfl, isPercentage⟩
  | infinity | nan => exact isPercentage.elim

theorem IsExactPercentage.isPercentage {percent : Numerals.Decimal}
    (exact : IsExactPercentage percent) : IsPercentage percent := by
  obtain ⟨value, rfl, low, high⟩ := exact.exists_finite
  exact isPercent_storeDecimal low high

/-- A number of uses that its column holds, and is meant to. -/
def IsCount (number : Int) : Prop :=
  0 ≤ number ∧ number < 2 ^ 31

/-- The numbers are in their ranges: those in the database, the prices that
wait for a confirmation, and those that the conversation remembers. -/
structure NumbersInRange {State Data : Type} (numbers : Data → Prop)
    (visit : Visit State Data) : Prop where
  rows : RowsInRange visit.platform.db
  prices : ∀ token price,
    visit.platform.pendingPriceConfirmations token = some price →
      IsAmount price
  edits : ∀ token pending,
    visit.platform.pendingEditPriceConfirmations token = some pending →
      IsAmount pending.salePrice
  data : numbers visit.conversation.data

variable {State Data Result Next : Type} [EmptyCollection Data]
variable {numbers : Data → Prop}

/-- Whatever becomes of the script, the numbers stay in their ranges. -/
def StaysInRange (numbers : Data → Prop)
    (script : BotScript State Data Result) : Prop :=
  ∀ visit, NumbersInRange numbers visit →
    NumbersInRange numbers (script.runOn visit).2

omit [EmptyCollection Data] in
theorem stays_pure (value : Result) :
    StaysInRange numbers (pure value : BotScript State Data Result) :=
  fun _ inRange => inRange

omit [EmptyCollection Data] in
theorem stays_throw (error : HandlerError) :
    StaysInRange numbers (throw error : BotScript State Data Result) :=
  fun _ inRange => inRange

omit [EmptyCollection Data] in
theorem StaysInRange.bind {script : BotScript State Data Result}
    {next : Result → BotScript State Data Next}
    (first : StaysInRange numbers script)
    (rest : ∀ value, StaysInRange numbers (next value)) :
    StaysInRange numbers (script >>= next) := by
  intro visit inRange
  have between := first visit inRange
  rw [Failing.runOn_bind]
  revert between
  rcases script.runOn visit with ⟨error | value, reached⟩
  · exact id
  · exact rest value reached

omit [EmptyCollection Data] in
/-- What the script reads is in range. -/
theorem stays_get_bind
    {next : Visit State Data → BotScript State Data Next}
    (rest : ∀ visit, NumbersInRange numbers visit →
      StaysInRange numbers (next visit)) :
    StaysInRange numbers (get >>= next) := by
  intro visit inRange
  rw [Failing.runOn_bind, Failing.runOn_get]
  exact rest visit inRange visit inRange

omit [EmptyCollection Data] in
theorem stays_getData_bind {next : Data → BotScript State Data Next}
    (rest : ∀ data, numbers data → StaysInRange numbers (next data)) :
    StaysInRange numbers (getData >>= next) := by
  intro visit inRange
  have runs : (getData >>= next).runOn visit =
      (next visit.conversation.data).runOn visit := by
    rw [Failing.runOn_bind]
    rfl
  rw [runs]
  exact rest visit.conversation.data inRange.data visit inRange

omit [EmptyCollection Data] in
theorem stays_required_bind {error : HandlerError} {value : Option Result}
    {next : Result → BotScript State Data Next}
    (rest : ∀ found, value = some found → StaysInRange numbers (next found)) :
    StaysInRange numbers (required error value >>= next) := by
  intro visit inRange
  rw [visit_required_bind]
  cases value with
  | none => exact inRange
  | some found => exact rest found rfl visit inRange

omit [EmptyCollection Data] in
theorem stays_required (error : HandlerError) (value : Option Result) :
    StaysInRange numbers
      (required error value : BotScript State Data Result) := by
  cases value with
  | none => exact stays_throw error
  | some value => exact stays_pure value

omit [EmptyCollection Data] in
theorem stays_strippedText (message : Message) :
    StaysInRange numbers
      (strippedText message : BotScript State Data String) :=
  (stays_required _ _).bind fun _ => stays_pure _

omit [EmptyCollection Data] in
theorem stays_dataField (callback : Callback) (index : Nat) :
    StaysInRange numbers
      (dataField callback index : BotScript State Data String) :=
  stays_required _ _

omit [EmptyCollection Data] in
theorem stays_integerField (callback : Callback) (index : Nat) :
    StaysInRange numbers
      (integerField callback index : BotScript State Data Int) :=
  (stays_dataField callback index).bind fun _ => stays_required _ _

omit [EmptyCollection Data] in
/-- The server stores finite amounts only. -/
theorem stays_storedAmount_bind {amount : Numerals.Decimal}
    {next : Cents → BotScript State Data Next}
    (rest : ∀ value, amount = .finite value →
      StaysInRange numbers (next (storeDecimal value))) :
    StaysInRange numbers (storedAmount amount >>= next) := by
  cases amount with
  | finite value => exact rest value rfl
  | infinity | nan => exact fun _ inRange => inRange

omit [EmptyCollection Data] in
theorem stays_ite {test : Prop} [Decidable test]
    {yes no : BotScript State Data Result}
    (first : StaysInRange numbers yes) (second : StaysInRange numbers no) :
    StaysInRange numbers (if test then yes else no) := by
  split
  · exact first
  · exact second

omit [EmptyCollection Data] in
theorem stays_setState (state : State) :
    StaysInRange numbers (setState state : BotScript State Data Unit) :=
  fun _ inRange => ⟨inRange.rows, inRange.prices, inRange.edits, inRange.data⟩

omit [EmptyCollection Data] in
theorem stays_updateData {change : Data → Data}
    (kept : ∀ data, numbers data → numbers (change data)) :
    StaysInRange numbers (updateData change : BotScript State Data Unit) :=
  fun _ inRange =>
    ⟨inRange.rows, inRange.prices, inRange.edits, kept _ inRange.data⟩

theorem stays_clear (fresh : numbers ∅) :
    StaysInRange numbers (clear : BotScript State Data Unit) :=
  fun _ inRange => ⟨inRange.rows, inRange.prices, inRange.edits, fresh⟩

omit [EmptyCollection Data] in
theorem stays_executeWrite {change : Db → Db}
    (kept : ∀ db, RowsInRange db → RowsInRange (change db)) :
    StaysInRange numbers (executeWrite change : BotScript State Data Unit) :=
  fun _ inRange =>
    ⟨kept _ inRange.rows, inRange.prices, inRange.edits, inRange.data⟩

omit [EmptyCollection Data] in
theorem stays_query (read : Db → Result) :
    StaysInRange numbers (query read : BotScript State Data Result) :=
  fun _ inRange => inRange

omit [EmptyCollection Data] in
theorem stays_executeInsert {name : TableName} {allowed : Db → Bool}
    {row : RowOf name} (holds : RowInRange name row) :
    StaysInRange numbers
      (executeInsert name allowed row : BotScript State Data Nat) := by
  apply (stays_query _).bind
  intro id
  apply (stays_executeWrite fun db inRange => AllRows.reserve inRange).bind
  intro _
  apply (stays_query _).bind
  intro isAllowed
  apply stays_ite
  · exact (stays_executeWrite fun db inRange => AllRows.put inRange holds).bind
      fun _ => stays_pure _
  · exact stays_throw _

omit [EmptyCollection Data] in
theorem stays_executeUpdate {name : TableName} {id : Nat} {held : Bool}
    {change : RowOf name → RowOf name}
    (kept : ∀ row, RowInRange name row → RowInRange name (change row)) :
    StaysInRange numbers
      (executeUpdate name id held change : BotScript State Data Unit) := by
  apply (stays_query _).bind
  intro absent
  apply stays_ite
  · exact stays_executeWrite fun db inRange => AllRows.modify inRange kept
  · exact stays_throw _

omit [EmptyCollection Data] in
theorem stays_attempt (service : ServiceCall) :
    StaysInRange numbers
      (attempt service : BotScript State Data Outcome) := by
  intro visit inRange
  rw [visit_attempt]
  exact ⟨service.rowsInRange_runAlone inRange.rows, inRange.prices,
    inRange.edits, inRange.data⟩

omit [EmptyCollection Data] in
theorem stays_call (service : ServiceCall) :
    StaysInRange numbers (call service : BotScript State Data Reply) := by
  apply (stays_attempt service).bind
  intro outcome
  cases outcome with
  | ok reply => exact stays_pure reply
  | error error => exact stays_throw _

/-- A script whose footprint leaves the numbers alone. -/
theorem stays_of_within {footprint : Footprint State Data}
    {script : BotScript State Data Result}
    (within : footprint.Within script)
    (others : ∀ name ∈ footprint.tables, name ∉ numberTables)
    (prices : footprint.prices = false)
    (kept : ∀ first second, footprint.others second = footprint.others first →
      numbers first → numbers second)
    (fresh : numbers ∅) : StaysInRange numbers script := by
  intro visit inRange
  have covers : footprint.Covers visit (script.runOn visit).2 := within visit
  obtain ⟨samePrices, sameEdits⟩ := covers.prices prices
  refine ⟨inRange.rows.of_sameOutside covers.rows others, ?_, ?_, ?_⟩
  · rw [samePrices]
    exact inRange.prices
  · rw [sameEdits]
    exact inRange.edits
  · obtain ⟨start, rfl | rfl, -, same⟩ := covers.conversation
    · exact kept _ _ same inRange.data
    · exact kept _ _ same fresh

end Scripts

section Receiving

variable {State Data : Type} {numbers : Data → Prop}

/-- What all conversations share stays in range for any of them. -/
theorem NumbersInRange.with_conversation {Other Others : Type}
    {others : Others → Prop} {visit : Visit State Data}
    {conversation : Conversation Other Others}
    (inRange : NumbersInRange numbers visit)
    (data : others conversation.data) :
    NumbersInRange others ⟨visit.platform, conversation⟩ :=
  ⟨inRange.rows, inRange.prices, inRange.edits, data⟩

/-- If every handler that takes the update keeps the numbers in range, they
stay in range in all conversations. -/
theorem BotWorld.numbersInRange_receive
    {handlers : List (BotHandler State Data)} {world : BotWorld State Data}
    {update : Update}
    (inRange : ∀ key, NumbersInRange numbers
      ⟨world.platform, world.conversations key⟩)
    (kept : ∀ handler ∈ handlers,
      handler.takes (world.conversationOf update).state update = true →
      NumbersInRange numbers ((handler.action update).runOn
        ⟨world.platform, world.conversationOf update⟩).2)
    (key : Int × Int) :
    NumbersInRange numbers ⟨(world.receive handlers update).platform,
      (world.receive handlers update).conversations key⟩ := by
  cases found : Handler.dispatch handlers (world.conversationOf update).state
      update with
  | none =>
      rw [receive_of_none found]
      exact inRange key
  | some script =>
      obtain ⟨handler, member, takes, rfl⟩ := Handler.exists_of_dispatch found
      have visited := kept handler member takes
      rw [← visit_receive found] at visited
      by_cases here : key = (update.chat, update.sender)
      · rw [here]
        exact visited
      · rw [conversations_receive_of_ne here]
        exact visited.with_conversation (inRange key).data

end Receiving

end Baste
