import Baste.ServiceErrors

/-!
# The shared blacklist

Whether a Telegram user is barred from buying, and the automatic entry after
repeated fake receipts.
-/

namespace Baste

open Database Transaction

namespace BlacklistService

variable {Result : Type}

/-- The number of approved disputes that bars a customer everywhere. -/
def autoBlacklistThreshold : Nat :=
  3

def isGloballyListed (telegramUserId : Int) (entry : BlacklistRow) : Bool :=
  entry.telegramUserId = telegramUserId && entry.isGlobal

def isLocallyListed (telegramUserId : Int) (resellerId : Nat)
    (entry : BlacklistRow) : Bool :=
  entry.telegramUserId = telegramUserId &&
    entry.reportedByResellerId = some resellerId

def isBlacklisted (telegramUserId : Int) (resellerId : Option Nat)
    (next : Bool → Program Result) : Program Result :=
  .select fun now =>
    if now.idsWhere .blacklist (isGloballyListed telegramUserId) ≠ [] then
      next true
    else
      match resellerId with
      | none => next false
      | some resellerId =>
          .select fun now =>
            next (now.idsWhere .blacklist
              (isLocallyListed telegramUserId resellerId) ≠ [])

/-- An approved dispute over an order of a customer row of the user. -/
def isConfirmedFakeReceipt (db : Db) (telegramUserId : Int)
    (dispute : DisputeRow) : Bool :=
  dispute.reviewStatus = .approved &&
    (db.row .orders dispute.orderId).any fun order =>
      (db.row .customers order.customerId).any fun customer =>
        customer.telegramUserId = telegramUserId

def countConfirmedFakeReceipts (db : Db) (telegramUserId : Int) : Nat :=
  db.count .disputes (isConfirmedFakeReceipt db telegramUserId)

/-- The entry of an automatic listing. -/
def autoBlacklistEntry (telegramUserId : Int) (count : Nat) :
    BlacklistRow where
  telegramUserId := telegramUserId
  reportedByResellerId := none
  reason := some s!"ارسال مکرر رسید فیک ({count} مورد تأییدشده)"
  isGlobal := true

def maybeAutoBlacklist (telegramUserId : Int)
    (next : Except ServiceError Bool → Program Result) : Program Result :=
  .select fun now =>
    let count := countConfirmedFakeReceipts now telegramUserId
    if autoBlacklistThreshold ≤ count then
      isBlacklisted telegramUserId none fun
        | true => next (.ok false)
        | false =>
            insertRow .blacklist [] (fun _ => true)
              (autoBlacklistEntry telegramUserId count) fun _ =>
                next (.ok true)
    else
      next (.ok false)

/-- The answer of the blacklist in a state of the database. -/
def blacklisted (db : Db) (telegramUserId : Int)
    (resellerId : Option Nat) : Bool :=
  db.idsWhere .blacklist (isGloballyListed telegramUserId) ≠ [] ||
    resellerId.any fun resellerId =>
      db.idsWhere .blacklist
        (isLocallyListed telegramUserId resellerId) ≠ []

@[simp]
theorem runAlone_isBlacklisted {telegramUserId : Int}
    {resellerId : Option Nat} {next : Bool → Program Result} {db : Db} :
    (isBlacklisted telegramUserId resellerId next).runAlone none db =
      (next (blacklisted db telegramUserId resellerId)).runAlone none db := by
  by_cases listed :
      db.idsWhere .blacklist (isGloballyListed telegramUserId) = []
  · cases resellerId <;> simp [isBlacklisted, blacklisted, listed]
  · simp [isBlacklisted, blacklisted, listed]

/-- The automatic listing changes nothing but the blacklist. -/
theorem runAlone_maybeAutoBlacklist {telegramUserId : Int}
    {next : Except ServiceError Bool → Program Result} {db : Db} :
    ∃ reply after, (maybeAutoBlacklist telegramUserId next).runAlone none db =
        (next reply).runAlone none after ∧
      ∀ name, name ≠ .blacklist → after.table name = db.table name := by
  unfold maybeAutoBlacklist
  rw [Program.runAlone_select]
  dsimp only
  split_ifs
  · rw [runAlone_isBlacklisted]
    cases blacklisted db telegramUserId none with
    | true => exact ⟨_, db, rfl, fun _ _ => rfl⟩
    | false =>
        refine ⟨_, _, runAlone_insertRow rfl, fun name other => ?_⟩
        rw [Database.put, table_on_ne other, Database.reserve,
          table_on_ne other]
  · exact ⟨_, db, rfl, fun _ _ => rfl⟩

theorem safe_isBlacklisted {invariant : Db → Prop} {guarantee : Guarantee Db}
    {held : List RowKey} {state : Db} {telegramUserId : Int}
    {resellerId : Option Nat} {next : Bool → Program Result}
    (continues : ∀ listed now,
      (next listed).Safe dbView invariant guarantee none held now) :
    (isBlacklisted telegramUserId resellerId next).Safe dbView invariant
      guarantee none held state := by
  refine Program.Safe.select fun now _ _ => ?_
  split_ifs
  · exact continues true now
  · cases resellerId with
    | none => exact continues false now
    | some resellerId =>
        exact Program.Safe.select fun later _ _ => continues _ later

theorem safe_maybeAutoBlacklist {invariant : Db → Prop}
    {guarantee : Guarantee Db} {state : Db} {telegramUserId : Int}
    {next : Except ServiceError Bool → Program Result}
    (allowed : ∀ before entry, guarantee.writes before
      ((before.reserve .blacklist).put .blacklist (before.nextId .blacklist)
        entry))
    (continues : ∀ reply now,
      (next reply).Safe dbView invariant guarantee none [] now) :
    (maybeAutoBlacklist telegramUserId next).Safe dbView invariant guarantee
      none [] state := by
  refine Program.Safe.select fun now _ _ => ?_
  dsimp only
  split_ifs
  · refine safe_isBlacklisted fun listed later => ?_
    cases listed with
    | true => exact continues _ later
    | false =>
        exact safe_insert (fun last _ _ _ => ⟨allowed last _, continues _ _⟩)
          (continues _)
  · exact continues _ now

end BlacklistService

end Baste
