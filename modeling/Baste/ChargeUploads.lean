import Baste.InterruptedApprovals
import Mathlib.Data.List.TakeWhile

/-!
# An upload of charge codes that fails on the way

The lines of an upload are inserted one by one, each in a commit of its own.
A line that the column does not hold, or a connection that is lost, ends the
upload and leaves the lines before it in the stock.  So the upload is all or
nothing exactly if it fails at its first line or not at all.
-/

namespace Baste

open Database Transaction

namespace ChargeService

/-- The distinct non-blank trimmed lines of a text, in order of first
occurrence. -/
def distinctLines (rawText : String) : List String :=
  (((splitLines [] rawText.toList).map (String.ofList ∘ strip)).filter
    (· ≠ "")).eraseDups

/-- The line can be inserted. -/
def fits (resellerId packageId : Nat) (db : Db) (line : String) : Bool :=
  line.length ≤ 128 && (db.row .resellers resellerId).isSome &&
    (db.row .packages packageId).isSome

/-- The stock has grown by exactly these lines in this order, all of them
available, and the other tables are as before. -/
structure StockedWith (resellerId packageId : Nat) (lines : List String)
    (before after : Db) : Prop where
  stock : ∀ id, after.row .chargeCodes id =
    if before.nextId .chargeCodes ≤ id then
      lines[id - before.nextId .chargeCodes]?.map
        (stockRow resellerId packageId)
    else before.row .chargeCodes id
  others : ∀ name id, name ≠ .chargeCodes →
    after.row name id = before.row name id

/-- No code has come into the stock twice. -/
def AddedOnce (before after : Db) : Prop :=
  ∀ first second firstCode secondCode,
    after.row .chargeCodes first = some firstCode →
    after.row .chargeCodes second = some secondCode →
    before.row .chargeCodes first = none →
    before.row .chargeCodes second = none →
    firstCode.code = secondCode.code → first = second

/-- An upload that fails after some commands, if it has not ended by then. -/
def attempt (resellerId packageId : Nat) (rawText : String) (executed : Nat)
    (db : Db) : Db × Option Outcome :=
  (ServiceCall.addChargeCodes resellerId packageId rawText).program.interrupt
    executed none db

/-- The upload either inserts exactly the lines of the text and returns their
number, or fails and leaves the stock unchanged, so that the same text can be
sent again. -/
structure AddsAllOrNothing (resellerId packageId : Nat) (rawText : String)
    (executed : Nat) (db : Db) : Prop where
  added : ∀ reply,
    (attempt resellerId packageId rawText executed db).2 = some (.ok reply) →
    reply = .number (distinctLines rawText).length ∧
      StockedWith resellerId packageId (distinctLines rawText) db
        (attempt resellerId packageId rawText executed db).1
  unchanged :
    (∀ reply, (attempt resellerId packageId rawText executed db).2 ≠
      some (.ok reply)) →
    ∀ id, (attempt resellerId packageId rawText executed db).1.row .chargeCodes
      id = db.row .chargeCodes id
  again :
    (∀ reply, (attempt resellerId packageId rawText executed db).2 ≠
      some (.ok reply)) →
    AddedOnce db
      ((ServiceCall.addChargeCodes resellerId packageId rawText).runAlone
        (attempt resellerId packageId rawText executed db).1)

/-- The upload fails at its first line, or it does not fail. -/
def FailsFirstOrNever (resellerId packageId : Nat) (rawText : String)
    (executed : Nat) (db : Db) : Prop :=
  let lines := distinctLines rawText
  executed = 0 ∨ (∃ line ∈ lines.head?, ¬ fits resellerId packageId db line) ∨
    lines.length ≤ executed ∧ ∀ line ∈ lines, fits resellerId packageId db line

section Lines

/-- The loop over the lines appends the distinct ones that are new. -/
theorem foldl_cleanLines (lines : List (List Char)) (cleaned : List String) :
    lines.foldl (fun cleaned rawLine =>
        let line := String.ofList (strip rawLine)
        if line = "" || line ∈ cleaned then cleaned else cleaned ++ [line])
      cleaned =
    cleaned ++ ((lines.map (String.ofList ∘ strip)).filter
      fun line => line ≠ "" ∧ line ∉ cleaned).eraseDups := by
  induction lines generalizing cleaned with
  | nil => simp
  | cons rawLine lines ih =>
      simp only [List.foldl_cons, List.map_cons, Function.comp_apply]
      rw [ih]
      by_cases skipped : String.ofList (strip rawLine) = "" ∨
          String.ofList (strip rawLine) ∈ cleaned
      · have dropped : ¬ (String.ofList (strip rawLine) ≠ "" ∧
            String.ofList (strip rawLine) ∉ cleaned) := by
          tauto
        rw [if_pos (by simpa using skipped),
          List.filter_cons_of_neg (by simpa using dropped)]
      · have kept : String.ofList (strip rawLine) ≠ "" ∧
            String.ofList (strip rawLine) ∉ cleaned := by
          tauto
        rw [if_neg (by simpa using skipped),
          List.filter_cons_of_pos (by simpa using kept), List.eraseDups_cons,
          List.append_assoc, List.singleton_append, List.filter_filter]
        congr 3
        apply List.filter_congr
        intro line _
        by_cases same : line = String.ofList (strip rawLine) <;>
          simp [same]

theorem cleanLines_eq (rawText : String) :
    cleanLines rawText = distinctLines rawText := by
  have loop := foldl_cleanLines (splitLines [] rawText.toList) []
  simpa [cleanLines, distinctLines] using loop

/-- `eraseDups` leaves no duplicates. -/
theorem nodup_eraseDups {Item : Type} [DecidableEq Item] (items : List Item) :
    items.eraseDups.Nodup := by
  induction size : items.length using Nat.strong_induction_on
    generalizing items with
  | _ size ih =>
      cases items with
      | nil => exact List.nodup_nil
      | cons item items =>
          rw [List.eraseDups_cons, List.nodup_cons]
          constructor
          · simp [List.mem_eraseDups]
          · apply ih _ _ _ rfl
            rw [← size, List.length_cons]
            exact Nat.lt_succ_of_le (List.length_filter_le _ _)

theorem nodup_distinctLines (rawText : String) :
    (distinctLines rawText).Nodup :=
  nodup_eraseDups _

end Lines

section Stock

variable {resellerId packageId : Nat} {db before mid after : Db}

/-- A reserved id that stays unused does not matter. -/
theorem StockedWith.nil (rows : ∀ name id, after.row name id = db.row name id) :
    StockedWith resellerId packageId [] db after where
  stock id := by
    rw [rows, List.getElem?_nil, Option.map_none]
    split_ifs with new
    · by_contra present
      obtain ⟨found, row⟩ := Option.ne_none_iff_exists'.mp present
      exact absurd (lt_nextId_of_row row) (not_lt.mpr new)
    · rfl
  others name id _ := rows name id

theorem StockedWith.cons {line : String} {lines : List String}
    (rest : StockedWith resellerId packageId lines
      ((db.reserve .chargeCodes).put .chargeCodes (db.nextId .chargeCodes)
        (stockRow resellerId packageId line)) after) :
    StockedWith resellerId packageId (line :: lines) db after where
  stock id := by
    rw [rest.stock, nextId_put, nextId_reserve_self]
    rcases lt_trichotomy id (db.nextId .chargeCodes) with old | new | later
    · rw [if_neg (by omega), if_neg (by omega), row_put_ne old.ne, row_reserve]
    · subst new
      rw [if_neg (by omega), if_pos le_rfl, row_put_self (by simp), Nat.sub_self]
      rfl
    · obtain ⟨index, rfl⟩ := Nat.exists_eq_add_of_lt later
      rw [if_pos (by omega), if_pos (by omega)]
      have next : db.nextId .chargeCodes + index + 1 -
          db.nextId .chargeCodes = index + 1 := by
        omega
      have same : db.nextId .chargeCodes + index + 1 -
          (db.nextId .chargeCodes + 1) = index := by
        omega
      rw [next, same, List.getElem?_cons_succ]
  others name id other := by
    rw [rest.others name id other, row_put_of_ne other, row_reserve]

theorem fits_put {id : Nat} {code : ChargeCodeRow} :
    fits resellerId packageId ((db.reserve .chargeCodes).put .chargeCodes id
      code) = fits resellerId packageId db := by
  funext line
  rw [fits, row_put_of_ne (by decide), row_put_of_ne (by decide), row_reserve,
    row_reserve, fits]

/-- What the loop of insertions leaves behind when it fails: the lines before
the first one that does not fit, as far as it comes. -/
theorem interrupt_insertCodes (added executed : Nat) (lines : List String) :
    let inserted :=
      (lines.takeWhile (fits resellerId packageId db)).take executed
    let failed := (insertCodes resellerId packageId added
      (ServiceCall.finish .number) lines).interrupt executed none db
    StockedWith resellerId packageId inserted db failed.1 ∧
      ∀ reply, failed.2 = some (.ok reply) ↔
        reply = .number added ∧ inserted = lines := by
  induction lines generalizing executed db with
  | nil =>
      rw [List.takeWhile_nil, List.take_nil]
      refine ⟨.nil fun _ _ => rfl, fun reply => ?_⟩
      simp [insertCodes, ServiceCall.finish, Program.interrupt, Except.map,
        eq_comm]
  | cons line lines ih =>
      cases executed with
      | zero =>
          refine ⟨.nil fun _ _ => rfl, fun reply => ?_⟩
          simp [insertCodes, insertRow, Program.interrupt]
      | succ executed =>
          by_cases accepted : fits resellerId packageId db line = true
          · have goesOn : (insertCodes resellerId packageId added
                (ServiceCall.finish .number) (line :: lines)).interrupt
                  (executed + 1) none db =
                (insertCodes resellerId packageId added
                  (ServiceCall.finish .number) lines).interrupt executed none
                  ((db.reserve .chargeCodes).put .chargeCodes
                    (db.nextId .chargeCodes)
                    (stockRow resellerId packageId line)) := by
              rw [fits] at accepted
              simp only [insertCodes, insertRow, Program.interrupt]
              rw [if_pos accepted, if_pos accepted]
            obtain ⟨stocked, returned⟩ := ih executed
            rw [fits_put] at stocked returned
            rw [List.takeWhile_cons_of_pos accepted, List.take_succ_cons, goesOn]
            refine ⟨.cons stocked, fun reply => ?_⟩
            rw [returned, List.cons.injEq, eq_self, true_and]
          · have ends : (insertCodes resellerId packageId added
                (ServiceCall.finish .number) (line :: lines)).interrupt
                  (executed + 1) none db =
                (db.reserve .chargeCodes, some (.error
                  (if line.length ≤ 128 then .integrityError
                    else .dataError))) := by
              rw [fits] at accepted
              simp only [insertCodes, insertRow, Program.interrupt]
              rw [if_neg accepted, if_neg accepted]
              rfl
            rw [List.takeWhile_cons_of_neg accepted, List.take_nil, ends]
            refine ⟨.nil fun _ _ => row_reserve, fun reply => ?_⟩
            simp

theorem attempt_spec (rawText : String) (executed : Nat) :
    let lines := distinctLines rawText
    let inserted :=
      (lines.takeWhile (fits resellerId packageId db)).take executed
    let failed := attempt resellerId packageId rawText executed db
    StockedWith resellerId packageId inserted db failed.1 ∧
      ∀ reply, failed.2 = some (.ok reply) ↔
        reply = .number lines.length ∧ inserted = lines := by
  rw [attempt, ServiceCall.program, addChargeCodes, cleanLines_eq]
  exact interrupt_insertCodes _ executed _

/-- The codes that are added are different lines. -/
theorem StockedWith.addedOnce {lines : List String}
    (stocked : StockedWith resellerId packageId lines mid after)
    (same : ∀ id, mid.row .chargeCodes id = before.row .chargeCodes id)
    (distinct : lines.Nodup) : AddedOnce before after := by
  have isLine : ∀ id code, after.row .chargeCodes id = some code →
      before.row .chargeCodes id = none →
      ∃ index : Nat, id = mid.nextId .chargeCodes + index ∧
        lines[index]? = some code.code := by
    intro id code found new
    rw [stocked.stock, same, new] at found
    split_ifs at found with late
    obtain ⟨line, isIndex, rfl⟩ := Option.map_eq_some_iff.mp found
    exact ⟨_, (Nat.add_sub_cancel' late).symm, isIndex⟩
  intro first second firstCode secondCode foundFirst foundSecond newFirst
    newSecond sameCode
  obtain ⟨firstIndex, rfl, firstLine⟩ := isLine _ _ foundFirst newFirst
  obtain ⟨secondIndex, rfl, secondLine⟩ := isLine _ _ foundSecond newSecond
  have inRange : firstIndex < lines.length :=
    (List.getElem?_eq_some_iff.mp firstLine).1
  rw [sameCode, ← secondLine] at firstLine
  rw [(List.getElem?_inj inRange distinct).mp firstLine]

/-- An upload that runs alone adds different lines. -/
theorem addedOnce_runAlone (rawText : String)
    (same : ∀ id, mid.row .chargeCodes id = before.row .chargeCodes id) :
    AddedOnce before ((ServiceCall.addChargeCodes resellerId packageId
      rawText).runAlone mid) := by
  obtain ⟨enough, complete⟩ := Program.exists_interrupt_eq_runAlone
    (ServiceCall.addChargeCodes resellerId packageId rawText).program none mid
  have stocked := (@attempt_spec resellerId packageId mid rawText enough).1
  rw [attempt, complete enough le_rfl] at stocked
  apply stocked.addedOnce same
  exact (nodup_distinctLines rawText).sublist
    ((List.take_sublist _ _).trans (List.takeWhile_sublist _))

/-- Nothing, or everything, is inserted before the upload fails. -/
theorem inserted_eq_iff {lines : List String} {executed : Nat} :
    ((lines.takeWhile (fits resellerId packageId db)).take executed = [] ∨
      (lines.takeWhile (fits resellerId packageId db)).take executed = lines) ↔
    executed = 0 ∨
      (∃ line ∈ lines.head?, ¬ fits resellerId packageId db line) ∨
      lines.length ≤ executed ∧
        ∀ line ∈ lines, fits resellerId packageId db line := by
  constructor
  · rintro (nothing | everything)
    · cases lines with
      | nil => exact .inr (.inr ⟨Nat.zero_le _, nofun⟩)
      | cons line lines =>
          rcases List.take_eq_nil_iff.mp nothing with none | refused
          · exact .inl none
          · refine .inr (.inl ⟨line, rfl, fun accepted => ?_⟩)
            rw [List.takeWhile_cons_of_pos accepted] at refused
            cases refused
    · have whole := congrArg List.length everything
      have prefixes : lines.takeWhile (fits resellerId packageId db) <+: lines :=
        List.takeWhile_prefix _
      rw [List.length_take] at whole
      have allFit : lines.takeWhile (fits resellerId packageId db) = lines := by
        apply prefixes.eq_of_length
        have bound := prefixes.length_le
        omega
      refine .inr (.inr ⟨by omega, List.takeWhile_eq_self_iff.mp allFit⟩)
  · rintro (rfl | ⟨line, isHead, refused⟩ | ⟨reached, allFit⟩)
    · exact .inl (List.take_zero)
    · cases lines with
      | nil => cases isHead
      | cons head lines =>
          cases isHead
          rw [List.takeWhile_cons_of_neg refused]
          exact .inl List.take_nil
    · rw [List.takeWhile_eq_self_iff.mpr allFit, List.take_of_length_le reached]
      exact .inr rfl

end Stock

end ChargeService

end Baste
