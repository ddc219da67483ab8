import Baste.BotRouters

/-!
# Failing bots

Both loops of a comparison end at the first bot that fails, and a start skips
every reseller that has an entry, whether its task is alive or not.  Resellers
are served as they should be, whoever fails, exactly when no failure comes
before a start or a stop that is needed, and no entry has a dead task.
-/

namespace Baste

/-- A loop that ends at the first item that fails gets to the item. -/
def Reaches {Item : Type} (goes : Item → Prop) : List Item → Item → Prop
  | [], _ => False
  | first :: rest, item => item = first ∨ (goes first ∧ Reaches goes rest item)

instance decidableReaches {Item : Type} [DecidableEq Item]
    {goes : Item → Prop} [DecidablePred goes] :
    (items : List Item) → (item : Item) → Decidable (Reaches goes items item)
  | [], _ => inferInstanceAs (Decidable False)
  | _ :: rest, item =>
      have _later : Decidable (Reaches goes rest item) :=
        decidableReaches rest item
      inferInstanceAs (Decidable (_ ∨ _))

section Loops

variable {Item : Type} {goes other : Item → Prop} {items : List Item}
variable {item : Item}

theorem Reaches.mem (reaches : Reaches goes items item) : item ∈ items := by
  induction items with
  | nil => exact reaches.elim
  | cons first rest ih =>
      rcases reaches with rfl | ⟨-, later⟩
      · exact List.mem_cons_self
      · exact List.mem_cons_of_mem _ (ih later)

/-- No item is in its own way. -/
theorem reaches_of_others (member : item ∈ items)
    (go : ∀ first ∈ items, first ≠ item → goes first) :
    Reaches goes items item := by
  induction items with
  | nil => cases member
  | cons first rest ih =>
      by_cases same : item = first
      · exact .inl same
      · have later : item ∈ rest :=
          (List.mem_cons.mp member).resolve_left same
        exact .inr ⟨go first List.mem_cons_self (Ne.symm same),
          ih later fun next isNext => go next (List.mem_cons_of_mem _ isNext)⟩

theorem reaches_congr (same : ∀ item, goes item ↔ other item) :
    Reaches goes items item ↔ Reaches other items item := by
  have equal : goes = other := funext fun item => propext (same item)
  rw [equal]

end Loops

namespace BotProcess

/-- The tasks that poll for the bot of the reseller. -/
def liveTasks (process : BotProcess) (resellerId : Nat) : List Nat :=
  process.tasks.idsWhere fun task => task.live && task.resellerId = resellerId

def Serves (process : BotProcess) (resellerId : Nat) : Prop :=
  process.liveTasks resellerId ≠ []

instance (process : BotProcess) (resellerId : Nat) :
    Decidable (process.Serves resellerId) :=
  inferInstanceAs (Decidable (_ ≠ _))

/-- Every reseller has one entry, entries have tasks of their reseller, and
live tasks have entries. -/
structure Tracked (process : BotProcess) : Prop where
  distinct : (process.running.map (·.1)).Nodup
  known : ∀ resellerId task, (resellerId, task) ∈ process.running →
    ∃ found, process.tasks.row task = some found ∧
      found.resellerId = resellerId
  entered : ∀ task found, process.tasks.row task = some found →
    found.live = true → (found.resellerId, task) ∈ process.running

section Tracking

variable {process : BotProcess} {resellerId other task : Nat}

theorem mem_liveTasks :
    task ∈ process.liveTasks resellerId ↔ ∃ found,
      process.tasks.row task = some found ∧ found.live = true ∧
        found.resellerId = resellerId := by
  simp [liveTasks, KeyedTable.mem_idsWhere]

theorem serves_iff :
    process.Serves resellerId ↔ ∃ task, task ∈ process.liveTasks resellerId := by
  constructor
  · exact List.exists_mem_of_ne_nil _
  · rintro ⟨task, member⟩
    exact List.ne_nil_of_mem member

theorem isRunning_iff :
    process.isRunning resellerId = true ↔
      ∃ task, (resellerId, task) ∈ process.running := by
  simp only [isRunning, List.any_eq_true, decide_eq_true_eq]
  constructor
  · rintro ⟨⟨id, task⟩, member, rfl⟩
    exact ⟨task, member⟩
  · rintro ⟨task, member⟩
    exact ⟨_, member, rfl⟩

theorem isRunning_iff_mem :
    process.isRunning resellerId = true ↔
      resellerId ∈ process.running.map (·.1) := by
  rw [isRunning_iff]
  simp

theorem Tracked.isRunning_of_serves (tracked : process.Tracked)
    (serves : process.Serves resellerId) :
    process.isRunning resellerId = true := by
  obtain ⟨task, member⟩ := serves_iff.mp serves
  obtain ⟨found, row, isLive, rfl⟩ := mem_liveTasks.mp member
  exact isRunning_iff.mpr ⟨task, tracked.entered task found row isLive⟩

theorem Tracked.entry_unique (tracked : process.Tracked) {second : Nat}
    (first : (resellerId, task) ∈ process.running)
    (isSecond : (resellerId, second) ∈ process.running) : task = second := by
  have same := List.inj_on_of_nodup_map tracked.distinct first isSecond rfl
  exact congrArg Prod.snd same

/-- A reseller is never served twice. -/
theorem Tracked.serves_iff_one (tracked : process.Tracked) :
    process.Serves resellerId ↔
      ∃ task, process.liveTasks resellerId = [task] := by
  constructor
  · intro serves
    obtain ⟨task, member⟩ := serves_iff.mp serves
    have isEntry : ∀ id ∈ process.liveTasks resellerId,
        (resellerId, id) ∈ process.running := by
      intro id isLive
      obtain ⟨found, row, live, rfl⟩ := mem_liveTasks.mp isLive
      exact tracked.entered id found row live
    refine ⟨task, ?_⟩
    have only : ∀ id ∈ process.liveTasks resellerId, id = task :=
      fun id isLive =>
        tracked.entry_unique (isEntry id isLive) (isEntry task member)
    have distinct : (process.liveTasks resellerId).Nodup :=
      process.tasks.idsWhere_nodup _
    cases found : process.liveTasks resellerId with
    | nil => exact absurd found serves
    | cons first rest =>
        rw [found] at only distinct
        have isFirst : first = task := only first List.mem_cons_self
        have noOther : rest = [] := by
          apply List.eq_nil_iff_forall_not_mem.mpr
          intro id later
          have same := only id (List.mem_cons_of_mem _ later)
          rw [same, ← isFirst] at later
          exact (List.nodup_cons.mp distinct).1 later
        rw [isFirst, noOther]
  · rintro ⟨task, one⟩
    exact serves_iff.mpr ⟨task, by simp [one]⟩

end Tracking

section Operations

variable {process : BotProcess} {resellerId other task : Nat}

theorem row_withTask (key : Nat) :
    (process.withTask resellerId).tasks.row key =
      if key = process.tasks.nextId then some ⟨resellerId, true⟩
      else process.tasks.row key := by
  rw [withTask]
  split_ifs with same
  · subst same
    exact KeyedTable.row_put_self _ (by simp) _
  · rw [KeyedTable.row_put_ne _ same, KeyedTable.row_reserve]

theorem Tracked.withTask (tracked : process.Tracked)
    (notRunning : process.isRunning resellerId = false) :
    (process.withTask resellerId).Tracked where
  distinct := by
    have free : resellerId ∉ process.running.map (·.1) := by
      rw [← isRunning_iff_mem, notRunning]
      exact Bool.false_ne_true
    have keys : (process.withTask resellerId).running.map (·.1) =
        process.running.map (·.1) ++ [resellerId] := by
      rw [BotProcess.withTask, List.map_append]
      rfl
    rw [keys]
    exact List.nodup_append'.mpr ⟨tracked.distinct, List.nodup_singleton _,
      List.disjoint_singleton.mpr free⟩
  known id key member := by
    rw [row_withTask]
    rcases List.mem_append.mp member with old | new
    · obtain ⟨found, row, isOwn⟩ := tracked.known id key old
      have used := process.tasks.lt_nextId_of_row row
      rw [if_neg used.ne]
      exact ⟨found, row, isOwn⟩
    · cases List.mem_singleton.mp new
      rw [if_pos rfl]
      exact ⟨_, rfl, rfl⟩
  entered key found row live := by
    rw [row_withTask] at row
    split_ifs at row with same
    · subst same
      cases row
      exact List.mem_append_right _ (List.mem_singleton_self _)
    · exact List.mem_append_left _ (tracked.entered key found row live)

theorem serves_withTask :
    (process.withTask resellerId).Serves other ↔
      process.Serves other ∨ other = resellerId := by
  simp only [serves_iff, mem_liveTasks]
  constructor
  · rintro ⟨key, found, row, live, rfl⟩
    rw [row_withTask] at row
    split_ifs at row with same
    · cases row
      exact .inr rfl
    · exact .inl ⟨key, found, row, live, rfl⟩
  · rintro (⟨key, found, row, live, isOwn⟩ | rfl)
    · have used := process.tasks.lt_nextId_of_row row
      refine ⟨key, found, ?_, live, isOwn⟩
      rw [row_withTask, if_neg used.ne]
      exact row
    · refine ⟨process.tasks.nextId, ⟨other, true⟩, ?_, rfl, rfl⟩
      rw [row_withTask, if_pos rfl]

theorem isRunning_withTask :
    (process.withTask resellerId).isRunning other = true ↔
      process.isRunning other = true ∨ other = resellerId := by
  rw [isRunning_iff_mem, isRunning_iff_mem, withTask, List.map_append,
    List.mem_append]
  exact or_congr_right List.mem_singleton

theorem row_endTask (key : Nat) :
    (process.endTask task).tasks.row key =
      if key = task then
        (process.tasks.row key).map fun task => { task with live := false }
      else process.tasks.row key := by
  rw [endTask]
  split_ifs with same
  · subst same
    exact KeyedTable.row_modify_self _ _ _
  · exact KeyedTable.row_modify_ne _ same _

/-- An ended task leaves its entry where it is. -/
theorem Tracked.endTask (tracked : process.Tracked) (task : Nat) :
    (process.endTask task).Tracked where
  distinct := tracked.distinct
  known id key member := by
    obtain ⟨found, row, isOwn⟩ := tracked.known id key member
    rw [row_endTask]
    split_ifs
    · rw [row]
      exact ⟨_, rfl, isOwn⟩
    · exact ⟨found, row, isOwn⟩
  entered key found row live := by
    rw [row_endTask] at row
    split_ifs at row
    · obtain ⟨old, -, rfl⟩ := Option.map_eq_some_iff.mp row
      cases live
    · exact tracked.entered key found row live

theorem mem_withoutEntry {entry : Nat × Nat} :
    entry ∈ (process.withoutEntry resellerId).running ↔
      entry ∈ process.running ∧ entry.1 ≠ resellerId := by
  simp [withoutEntry]

/-- A bot that is stopped. -/
theorem Tracked.stop (tracked : process.Tracked)
    (isEntry : (resellerId, task) ∈ process.running) :
    ((process.withoutEntry resellerId).endTask task).Tracked where
  distinct := tracked.distinct.sublist (List.filter_sublist.map _)
  known id key member := by
    have old := (mem_withoutEntry.mp member).1
    exact (tracked.endTask task).known id key old
  entered key found row live := by
    have ended : (process.endTask task).tasks.row key = some found := row
    have isOld := (tracked.endTask task).entered key found ended live
    refine mem_withoutEntry.mpr ⟨isOld, ?_⟩
    intro isOwn
    have same : key = task := by
      refine tracked.entry_unique ?_ isEntry
      rw [← isOwn]
      exact isOld
    rw [row_endTask, if_pos same] at ended
    obtain ⟨old, -, rfl⟩ := Option.map_eq_some_iff.mp ended
    cases live

theorem serves_stop (tracked : process.Tracked)
    (isEntry : (resellerId, task) ∈ process.running) :
    ((process.withoutEntry resellerId).endTask task).Serves other ↔
      process.Serves other ∧ other ≠ resellerId := by
  have rows : ∀ key, ((process.withoutEntry resellerId).endTask task).tasks.row
      key = (process.endTask task).tasks.row key := fun _ => rfl
  simp only [serves_iff, mem_liveTasks, rows, row_endTask]
  constructor
  · rintro ⟨key, found, row, live, rfl⟩
    split_ifs at row with same
    · obtain ⟨old, -, rfl⟩ := Option.map_eq_some_iff.mp row
      cases live
    · refine ⟨⟨key, found, row, live, rfl⟩, fun isOwn => same ?_⟩
      refine tracked.entry_unique ?_ isEntry
      rw [← isOwn]
      exact tracked.entered key found row live
  · rintro ⟨⟨key, found, row, live, rfl⟩, different⟩
    refine ⟨key, found, ?_, live, rfl⟩
    rw [if_neg]
    · exact row
    · rintro rfl
      obtain ⟨known, knownRow, isOwn⟩ := tracked.known _ _ isEntry
      cases row.symm.trans knownRow
      exact different isOwn

theorem isRunning_stop :
    ((process.withoutEntry resellerId).endTask task).isRunning other = true ↔
      process.isRunning other = true ∧ other ≠ resellerId := by
  rw [isRunning_iff, isRunning_iff]
  constructor
  · rintro ⟨key, member⟩
    obtain ⟨old, different⟩ := mem_withoutEntry.mp member
    exact ⟨⟨key, old⟩, different⟩
  · rintro ⟨⟨key, old⟩, different⟩
    exact ⟨key, mem_withoutEntry.mpr ⟨old, different⟩⟩

end Operations

end BotProcess

open BotProcess

/-- A start of this reseller does not end the first loop. -/
def Ready (starts : Nat → Option BotError) (process : BotProcess)
    (resellerId : Nat) : Prop :=
  process.isRunning resellerId = true ∨ starts resellerId = none

instance (starts : Nat → Option BotError) (process : BotProcess) :
    DecidablePred (Ready starts process) :=
  fun _ => inferInstanceAs (Decidable (_ ∨ _))

/-- What the first loop leaves behind. -/
structure Started (starts : Nat → Option BotError) (active : List Nat)
    (before : BotProcess) (result : Except BotError PUnit)
    (after : BotProcess) : Prop where
  tracked : after.Tracked
  serves : ∀ id, after.Serves id ↔ before.Serves id ∨
    before.isRunning id = false ∧ starts id = none ∧
      Reaches (Ready starts before) active id
  entries : ∃ new, after.running.map (·.1) = before.running.map (·.1) ++ new ∧
    ∀ id ∈ new, id ∈ active
  ends : result = .ok () ↔ ∀ id ∈ active, Ready starts before id

section Starts

variable {starts : Nat → Option BotError} {resellerId : Nat}
variable {process : BotProcess} {active : List Nat}

/-- The first step of the first loop. -/
theorem runOn_startNew_cons (opened : Nat → BotProgram Unit) :
    (startNew opened (resellerId :: active)).runOn process =
      if process.isRunning resellerId then
        (startNew opened active).runOn process
      else
        match (opened resellerId).runOn process with
        | (.ok _, reached) =>
            (startNew opened active).runOn (reached.withTask resellerId)
        | (.error error, reached) => (.error error, reached) := by
  rw [startNew, Failing.forM_cons]
  cases running : process.isRunning resellerId with
  | true => simp [Failing.runOn_bind, running, startNew]
  | false =>
      simp only [Failing.runOn_bind, Failing.runOn_get, running,
        runOn_startBot, Bool.false_eq_true, if_false]
      rcases (opened resellerId).runOn process with ⟨error | value, reached⟩
      · rfl
      · rfl

theorem Started.nil (tracked : process.Tracked) :
    Started starts [] process (.ok ()) process where
  tracked := tracked
  serves id := by simp [Reaches]
  entries := ⟨[], by simp, by simp⟩
  ends := by simp

/-- A reseller with an entry is passed over. -/
theorem Started.skip {result : Except BotError PUnit} {after : BotProcess}
    (running : process.isRunning resellerId = true)
    (rest : Started starts active process result after) :
    Started starts (resellerId :: active) process result after where
  tracked := rest.tracked
  serves id := by
    rw [rest.serves]
    refine or_congr_right (and_congr_right fun notRunning =>
      and_congr_right fun _ => ?_)
    have different : id ≠ resellerId := by
      rintro rfl
      rw [running] at notRunning
      cases notRunning
    have ready : Ready starts process resellerId := .inl running
    simp [Reaches, different, ready]
  entries := by
    obtain ⟨new, keys, areActive⟩ := rest.entries
    exact ⟨new, keys, fun id member =>
      List.mem_cons_of_mem _ (areActive id member)⟩
  ends := by
    have ready : Ready starts process resellerId := .inl running
    rw [rest.ends]
    simp [ready]

/-- A failing start ends the loop. -/
theorem Started.fail {error : BotError} (tracked : process.Tracked)
    (notRunning : process.isRunning resellerId = false)
    (fails : starts resellerId = some error) :
    Started starts (resellerId :: active) process (.error error) process where
  tracked := tracked
  serves id := by
    have notReady : ¬ Ready starts process resellerId := by
      simp [Ready, notRunning, fails]
    refine (or_iff_left ?_).symm
    rintro ⟨-, starts, rfl | ⟨ready, -⟩⟩
    · rw [fails] at starts
      cases starts
    · exact notReady ready
  entries := ⟨[], by simp, by simp⟩
  ends := by
    have notReady : ¬ Ready starts process resellerId := by
      simp [Ready, notRunning, fails]
    simp [notReady]

/-- A start that works. -/
theorem Started.start {result : Except BotError PUnit} {after : BotProcess}
    (notRunning : process.isRunning resellerId = false)
    (works : starts resellerId = none)
    (rest : Started starts active (process.withTask resellerId) result after) :
    Started starts (resellerId :: active) process result after := by
  have sameReady : ∀ id, Ready starts (process.withTask resellerId) id ↔
      Ready starts process id := by
    intro id
    rw [Ready, Ready, isRunning_withTask]
    constructor
    · rintro ((running | rfl) | starts)
      · exact .inl running
      · exact .inr works
      · exact .inr starts
    · rintro (running | starts)
      · exact .inl (.inl running)
      · exact .inr starts
  have ready : Ready starts process resellerId := .inr works
  refine ⟨rest.tracked, fun id => ?_, ?_, ?_⟩
  · rw [rest.serves, serves_withTask, reaches_congr sameReady]
    by_cases own : id = resellerId
    · subst own
      simp [Reaches, notRunning, works]
    · have sameRunning : (process.withTask resellerId).isRunning id =
          process.isRunning id := by
        rw [Bool.eq_iff_iff, isRunning_withTask]
        exact or_iff_left own
      simp [Reaches, own, ready, sameRunning]
  · obtain ⟨new, keys, areActive⟩ := rest.entries
    refine ⟨resellerId :: new, ?_, ?_⟩
    · rw [keys, withTask, List.map_append, List.append_assoc]
      rfl
    · intro id member
      rcases List.mem_cons.mp member with rfl | later
      · exact List.mem_cons_self
      · exact List.mem_cons_of_mem _ (areActive id later)
  · rw [rest.ends]
    simp [sameReady, ready]

theorem started_startNew (tracked : process.Tracked) (active : List Nat) :
    Started starts active process
      ((startNew (fun id => answered (starts id)) active).runOn process).1
      ((startNew (fun id => answered (starts id)) active).runOn process).2 := by
  induction active generalizing process with
  | nil => exact .nil tracked
  | cons resellerId active ih =>
      rw [runOn_startNew_cons]
      cases running : process.isRunning resellerId with
      | true => exact .skip running (ih tracked)
      | false =>
          cases outcome : starts resellerId with
          | some error => exact .fail tracked running outcome
          | none =>
              exact .start running outcome (ih (tracked.withTask running))

end Starts

/-- The entries that the second loop is to remove, in its order. -/
def toStop (process : BotProcess) (active : List Nat) : List Nat :=
  (process.running.map (·.1)).filter fun id => !active.contains id

/-- What the second loop leaves behind, for some of the entries. -/
structure Stopped (stops : Nat → Option BotError) (active entries : List Nat)
    (before after : BotProcess) : Prop where
  tracked : after.Tracked
  serves : ∀ id, after.Serves id ↔ before.Serves id ∧
    ¬ Reaches (stops · = none) (entries.filter fun id => !active.contains id) id

section Stops

variable {stops : Nat → Option BotError} {resellerId task : Nat}
variable {process : BotProcess} {active entries : List Nat}

theorem exists_lookup (running : process.isRunning resellerId = true) :
    ∃ task, process.running.lookup resellerId = some task ∧
      (resellerId, task) ∈ process.running := by
  cases found : process.running.lookup resellerId with
  | none =>
      obtain ⟨task, member⟩ := isRunning_iff.mp running
      have absent := List.lookup_eq_none_iff.mp found (resellerId, task) member
      simp at absent
  | some task =>
      obtain ⟨before, after, split, -⟩ := List.lookup_eq_some_iff.mp found
      refine ⟨task, rfl, ?_⟩
      rw [split]
      simp

theorem runOn_stopBot (found : process.running.lookup resellerId = some task)
    (closed : Option BotError) :
    (stopBot closed resellerId).runOn process =
      (answered closed).runOn
        ((process.withoutEntry resellerId).endTask task) := by
  rw [stopBot, Failing.runOn_bind, Failing.runOn_get]
  dsimp only
  rw [found]
  rfl

theorem Stopped.nil (tracked : process.Tracked) :
    Stopped stops active [] process process where
  tracked := tracked
  serves id := by simp [Reaches]

theorem Stopped.skip {after : BotProcess}
    (isActive : active.contains resellerId = true)
    (rest : Stopped stops active entries process after) :
    Stopped stops active (resellerId :: entries) process after where
  tracked := rest.tracked
  serves id := by
    rw [rest.serves, List.filter_cons_of_neg (by rw [isActive]; decide)]

/-- A stop that fails has removed its entry, and ends the loop. -/
theorem Stopped.fail {error : BotError} (tracked : process.Tracked)
    (notActive : active.contains resellerId = false)
    (isEntry : (resellerId, task) ∈ process.running)
    (fails : stops resellerId = some error) :
    Stopped stops active (resellerId :: entries) process
      ((process.withoutEntry resellerId).endTask task) where
  tracked := tracked.stop isEntry
  serves id := by
    rw [serves_stop tracked isEntry,
      List.filter_cons_of_pos (by rw [notActive]; rfl)]
    refine and_congr_right fun _ => not_congr ?_
    simp [Reaches, fails]

theorem Stopped.stop {after : BotProcess} (tracked : process.Tracked)
    (notActive : active.contains resellerId = false)
    (isEntry : (resellerId, task) ∈ process.running)
    (works : stops resellerId = none)
    (rest : Stopped stops active entries
      ((process.withoutEntry resellerId).endTask task) after) :
    Stopped stops active (resellerId :: entries) process after where
  tracked := rest.tracked
  serves id := by
    rw [rest.serves, serves_stop tracked isEntry,
      List.filter_cons_of_pos (by rw [notActive]; rfl)]
    simp [Reaches, works, and_assoc]

/-- The second loop, over entries that are still there. -/
theorem stopped_entries (tracked : process.Tracked)
    (distinct : entries.Nodup)
    (running : ∀ id ∈ entries, process.isRunning id = true) :
    Stopped stops active entries process
      (Failing.runOn (entries.forM fun resellerId =>
        if active.contains resellerId then
          return ()
        else
          stopBot (stops resellerId) resellerId) process).2 := by
  induction entries generalizing process with
  | nil => exact .nil tracked
  | cons resellerId entries ih =>
      obtain ⟨isNew, distinct⟩ := List.nodup_cons.mp distinct
      have later : ∀ id ∈ entries, process.isRunning id = true :=
        fun id member => running id (List.mem_cons_of_mem _ member)
      rw [Failing.forM_cons, Failing.runOn_bind]
      cases isActive : active.contains resellerId with
      | true => exact .skip isActive (ih tracked distinct later)
      | false =>
          obtain ⟨task, found, isEntry⟩ :=
            exists_lookup (running resellerId List.mem_cons_self)
          rw [if_neg Bool.false_ne_true, runOn_stopBot found]
          cases outcome : stops resellerId with
          | some error => exact .fail tracked isActive isEntry outcome
          | none =>
              refine .stop tracked isActive isEntry outcome
                (ih (tracked.stop isEntry) distinct fun id member => ?_)
              refine isRunning_stop.mpr ⟨later id member, ?_⟩
              rintro rfl
              exact isNew member

end Stops

/-- The process after a comparison, in which some starts and some stops
fail. -/
def afterSync (starts stops : Nat → Option BotError) (active : List Nat)
    (process : BotProcess) : BotProcess :=
  ((syncOnce (fun id => answered (starts id)) stops active).runOn process).2

/-- Only this reseller fails. -/
def onlyOf (resellerId : Nat) (outcomes : Nat → Option BotError) :
    Nat → Option BotError :=
  fun other => if other = resellerId then outcomes other else none

/-- Active resellers whose bots can start have one task, others have none, and
nobody's tasks depend on who else fails. -/
structure SyncsRight (starts stops : Nat → Option BotError) (active : List Nat)
    (process : BotProcess) : Prop where
  served : ∀ id ∈ active, starts id = none →
    ∃ task, (afterSync starts stops active process).liveTasks id = [task]
  others : ∀ id, id ∉ active →
    (afterSync starts stops active process).liveTasks id = []
  apart : ∀ id, ((afterSync starts stops active process).liveTasks id).length =
    ((afterSync (onlyOf id starts) (onlyOf id stops) active process).liveTasks
      id).length

/-- No failure comes before a start or a stop that is needed: every active
reseller whose bot can start is polled for, or has no entry and comes before
all failing starts; and if somebody else is polled for, no start fails, and
no stop fails before that reseller's. -/
structure FailsLast (starts stops : Nat → Option BotError) (active : List Nat)
    (process : BotProcess) : Prop where
  start : ∀ id ∈ active, starts id = none → process.Serves id ∨
    process.isRunning id = false ∧ Reaches (Ready starts process) active id
  stop : ∀ id, id ∉ active → process.Serves id →
    (∀ other ∈ active, Ready starts process other) ∧
      Reaches (stops · = none) (toStop process active) id

section Syncs

variable {starts stops : Nat → Option BotError} {active : List Nat}
variable {process : BotProcess} {id : Nat}

/-- The second loop finds the entries that were there before the first one. -/
theorem toStop_of_entries {after : BotProcess} {new : List Nat}
    (keys : after.running.map (·.1) = process.running.map (·.1) ++ new)
    (areActive : ∀ id ∈ new, id ∈ active) :
    toStop after active = toStop process active := by
  have none : new.filter (fun id => !active.contains id) = [] := by
    rw [List.filter_eq_nil_iff]
    intro id member
    simpa using areActive id member
  rw [toStop, keys, List.filter_append, none, List.append_nil, toStop]

/-- Who is polled for after a comparison. -/
theorem serves_afterSync (tracked : process.Tracked) :
    (afterSync starts stops active process).Tracked ∧
    ∀ id, (afterSync starts stops active process).Serves id ↔
      (process.Serves id ∨ process.isRunning id = false ∧ starts id = none ∧
        Reaches (Ready starts process) active id) ∧
      ¬ ((∀ other ∈ active, Ready starts process other) ∧
        Reaches (stops · = none) (toStop process active) id) := by
  have started := @started_startNew starts process tracked active
  rw [afterSync, syncOnce, Failing.runOn_bind]
  obtain ⟨new, keys, areActive⟩ := started.entries
  rcases ran : (startNew (fun id => answered (starts id)) active).runOn process
    with ⟨error | ⟨⟩, reached⟩
  · rw [ran] at started
    have someFails : ¬ ∀ id ∈ active, Ready starts process id := by
      rw [← started.ends]
      intro same
      cases same
    refine ⟨started.tracked, fun id => ?_⟩
    rw [started.serves]
    exact (and_iff_left fun both => someFails both.1).symm
  · rw [ran] at started keys
    have allReady := started.ends.mp rfl
    have stopped : Stopped stops active (reached.running.map (·.1)) reached
        ((stopInactive stops active).runOn reached).2 := by
      refine stopped_entries started.tracked started.tracked.distinct ?_
      exact fun id member => isRunning_iff_mem.mpr member
    refine ⟨stopped.tracked, fun id => ?_⟩
    rw [stopped.serves, started.serves]
    have sameStops := toStop_of_entries keys areActive
    rw [toStop] at sameStops
    rw [sameStops, and_iff_right (fun id member => allReady id member)]

theorem not_reaches_toStop {goes : Nat → Prop} (isActive : id ∈ active) :
    ¬ Reaches goes (toStop process active) id := by
  intro reaches
  have kept := (List.mem_filter.mp reaches.mem).2
  simp [isActive] at kept

theorem serves_afterSync_active (tracked : process.Tracked)
    (isActive : id ∈ active) :
    (afterSync starts stops active process).Serves id ↔
      process.Serves id ∨ process.isRunning id = false ∧ starts id = none ∧
        Reaches (Ready starts process) active id := by
  rw [(serves_afterSync tracked).2]
  exact and_iff_left fun both => not_reaches_toStop isActive both.2

theorem serves_afterSync_inactive (tracked : process.Tracked)
    (notActive : id ∉ active) :
    (afterSync starts stops active process).Serves id ↔
      process.Serves id ∧
      ¬ ((∀ other ∈ active, Ready starts process other) ∧
        Reaches (stops · = none) (toStop process active) id) := by
  rw [(serves_afterSync tracked).2]
  refine and_congr_left fun _ => or_iff_left ?_
  rintro ⟨-, -, reaches⟩
  exact notActive reaches.mem

/-- A reseller that is not active is polled for no more, unless somebody else
fails. -/
theorem not_serves_onlyOf (tracked : process.Tracked)
    (notActive : id ∉ active) :
    ¬ (afterSync (onlyOf id starts) (onlyOf id stops) active process).Serves
      id := by
  rw [serves_afterSync_inactive tracked notActive]
  rintro ⟨serves, fails⟩
  refine fails ⟨fun other isActive => ?_, ?_⟩
  · have different : other ≠ id := by
      rintro rfl
      exact notActive isActive
    exact .inr (if_neg different)
  · have isEntry : id ∈ toStop process active :=
      List.mem_filter.mpr
        ⟨isRunning_iff_mem.mp (tracked.isRunning_of_serves serves),
          by simpa using notActive⟩
    exact reaches_of_others isEntry fun other _ different => if_neg different

/-- A reseller that is active is polled for as if nobody else failed, when no
failure comes before it. -/
theorem serves_onlyOf_iff (tracked : process.Tracked) (isActive : id ∈ active)
    (last : starts id = none → process.Serves id ∨
      process.isRunning id = false ∧
        Reaches (Ready starts process) active id) :
    (afterSync (onlyOf id starts) (onlyOf id stops) active process).Serves id ↔
      (afterSync starts stops active process).Serves id := by
  have own : onlyOf id starts id = starts id := if_pos rfl
  have reaches : Reaches (Ready (onlyOf id starts) process) active id :=
    reaches_of_others isActive fun other _ different => .inr (if_neg different)
  rw [serves_afterSync_active tracked isActive,
    serves_afterSync_active tracked isActive, own]
  refine or_congr_right (and_congr_right fun notRunning =>
    and_congr_right fun works => iff_of_true reaches ?_)
  rcases last works with serves | ⟨-, isReached⟩
  · rw [tracked.isRunning_of_serves serves] at notRunning
    cases notRunning
  · exact isReached

theorem length_liveTasks (tracked : process.Tracked) (id : Nat) :
    (process.liveTasks id).length = if process.Serves id then 1 else 0 := by
  split_ifs with serves
  · obtain ⟨task, one⟩ := tracked.serves_iff_one.mp serves
    rw [one]
    rfl
  · rw [not_not.mp serves]
    rfl

theorem syncsRight_of_tracked_iff (tracked : process.Tracked) :
    SyncsRight starts stops active process ↔
      FailsLast starts stops active process := by
  constructor
  · intro right
    refine ⟨fun id isActive works => ?_, fun id notActive serves => ?_⟩
    · have served := (serves_afterSync tracked).1.serves_iff_one.mpr
        (right.served id isActive works)
      rw [serves_afterSync_active tracked isActive] at served
      exact served.imp_right fun started => ⟨started.1, started.2.2⟩
    · by_contra failed
      refine (serves_afterSync_inactive tracked notActive).mpr
        ⟨serves, failed⟩ ?_
      exact right.others id notActive
  · intro last
    have stopped : ∀ id, id ∉ active →
        ¬ (afterSync starts stops active process).Serves id := by
      intro id notActive serves
      rw [serves_afterSync_inactive tracked notActive] at serves
      exact serves.2 (last.stop id notActive serves.1)
    refine ⟨fun id isActive works => ?_, fun id notActive => ?_, fun id => ?_⟩
    · rw [← (serves_afterSync tracked).1.serves_iff_one,
        serves_afterSync_active tracked isActive]
      exact (last.start id isActive works).imp_right fun started =>
        ⟨started.1, works, started.2⟩
    · exact not_not.mp (stopped id notActive)
    · have same : (afterSync (onlyOf id starts) (onlyOf id stops) active
          process).Serves id ↔
            (afterSync starts stops active process).Serves id := by
        by_cases isActive : id ∈ active
        · exact serves_onlyOf_iff tracked isActive (last.start id isActive)
        · exact iff_of_false (not_serves_onlyOf tracked isActive)
            (stopped id isActive)
      rw [length_liveTasks (serves_afterSync tracked).1,
        length_liveTasks (serves_afterSync tracked).1]
      exact if_congr same.symm rfl rfl

end Syncs

/-- The bots of a process, without what building their dispatchers leaves
behind. -/
def bots (process : BotProcess) : List (Nat × Nat) × KeyedTable PollingTask :=
  (process.running, process.tasks)

section Openings

variable {process other : BotProcess} {active : List Nat}
variable {stops : Nat → Option BotError}

theorem isRunning_of_bots (same : bots process = bots other) (id : Nat) :
    process.isRunning id = other.isRunning id :=
  congrArg (fun bots => bots.1.any (·.1 = id)) same

theorem bots_withTask (same : bots process = bots other) (id : Nat) :
    bots (process.withTask id) = bots (other.withTask id) := by
  obtain ⟨running, tasks⟩ := Prod.ext_iff.mp same
  simp only [bots] at running tasks
  simp only [bots, BotProcess.withTask, running, tasks]

theorem keeps_includeRouter (dispatcher : Nat) (router : BotRouter) :
    Failing.Keeps bots (includeRouter dispatcher router) := by
  intro process
  rw [includeRouter, Failing.runOn_bind, Failing.runOn_get]
  dsimp only
  cases process.parent router with
  | none => rfl
  | some _ => rfl

/-- To open a bot changes no bot. -/
theorem keeps_openBot (token commands : Option BotError) (id : Nat) :
    Failing.Keeps bots (openBot token commands id) := by
  have includes (dispatcher : Nat) (routers : List BotRouter) :
      Failing.Keeps bots (routers.forM (includeRouter dispatcher)) :=
    .forM fun router _ => keeps_includeRouter dispatcher router
  have builds : Failing.Keeps bots (buildDispatcherForReseller id) := by
    intro process
    rw [runOn_build]
    have registers := (includes process.dispatchers.length resellerRouters).bind
      fun _ => (includes process.dispatchers.length operatorRouters).bind
        fun _ => (includes process.dispatchers.length customerRouters).bind
          fun _ => Failing.keeps_pure process.dispatchers.length
    exact registers (process.withDispatcher id)
  rw [openBot]
  exact (keeps_answered token).bind fun _ =>
    builds.bind fun _ => keeps_answered commands

theorem stopBot_simulated (same : bots process = bots other)
    (closed : Option BotError) (id : Nat) :
    ((stopBot closed id).runOn process).1 =
        ((stopBot closed id).runOn other).1 ∧
      bots ((stopBot closed id).runOn process).2 =
        bots ((stopBot closed id).runOn other).2 := by
  have entries : process.running = other.running := congrArg Prod.fst same
  have tasks : process.tasks = other.tasks := congrArg Prod.snd same
  cases found : other.running.lookup id with
  | none =>
      have free (reached : BotProcess)
          (none : reached.running.lookup id = none) :
          (stopBot closed id).runOn reached = (.ok (), reached) := by
        rw [stopBot, Failing.runOn_bind, Failing.runOn_get]
        dsimp only
        rw [none]
        rfl
      rw [free process (entries ▸ found), free other found]
      exact ⟨rfl, same⟩
  | some task =>
      rw [runOn_stopBot (entries ▸ found), runOn_stopBot found]
      have stopped : bots ((process.withoutEntry id).endTask task) =
          bots ((other.withoutEntry id).endTask task) := by
        simp only [bots, BotProcess.withoutEntry, BotProcess.endTask, entries,
          tasks]
      cases closed with
      | none => exact ⟨rfl, stopped⟩
      | some error => exact ⟨rfl, stopped⟩

theorem stops_simulated (same : bots process = bots other)
    (entries : List Nat) :
    let stop (id : Nat) : BotProgram Unit :=
      if active.contains id then return () else stopBot (stops id) id
    bots (Failing.runOn (entries.forM stop) process).2 =
      bots (Failing.runOn (entries.forM stop) other).2 := by
  intro stop
  induction entries generalizing process other with
  | nil => exact same
  | cons id entries ih =>
      have stopped : (Failing.runOn (stop id) process).1 =
          (Failing.runOn (stop id) other).1 ∧
          bots (Failing.runOn (stop id) process).2 =
            bots (Failing.runOn (stop id) other).2 := by
        simp only [stop]
        split_ifs
        · exact ⟨rfl, same⟩
        · exact stopBot_simulated same (stops id) id
      rw [Failing.forM_cons, Failing.runOn_bind, Failing.runOn_bind]
      revert stopped
      rcases Failing.runOn (stop id) process with ⟨result, first⟩
      rcases Failing.runOn (stop id) other with ⟨otherResult, second⟩
      rintro ⟨rfl, sameBots⟩
      cases result with
      | error error => exact sameBots
      | ok value => exact ih sameBots

/-- Whatever the openings come to, the first loop treats the bots as if that
had been known before. -/
theorem starts_simulated (token commands : Nat → Option BotError)
    (same : bots process = bots other) (active : List Nat) :
    ∃ starts : Nat → Option BotError,
      (∀ id, other.isRunning id = true → starts id = none) ∧
      let first := (startNew (fun id => openBot (token id) (commands id) id)
        active).runOn process
      let second := (startNew (fun id => answered (starts id)) active).runOn
        other
      first.1 = second.1 ∧ bots first.2 = bots second.2 := by
  induction active generalizing process other with
  | nil => exact ⟨fun _ => none, fun _ _ => rfl, rfl, same⟩
  | cons id active ih =>
      simp only [runOn_startNew_cons, isRunning_of_bots same]
      cases running : other.isRunning id with
      | true => exact ih same
      | false =>
          have keeps := keeps_openBot (token id) (commands id) id process
          revert keeps
          rcases (openBot (token id) (commands id) id).runOn process with
            ⟨error | value, reached⟩
          · intro keeps
            -- Only the reseller whose opening fails has a start that fails.
            refine ⟨fun key => if key = id then some error else none, ?_, ?_⟩
            · intro key isRunning
              have different : key ≠ id := by
                rintro rfl
                rw [running] at isRunning
                cases isRunning
              exact if_neg different
            · dsimp only
              rw [if_pos rfl]
              exact ⟨rfl, keeps.trans same⟩
          · intro keeps
            obtain ⟨starts, works, simulated⟩ :=
              ih (bots_withTask (keeps.trans same) id)
            have own : starts id = none :=
              works id (isRunning_withTask.mpr (.inr rfl))
            refine ⟨starts, ?_, ?_⟩
            · intro key isRunning
              exact works key (isRunning_withTask.mpr (.inl isRunning))
            · rw [own]
              exact simulated

/-- A comparison that opens bots as the code does leaves the same bots behind
as one in which it is known before which starts fail. -/
theorem syncOnce_simulated (token commands : Nat → Option BotError)
    (same : bots process = bots other) :
    ∃ starts, bots ((syncOnce (fun id => openBot (token id) (commands id) id)
        stops active).runOn process).2 =
      bots (afterSync starts stops active other) := by
  obtain ⟨starts, -, simulated⟩ := starts_simulated token commands same active
  refine ⟨starts, ?_⟩
  rw [afterSync, syncOnce, syncOnce, Failing.runOn_bind, Failing.runOn_bind]
  revert simulated
  rcases Failing.runOn _ process with ⟨result, first⟩
  rcases Failing.runOn _ other with ⟨otherResult, second⟩
  rintro ⟨rfl, sameBots⟩
  cases result with
  | error error => exact sameBots
  | ok value =>
      have entries : first.running = second.running :=
        congrArg Prod.fst sameBots
      have stopped := @stops_simulated first second active stops sameBots
        (second.running.map (·.1))
      simp only [stopInactive, Failing.runOn_bind, Failing.runOn_get, entries]
      exact stopped

end Openings

/-- What happens to a process: a comparison with the database, or the end of a
task by itself. -/
inductive ManagerEvent where
  | sync (active : List Nat) (starts stops : Nat → Option BotError)
  | ended (task : Nat)

def ManagerEvent.step (process : BotProcess) : ManagerEvent → BotProcess
  | .sync active starts stops => afterSync starts stops active process
  | .ended task => process.endTask task

theorem tracked_run (events : List ManagerEvent) :
    (StepRuns.final ManagerEvent.step .empty events).Tracked := by
  have initial : BotProcess.empty.Tracked := by
    refine ⟨List.nodup_nil, ?_, ?_⟩
    · intro id task member
      cases member
    · intro task found row
      cases KeyedTable.mem_of_row_ofRows row
  refine StepRuns.final_of_invariant BotProcess.Tracked ?_ initial events
  intro process event tracked
  cases event with
  | sync active starts stops => exact (serves_afterSync tracked).1
  | ended task => exact tracked.endTask task

/-- After any run of comparisons and ended tasks, the next comparison serves
every reseller as it should, whoever fails, if and only if no failure comes
before what is needed, and no entry that is needed has a dead task. -/
theorem syncsRight_iff (events : List ManagerEvent) (active : List Nat)
    (starts stops : Nat → Option BotError) :
    SyncsRight starts stops active
        (StepRuns.final ManagerEvent.step .empty events) ↔
      FailsLast starts stops active
        (StepRuns.final ManagerEvent.step .empty events) :=
  syncsRight_of_tracked_iff (tracked_run events)

/-- The token of the first reseller is invalid, and the second one, whose bot
can start, gets none; a bot whose task has ended is not started again; and a
suspended reseller is polled for as long as a start fails. -/
theorem others_fail_with_one :
    let fails (id : Nat) : Option BotError :=
      if id = 1 then some .invalidToken else none
    let works (_ : Nat) : Option BotError := none
    ¬ SyncsRight fails works [1, 2] .empty ∧
      ¬ SyncsRight works works [2] (StepRuns.final ManagerEvent.step .empty
        [.sync [2] works works, .ended 1]) ∧
      ¬ SyncsRight fails works [1] (StepRuns.final ManagerEvent.step .empty
        [.sync [2] works works]) := by
  refine ⟨fun right => ?_, fun right => ?_, fun right => ?_⟩
  · obtain ⟨task, served⟩ := right.served 2 (by decide) (by decide)
    revert served
    have none : (afterSync (fun id =>
        if id = 1 then some BotError.invalidToken else none) (fun _ => none)
        [1, 2] .empty).liveTasks 2 = [] := by
      decide
    rw [none]
    exact (List.cons_ne_nil _ _).symm
  · obtain ⟨task, served⟩ := right.served 2 (by decide) (by decide)
    revert served
    have none : (afterSync (fun _ => none) (fun _ => none) [2]
        (StepRuns.final ManagerEvent.step .empty
          [.sync [2] (fun _ => none) (fun _ => none), .ended 1])).liveTasks 2 =
          [] := by
      decide
    rw [none]
    exact (List.cons_ne_nil _ _).symm
  · have stopped := right.others 2 (by decide)
    revert stopped
    decide

end Baste
