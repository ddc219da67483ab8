import Baste.CatalogDeletions

/-!
# Additions to an operator that is being deleted

The deletion of an operator lists its subfolders with a plain read, and deletes
the operator some statements later.  An addition waits for the folder that it
refers to as long as the deletion holds it, but before the last statement the
operator itself is held by nobody.  A subfolder that is added after the listing
is missed, and the foreign key makes it an operator.
-/

namespace Database

open Transaction

variable {Table Entry Result : Type} {Row : Table → Type} [DecidableEq Table]

/-- Insert a row that refers to other rows.  The statement waits until nobody
else holds them. -/
def insertReferring (name : Table) (references : List (Key Table Entry))
    (allowed : Database Table Row → Bool) (new : Row name)
    (next : Option Nat → Program (Database Table Row) (Key Table Entry) Result) :
    Program (Database Table Row) (Key Table Entry) Result :=
  .statement
    (fun db =>
      { rows := .row name (db.nextId name) :: references
        reserve := (·.reserve name)
        effect := fun later =>
          if allowed db then later.put name (db.nextId name) new else later })
    fun db => next (if allowed db then some (db.nextId name) else none)

/-- Outside a transaction an insertion waits, or it happens at once. -/
theorem step_insertReferring {Call : Type} [DecidableEq Call]
    [DecidableEq (Key Table Entry)]
    {system : System Call (Database Table Row) (Key Table Entry) Result}
    {call : Call} {name : Table} {references : List (Key Table Entry)}
    {allowed : Database Table Row → Bool} {new : Row name}
    {next : Option Nat →
      Program (Database Table Row) (Key Table Entry) Result}
    (found : system.process call =
      ⟨insertReferring name references allowed new next, none⟩) :
    system.step (.advance call) = system ∨
      system.Free call
          (.row name (system.state.nextId name) :: references) ∧
        system.step (.advance call) =
          { state :=
              if allowed system.state then
                (system.state.reserve name).put name
                  (system.state.nextId name) new
              else system.state.reserve name
            locks := system.locks
            process := system.resume call
              ⟨next (if allowed system.state then
                some (system.state.nextId name) else none), none⟩ } := by
  by_cases free : system.Free call
      (.row name (system.state.nextId name) :: references)
  · exact .inr ⟨free, System.step_statement found free⟩
  · exact .inl (System.step_waiting found free)

end Database

namespace Baste

open BotScripts Database Transaction ShopBot ResellerCatalog

/-- What may be added under an operator, by `receive_subcategory_title_and_save`
and `receive_cost_price_and_save`. -/
inductive CatalogAddition where
  | subfolder (resellerId : Nat) (operatorName title : String)
      (catalogType : CatalogType)
  | package (row : PackageRow)

namespace CatalogAddition

/-- The result of an insertion. -/
def added : Option Nat → Except ServiceError Unit
  | some _ => .ok ()
  | none => .error .integrityError

def program (operatorId : Nat) :
    CatalogAddition → Program (Except ServiceError Unit)
  | subfolder resellerId operatorName title catalogType =>
      insertReferring .categories
        [.row .resellers resellerId, .row .categories operatorId]
        (fun db => operatorName.length ≤ 64 && title.length ≤ 64 &&
          (db.row .resellers resellerId).isSome &&
            (db.row .categories operatorId).isSome)
        { resellerId := resellerId
          operatorName := operatorName
          parentCategoryId := some operatorId
          title := title
          catalogType := catalogType } fun id => .done (added id)
  | package row =>
      insertReferring .packages
        [.row .resellers row.resellerId, .row .categories row.categoryId]
        (fun db => row.name.length ≤ 128 &&
          (db.row .resellers row.resellerId).isSome &&
            (db.row .categories row.categoryId).isSome)
        row fun id => .done (added id)

/-- The handler of a subfolder inserts as the statement does. -/
theorem db_insertCategory {resellerId : Nat} {operatorName title : String}
    {operatorId : Int} {typeName : String} {catalogType : CatalogType}
    (isType : readCatalogType typeName = some catalogType)
    (visit : Visit ShopState ShopData) :
    ((insertCategory resellerId operatorName title (some operatorId)
        typeName).runOn visit).2.platform.db =
      (((subfolder resellerId operatorName title catalogType).program
        (rowId operatorId)).runAlone none visit.platform.db).1 := by
  rw [insertCategory, isType, required, Failing.runOn_bind,
    Failing.runOn_pure]
  dsimp only
  rw [db_bind_of_keeps fun _ => Failing.keeps_pure _, db_executeInsert]
  simp only [program, insertReferring, Transaction.Program.runAlone,
    row_reserve, Option.all_some, Option.map_some]

end CatalogAddition

/-- Packages are in folders that are there, and subfolders in operators. -/
structure CatalogConsistent (db : Db) : Prop where
  packages : ∀ id package, db.row .packages id = some package →
    (db.row .categories package.categoryId).isSome
  folders : ∀ id folder operatorId, db.row .categories id = some folder →
    folder.parentCategoryId = some operatorId →
      ∃ operator, db.row .categories operatorId = some operator ∧
        operator.parentCategoryId = none

/-- The row of an operator, if it is there, is that of a main folder. -/
def IsOperator (operatorId : Nat) (db : Db) : Prop :=
  ∀ operator ∈ db.row .categories operatorId,
    operator.parentCategoryId = none

section Pending

variable {db : Db} {categoryIds packageIds ids : List Nat}
variable {pending delete : Db → Db}

/-- Pending changes that delete folders and packages and leave the other
folders and packages as they are. -/
structure Erases (categoryIds packageIds : List Nat) (pending : Db → Db) :
    Prop where
  categories : ∀ db id, (pending db).row .categories id =
    if id ∈ categoryIds then none else db.row .categories id
  packages : ∀ db id, (pending db).row .packages id =
    if id ∈ packageIds then none else db.row .packages id
  nextId : ∀ db name, (pending db).nextId name = db.nextId name

theorem erases_id : Erases [] [] id where
  categories _ _ := by simp
  packages _ _ := by simp
  nextId _ _ := rfl

/-- What deletions of folders and packages lead to. -/
def ErasedTo (before after : Db) : Prop :=
  ∃ categoryIds packageIds pending,
    Erases categoryIds packageIds pending ∧ after = pending before

theorem ErasedTo.refl (db : Db) : ErasedTo db db :=
  ⟨[], [], id, erases_id, rfl⟩

theorem Erases.packageDeletion (erases : Erases categoryIds packageIds pending)
    (deletion : packageDeletion ids (pending db) = some delete) :
    Erases categoryIds (packageIds ++ ids)
      fun later => delete (pending later) := by
  unfold ShopBot.ResellerCatalog.packageDeletion at deletion
  split at deletion
  · cases deletion
    constructor
    · intro later id
      rw [row_erase_of_ne (by decide), row_erase_of_ne (by decide),
        erases.categories]
    · intro later id
      by_cases deleted : id ∈ ids
      · simp [row_erase_of_mem deleted, deleted]
      · rw [row_erase_of_notMem deleted, row_erase_of_ne (by decide),
          erases.packages]
        simp [deleted]
    · intro later name
      rw [nextId_erase, nextId_erase, erases.nextId]
  · cases deletion

/-- A deletion of folders that releases none. -/
theorem Erases.categoryDeletion
    (erases : Erases categoryIds packageIds pending)
    (closed : ∀ id ∈ insideOf ids (pending db), id ∈ ids)
    (deletion : categoryDeletion ids (pending db) = some delete) :
    Erases (categoryIds ++ ids) (packageIds ++ packagesIn ids (pending db))
      fun later => delete (pending later) := by
  obtain ⟨packages, isPackages, rfl⟩ := Option.map_eq_some_iff.mp deletion
  have emptied := erases.packageDeletion isPackages
  constructor
  · intro later id
    by_cases deleted : id ∈ ids
    · rw [row_erase_of_mem deleted, if_pos (List.mem_append_right _ deleted)]
    · rw [row_erase_of_notMem deleted, row_releaseFolders,
        if_neg fun inside => deleted (closed id inside), emptied.categories]
      simp [deleted]
  · intro later id
    rw [row_erase_of_ne (by decide),
      (sameOutside_releaseFolders _ _).rows .packages (by decide),
      emptied.packages]
  · intro later name
    rw [nextId_erase, nextId_releaseFolders, emptied.nextId]

end Pending

section Additions

variable {before after : Db} {operatorId : Nat} {held : Nat → Prop}

/-- What an addition may do while some folders are held by the deletion. -/
inductive Adds (operatorId : Nat) (held : Nat → Prop) (before : Db) :
    Db → Prop where
  | nothing (name : TableName) :
      Adds operatorId held before (before.reserve name)
  | subfolder (folder : CategoryRow)
      (inside : folder.parentCategoryId = some operatorId)
      (there : (before.row .categories operatorId).isSome)
      (free : ¬ held operatorId) :
      Adds operatorId held before ((before.reserve .categories).put .categories
        (before.nextId .categories) folder)
  | package (package : PackageRow)
      (there : (before.row .categories package.categoryId).isSome)
      (free : ¬ held package.categoryId) :
      Adds operatorId held before ((before.reserve .packages).put .packages
        (before.nextId .packages) package)

theorem row_put_nextId {name : TableName} {row : RowOf name} (id : Nat) :
    ((before.reserve name).put name (before.nextId name) row).row name id =
      if id = before.nextId name then some row else before.row name id := by
  by_cases isNew : id = before.nextId name
  · subst isNew
    rw [if_pos rfl, row_put_self (by simp)]
  · rw [if_neg isNew, row_put_ne isNew, row_reserve]

theorem row_put_elsewhere {name other : TableName} {row : RowOf name}
    (different : other ≠ name) (id : Nat) :
    ((before.reserve name).put name (before.nextId name) row).row other id =
      before.row other id := by
  rw [row_put_of_ne different, row_reserve]

/-- The folders that are there stay, and a new one is inside the operator. -/
theorem Adds.row_categories (adds : Adds operatorId held before after)
    (id : Nat) :
    after.row .categories id = before.row .categories id ∨
      before.row .categories id = none ∧
        ∃ folder, after.row .categories id = some folder ∧
          folder.parentCategoryId = some operatorId ∧
          (before.row .categories operatorId).isSome ∧ ¬ held operatorId := by
  cases adds with
  | nothing name => exact .inl row_reserve
  | subfolder folder inside there free =>
      rw [row_put_nextId]
      split
      · rename_i isNew
        exact .inr ⟨by rw [isNew, row_nextId], folder, rfl, inside, there,
          free⟩
      · exact .inl rfl
  | package package there free =>
      exact .inl (row_put_elsewhere (by decide) id)

/-- The packages that are there stay, and a new one is in a folder. -/
theorem Adds.row_packages (adds : Adds operatorId held before after)
    (id : Nat) :
    after.row .packages id = before.row .packages id ∨
      before.row .packages id = none ∧
        ∃ package, after.row .packages id = some package ∧
          (before.row .categories package.categoryId).isSome ∧
          ¬ held package.categoryId := by
  cases adds with
  | nothing name => exact .inl row_reserve
  | subfolder folder inside there free =>
      exact .inl (row_put_elsewhere (by decide) id)
  | package package there free =>
      rw [row_put_nextId]
      split
      · rename_i isNew
        exact .inr ⟨by rw [isNew, row_nextId], package, rfl, there, free⟩
      · exact .inl rfl

theorem Adds.nextId_le (adds : Adds operatorId held before after)
    (name : TableName) : before.nextId name ≤ after.nextId name := by
  cases adds with
  | nothing => exact nextId_le_reserve
  | subfolder | package =>
      rw [nextId_put]
      exact nextId_le_reserve

/-- A row that is there at first stays as it is, or goes for good. -/
def Stays (name : TableName) (id : Nat) (row : RowOf name) (db : Db) : Prop :=
  db.row name id = some row ∨
    db.row name id = none ∧ id < db.nextId name

theorem Stays.adds {name : TableName} {id : Nat} {row : RowOf name}
    (stays : Stays name id row before)
    (adds : Adds operatorId held before after) : Stays name id row after := by
  have grown := adds.nextId_le name
  have insertion : ∀ {table : TableName} {new : RowOf table},
      Stays name id row ((before.reserve table).put table
        (before.nextId table) new) := by
    intro table new
    have keepsId : before.nextId name ≤ ((before.reserve table).put table
        (before.nextId table) new).nextId name := by
      rw [nextId_put]
      exact nextId_le_reserve
    have same : ((before.reserve table).put table (before.nextId table)
        new).row name id = before.row name id := by
      by_cases isTable : name = table
      · subst isTable
        rw [row_put_nextId, if_neg]
        rintro rfl
        rcases stays with found | ⟨-, bound⟩
        · rw [row_nextId] at found
          cases found
        · exact lt_irrefl _ bound
      · exact row_put_elsewhere isTable id
    rw [Stays, same]
    exact stays.imp_right fun ⟨absent, bound⟩ =>
      ⟨absent, lt_of_lt_of_le bound keepsId⟩
  cases adds with
  | nothing table =>
      rw [Stays, row_reserve]
      exact stays.imp_right fun ⟨absent, bound⟩ =>
        ⟨absent, lt_of_lt_of_le bound grown⟩
  | subfolder => exact insertion
  | package => exact insertion

/-- Deletions let a folder or a package go for good. -/
theorem Stays.erasedTo {name : TableName} {id : Nat} {row : RowOf name}
    (catalog : name = .categories ∨ name = .packages)
    (stays : Stays name id row before) (erased : ErasedTo before after) :
    Stays name id row after := by
  obtain ⟨categoryIds, packageIds, pending, erases, rfl⟩ := erased
  have goesOrStays : (pending before).row name id = none ∨
      (pending before).row name id = before.row name id := by
    rcases catalog with rfl | rfl
    · rw [erases.categories]
      split
      · exact .inl rfl
      · exact .inr rfl
    · rw [erases.packages]
      split
      · exact .inl rfl
      · exact .inr rfl
  have bound : id < (pending before).nextId name := by
    rw [erases.nextId]
    rcases stays with found | ⟨-, bound⟩
    · exact lt_nextId_of_row found
    · exact bound
  rcases goesOrStays with goes | same
  · exact .inr ⟨goes, bound⟩
  · rw [Stays, same]
    exact stays.imp_right fun absent => ⟨absent.1, bound⟩

theorem CatalogConsistent.adds (consistent : CatalogConsistent before)
    (top : IsOperator operatorId before)
    (adds : Adds operatorId held before after) : CatalogConsistent after := by
  have folderStays : ∀ id, (before.row .categories id).isSome →
      after.row .categories id = before.row .categories id := by
    intro id there
    rcases adds.row_categories id with same | ⟨absent, -⟩
    · exact same
    · rw [absent] at there
      cases there
  constructor
  · intro id package found
    have there : (before.row .categories package.categoryId).isSome := by
      rcases adds.row_packages id with same | ⟨-, new, isNew, there, -⟩
      · exact consistent.packages id package (same.symm.trans found)
      · rw [found] at isNew
        cases isNew
        exact there
    rw [folderStays _ there]
    exact there
  · intro id folder parentId found inside
    have parent : ∃ operator, before.row .categories parentId =
        some operator ∧ operator.parentCategoryId = none := by
      rcases adds.row_categories id with
        same | ⟨-, new, isNew, isInside, there, -⟩
      · exact consistent.folders id folder parentId (same.symm.trans found)
          inside
      · rw [found] at isNew
        cases isNew
        rw [inside] at isInside
        cases isInside
        obtain ⟨operator, isOperator⟩ := Option.isSome_iff_exists.mp there
        exact ⟨operator, isOperator, top operator isOperator⟩
    obtain ⟨operator, isOperator, isTop⟩ := parent
    exact ⟨operator, by rw [folderStays _ (by rw [isOperator]; rfl),
      isOperator], isTop⟩

theorem IsOperator.adds (top : IsOperator operatorId before)
    (adds : Adds operatorId held before after) :
    IsOperator operatorId after := by
  intro operator found
  rcases adds.row_categories operatorId with same | ⟨absent, _, _, _, there, -⟩
  · exact top operator (same.symm.trans found)
  · rw [absent] at there
    cases there

end Additions

section Points

variable {operatorId : Nat} {subIds categoryIds packageIds : List Nat}
variable {state after : Db} {locks : List (RowKey × Option Caller)}
variable {pending : Db → Db} {Caller : Type}

/-- What a deletion that is under way knows of the catalog: all subfolders
have been listed, the folders that it deletes are held, and their packages are
deleted with them. -/
structure Knows {Caller : Type} (operatorId : Nat)
    (subIds categoryIds packageIds : List Nat) (state : Db)
    (locks : List (RowKey × Option Caller)) (pending : Db → Db) : Prop where
  erases : Erases categoryIds packageIds pending
  listing : subcategoriesOf operatorId state = subIds
  held : ∀ id ∈ categoryIds, (.row .categories id, none) ∈ locks
  emptied : ∀ id package, state.row .packages id = some package →
    package.categoryId ∈ categoryIds → id ∈ packageIds

/-- The operator is gone, with all that was inside. -/
structure OperatorGone (operatorId : Nat) (db : Db) : Prop where
  operator : db.row .categories operatorId = none
  subfolders : ∀ id folder, db.row .categories id = some folder →
    folder.parentCategoryId ≠ some operatorId

/-- Where the deletion of an operator is, and what is known there. -/
inductive DeletionAt {Caller : Type} (operatorId : Nat) (state : Db)
    (locks : List (RowKey × Option Caller)) :
    Process Db RowKey (Except ServiceError Unit) → Prop where
  | started : DeletionAt operatorId state locks
      ⟨operatorTreeProgram operatorId, none⟩
  | begun : DeletionAt operatorId state locks
      ⟨.select fun db =>
        deletingListed operatorId (subcategoriesOf operatorId db), some id⟩
  | listed (subIds : List Nat) (pending : Db → Db)
      (knows : Knows operatorId subIds [] [] state locks pending) :
      DeletionAt operatorId state locks
        ⟨deletingListed operatorId subIds, some pending⟩
  | emptied (subIds packageIds : List Nat) (pending : Db → Db)
      (knows : Knows operatorId subIds [] packageIds state locks pending) :
      DeletionAt operatorId state locks
        ⟨deletingCategories subIds (deletingOperator operatorId),
          some pending⟩
  | cleared (subIds packageIds : List Nat) (pending : Db → Db)
      (knows : Knows operatorId subIds subIds packageIds state locks
        pending) :
      DeletionAt operatorId state locks
        ⟨deletingOperator operatorId, some pending⟩
  | deleted (subIds packageIds : List Nat) (pending : Db → Db)
      (knows : Knows operatorId subIds (subIds ++ [operatorId]) packageIds
        state locks pending) :
      DeletionAt operatorId state locks
        ⟨.commit (.done (.ok ())), some pending⟩
  | refused (pending : Db → Db) : DeletionAt operatorId state locks
      ⟨.rollback (.done (.error .integrityError)), some pending⟩
  | ended (goneFor : OperatorGone operatorId state) :
      DeletionAt operatorId state locks ⟨.done (.ok ()), none⟩
  | failed : DeletionAt operatorId state locks
      ⟨.done (.error .integrityError), none⟩
  | lost : DeletionAt operatorId state locks ⟨.lost, none⟩

/-- The subfolders have been listed, and the operator is still to be
deleted. -/
def HasListed (operatorId : Nat)
    (process : Process Db RowKey (Except ServiceError Unit)) : Prop :=
  process.pending.isSome = true ∧ ∃ subIds,
    process.program = deletingListed operatorId subIds ∨
      process.program =
        deletingCategories subIds (deletingOperator operatorId) ∨
      process.program = deletingOperator operatorId

/-- At the commit the operator has been deleted. -/
theorem not_hasListed_commit
    {next : Program (Except ServiceError Unit)} {pending : Option (Db → Db)} :
    ¬ HasListed operatorId ⟨.commit next, pending⟩ := by
  rintro ⟨-, subIds, isListed | isEmptied | isCleared⟩
  · unfold deletingListed at isListed
    split at isListed <;> cases isListed
  · cases isEmptied
  · cases isCleared

/-- What is known stays known while something is added that is no
subfolder of the operator. -/
theorem Knows.adds {held : Nat → Prop}
    (knows : Knows operatorId subIds categoryIds packageIds state locks
      pending) (adds : Adds operatorId held state after)
    (holds : ∀ id ∈ categoryIds, held id)
    (listing : subcategoriesOf operatorId after =
      subcategoriesOf operatorId state) :
    Knows operatorId subIds categoryIds packageIds after locks pending where
  erases := knows.erases
  listing := listing.trans knows.listing
  held := knows.held
  emptied id package found isIn := by
    rcases adds.row_packages id with same | ⟨-, new, isNew, -, free⟩
    · exact knows.emptied id package (same.symm.trans found) isIn
    · rw [found] at isNew
      cases isNew
      exact absurd (holds _ isIn) free

/-- An operator that is held gets no subfolder. -/
theorem subcategoriesOf_adds {held : Nat → Prop}
    (adds : Adds operatorId held state after) (isHeld : held operatorId) :
    subcategoriesOf operatorId after = subcategoriesOf operatorId state := by
  apply KeyedTable.idsWhere_congr
  intro id
  rcases adds.row_categories id with same | ⟨-, _, -, -, -, free⟩
  · exact same
  · exact absurd isHeld free

theorem OperatorGone.adds {held : Nat → Prop}
    (goneFor : OperatorGone operatorId state)
    (adds : Adds operatorId held state after) :
    OperatorGone operatorId after := by
  have same : ∀ id, after.row .categories id = state.row .categories id := by
    intro id
    rcases adds.row_categories id with same | ⟨-, _, -, -, there, -⟩
    · exact same
    · rw [goneFor.operator] at there
      cases there
  exact ⟨(same _).trans goneFor.operator, fun id folder found =>
    goneFor.subfolders id folder ((same id).symm.trans found)⟩

/-- The deletion holds the folder. -/
def HoldsFolder {Caller : Type} (locks : List (RowKey × Option Caller))
    (id : Nat) : Prop :=
  (.row .categories id, none) ∈ locks

theorem DeletionAt.adds
    {process : Process Db RowKey (Except ServiceError Unit)}
    (isAt : DeletionAt operatorId state locks process)
    (adds : Adds operatorId (HoldsFolder locks) state after)
    (listing : HasListed operatorId process →
      subcategoriesOf operatorId after = subcategoriesOf operatorId state) :
    DeletionAt operatorId after locks process := by
  cases isAt with
  | started => exact .started
  | begun => exact .begun
  | listed subIds pending knows =>
      exact .listed subIds pending (knows.adds adds knows.held
        (listing ⟨rfl, subIds, .inl rfl⟩))
  | emptied subIds packageIds pending knows =>
      exact .emptied subIds packageIds pending (knows.adds adds knows.held
        (listing ⟨rfl, subIds, .inr (.inl rfl)⟩))
  | cleared subIds packageIds pending knows =>
      exact .cleared subIds packageIds pending (knows.adds adds knows.held
        (listing ⟨rfl, subIds, .inr (.inr rfl)⟩))
  | deleted subIds packageIds pending knows =>
      have isHeld : HoldsFolder locks operatorId :=
        knows.held operatorId (by simp)
      exact .deleted subIds packageIds pending (knows.adds adds knows.held
        (subcategoriesOf_adds adds isHeld))
  | refused pending => exact .refused pending
  | ended goneFor => exact .ended (goneFor.adds adds)
  | failed => exact .failed
  | lost => exact .lost

/-- Nothing is inside the subfolders of an operator. -/
theorem closed_subfolders (consistent : CatalogConsistent state)
    (knows : Knows operatorId subIds [] packageIds state locks pending) :
    ∀ id ∈ insideOf subIds (pending state), id ∈ subIds := by
  intro id inside
  obtain ⟨folder, parentId, found, isInside, member⟩ :=
    CatalogNode.mem_insideOf.mp inside
  rw [knows.erases.categories, if_neg List.not_mem_nil] at found
  rw [← knows.listing] at member
  obtain ⟨parent, isParent, isSubfolder⟩ :=
    CatalogNode.mem_subcategoriesOf.mp member
  obtain ⟨operator, isOperator, isTop⟩ :=
    consistent.folders id folder parentId found isInside
  rw [isParent] at isOperator
  cases isOperator
  rw [isTop] at isSubfolder
  cases isSubfolder

/-- Nothing is inside the operator once its subfolders are deleted. -/
theorem closed_operator
    (knows : Knows operatorId subIds subIds packageIds state locks pending) :
    ∀ id ∈ insideOf [operatorId] (pending state), id ∈ [operatorId] := by
  intro id inside
  obtain ⟨folder, parentId, found, isInside, member⟩ :=
    CatalogNode.mem_insideOf.mp inside
  rw [knows.erases.categories] at found
  split at found
  · cases found
  · rename_i kept
    rw [List.mem_singleton.mp member] at isInside
    have isListed := CatalogNode.mem_subcategoriesOf.mpr
      ⟨folder, found, isInside⟩
    rw [knows.listing] at isListed
    exact absurd isListed kept

/-- What is known after folders have been deleted. -/
theorem knows_categoryDeletion {ids : List Nat} {delete : Db → Db}
    (knows : Knows operatorId subIds categoryIds packageIds state locks
      pending)
    (closed : ∀ id ∈ insideOf ids (pending state), id ∈ ids)
    (deletion : categoryDeletion ids (pending state) = some delete) :
    Knows operatorId subIds (categoryIds ++ ids)
      (packageIds ++ packagesIn ids (pending state)) state
      ((categoryLocks ids (pending state)).map (·, none) ++ locks)
      fun later => delete (pending later) where
  erases := knows.erases.categoryDeletion closed deletion
  listing := knows.listing
  held id member := by
    rcases List.mem_append.mp member with earlier | now
    · exact List.mem_append_right _ (knows.held id earlier)
    · apply List.mem_append_left
      apply List.mem_map_of_mem
      apply List.mem_append_left
      exact List.mem_map_of_mem (List.mem_append_left _ now)
  emptied id package found isIn := by
    rcases List.mem_append.mp isIn with earlier | now
    · exact List.mem_append_left _ (knows.emptied id package found earlier)
    · by_cases deleted : id ∈ packageIds
      · exact List.mem_append_left _ deleted
      · apply List.mem_append_right
        apply mem_packagesIn.mpr
        exact ⟨package, by rw [knows.erases.packages, if_neg deleted, found],
          now⟩

end Points

/-- The deletion of an operator and additions under it. -/
abbrev CatalogSystem (Caller : Type) :=
  System (Option Caller) Db RowKey (Except ServiceError Unit)

namespace CatalogSystem

variable {Caller : Type}

/-- The deletion is the call without a name. -/
def programs (operatorId : Nat) (additions : Caller → CatalogAddition) :
    Option Caller → Program (Except ServiceError Unit)
  | none => operatorTreeProgram operatorId
  | some caller => (additions caller).program operatorId

/-- The process is over. -/
def IsOver (process : Process Db RowKey (Except ServiceError Unit)) : Prop :=
  (∃ result, process = ⟨.done result, none⟩) ∨ process = ⟨.lost, none⟩

/-- What holds in every state of a run in which the listing stays right. -/
structure Sound (operatorId : Nat) (additions : Caller → CatalogAddition)
    (system : CatalogSystem Caller) : Prop where
  consistent : CatalogConsistent system.state
  top : IsOperator operatorId system.state
  additions : ∀ caller,
    system.process (some caller) =
        ⟨(additions caller).program operatorId, none⟩ ∨
      IsOver (system.process (some caller))
  locks : ∀ held ∈ system.locks, held.2 = none
  deletion :
    DeletionAt operatorId system.state system.locks (system.process none)

variable {operatorId : Nat} {additions : Caller → CatalogAddition}
variable {system : CatalogSystem Caller} {db : Db}

theorem sound_start (consistent : CatalogConsistent db)
    (top : IsOperator operatorId db) :
    Sound operatorId additions
      (System.start db (programs operatorId additions)) where
  consistent := consistent
  top := top
  additions caller := .inl rfl
  locks := by simp [System.start]
  deletion := .started

/-- An insertion that is not waiting adds a row at most. -/
theorem adds_of_free {name : TableName} {references : List RowKey}
    {allowed : Bool} {row : RowOf name} {caller : Caller} {folderId : Nat}
    (free : system.Free (some caller)
      (.row name (system.state.nextId name) :: references))
    (member : .row .categories folderId ∈ references)
    (puts : allowed = true → ¬ HoldsFolder system.locks folderId →
      Adds operatorId (HoldsFolder system.locks) system.state
        ((system.state.reserve name).put name (system.state.nextId name)
          row)) :
    Adds operatorId (HoldsFolder system.locks) system.state
      (if allowed then
        (system.state.reserve name).put name (system.state.nextId name) row
      else system.state.reserve name) := by
  have notHeld : ¬ HoldsFolder system.locks folderId := by
    intro isHeld
    cases free _ isHeld (List.mem_cons_of_mem _ member)
  cases allowed with
  | true => exact puts rfl notHeld
  | false => exact .nothing name

variable [DecidableEq Caller]

/-- An addition waits, or it adds a row at most and is over. -/
theorem step_addition {caller : Caller}
    (running : system.process (some caller) =
      ⟨(additions caller).program operatorId, none⟩) :
    system.step (.advance (some caller)) = system ∨
      ∃ after result,
        Adds operatorId (HoldsFolder system.locks) system.state after ∧
        system.step (.advance (some caller)) =
          { state := after
            locks := system.locks
            process := system.resume (some caller) ⟨.done result, none⟩ } := by
  cases isAddition : additions caller with
  | subfolder resellerId operatorName title catalogType =>
      rw [isAddition, CatalogAddition.program] at running
      rcases step_insertReferring running with waits | ⟨free, inserts⟩
      · exact .inl waits
      · have refers : .row .categories operatorId ∈
            ([.row .resellers resellerId,
              .row .categories operatorId] : List RowKey) := by
          simp
        refine .inr ⟨_, _, adds_of_free free refers ?_, inserts⟩
        intro allowed notHeld
        rw [Bool.and_eq_true] at allowed
        exact .subfolder _ rfl allowed.2 notHeld
  | package row =>
      rw [isAddition, CatalogAddition.program] at running
      rcases step_insertReferring running with waits | ⟨free, inserts⟩
      · exact .inl waits
      · have refers : .row .categories row.categoryId ∈
            ([.row .resellers row.resellerId,
              .row .categories row.categoryId] : List RowKey) := by
          simp
        refine .inr ⟨_, _, adds_of_free free refers ?_, inserts⟩
        intro allowed notHeld
        rw [Bool.and_eq_true] at allowed
        exact .package _ allowed.2 notHeld

/-- A statement of the deletion waits, or it is refused, or its changes are
pending. -/
theorem step_deleting {rows : Db → List RowKey}
    {deletion : Db → Option (Db → Db)}
    {next : Program (Except ServiceError Unit)} {pending : Db → Db}
    (running : system.process none =
      ⟨deleting rows deletion next, some pending⟩) :
    let locks := (rows (pending system.state)).map (·, none) ++ system.locks
    system.step (.advance none) = system ∨
      (∃ later, system.step (.advance none) =
        ⟨system.state, locks, system.resume none
          ⟨.rollback (.done (.error .integrityError)), some later⟩⟩) ∨
      ∃ delete, deletion (pending system.state) = some delete ∧
        system.step (.advance none) =
          ⟨system.state, locks, system.resume none
            ⟨next, some fun later => delete (pending later)⟩⟩ := by
  intro locks
  by_cases free : system.Free none (rows (pending system.state))
  · have stepped := System.step_pending_statement running free
    cases deleted : deletion (pending system.state) with
    | none =>
        simp only [deleted, Option.isSome_none, Bool.false_eq_true,
          if_false] at stepped
        exact .inr (.inl ⟨_, stepped⟩)
    | some delete =>
        simp only [deleted, Option.isSome_some, if_true,
          Option.getD_some] at stepped
        exact .inr (.inr ⟨delete, rfl, stepped⟩)
  · exact .inl (System.step_pending_waiting running free)

/-- The deletion goes on. -/
theorem Sound.resume (sound : Sound operatorId additions system)
    {state : Db} {locks : List (RowKey × Option Caller)}
    {process : Process Db RowKey (Except ServiceError Unit)}
    (consistent : CatalogConsistent state) (top : IsOperator operatorId state)
    (own : ∀ held ∈ locks, held.2 = none)
    (isAt : DeletionAt operatorId state locks process) :
    Sound operatorId additions
      ⟨state, locks, system.resume none process⟩ where
  consistent := consistent
  top := top
  additions caller := by
    have same : system.resume none process (some caller) =
        system.process (some caller) :=
      Function.update_of_ne (by simp) _ _
    dsimp only
    rw [same]
    exact sound.additions caller
  locks := own
  deletion := by
    have isNow : system.resume none process none = process :=
      Function.update_self ..
    dsimp only
    rw [isNow]
    exact isAt

/-- The deletion goes on while the catalog stays as it is. -/
theorem Sound.goesOn (sound : Sound operatorId additions system)
    {locks : List (RowKey × Option Caller)}
    {process : Process Db RowKey (Except ServiceError Unit)}
    (own : ∀ held ∈ locks, held.2 = none)
    (isAt : DeletionAt operatorId system.state locks process) :
    Sound operatorId additions
      ⟨system.state, locks, system.resume none process⟩ :=
  sound.resume sound.consistent sound.top own isAt

omit [DecidableEq Caller] in
theorem own_append (sound : Sound operatorId additions system)
    (rows : List RowKey) :
    ∀ held ∈ rows.map (fun row => (row, (none : Option Caller))) ++
      system.locks, held.2 = none := by
  intro held member
  rcases List.mem_append.mp member with now | earlier
  · obtain ⟨row, -, rfl⟩ := List.mem_map.mp now
    rfl
  · exact sound.locks held earlier

/-- A statement that deletes folders keeps the run sound. -/
theorem Sound.step_deletingCategories
    (sound : Sound operatorId additions system)
    {subIds categoryIds packageIds ids : List Nat} {pending : Db → Db}
    {next : Program (Except ServiceError Unit)}
    (running : system.process none =
      ⟨deletingCategories ids next, some pending⟩)
    (knows : Knows operatorId subIds categoryIds packageIds system.state
      system.locks pending)
    (closed : ∀ id ∈ insideOf ids (pending system.state), id ∈ ids)
    (goesOn : ∀ {packageIds : List Nat}
      {locks : List (RowKey × Option Caller)} {pending : Db → Db},
      Knows operatorId subIds (categoryIds ++ ids) packageIds system.state
        locks pending →
      DeletionAt operatorId system.state locks ⟨next, some pending⟩) :
    Sound operatorId additions (system.step (.advance none)) ∧
      ErasedTo system.state (system.step (.advance none)).state := by
  rcases step_deleting running with
    waits | ⟨later, refused⟩ | ⟨delete, deletion, deletes⟩
  · rw [waits]
    exact ⟨sound, .refl _⟩
  · rw [refused]
    exact ⟨sound.goesOn (own_append sound _) (.refused later), .refl _⟩
  · rw [deletes]
    exact ⟨sound.goesOn (own_append sound _)
      (goesOn (knows_categoryDeletion knows closed deletion)), .refl _⟩

omit [DecidableEq Caller] in
/-- The catalog after the deletion. -/
theorem consistent_of_deleted {subIds packageIds : List Nat}
    {locks : List (RowKey × Option Caller)} {pending : Db → Db}
    (consistent : CatalogConsistent db)
    (knows : Knows operatorId subIds (subIds ++ [operatorId]) packageIds db
      locks pending) :
    CatalogConsistent (pending db) ∧ OperatorGone operatorId (pending db) := by
  have erases := knows.erases
  have listed : ∀ {id folder}, db.row .categories id = some folder →
      folder.parentCategoryId = some operatorId → id ∈ subIds := by
    intro id folder found inside
    rw [← knows.listing]
    exact CatalogNode.mem_subcategoriesOf.mpr ⟨folder, found, inside⟩
  refine ⟨⟨?_, ?_⟩, ?_, ?_⟩
  · intro id package found
    rw [erases.packages] at found
    split at found
    · cases found
    · rename_i kept
      have isOut : package.categoryId ∉ subIds ++ [operatorId] :=
        fun isIn => kept (knows.emptied id package found isIn)
      rw [erases.categories, if_neg isOut]
      exact consistent.packages id package found
  · intro id folder parentId found inside
    rw [erases.categories] at found
    split at found
    · cases found
    · rename_i kept
      obtain ⟨operator, isOperator, isTop⟩ :=
        consistent.folders id folder parentId found inside
      have parentKept : parentId ∉ subIds ++ [operatorId] := by
        intro isDeleted
        rcases List.mem_append.mp isDeleted with isSub | isSelf
        · rw [← knows.listing] at isSub
          obtain ⟨parent, isParent, isInside⟩ :=
            CatalogNode.mem_subcategoriesOf.mp isSub
          rw [isOperator] at isParent
          cases isParent
          rw [isTop] at isInside
          cases isInside
        · rw [List.mem_singleton.mp isSelf] at inside
          exact kept (List.mem_append_left _ (listed found inside))
      exact ⟨operator, by rw [erases.categories, if_neg parentKept,
        isOperator], isTop⟩
  · rw [erases.categories, if_pos (by simp)]
  · intro id folder found inside
    rw [erases.categories] at found
    split at found
    · cases found
    · rename_i kept
      exact kept (List.mem_append_left _ (listed found inside))

theorem own_release (sound : Sound operatorId additions system)
    (call : Option Caller) :
    ∀ held ∈ release system.locks call, held.2 = none :=
  fun held member => sound.locks held (List.mem_of_mem_filter member)

/-- A statement of the deletion keeps the run sound. -/
theorem Sound.step_deletion (sound : Sound operatorId additions system) :
    Sound operatorId additions (system.step (.advance none)) ∧
      ErasedTo system.state (system.step (.advance none)).state := by
  have isAt := sound.deletion
  generalize isProcess : system.process none = process at isAt
  cases isAt with
  | started =>
      rw [System.step_begin isProcess]
      exact ⟨sound.goesOn sound.locks .begun, .refl _⟩
  | begun =>
      have free : system.Free none [] := fun _ _ member =>
        absurd member List.not_mem_nil
      rw [System.step_pending_statement isProcess free]
      refine ⟨sound.goesOn sound.locks (.listed _ _ ⟨erases_id, rfl, ?_, ?_⟩),
        .refl _⟩
      · exact fun _ member => absurd member List.not_mem_nil
      · exact fun _ _ _ member => absurd member List.not_mem_nil
  | listed subIds pending knows =>
      by_cases nothing : subIds = []
      · subst nothing
        exact sound.step_deletingCategories isProcess knows
          (closed_operator knows) fun knows => .deleted [] _ _ knows
      · rw [deletingListed, if_neg nothing] at isProcess
        rcases step_deleting isProcess with
          waits | ⟨later, refused⟩ | ⟨delete, deletion, deletes⟩
        · rw [waits]
          exact ⟨sound, .refl _⟩
        · rw [refused]
          exact ⟨sound.goesOn (own_append sound _) (.refused later), .refl _⟩
        · rw [deletes]
          refine ⟨sound.goesOn (own_append sound _) (.emptied subIds _ _
            ⟨knows.erases.packageDeletion deletion, knows.listing, ?_, ?_⟩),
            .refl _⟩
          · exact fun _ member => absurd member List.not_mem_nil
          · exact fun _ _ _ member => absurd member List.not_mem_nil
  | emptied subIds packageIds pending knows =>
      exact sound.step_deletingCategories isProcess knows
        (closed_subfolders sound.consistent knows)
        fun knows => .cleared subIds _ _ knows
  | cleared subIds packageIds pending knows =>
      exact sound.step_deletingCategories isProcess knows
        (closed_operator knows) fun knows => .deleted subIds _ _ knows
  | deleted subIds packageIds pending knows =>
      obtain ⟨consistent, goneFor⟩ :=
        consistent_of_deleted sound.consistent knows
      rw [System.step_commit isProcess]
      have top : IsOperator operatorId (pending system.state) := by
        intro operator found
        rw [goneFor.operator] at found
        cases found
      exact ⟨sound.resume consistent top (own_release sound none)
        (.ended goneFor), _, _, pending, knows.erases, rfl⟩
  | refused pending =>
      rw [System.step_rollback isProcess]
      exact ⟨sound.goesOn (own_release sound none) .failed, .refl _⟩
  | ended | failed | lost =>
      simp only [System.step, isProcess]
      exact ⟨sound, .refl _⟩

/-- An addition is over. -/
theorem Sound.ends (sound : Sound operatorId additions system) {after : Db}
    {caller : Caller}
    {process : Process Db RowKey (Except ServiceError Unit)}
    (isOver : IsOver process) (consistent : CatalogConsistent after)
    (top : IsOperator operatorId after)
    (isAt : DeletionAt operatorId after system.locks (system.process none)) :
    Sound operatorId additions
      ⟨after, system.locks, system.resume (some caller) process⟩ where
  consistent := consistent
  top := top
  additions other := by
    dsimp only
    by_cases same : other = caller
    · subst same
      have isNow : system.resume (some other) process (some other) =
          process :=
        Function.update_self ..
      rw [isNow]
      exact .inr isOver
    · have untouched : system.resume (some caller) process (some other) =
          system.process (some other) :=
        Function.update_of_ne (by simpa using same) _ _
      rw [untouched]
      exact sound.additions other
  locks := sound.locks
  deletion := by
    have untouched : system.resume (some caller) process none =
        system.process none :=
      Function.update_of_ne (by simp) _ _
    dsimp only
    rw [untouched]
    exact isAt

/-- The loss of a call keeps the run sound. -/
theorem Sound.step_lose (sound : Sound operatorId additions system)
    (call : Option Caller) :
    Sound operatorId additions (system.step (.lose call)) := by
  have isLost : system.step (.lose call) = system ∨
      system.step (.lose call) =
        ⟨system.state, release system.locks call,
          system.resume call ⟨.lost, none⟩⟩ := by
    simp only [System.step]
    split
    · exact .inl rfl
    · exact .inl rfl
    · exact .inr rfl
  rcases isLost with same | loses
  · rw [same]
    exact sound
  · rw [loses]
    cases call with
    | none => exact sound.goesOn (own_release sound none) .lost
    | some caller =>
        have sameLocks : release system.locks (some caller) =
            system.locks := by
          apply List.filter_eq_self.mpr
          intro held member
          simp [sound.locks held member]
        rw [sameLocks]
        exact sound.ends (.inr rfl) sound.consistent sound.top sound.deletion

/-- The subfolders of the operator stay as they were listed. -/
def KeepsListing (operatorId : Nat) (system : CatalogSystem Caller)
    (event : Event (Option Caller)) : Prop :=
  HasListed operatorId (system.process none) →
    subcategoriesOf operatorId (system.step event).state =
      subcategoriesOf operatorId system.state

theorem Sound.step_addition (sound : Sound operatorId additions system)
    {caller : Caller}
    (keeps : KeepsListing operatorId system (.advance (some caller))) :
    Sound operatorId additions (system.step (.advance (some caller))) ∧
      ((system.step (.advance (some caller))).state = system.state ∨
        Adds operatorId (HoldsFolder system.locks) system.state
          (system.step (.advance (some caller))).state) := by
  rcases sound.additions caller with running | isOver
  · rcases CatalogSystem.step_addition running with
      waits | ⟨after, result, adds, inserts⟩
    · rw [waits]
      exact ⟨sound, .inl rfl⟩
    · rw [KeepsListing, inserts] at keeps
      rw [inserts]
      exact ⟨sound.ends (.inl ⟨result, rfl⟩) (sound.consistent.adds sound.top
        adds) (sound.top.adds adds) (sound.deletion.adds adds keeps),
        .inr adds⟩
  · have stays : system.step (.advance (some caller)) = system := by
      rcases isOver with ⟨result, isDone⟩ | isLost
      · simp only [System.step, isDone]
      · simp only [System.step, isLost]
    rw [stays]
    exact ⟨sound, .inl rfl⟩

/-- The deletion has succeeded. -/
def Succeeded (system : CatalogSystem Caller) : Prop :=
  (system.process none).program = .done (.ok ())

/-- What was a subfolder has not become an operator since, and after a
successful deletion no subfolder or package of the operator is left. -/
structure SubfoldersRight (operatorId : Nat)
    (earlier now : CatalogSystem Caller) : Prop where
  inside : ∀ id folder later,
    earlier.state.row .categories id = some folder →
      folder.parentCategoryId.isSome →
      now.state.row .categories id = some later →
        later.parentCategoryId.isSome
  subfolders : Succeeded now →
    ∀ id ∈ subcategoriesOf operatorId earlier.state,
      now.state.row .categories id = none
  packages : Succeeded now → ∀ id package,
    earlier.state.row .packages id = some package →
      package.categoryId = operatorId ∨
        package.categoryId ∈ subcategoriesOf operatorId earlier.state →
      now.state.row .packages id = none

/-- Folders and packages of an earlier state stay as they are or go for
good. -/
def CatalogStays (before after : Db) : Prop :=
  (∀ id folder, before.row .categories id = some folder →
    Stays .categories id folder after) ∧
  ∀ id package, before.row .packages id = some package →
    Stays .packages id package after

theorem CatalogStays.adds {held : Nat → Prop} {before mid after : Db}
    (stays : CatalogStays before mid)
    (adds : Adds operatorId held mid after) : CatalogStays before after :=
  ⟨fun id folder found => (stays.1 id folder found).adds adds,
    fun id package found => (stays.2 id package found).adds adds⟩

theorem CatalogStays.erasedTo {before mid after : Db}
    (stays : CatalogStays before mid) (erased : ErasedTo mid after) :
    CatalogStays before after :=
  ⟨fun id folder found => (stays.1 id folder found).erasedTo (.inl rfl) erased,
    fun id package found =>
      (stays.2 id package found).erasedTo (.inr rfl) erased⟩

/-- Every step that keeps the listing keeps the run sound. -/
theorem Sound.step (sound : Sound operatorId additions system)
    {event : Event (Option Caller)}
    (keeps : KeepsListing operatorId system event) {before : Db}
    (stays : CatalogStays before system.state) :
    Sound operatorId additions (system.step event) ∧
      CatalogStays before (system.step event).state := by
  cases event with
  | lose call =>
      rw [System.state_step_lose]
      exact ⟨sound.step_lose call, stays⟩
  | advance call =>
      cases call with
      | none =>
          obtain ⟨next, erased⟩ := sound.step_deletion
          exact ⟨next, stays.erasedTo erased⟩
      | some caller =>
          obtain ⟨next, same | adds⟩ := sound.step_addition keeps
          · rw [same]
            exact ⟨next, stays⟩
          · exact ⟨next, stays.adds adds⟩

theorem Sound.run (sound : Sound operatorId additions system)
    {events : List (Event (Option Caller))}
    (keeps : StepRuns.Along System.step (KeepsListing operatorId) system
      events) {before : Db} (stays : CatalogStays before system.state) :
    Sound operatorId additions (StepRuns.final System.step system events) ∧
      CatalogStays before
        (StepRuns.final System.step system events).state := by
  induction events generalizing system with
  | nil => exact ⟨sound, stays⟩
  | cons event events ih =>
      obtain ⟨next, stillStays⟩ := sound.step keeps.1 stays
      exact ih next keeps.2 stillStays

omit [DecidableEq Caller] in
/-- The operator is gone when the deletion has succeeded. -/
theorem Sound.operatorGone (sound : Sound operatorId additions system)
    (succeeded : Succeeded system) :
    OperatorGone operatorId system.state := by
  have isAt := sound.deletion
  rw [Succeeded] at succeeded
  generalize system.process none = process at isAt succeeded
  cases isAt with
  | ended goneFor => exact goneFor
  | listed subIds =>
      by_cases nothing : subIds = []
      · rw [deletingListed, if_pos nothing] at succeeded
        cases succeeded
      · rw [deletingListed, if_neg nothing] at succeeded
        cases succeeded
  | _ => cases succeeded

omit [DecidableEq Caller] in
theorem Sound.subfoldersRight {earlier : CatalogSystem Caller}
    (sound : Sound operatorId additions system)
    (stays : CatalogStays earlier.state system.state) :
    SubfoldersRight operatorId earlier system := by
  have goes : Succeeded system → ∀ id ∈ subcategoriesOf operatorId
      earlier.state, system.state.row .categories id = none := by
    intro succeeded id member
    obtain ⟨folder, found, inside⟩ := CatalogNode.mem_subcategoriesOf.mp member
    rcases stays.1 id folder found with same | ⟨absent, -⟩
    · exact absurd inside
        ((sound.operatorGone succeeded).subfolders id folder same)
    · exact absent
  refine ⟨?_, goes, ?_⟩
  · intro id folder later found inside isLater
    rcases stays.1 id folder found with same | ⟨absent, -⟩
    · rw [same] at isLater
      cases isLater
      exact inside
    · rw [absent] at isLater
      cases isLater
  · intro succeeded id package found isIn
    rcases stays.2 id package found with same | ⟨absent, -⟩
    · have there := sound.consistent.packages id package same
      rcases isIn with isOperator | isSubfolder
      · rw [isOperator, (sound.operatorGone succeeded).operator] at there
        cases there
      · rw [goes succeeded _ isSubfolder] at there
        cases there
    · exact absent

/-- In every run in which no subfolder is inserted between the listing and the
deletion of the operator, subfolders stay subfolders and none is left in the
end. -/
theorem subfoldersRight_of_keepsListing
    (consistent : CatalogConsistent db) (top : IsOperator operatorId db)
    {events earlier : List (Event (Option Caller))}
    (keeps : StepRuns.Along System.step (KeepsListing operatorId)
      (System.start db (programs operatorId additions)) events)
    (before : earlier <+: events) :
    SubfoldersRight operatorId
      (StepRuns.final System.step
        (System.start db (programs operatorId additions)) earlier)
      (StepRuns.final System.step
        (System.start db (programs operatorId additions)) events) := by
  obtain ⟨later, rfl⟩ := before
  rw [StepRuns.along_append] at keeps
  rw [StepRuns.final_append]
  have start : Sound operatorId additions
      (System.start db (programs operatorId additions)) :=
    sound_start consistent top
  have atStart : CatalogStays db
      (System.start db (programs operatorId additions)).state :=
    ⟨fun _ _ => .inl, fun _ _ => .inl⟩
  have reached := (start.run keeps.1 atStart).1
  have ended := reached.run keeps.2 ⟨fun _ _ => .inl, fun _ _ => .inl⟩
  exact ended.1.subfoldersRight ended.2

section Examples

/-- An operator without subfolders. -/
def operatorDb : Db :=
  Db.filled fun
    | .resellers => [shopReseller]
    | .categories => [{
        resellerId := 1
        operatorName := "ایرانسل"
        title := "ایرانسل" }]
    | _ => []

/-- A subfolder of the operator, and a package in it. -/
def subfolderAndPackage : Bool → CatalogAddition
  | false => .subfolder 1 "ایرانسل" "ماهانه" .package
  | true => .package
      { resellerId := 1, categoryId := 2, name := "7 GB", salePrice := 6500000 }

/-- The state after some statements. -/
def afterStatements (calls : List (Option Bool)) : CatalogSystem Bool :=
  StepRuns.final System.step
    (System.start operatorDb (programs 1 subfolderAndPackage))
    (calls.map .advance)

/-- The package comes while the deletion goes on, and is deleted with the
subfolder. -/
theorem subfoldersRight_of_keepsListing_package :
    SubfoldersRight 1
      (afterStatements [some false, none, none, some true])
      (afterStatements
        [some false, none, none, some true, none, none, none, none]) := by
  have consistent : CatalogConsistent operatorDb := by
    constructor
    · intro id package found
      have member : package ∈ ([] : List PackageRow) :=
        KeyedTable.mem_of_row_ofRows found
      cases member
    · intro id folder operatorId found inside
      have member := KeyedTable.mem_of_row_ofRows found
      rw [List.mem_singleton.mp member] at inside
      cases inside
  have top : IsOperator 1 operatorDb := by
    intro operator found
    have member := KeyedTable.mem_of_row_ofRows found
    rw [List.mem_singleton.mp member]
  refine subfoldersRight_of_keepsListing consistent top ?_
    (List.prefix_append _ _)
  refine ⟨?notBegun, ?_, ?_, ?_, ?_, ?_, ?_, ?commits, trivial⟩
  case notBegun => exact fun listed => absurd listed.1 (by decide)
  case commits =>
    intro listed
    have now : (afterStatements [some false, none, none, some true, none, none,
        none]).commitsNow (.advance none) = true := by
      decide +kernel
    obtain ⟨call, next, pending, isCall, atCommit⟩ :=
      System.commitsNow_iff.mp now
    cases isCall
    have isListed : HasListed 1 ((afterStatements [some false, none, none,
        some true, none, none, none]).process none) :=
      listed
    rw [atCommit] at isListed
    exact absurd isListed not_hasListed_commit
  all_goals exact fun _ => by decide +kernel

/-- The subfolder comes after the listing, and is an operator in the end. -/
theorem late_subfolder_becomes_operator :
    ¬ SubfoldersRight 1 (afterStatements [none, none, some false])
      (afterStatements [none, none, some false, none, none]) := by
  intro right
  have found : (afterStatements [none, none, some false]).state.row
      .categories 2 = some { resellerId := 1
                             operatorName := "ایرانسل"
                             parentCategoryId := some 1
                             title := "ماهانه" } := by
    decide +kernel
  have later : (afterStatements [none, none, some false, none, none]).state.row
      .categories 2 = some { resellerId := 1
                             operatorName := "ایرانسل"
                             title := "ماهانه" } := by
    decide +kernel
  have isSubfolder := right.inside 2 _ _ found rfl later
  cases isSubfolder

end Examples

end CatalogSystem

end Baste
