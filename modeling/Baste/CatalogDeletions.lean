import Baste.CatalogFootprints

/-!
# Deletions in the catalog

An operator, a subfolder or a package is deleted in a transaction of several
statements, each of which the foreign keys may refuse.  This file relates the
statements to their joint effect, and says when a deletion is refused, what it
removes, and that the numbers announced before it are those of the rows that
go.
-/

namespace Baste

open Database Transaction

namespace ShopBot.ResellerCatalog

section Counting

/-- Count the available codes of some packages. -/
def availableCodes (packageIds : List Nat) (db : Db) : Nat :=
  (db.idsWhere .chargeCodes fun code =>
    code.status = .available && code.packageId ∈ packageIds).length

/-- `SELECT id FROM packages WHERE category_id IN (...)` -/
def packagesIn (categoryIds : List Nat) (db : Db) : List Nat :=
  db.idsWhere .packages (·.categoryId ∈ categoryIds)

/-- `_count_operator_deletion_impact` -/
def countOperatorDeletionImpact (operatorId : Nat) (db : Db) :
    Nat × Nat × Nat :=
  let subIds := subcategoriesOf operatorId db
  if subIds = [] then (0, 0, 0)
  else
    let productIds := packagesIn subIds db
    (subIds.length, productIds.length,
      if productIds = [] then 0 else availableCodes productIds db)

/-- `_count_subcategory_deletion_impact` -/
def countSubcategoryDeletionImpact (subcategoryId : Nat) (db : Db) :
    Nat × Nat :=
  let productIds := packagesOf subcategoryId db
  (productIds.length,
    if productIds = [] then 0 else availableCodes productIds db)

/-- `_count_package_deletion_impact` -/
def countPackageDeletionImpact (packageId : Nat) (db : Db) : Nat :=
  (db.idsWhere .chargeCodes fun code =>
    code.status = .available && code.packageId = packageId).length

end Counting

section Statements

/-- What `DELETE FROM packages` changes, unless an order refers to one of the
packages. -/
def packageDeletion (packageIds : List Nat) (db : Db) : Option (Db → Db) :=
  if db.idsWhere .orders (·.packageId ∈ packageIds) = [] then
    some fun later =>
      (later.erase .chargeCodes
        (db.idsWhere .chargeCodes (·.packageId ∈ packageIds))).erase .packages
          packageIds
  else none

/-- The folders inside some folders. -/
def insideOf (categoryIds : List Nat) (db : Db) : List Nat :=
  db.idsWhere .categories fun category =>
    category.parentCategoryId.any (· ∈ categoryIds)

/-- The foreign key turns folders into main folders. -/
def releaseFolders (ids : List Nat) (db : Db) : Db :=
  ids.foldl (fun db id =>
    db.modify .categories id ({ · with parentCategoryId := none })) db

/-- What `DELETE FROM categories` changes. -/
def categoryDeletion (categoryIds : List Nat) (db : Db) : Option (Db → Db) :=
  (packageDeletion (packagesIn categoryIds db) db).map fun delete later =>
    (releaseFolders (insideOf categoryIds db) (delete later)).erase
      .categories categoryIds

/-- The rows that a deletion of packages locks. -/
def packageLocks (packageIds : List Nat) (db : Db) : List RowKey :=
  packageIds.map (.row .packages) ++
    (db.idsWhere .chargeCodes (·.packageId ∈ packageIds)).map
      (.row .chargeCodes)

/-- The rows that a deletion of folders locks. -/
def categoryLocks (categoryIds : List Nat) (db : Db) : List RowKey :=
  (categoryIds ++ insideOf categoryIds db).map (.row .categories) ++
    packageLocks (packagesIn categoryIds db) db

/-- A deletion in a transaction.  One that is refused rolls everything
back. -/
def deleting (rows : Db → List RowKey) (deletion : Db → Option (Db → Db))
    (next : Program (Except ServiceError Unit)) :
    Program (Except ServiceError Unit) :=
  .statement (fun db => ⟨rows db, id, (deletion db).getD id⟩) fun db =>
    if (deletion db).isSome then next
    else .rollback (.done (.error .integrityError))

def deletingPackages (packageIds : Db → List Nat)
    (next : Program (Except ServiceError Unit)) :
    Program (Except ServiceError Unit) :=
  deleting (fun db => packageLocks (packageIds db) db)
    (fun db => packageDeletion (packageIds db) db) next

def deletingCategories (categoryIds : List Nat)
    (next : Program (Except ServiceError Unit)) :
    Program (Except ServiceError Unit) :=
  deleting (categoryLocks categoryIds) (categoryDeletion categoryIds) next

end Statements

section Releases

/-- The same change of several rows. -/
theorem row_foldl_modify {name : TableName} {change : RowOf name → RowOf name}
    (twice : ∀ row, change (change row) = change row) (ids : List Nat)
    (db : Db) (key : Nat) :
    (ids.foldl (fun db id => db.modify name id change) db).row name key =
      if key ∈ ids then (db.row name key).map change
      else db.row name key := by
  induction ids generalizing db with
  | nil => simp
  | cons id ids ih =>
      rw [List.foldl_cons, ih, row_modify]
      by_cases here : key = id
      · subst here
        have changed : change ∘ change = change := funext twice
        by_cases again : key ∈ ids
        · simp [again, changed]
        · simp [again]
      · by_cases later : key ∈ ids
        · simp [here, later]
        · simp [here, later]

variable (ids : List Nat) (db : Db)

theorem row_releaseFolders (key : Nat) :
    (releaseFolders ids db).row .categories key =
      if key ∈ ids then
        (db.row .categories key).map ({ · with parentCategoryId := none })
      else db.row .categories key :=
  @row_foldl_modify .categories
    (fun folder : CategoryRow => { folder with parentCategoryId := none })
    (fun _ => rfl) ids db key

theorem sameOutside_releaseFolders :
    SameOutside [.categories] db (releaseFolders ids db) :=
  SameOutside.foldl (fun _ _ => .modify (by decide)) ids db

theorem nextId_releaseFolders (name : TableName) :
    (releaseFolders ids db).nextId name = db.nextId name := by
  unfold releaseFolders
  induction ids generalizing db with
  | nil => rfl
  | cons id ids ih => rw [List.foldl_cons, ih, nextId_modify]

end Releases

section Programs

/-- The last statement of `_delete_operator_tree`. -/
def deletingOperator (operatorId : Nat) :
    Program (Except ServiceError Unit) :=
  deletingCategories [operatorId] (.commit (.done (.ok ())))

/-- `_delete_operator_tree` after the subfolders have been listed. -/
def deletingListed (operatorId : Nat) (subIds : List Nat) :
    Program (Except ServiceError Unit) :=
  if subIds = [] then deletingOperator operatorId
  else
    deletingPackages (packagesIn subIds)
      (deletingCategories subIds (deletingOperator operatorId))

/-- The statements of `_delete_operator_tree`. -/
def operatorTreeProgram (operatorId : Nat) :
    Program (Except ServiceError Unit) :=
  .begin <| .select fun db =>
    deletingListed operatorId (subcategoriesOf operatorId db)

/-- The statements of `_delete_subcategory_tree`. -/
def subcategoryTreeProgram (subcategoryId : Nat) :
    Program (Except ServiceError Unit) :=
  .begin <| deletingPackages (packagesOf subcategoryId) <|
    deletingCategories [subcategoryId] (.commit (.done (.ok ())))

/-- The statement of `_delete_package`. -/
def packageProgram (packageId : Nat) : Program (Except ServiceError Unit) :=
  .begin <| deletingPackages (fun _ => [packageId]) (.commit (.done (.ok ())))

end Programs

section Alone

variable {db : Db} {next : Program (Except ServiceError Unit)}
variable {rest : Db → Option Db}

/-- A transaction that either succeeds or leaves the database as it was. -/
def outcome (db : Db) : Option Db → Db × Option (Except ServiceError Unit)
  | some after => (after, some (.ok ()))
  | none => (db, some (.error .integrityError))

/-- The rest of a transaction does what a function says to the database that
the transaction sees. -/
def RunsAs (program : Program (Except ServiceError Unit))
    (delete : Db → Option Db) : Prop :=
  ∀ (pending : Db → Db) db,
    program.runAlone (some pending) db = outcome db (delete (pending db))

theorem runsAs_commit : RunsAs (.commit (.done (.ok ()))) some :=
  fun _ _ => rfl

theorem RunsAs.deleting {rows : Db → List RowKey}
    {deletion : Db → Option (Db → Db)} (runs : RunsAs next rest) :
    RunsAs (deleting rows deletion next)
      (fun db => ((deletion db).map (· db)).bind rest) := by
  intro pending db
  rw [ResellerCatalog.deleting, Transaction.Program.runAlone]
  dsimp only [id]
  cases found : deletion (pending db) with
  | none =>
      simp only [Option.isSome_none, Bool.false_eq_true, if_false]
      rfl
  | some delete =>
      simp only [Option.isSome_some, if_true, Option.getD_some]
      rw [runs]
      rfl

theorem deletePackages_eq (packageIds : List Nat) (db : Db) :
    deletePackages packageIds db =
      (packageDeletion packageIds db).map (· db) := by
  unfold deletePackages packageDeletion
  split <;> rfl

theorem deleteCategories_eq (categoryIds : List Nat) (db : Db) :
    deleteCategories categoryIds db =
      (categoryDeletion categoryIds db).map (· db) := by
  rw [deleteCategories, deletePackages_eq, categoryDeletion, packagesIn,
    Option.map_map, Option.map_map]
  cases deletion : packageDeletion
      (db.idsWhere .packages (·.categoryId ∈ categoryIds)) db with
  | none => rfl
  | some delete =>
      have packages : deletePackages (packagesIn categoryIds db) db =
          some (delete db) := by
        rw [deletePackages_eq, packagesIn, deletion]
        rfl
      have sameInside : insideOf categoryIds (delete db) =
          insideOf categoryIds db :=
        (sameOutside_deletePackages packages).idsWhere_eq (by decide) _
      simp only [Option.map_some, Function.comp_apply]
      rw [← sameInside]
      rfl

theorem RunsAs.deletingPackages {packageIds : Db → List Nat}
    (runs : RunsAs next rest) :
    RunsAs (deletingPackages packageIds next)
      (fun db => (deletePackages (packageIds db) db).bind rest) := by
  simp only [deletePackages_eq]
  exact runs.deleting

theorem RunsAs.deletingCategories {categoryIds : List Nat}
    (runs : RunsAs next rest) :
    RunsAs (deletingCategories categoryIds next)
      (fun db => (deleteCategories categoryIds db).bind rest) := by
  simp only [deleteCategories_eq]
  exact runs.deleting

theorem runsAs_deletingOperator (operatorId : Nat) :
    RunsAs (deletingOperator operatorId) (deleteCategories [operatorId]) := by
  intro pending db
  rw [deletingOperator, runsAs_commit.deletingCategories]
  dsimp only
  rw [Option.bind_fun_some]

theorem runAlone_operatorTreeProgram (operatorId : Nat) (db : Db) :
    (operatorTreeProgram operatorId).runAlone none db =
      outcome db (deleteOperatorTree operatorId db) := by
  have listed : (operatorTreeProgram operatorId).runAlone none db =
      (deletingListed operatorId (subcategoriesOf operatorId db)).runAlone
        (some id) db :=
    rfl
  have last := runsAs_deletingOperator operatorId
  rw [listed, deletingListed, deleteOperatorTree]
  dsimp only
  split
  · exact last id db
  · rw [last.deletingCategories.deletingPackages, id]
    congr 1
    exact (Option.bind_assoc ..).symm

theorem runAlone_subcategoryTreeProgram (subcategoryId : Nat) (db : Db) :
    (subcategoryTreeProgram subcategoryId).runAlone none db =
      outcome db (deleteSubcategoryTree subcategoryId db) := by
  have runs := @RunsAs.deletingPackages _ _ (packagesOf subcategoryId)
    (@RunsAs.deletingCategories _ _ [subcategoryId] runsAs_commit)
  simp only [Option.bind_fun_some] at runs
  exact runs id db

theorem runAlone_packageProgram (packageId : Nat) (db : Db) :
    (packageProgram packageId).runAlone none db =
      outcome db (deletePackage packageId db) := by
  have runs := @RunsAs.deletingPackages _ _ (fun _ => [packageId])
    runsAs_commit
  simp only [Option.bind_fun_some] at runs
  exact runs id db

end Alone

/-- The folders and packages that are gone afterwards, with the codes of the
packages, and nothing else happens. -/
structure Clears (categoryIds packageIds : List Nat) (db after : Db) :
    Prop where
  categories : ∀ id, after.row .categories id =
    if id ∈ categoryIds then none else db.row .categories id
  packages : ∀ id, after.row .packages id =
    if id ∈ packageIds then none else db.row .packages id
  chargeCodes : ∀ id, after.row .chargeCodes id =
    (db.row .chargeCodes id).filter (·.packageId ∉ packageIds)
  others : SameOutside [.categories, .packages, .chargeCodes] db after

/-- Some order refers to one of the packages. -/
def Ordered (packageIds : List Nat) (db : Db) : Prop :=
  ∃ id order, db.row .orders id = some order ∧ order.packageId ∈ packageIds

/-- A deletion that is refused for an order, and else clears a part of the
catalog. -/
structure DeletesPart (categoryIds packageIds : List Nat) (db : Db)
    (result : Option Db) : Prop where
  refused : result = none ↔ Ordered packageIds db
  clears : ∀ after, result = some after →
    Clears categoryIds packageIds db after

section Parts

variable {db mid after : Db} {categoryIds packageIds : List Nat}
variable {moreCategories morePackages : List Nat}

theorem Clears.trans (first : Clears categoryIds packageIds db mid)
    (rest : Clears moreCategories morePackages mid after) :
    Clears (categoryIds ++ moreCategories) (packageIds ++ morePackages) db
      after where
  categories id := by
    rw [rest.categories, first.categories]
    by_cases later : id ∈ moreCategories <;>
      by_cases earlier : id ∈ categoryIds <;> simp [later, earlier]
  packages id := by
    rw [rest.packages, first.packages]
    by_cases later : id ∈ morePackages <;>
      by_cases earlier : id ∈ packageIds <;> simp [later, earlier]
  chargeCodes id := by
    rw [rest.chargeCodes, first.chargeCodes, Option.filter_filter]
    congr 1
    funext code
    simp only [List.mem_append, not_or, Bool.decide_and]
  others := first.others.trans rest.others

theorem ordered_iff_of_clears (clears : Clears categoryIds packageIds db mid) :
    Ordered morePackages mid ↔ Ordered morePackages db := by
  have same := clears.others.rows .orders (by decide)
  simp only [Ordered, same]

theorem DeletesPart.bind {result : Option Db} {next : Db → Option Db}
    (first : DeletesPart categoryIds packageIds db result)
    (rest : ∀ mid, Clears categoryIds packageIds db mid →
      DeletesPart moreCategories morePackages mid (next mid)) :
    DeletesPart (categoryIds ++ moreCategories) (packageIds ++ morePackages)
      db (result.bind next) := by
  cases isResult : result with
  | none =>
      obtain ⟨id, order, found, refers⟩ := first.refused.mp isResult
      constructor
      · rw [Option.bind_none]
        have ordered : Ordered (packageIds ++ morePackages) db :=
          ⟨id, order, found, List.mem_append_left _ refers⟩
        exact ⟨fun _ => ordered, fun _ => rfl⟩
      · intro after isAfter
        cases isAfter
  | some mid =>
      have unordered : ¬ Ordered packageIds db := by
        rw [← first.refused, isResult]
        exact Option.some_ne_none mid
      have cleared := first.clears mid isResult
      have next := rest mid cleared
      rw [Option.bind_some]
      constructor
      · rw [next.refused, ordered_iff_of_clears cleared]
        constructor
        · rintro ⟨id, order, found, refers⟩
          exact ⟨id, order, found, List.mem_append_right _ refers⟩
        · rintro ⟨id, order, found, refers⟩
          rcases List.mem_append.mp refers with earlier | later
          · exact absurd ⟨id, order, found, earlier⟩ unordered
          · exact ⟨id, order, found, later⟩
      · intro after isAfter
        exact cleared.trans (next.clears after isAfter)

theorem DeletesPart.congr {result : Option Db}
    (deletes : DeletesPart categoryIds packageIds db result)
    (categories : ∀ id, id ∈ categoryIds ↔ id ∈ moreCategories)
    (packages : ∀ id, id ∈ packageIds ↔ id ∈ morePackages) :
    DeletesPart moreCategories morePackages db result where
  refused := by
    rw [deletes.refused]
    simp only [Ordered, packages]
  clears after isAfter := by
    have clears := deletes.clears after isAfter
    constructor
    · simpa only [categories] using clears.categories
    · simpa only [packages] using clears.packages
    · simpa only [packages] using clears.chargeCodes
    · exact clears.others

theorem deletesPart_deletePackages (packageIds : List Nat) (db : Db) :
    DeletesPart [] packageIds db (deletePackages packageIds db) := by
  have refers : db.idsWhere .orders (·.packageId ∈ packageIds) = [] ↔
      ¬ Ordered packageIds db := by
    rw [List.eq_nil_iff_forall_not_mem]
    simp only [mem_idsWhere, decide_eq_true_eq, Ordered, not_exists]
  unfold deletePackages
  split
  · rename_i unordered
    constructor
    · simp only [reduceCtorEq, false_iff]
      exact refers.mp unordered
    · rintro after ⟨⟩
      constructor
      · intro id
        rw [row_erase_of_ne (by decide), row_erase_of_ne (by decide)]
        simp
      · intro id
        split
        · exact row_erase_of_mem ‹_›
        · rw [row_erase_of_notMem ‹_›, row_erase_of_ne (by decide)]
      · intro id
        rw [row_erase_of_ne (by decide)]
        by_cases gone : id ∈ db.idsWhere .chargeCodes
            (·.packageId ∈ packageIds)
        · obtain ⟨code, found, isIn⟩ := mem_idsWhere.mp gone
          rw [row_erase_of_mem gone, found]
          simpa [Option.filter] using isIn
        · rw [row_erase_of_notMem gone]
          cases found : db.row .chargeCodes id with
          | none => rfl
          | some code =>
              have isOut : code.packageId ∉ packageIds := fun isIn =>
                gone (mem_idsWhere.mpr ⟨code, found, by simpa using isIn⟩)
              simp [Option.filter, isOut]
      · exact (SameOutside.erase (by decide)).trans (.erase (by decide))
  · rename_i ordered
    constructor
    · simp only [true_iff]
      exact not_not.mp (refers.not.mp ordered)
    · nofun

/-- The folders after a deletion of folders. -/
theorem row_deleteCategories
    (deleted : deleteCategories categoryIds db = some after) (key : Nat) :
    after.row .categories key =
      if key ∈ categoryIds then none
      else if key ∈ insideOf categoryIds db then
        (db.row .categories key).map ({ · with parentCategoryId := none })
      else db.row .categories key := by
  obtain ⟨between, packages, rfl⟩ := Option.map_eq_some_iff.mp deleted
  have same := sameOutside_deletePackages packages
  have sameInside : insideOf categoryIds between = insideOf categoryIds db :=
    same.idsWhere_eq (by decide) _
  by_cases isDeleted : key ∈ categoryIds
  · rw [row_erase_of_mem isDeleted, if_pos isDeleted]
  · rw [row_erase_of_notMem isDeleted, if_neg isDeleted, ← sameInside,
      ← same.rows .categories (by decide)]
    exact row_releaseFolders (insideOf categoryIds between) between key

/-- A deletion of folders, if the folders inside them are among them. -/
theorem deletesPart_deleteCategories
    (closed : ∀ id ∈ insideOf categoryIds db, id ∈ categoryIds) :
    DeletesPart categoryIds (packagesIn categoryIds db) db
      (deleteCategories categoryIds db) := by
  obtain ⟨refused, clears⟩ :=
    deletesPart_deletePackages (packagesIn categoryIds db) db
  constructor
  · rw [← refused]
    exact Option.map_eq_none_iff
  · intro after deleted
    have folders := row_deleteCategories deleted
    have rest := sameOutside_deleteCategories deleted
    obtain ⟨between, packages, rfl⟩ := Option.map_eq_some_iff.mp deleted
    have first := clears between packages
    have apart : SameOutside [.categories] between
        ((releaseFolders (insideOf categoryIds between) between).erase
          .categories categoryIds) :=
      (sameOutside_releaseFolders _ between).trans (.erase (by decide))
    constructor
    · intro id
      rw [folders]
      split
      · rfl
      · rename_i kept
        rw [if_neg fun inside => kept (closed id inside)]
    · intro id
      rw [← first.packages]
      exact apart.rows .packages (by decide) id
    · intro id
      rw [← first.chargeCodes]
      exact apart.rows .chargeCodes (by decide) id
    · exact rest

theorem mem_packagesIn {id : Nat} :
    id ∈ packagesIn categoryIds db ↔ ∃ package,
      db.row .packages id = some package ∧ package.categoryId ∈ categoryIds := by
  simp [packagesIn, mem_idsWhere]

/-- The packages that are deleted are in no folder any more. -/
theorem mem_packagesIn_of_clears
    (clears : Clears categoryIds packageIds db mid) {ids : List Nat}
    {id : Nat} :
    id ∈ packagesIn ids mid ↔ id ∈ packagesIn ids db ∧ id ∉ packageIds := by
  rw [mem_packagesIn, mem_packagesIn, clears.packages]
  by_cases gone : id ∈ packageIds <;> simp [gone]

end Parts

end ShopBot.ResellerCatalog

open ShopBot ResellerCatalog

/-- There are operators and subfolders, and packages in subfolders only. -/
structure TwoLevel (db : Db) : Prop where
  folders : ∀ id folder operatorId operator,
    db.row .categories id = some folder →
      folder.parentCategoryId = some operatorId →
      db.row .categories operatorId = some operator →
        operator.parentCategoryId = none
  packages : ∀ id package folder, db.row .packages id = some package →
    db.row .categories package.categoryId = some folder →
      folder.parentCategoryId.isSome

instance (db : Db) : Decidable (TwoLevel db) :=
  decidable_of_iff
    (db.idsWhere .categories (fun folder =>
        folder.parentCategoryId.any fun operatorId =>
          (db.row .categories operatorId).any
            (·.parentCategoryId.isSome)) = [] ∧
      db.idsWhere .packages (fun package =>
        (db.row .categories package.categoryId).any
          (·.parentCategoryId.isNone)) = []) <| by
    simp only [List.eq_nil_iff_forall_not_mem, mem_idsWhere,
      Option.any_eq_true, not_exists, not_and]
    constructor
    · rintro ⟨folders, packages⟩
      constructor
      · intro id folder operatorId operator found inside isOperator
        simpa using folders id folder found operatorId inside operator
          isOperator
      · intro id package folder found isFolder
        simpa [Option.isSome_iff_ne_none] using
          packages id package found folder isFolder
    · rintro ⟨folders, packages⟩
      constructor
      · intro id folder found operatorId inside operator isOperator
        simp [folders id folder operatorId operator found inside isOperator]
      · intro id package found folder isFolder
        simpa [Option.isSome_iff_ne_none] using
          packages id package folder found isFolder

/-- What can be deleted in the catalog. -/
inductive CatalogNode where
  | operator (id : Nat)
  | subcategory (id : Nat)
  | package (id : Nat)

namespace CatalogNode

def IsThere (db : Db) : CatalogNode → Prop
  | operator id => ∃ folder, db.row .categories id = some folder ∧
      folder.parentCategoryId = none
  | subcategory id => ∃ folder, db.row .categories id = some folder ∧
      folder.parentCategoryId.isSome
  | package id => (db.row .packages id).isSome

/-- The folders of the subtree. -/
def categories (db : Db) : CatalogNode → List Nat
  | operator id => id :: subcategoriesOf id db
  | subcategory id => [id]
  | package _ => []

/-- The packages of the subtree. -/
def packages (db : Db) : CatalogNode → List Nat
  | package id => [id]
  | node => packagesIn (node.categories db) db

/-- The charge codes of the subtree. -/
def chargeCodes (db : Db) (node : CatalogNode) : List Nat :=
  db.idsWhere .chargeCodes (·.packageId ∈ node.packages db)

def delete : CatalogNode → Db → Option Db
  | operator id => deleteOperatorTree id
  | subcategory id => deleteSubcategoryTree id
  | package id => deletePackage id

/-- The statements of the deletion. -/
def program : CatalogNode → Program (Except ServiceError Unit)
  | operator id => operatorTreeProgram id
  | subcategory id => subcategoryTreeProgram id
  | package id => packageProgram id

theorem runAlone_program (node : CatalogNode) (db : Db) :
    node.program.runAlone none db = outcome db (node.delete db) := by
  cases node with
  | operator id => exact runAlone_operatorTreeProgram id db
  | subcategory id => exact runAlone_subcategoryTreeProgram id db
  | package id => exact runAlone_packageProgram id db

/-- The handlers of deletions do what their statements do. -/
theorem db_inTransaction_delete (node : CatalogNode)
    (visit : Visit ShopState ShopData) :
    ((inTransaction node.delete).runOn visit).2.platform.db =
      (node.program.runAlone none visit.platform.db).1 := by
  rw [visit_inTransaction, runAlone_program]
  cases node.delete visit.platform.db with
  | none => rfl
  | some after => rfl

section Subtrees

variable {db : Db} {id : Nat}

theorem mem_subcategoriesOf {subId : Nat} :
    subId ∈ subcategoriesOf id db ↔ ∃ folder,
      db.row .categories subId = some folder ∧
        folder.parentCategoryId = some id := by
  simp [subcategoriesOf, mem_idsWhere]

theorem mem_insideOf {categoryIds : List Nat} :
    id ∈ insideOf categoryIds db ↔ ∃ folder parentId,
      db.row .categories id = some folder ∧
        folder.parentCategoryId = some parentId ∧ parentId ∈ categoryIds := by
  simp [insideOf, mem_idsWhere, Option.any_eq_true]

/-- Nothing is inside a subfolder. -/
theorem not_mem_insideOf_subfolders (two : TwoLevel db)
    {subIds : List Nat} (subfolders : ∀ subId ∈ subIds, ∃ folder,
      db.row .categories subId = some folder ∧
        folder.parentCategoryId.isSome) : id ∉ insideOf subIds db := by
  intro inside
  obtain ⟨folder, parentId, found, isInside, member⟩ := mem_insideOf.mp inside
  obtain ⟨parent, isParent, isSubfolder⟩ := subfolders parentId member
  rw [two.folders id folder parentId parent found isInside isParent]
    at isSubfolder
  cases isSubfolder

theorem deletesPart_subcategory (two : TwoLevel db)
    (there : (subcategory id).IsThere db) :
    DeletesPart [id] (packagesIn [id] db) db (deleteSubcategoryTree id db) := by
  have samePackages : ∀ packageId, packageId ∈ packagesOf id db ↔
      packageId ∈ packagesIn [id] db := by
    simp [packagesOf, packagesIn]
  have last : ∀ mid, Clears [] (packagesOf id db) db mid →
      DeletesPart [id] [] mid (deleteCategories [id] mid) := by
    intro mid cleared
    have closed : ∀ inner ∈ insideOf [id] mid, inner ∈ [id] := by
      intro inner inside
      have wasInside : inner ∈ insideOf [id] db := by
        simpa [mem_insideOf, cleared.categories] using inside
      exact absurd wasInside
        (not_mem_insideOf_subfolders two (by simpa [IsThere] using there))
    apply (deletesPart_deleteCategories closed).congr fun _ => Iff.rfl
    intro packageId
    rw [mem_packagesIn_of_clears cleared, samePackages]
    simp
  have whole := (deletesPart_deletePackages (packagesOf id db) db).bind last
  apply whole.congr
  · simp
  · simpa using samePackages

/-- Only subfolders have packages. -/
theorem not_mem_packagesIn_operator (two : TwoLevel db)
    (there : (operator id).IsThere db) {packageId : Nat} :
    packageId ∉ packagesIn [id] db := by
  intro member
  obtain ⟨package, found, isIn⟩ := mem_packagesIn.mp member
  obtain ⟨folder, isFolder, isOperator⟩ := there
  rw [← List.mem_singleton.mp isIn] at isFolder
  have isSubfolder := two.packages packageId package folder found isFolder
  rw [isOperator] at isSubfolder
  cases isSubfolder

theorem mem_packagesIn_cons {categoryIds : List Nat} {packageId : Nat} :
    packageId ∈ packagesIn (id :: categoryIds) db ↔
      packageId ∈ packagesIn [id] db ∨
        packageId ∈ packagesIn categoryIds db := by
  simp only [mem_packagesIn, List.mem_cons, List.not_mem_nil, or_false,
    and_or_left, exists_or]

theorem deletesPart_operator (two : TwoLevel db)
    (there : (operator id).IsThere db) :
    DeletesPart (id :: subcategoriesOf id db)
      (packagesIn (id :: subcategoriesOf id db) db) db
      (deleteOperatorTree id db) := by
  unfold deleteOperatorTree
  dsimp only
  split
  · rename_i alone
    rw [alone]
    apply deletesPart_deleteCategories
    intro inner inside
    have isSubfolder : inner ∈ subcategoriesOf id db := by
      simpa [mem_insideOf, mem_subcategoriesOf] using inside
    rw [alone] at isSubfolder
    cases isSubfolder
  · have subfolders : ∀ subId ∈ subcategoriesOf id db, ∃ folder,
        db.row .categories subId = some folder ∧
          folder.parentCategoryId.isSome := by
      intro subId member
      obtain ⟨folder, found, isInside⟩ := mem_subcategoriesOf.mp member
      exact ⟨folder, found, by rw [isInside]; rfl⟩
    let subIds := subcategoriesOf id db
    have second : ∀ mid, Clears [] (packagesIn subIds db) db mid →
        DeletesPart subIds [] mid (deleteCategories subIds mid) := by
      intro mid cleared
      have closed : ∀ inner ∈ insideOf subIds mid, inner ∈ subIds := by
        intro inner inside
        have wasInside : inner ∈ insideOf subIds db := by
          simpa [mem_insideOf, cleared.categories] using inside
        exact absurd wasInside (not_mem_insideOf_subfolders two subfolders)
      apply (deletesPart_deleteCategories closed).congr fun _ => Iff.rfl
      intro packageId
      rw [mem_packagesIn_of_clears cleared]
      simp
    have last : ∀ mid,
        Clears ([] ++ subIds) (packagesIn subIds db ++ []) db mid →
          DeletesPart [id] [] mid (deleteCategories [id] mid) := by
      intro mid cleared
      have closed : ∀ inner ∈ insideOf [id] mid, inner ∈ [id] := by
        intro inner inside
        obtain ⟨folder, parentId, found, isInside, member⟩ :=
          mem_insideOf.mp inside
        rw [cleared.categories] at found
        split at found
        · cases found
        · rename_i kept
          cases List.mem_singleton.mp member
          exact absurd (mem_subcategoriesOf.mpr ⟨folder, found, isInside⟩) kept
      apply (deletesPart_deleteCategories closed).congr fun _ => Iff.rfl
      intro packageId
      rw [mem_packagesIn_of_clears cleared]
      simp [not_mem_packagesIn_operator two there]
    have packages := deletesPart_deletePackages (packagesIn subIds db) db
    apply ((packages.bind second).bind last).congr
    · intro categoryId
      simp [subIds, or_comm]
    · intro packageId
      rw [mem_packagesIn_cons]
      simp [subIds, not_mem_packagesIn_operator two there]

/-- What a deletion does to the catalog. -/
theorem deletesPart (two : TwoLevel db) {node : CatalogNode}
    (there : node.IsThere db) :
    DeletesPart (node.categories db) (node.packages db) db
      (node.delete db) := by
  cases node with
  | operator id => exact deletesPart_operator two there
  | subcategory id => exact deletesPart_subcategory two there
  | package id => exact deletesPart_deletePackages [id] db

end Subtrees

end CatalogNode

/-- Every sold code is of a package that was ordered. -/
def SoldHaveOrders (db : Db) : Prop :=
  ∀ id code, db.row .chargeCodes id = some code → code.status = .sold →
    Ordered [code.packageId] db

/-- The rows of a table that are gone afterwards. -/
def gone (name : TableName) (before after : Db) : List Nat :=
  (before.idsWhere name fun _ => true).filter fun id =>
    (after.row name id).isNone

namespace CatalogNode

/-- As many subfolders, packages and codes are gone as were announced. -/
def RemovesAnnounced (before after : Db) : CatalogNode → Prop
  | operator id =>
      countOperatorDeletionImpact id before =
        (((gone .categories before after).filter (· ≠ id)).length,
          (gone .packages before after).length,
          (gone .chargeCodes before after).length)
  | subcategory id =>
      countSubcategoryDeletionImpact id before =
        ((gone .packages before after).length,
          (gone .chargeCodes before after).length)
  | package id =>
      countPackageDeletionImpact id before =
        (gone .chargeCodes before after).length

/-- The deletion is refused for orders only, and then it changes nothing.
Otherwise it removes the subtree with no sold code in it, and as much as was
announced. -/
structure DeletionRight (node : CatalogNode) (db : Db) : Prop where
  refused : (node.program.runAlone none db).2 =
      some (.error .integrityError) ↔ Ordered (node.packages db) db
  ends : (node.program.runAlone none db).2 = some (.error .integrityError) ∨
    (node.program.runAlone none db).2 = some (.ok ())
  rolledBack : (node.program.runAlone none db).2 =
      some (.error .integrityError) → (node.program.runAlone none db).1 = db
  clears : (node.program.runAlone none db).2 = some (.ok ()) →
    Clears (node.categories db) (node.packages db) db
      (node.program.runAlone none db).1
  unsold : (node.program.runAlone none db).2 = some (.ok ()) →
    ∀ id ∈ node.chargeCodes db, ∀ code ∈ db.row .chargeCodes id,
      code.status ≠ .sold
  announced : (node.program.runAlone none db).2 = some (.ok ()) →
    node.RemovesAnnounced db (node.program.runAlone none db).1

section Announcements

variable {db after : Db} {node : CatalogNode} {id : Nat}

/-- Ids that are picked from the rows that are gone by a test on rows. -/
theorem filter_gone {name : TableName} {keep : Nat → Bool}
    {test : RowOf name → Bool}
    (goes : ∀ id row, db.row name id = some row →
      (keep id && (after.row name id).isNone) = test row) :
    (gone name db after).filter keep = db.idsWhere name test := by
  unfold gone Database.idsWhere KeyedTable.idsWhere
  rw [List.filter_filter, List.filter_filter]
  apply List.filter_congr
  intro id _
  change (keep id && (after.row name id).isNone &&
      (db.row name id).any fun _ => true) = (db.row name id).any test
  cases found : db.row name id with
  | none => simp
  | some row => simpa using goes id row found

theorem gone_eq_idsWhere {name : TableName} {test : RowOf name → Bool}
    (goes : ∀ id row, db.row name id = some row →
      (after.row name id).isNone = test row) :
    gone name db after = db.idsWhere name test := by
  have all := @filter_gone db after name (fun _ => true) test
    fun id row found => by rw [Bool.true_and, goes id row found]
  rwa [List.filter_true] at all

theorem gone_packages {categoryIds : List Nat}
    (clears : Clears categoryIds (packagesIn categoryIds db) db after) :
    gone .packages db after = packagesIn categoryIds db := by
  apply gone_eq_idsWhere
  intro packageId package found
  rw [clears.packages]
  by_cases isIn : package.categoryId ∈ categoryIds
  · rw [if_pos (mem_packagesIn.mpr ⟨package, found, isIn⟩)]
    simpa using isIn
  · have isOut : packageId ∉ packagesIn categoryIds db := by
      rw [mem_packagesIn]
      rintro ⟨other, isOther, member⟩
      rw [found] at isOther
      cases isOther
      exact isIn member
    rw [if_neg isOut, found]
    simpa using isIn

theorem gone_chargeCodes {categoryIds packageIds : List Nat}
    (clears : Clears categoryIds packageIds db after) :
    gone .chargeCodes db after =
      db.idsWhere .chargeCodes (·.packageId ∈ packageIds) := by
  apply gone_eq_idsWhere
  intro codeId code found
  rw [clears.chargeCodes, found]
  by_cases isIn : code.packageId ∈ packageIds <;> simp [Option.filter, isIn]

/-- No code of packages without orders has been sold. -/
theorem unsold_of_unordered (sold : SoldHaveOrders db)
    {packageIds : List Nat} (unordered : ¬ Ordered packageIds db)
    {code : ChargeCodeRow} (found : db.row .chargeCodes id = some code)
    (isIn : code.packageId ∈ packageIds) : code.status ≠ .sold := by
  intro isSold
  obtain ⟨orderId, order, isOrder, refers⟩ := sold id code found isSold
  rw [List.mem_singleton] at refers
  exact unordered ⟨orderId, order, isOrder, refers ▸ isIn⟩

/-- All their codes are available. -/
theorem availableCodes_of_unordered (sold : SoldHaveOrders db)
    {packageIds : List Nat} (unordered : ¬ Ordered packageIds db) :
    availableCodes packageIds db =
      (db.idsWhere .chargeCodes (·.packageId ∈ packageIds)).length := by
  unfold availableCodes Database.idsWhere KeyedTable.idsWhere
  congr 1
  apply List.filter_congr
  intro codeId _
  change (db.row .chargeCodes codeId).any _ =
    (db.row .chargeCodes codeId).any _
  cases found : db.row .chargeCodes codeId with
  | none => rfl
  | some code =>
      by_cases isIn : code.packageId ∈ packageIds
      · have unsold := unsold_of_unordered sold unordered found isIn
        cases status : code.status with
        | available => simp [status]
        | sold => exact absurd status unsold
      · simp [isIn]

theorem idsWhere_of_no_packages :
    db.idsWhere .chargeCodes (·.packageId ∈ ([] : List Nat)) = [] := by
  simp [List.eq_nil_iff_forall_not_mem, mem_idsWhere]

/-- What is announced about the codes of some packages. -/
theorem announcedCodes (sold : SoldHaveOrders db) {packageIds : List Nat}
    (unordered : ¬ Ordered packageIds db) :
    (if packageIds = [] then 0 else availableCodes packageIds db) =
      (db.idsWhere .chargeCodes (·.packageId ∈ packageIds)).length := by
  split
  · rename_i empty
    rw [empty, idsWhere_of_no_packages, List.length_nil]
  · exact availableCodes_of_unordered sold unordered

theorem gone_subfolders (there : (operator id).IsThere db)
    (clears : Clears ((operator id).categories db)
      ((operator id).packages db) db after) :
    (gone .categories db after).filter (· ≠ id) =
      subcategoriesOf id db := by
  apply filter_gone
  intro folderId folder found
  rw [clears.categories]
  by_cases isOperator : folderId = id
  · obtain ⟨row, isRow, outside⟩ := there
    rw [← isOperator, found] at isRow
    cases isRow
    simp [isOperator, outside]
  · by_cases isInside : folder.parentCategoryId = some id
    · have member : folderId ∈ subcategoriesOf id db :=
        mem_subcategoriesOf.mpr ⟨folder, found, isInside⟩
      simp [isOperator, isInside, categories, member]
    · have notMember : folderId ∉ subcategoriesOf id db := by
        rw [mem_subcategoriesOf]
        rintro ⟨other, isOther, inside⟩
        rw [found] at isOther
        cases isOther
        exact isInside inside
      simp [isOperator, isInside, categories, notMember, found]

/-- The operator itself adds nothing to the packages of its subfolders. -/
theorem packages_operator (two : TwoLevel db)
    (there : (operator id).IsThere db) :
    (operator id).packages db = packagesIn (subcategoriesOf id db) db := by
  change db.idsWhere .packages _ = db.idsWhere .packages _
  unfold Database.idsWhere KeyedTable.idsWhere
  apply List.filter_congr
  intro packageId _
  change (db.row .packages packageId).any _ =
    (db.row .packages packageId).any _
  cases found : db.row .packages packageId with
  | none => rfl
  | some package =>
      have elsewhere : package.categoryId ≠ id := by
        intro isIn
        apply @not_mem_packagesIn_operator db id two there packageId
        exact mem_packagesIn.mpr ⟨package, found, by simp [isIn]⟩
      simp [categories, elsewhere]

theorem removesAnnounced (two : TwoLevel db) (sold : SoldHaveOrders db)
    (there : node.IsThere db) (unordered : ¬ Ordered (node.packages db) db)
    (clears : Clears (node.categories db) (node.packages db) db after) :
    node.RemovesAnnounced db after := by
  have codes := announcedCodes sold unordered
  have goneCodes := gone_chargeCodes clears
  cases node with
  | operator id =>
      have subfolders := gone_subfolders there clears
      have gonePackages := gone_packages clears
      have same := packages_operator two there
      rw [RemovesAnnounced, subfolders, goneCodes, ← codes, gonePackages]
      change _ = (_, ((operator id).packages db).length, _)
      rw [same, countOperatorDeletionImpact]
      dsimp only
      split
      · rename_i none_
        have noPackages :
            packagesIn ([] : List Nat) db = [] := by
          simp [List.eq_nil_iff_forall_not_mem, mem_packagesIn]
        simp [none_, noPackages]
      · rfl
  | subcategory id =>
      have gonePackages := gone_packages clears
      have same : (subcategory id).packages db = packagesOf id db := by
        simp [packages, categories, packagesIn, packagesOf]
      rw [RemovesAnnounced, goneCodes, ← codes, gonePackages]
      change _ = (((subcategory id).packages db).length, _)
      rw [same]
      rfl
  | package id =>
      rw [RemovesAnnounced, goneCodes, ← codes]
      simp [countPackageDeletionImpact, packages, availableCodes]

/-- In a two-level catalog whose sold codes have orders, deletions are
right. -/
theorem deletionRight (two : TwoLevel db) (sold : SoldHaveOrders db)
    (there : node.IsThere db) : node.DeletionRight db := by
  obtain ⟨refused, clears⟩ := deletesPart two there
  have ran := runAlone_program node db
  cases deleted : node.delete db with
  | none =>
      have ordered := refused.mp deleted
      rw [deleted] at ran
      constructor
      case refused => simp [ran, outcome, ordered]
      case ends => simp [ran, outcome]
      case rolledBack => simp [ran, outcome]
      all_goals simp [ran, outcome]
  | some after =>
      have cleared := clears after deleted
      have unordered : ¬ Ordered (node.packages db) db := by
        rw [← refused, deleted]
        exact Option.some_ne_none after
      rw [deleted] at ran
      constructor
      case refused => simp [ran, outcome, unordered]
      case ends => simp [ran, outcome]
      case rolledBack => simp [ran, outcome]
      case clears =>
        rw [ran]
        exact fun _ => cleared
      case unsold =>
        intro _ codeId member code found
        obtain ⟨row, isRow, isIn⟩ := mem_idsWhere.mp member
        rw [Option.mem_def.mp found] at isRow
        cases isRow
        exact unsold_of_unordered sold unordered found (by simpa using isIn)
      case announced =>
        rw [ran]
        exact fun _ => removesAnnounced two sold there unordered cleared

end Announcements

end CatalogNode

end Baste
