import Baste.CatalogFolders
import Baste.ShopFootprints

/-!
# Shelves of the catalog

The folders of a reseller in one of the two parts of the catalog are a shelf.
Folders and packages never change their shelf, a folder inside another is on
the same shelf as long as new folders are put where their operators are, and a
package is for sale until it is switched off.
-/

namespace Baste

open Database BotScripts

section Catalog

/-- The reseller and the part of the catalog to which a folder belongs. -/
def CategoryRow.shelf (folder : CategoryRow) : Nat × CatalogType :=
  (folder.resellerId, folder.catalogType)

/-- Every package is in a folder of its reseller. -/
def PackagesAgree (db : Db) : Prop :=
  ∀ id package, db.row .packages id = some package →
    ∃ folder, db.row .categories package.categoryId = some folder ∧
      folder.resellerId = package.resellerId

/-- Every folder is on the shelf of the operator that it is inside, and every
package in a folder of its reseller. -/
structure CatalogSound (db : Db) : Prop where
  folders : FoldersAgree CategoryRow.shelf db
  packages : PackagesAgree db

/-- Every folder and every package is a new one or has been there, on the same
shelf, and nothing has been taken off sale but what has been switched. -/
structure CatalogStays (switched : Nat → Prop) (before after : Db) :
    Prop where
  folders : ∀ id folder, after.row .categories id = some folder →
    before.nextId .categories ≤ id ∨
      ∃ old, before.row .categories id = some old ∧ old.shelf = folder.shelf
  packages : ∀ id package, after.row .packages id = some package →
    before.nextId .packages ≤ id ∨
      ∃ old, before.row .packages id = some old ∧
        package.resellerId = old.resellerId ∧
        package.categoryId = old.categoryId ∧
        (old.isActive = true → package.isActive = true ∨ switched id)
  grown : ∀ name, before.nextId name ≤ after.nextId name

/-- The catalog stays as it is in these respects, and sound. -/
def KeepsCatalog (switched : Nat → Prop) (before after : Db) : Prop :=
  CatalogSound before → CatalogSound after ∧ CatalogStays switched before after

end Catalog

section Changes

variable {switched : Nat → Prop} {db mid after : Db}

theorem CatalogStays.refl (db : Db) : CatalogStays switched db db where
  folders _ folder found := .inr ⟨folder, found, rfl⟩
  packages _ package found := .inr ⟨package, found, rfl, rfl, .inl⟩
  grown _ := le_rfl

theorem CatalogStays.trans (first : CatalogStays switched db mid)
    (second : CatalogStays switched mid after) :
    CatalogStays switched db after where
  folders id folder found := by
    rcases second.folders id folder found with new | ⟨between, isBetween, same⟩
    · exact .inl ((first.grown _).trans new)
    · rcases first.folders id between isBetween with new | ⟨old, isOld, sameOld⟩
      · exact .inl new
      · exact .inr ⟨old, isOld, sameOld.trans same⟩
  packages id package found := by
    rcases second.packages id package found with
      new | ⟨between, isBetween, reseller, folder, active⟩
    · exact .inl ((first.grown _).trans new)
    · rcases first.packages id between isBetween with
        new | ⟨old, isOld, oldReseller, oldFolder, wasActive⟩
      · exact .inl new
      · refine .inr ⟨old, isOld, reseller.trans oldReseller,
          folder.trans oldFolder, fun isActive => ?_⟩
        rcases wasActive isActive with stillActive | isSwitched
        · exact active stillActive
        · exact .inr isSwitched
  grown name := (first.grown name).trans (second.grown name)

theorem KeepsCatalog.refl (db : Db) : KeepsCatalog switched db db :=
  fun sound => ⟨sound, .refl db⟩

theorem KeepsCatalog.trans (first : KeepsCatalog switched db mid)
    (second : KeepsCatalog switched mid after) :
    KeepsCatalog switched db after := by
  intro sound
  obtain ⟨soundMid, staysMid⟩ := first sound
  obtain ⟨soundAfter, staysAfter⟩ := second soundMid
  exact ⟨soundAfter, staysMid.trans staysAfter⟩

instance : Std.Refl (KeepsCatalog switched) := ⟨KeepsCatalog.refl⟩

instance : IsTrans Db (KeepsCatalog switched) := ⟨fun _ _ _ => .trans⟩

theorem KeepsCatalog.of_sameOutside {tables : List TableName}
    (same : SameOutside tables db after) (noFolders : .categories ∉ tables)
    (noPackages : .packages ∉ tables) : KeepsCatalog switched db after := by
  have folders := same.rows .categories noFolders
  have packages := same.rows .packages noPackages
  intro sound
  refine ⟨⟨sound.folders.of_rows folders, ?_⟩, ?_, ?_, same.grown⟩
  · intro id package found
    rw [packages] at found
    rw [folders]
    exact sound.packages id package found
  · intro id folder found
    rw [folders] at found
    exact .inr ⟨folder, found, rfl⟩
  · intro id package found
    rw [packages] at found
    exact .inr ⟨package, found, rfl, rfl, .inl⟩

/-- A folder keeps its shelf and stays where it is. -/
theorem KeepsCatalog.modify_folder {id : Nat}
    {change : CategoryRow → CategoryRow}
    (kept : ∀ folder, (change folder).shelf = folder.shelf ∧
      (change folder).parentCategoryId = folder.parentCategoryId) :
    KeepsCatalog switched db (db.modify .categories id change) := by
  have found : ∀ key, ∃ shown : CategoryRow → CategoryRow,
      (db.modify .categories id change).row .categories key =
        (db.row .categories key).map shown ∧
      ∀ folder, (shown folder).shelf = folder.shelf := by
    intro key
    rw [row_modify]
    split
    · exact ⟨change, rfl, fun folder => (kept folder).1⟩
    · exact ⟨fun folder => folder, by simp, fun _ => rfl⟩
  intro sound
  refine ⟨⟨sound.folders.modify kept, ?_⟩, ?_, ?_, ?_⟩
  · intro key package isPackage
    rw [row_modify_of_ne (by decide)] at isPackage
    obtain ⟨folder, isFolder, same⟩ := sound.packages key package isPackage
    obtain ⟨shown, isShown, keeps⟩ := found package.categoryId
    refine ⟨shown folder, ?_, (congrArg Prod.fst (keeps folder)).trans same⟩
    rw [isShown, isFolder]
    rfl
  · intro key folder isFolder
    obtain ⟨shown, isShown, keeps⟩ := found key
    rw [isShown] at isFolder
    obtain ⟨old, isOld, rfl⟩ := Option.map_eq_some_iff.mp isFolder
    exact .inr ⟨old, isOld, (keeps old).symm⟩
  · intro key package isPackage
    rw [row_modify_of_ne (by decide)] at isPackage
    exact .inr ⟨package, isPackage, rfl, rfl, .inl⟩
  · intro name
    rw [nextId_modify]

/-- A package stays where it is, and on sale unless it is switched. -/
theorem KeepsCatalog.modify_package {id : Nat}
    {change : PackageRow → PackageRow}
    (kept : ∀ package, (change package).resellerId = package.resellerId ∧
      (change package).categoryId = package.categoryId)
    (active : ∀ package, package.isActive = true →
      (change package).isActive = true ∨ switched id) :
    KeepsCatalog switched db (db.modify .packages id change) := by
  have folders : ∀ key, (db.modify .packages id change).row .categories key =
      db.row .categories key :=
    fun key => row_modify_of_ne (by decide)
  have found : ∀ key package,
      (db.modify .packages id change).row .packages key = some package →
      ∃ old, db.row .packages key = some old ∧
        package.resellerId = old.resellerId ∧
        package.categoryId = old.categoryId ∧
        (old.isActive = true → package.isActive = true ∨ switched key) := by
    intro key package isPackage
    rw [row_modify] at isPackage
    split at isPackage
    · rename_i same
      obtain ⟨old, isOld, rfl⟩ := Option.map_eq_some_iff.mp isPackage
      refine ⟨old, isOld, (kept old).1, (kept old).2, ?_⟩
      rw [same]
      exact active old
    · exact ⟨package, isPackage, rfl, rfl, .inl⟩
  intro sound
  refine ⟨⟨sound.folders.of_rows folders, ?_⟩, ?_, ?_, ?_⟩
  · intro key package isPackage
    obtain ⟨old, isOld, reseller, folder, -⟩ := found key package isPackage
    rw [folders, reseller, folder]
    exact sound.packages key old isOld
  · intro key folder isFolder
    rw [folders] at isFolder
    exact .inr ⟨folder, isFolder, rfl⟩
  · exact fun key package isPackage => .inr (found key package isPackage)
  · intro name
    rw [nextId_modify]

/-- A new row of a table. -/
theorem row_insert {name : TableName} {new row : RowOf name} {key : Nat}
    (found : ((db.reserve name).put name (db.nextId name) new).row name key =
      some row) :
    key = db.nextId name ∧ row = new ∨ db.row name key = some row := by
  by_cases isNew : key = db.nextId name
  · rw [isNew, row_put_self (by simp)] at found
    cases found
    exact .inl ⟨isNew, rfl⟩
  · rw [row_put_ne isNew, row_reserve] at found
    exact .inr found

/-- The other rows are still there. -/
theorem row_insert_of_row {name other : TableName} {new : RowOf name}
    {row : RowOf other} {key : Nat} (found : db.row other key = some row) :
    ((db.reserve name).put name (db.nextId name) new).row other key =
      some row := by
  by_cases same : other = name
  · subst same
    have present := lt_nextId_of_row found
    rw [row_put_ne (by omega), row_reserve, found]
  · rw [row_put_of_ne same, row_reserve, found]

theorem KeepsCatalog.put_folder {new : CategoryRow}
    (inside : ∀ operatorId, new.parentCategoryId = some operatorId →
      ∃ operator, db.row .categories operatorId = some operator ∧
        new.shelf = operator.shelf) :
    KeepsCatalog switched db ((db.reserve .categories).put .categories
      (db.nextId .categories) new) := by
  have packages : ∀ key, ((db.reserve .categories).put .categories
      (db.nextId .categories) new).row .packages key =
        db.row .packages key := by
    intro key
    rw [row_put_of_ne (by decide), row_reserve]
  intro sound
  refine ⟨⟨sound.folders.put inside, ?_⟩, ?_, ?_, ?_⟩
  · intro key package isPackage
    rw [packages] at isPackage
    obtain ⟨folder, isFolder, same⟩ := sound.packages key package isPackage
    exact ⟨folder, row_insert_of_row isFolder, same⟩
  · intro key folder isFolder
    rcases row_insert isFolder with ⟨rfl, -⟩ | isOld
    · exact .inl le_rfl
    · exact .inr ⟨folder, isOld, rfl⟩
  · intro key package isPackage
    rw [packages] at isPackage
    exact .inr ⟨package, isPackage, rfl, rfl, .inl⟩
  · intro name
    rw [nextId_put]
    exact nextId_le_reserve

theorem KeepsCatalog.put_package {new : PackageRow}
    (inside : ∃ folder, db.row .categories new.categoryId = some folder ∧
      folder.resellerId = new.resellerId) :
    KeepsCatalog switched db ((db.reserve .packages).put .packages
      (db.nextId .packages) new) := by
  have folders : ∀ key, ((db.reserve .packages).put .packages
      (db.nextId .packages) new).row .categories key =
        db.row .categories key := by
    intro key
    rw [row_put_of_ne (by decide), row_reserve]
  intro sound
  refine ⟨⟨sound.folders.of_rows folders, ?_⟩, ?_, ?_, ?_⟩
  · intro key package isPackage
    rw [folders]
    rcases row_insert isPackage with ⟨-, rfl⟩ | isOld
    · exact inside
    · exact sound.packages key package isOld
  · intro key folder isFolder
    rw [folders] at isFolder
    exact .inr ⟨folder, isFolder, rfl⟩
  · intro key package isPackage
    rcases row_insert isPackage with ⟨rfl, -⟩ | isOld
    · exact .inl le_rfl
    · exact .inr ⟨package, isOld, rfl, rfl, .inl⟩
  · intro name
    rw [nextId_put]
    exact nextId_le_reserve

end Changes

section Deletions

open ShopBot.ResellerCatalog

variable {switched : Nat → Prop} {db after : Db}

/-- Some packages go. -/
theorem row_deletePackages {packageIds : List Nat}
    (deleted : deletePackages packageIds db = some after) (key : Nat) :
    after.row .packages key =
      if key ∈ packageIds then none else db.row .packages key :=
  ((deletesPart_deletePackages packageIds db).clears after deleted).packages key

theorem keepsCatalog_deletePackages {packageIds : List Nat}
    (deleted : deletePackages packageIds db = some after) :
    KeepsCatalog switched db after := by
  have same := sameOutside_deletePackages deleted
  have folders := same.rows .categories (by decide)
  have packages : ∀ key package, after.row .packages key = some package →
      db.row .packages key = some package := by
    intro key package isPackage
    rw [row_deletePackages deleted] at isPackage
    split at isPackage
    · cases isPackage
    · exact isPackage
  intro sound
  refine ⟨⟨sound.folders.of_rows folders, ?_⟩, ?_, ?_, same.grown⟩
  · intro key package isPackage
    rw [folders]
    exact sound.packages key package (packages key package isPackage)
  · intro key folder isFolder
    rw [folders] at isFolder
    exact .inr ⟨folder, isFolder, rfl⟩
  · exact fun key package isPackage =>
      .inr ⟨package, packages key package isPackage, rfl, rfl, .inl⟩

/-- The packages after a deletion of folders. -/
theorem row_packages_deleteCategories {categoryIds : List Nat}
    (deleted : deleteCategories categoryIds db = some after) (key : Nat) :
    after.row .packages key =
      if key ∈ packagesIn categoryIds db then none
      else db.row .packages key := by
  obtain ⟨between, packages, rfl⟩ := Option.map_eq_some_iff.mp deleted
  have released := (sameOutside_releaseFolders (insideOf categoryIds between)
    between).rows .packages (by decide) key
  rw [row_erase_of_ne (by decide)]
  exact released.trans (row_deletePackages packages key)

theorem keepsCatalog_deleteCategories {categoryIds : List Nat}
    (deleted : deleteCategories categoryIds db = some after) :
    KeepsCatalog switched db after := by
  have packages : ∀ key package, after.row .packages key = some package →
      db.row .packages key = some package ∧
        package.categoryId ∉ categoryIds := by
    intro key package isPackage
    rw [row_packages_deleteCategories deleted] at isPackage
    split at isPackage
    · cases isPackage
    · rename_i outside
      refine ⟨isPackage, fun isDeleted => outside ?_⟩
      exact mem_idsWhere.mpr ⟨package, isPackage, by simpa using isDeleted⟩
  intro sound
  refine ⟨⟨sound.folders.deleteCategories (fun _ => rfl) deleted, ?_⟩, ?_, ?_,
    (sameOutside_deleteCategories deleted).grown⟩
  · intro key package isPackage
    obtain ⟨isOld, isKept⟩ := packages key package isPackage
    obtain ⟨folder, isFolder, same⟩ := sound.packages key package isOld
    rw [row_deleteCategories deleted, if_neg isKept, isFolder]
    split
    · exact ⟨_, rfl, same⟩
    · exact ⟨folder, rfl, same⟩
  · intro key folder isFolder
    rw [row_deleteCategories deleted] at isFolder
    split at isFolder
    · cases isFolder
    · split at isFolder
      · obtain ⟨old, isOld, rfl⟩ := Option.map_eq_some_iff.mp isFolder
        exact .inr ⟨old, isOld, rfl⟩
      · exact .inr ⟨folder, isFolder, rfl⟩
  · intro key package isPackage
    exact .inr ⟨package, (packages key package isPackage).1, rfl, rfl, .inl⟩

theorem keepsCatalog_deleteSubcategoryTree {subcategoryId : Nat}
    (deleted : deleteSubcategoryTree subcategoryId db = some after) :
    KeepsCatalog switched db after := by
  obtain ⟨between, packages, categories⟩ :=
    Option.bind_eq_some_iff.mp deleted
  exact (keepsCatalog_deletePackages packages).trans
    (keepsCatalog_deleteCategories categories)

theorem keepsCatalog_deleteOperatorTree {operatorId : Nat}
    (deleted : deleteOperatorTree operatorId db = some after) :
    KeepsCatalog switched db after := by
  rcases of_deleteOperatorTree deleted with
    alone | ⟨first, second, subIds, packages, categories, last⟩
  · exact keepsCatalog_deleteCategories alone
  · exact ((keepsCatalog_deletePackages packages).trans
      (keepsCatalog_deleteCategories categories)).trans
        (keepsCatalog_deleteCategories last)

end Deletions

end Baste
