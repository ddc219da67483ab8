import Baste.CatalogDeletions

/-!
# Folders inside others

What a folder has copied from the operator that it is inside stays right as
long as it is not changed on one side, and every new folder has it from its
operator.
-/

namespace Baste

open Database

variable {Copy : Type}

/-- Every folder inside another has the same as that one. -/
def FoldersAgree (copied : CategoryRow → Copy) (db : Db) : Prop :=
  ∀ id folder operatorId, db.row .categories id = some folder →
    folder.parentCategoryId = some operatorId →
      ∃ operator, db.row .categories operatorId = some operator ∧
        copied folder = copied operator

namespace FoldersAgree

variable {copied : CategoryRow → Copy} {db after : Db}

/-- Every folder was there before with the same, in the same operator if it is
in one, and that operator is still there. -/
theorem of_folders (agree : FoldersAgree copied db)
    (folders : ∀ id folder, after.row .categories id = some folder →
      ∃ old, db.row .categories id = some old ∧
        copied folder = copied old ∧
        ∀ operatorId, folder.parentCategoryId = some operatorId →
          old.parentCategoryId = some operatorId ∧
            (after.row .categories operatorId).isSome) :
    FoldersAgree copied after := by
  intro id folder operatorId isFolder inside
  obtain ⟨old, isOld, same, parents⟩ := folders id folder isFolder
  obtain ⟨wasInside, stillThere⟩ := parents operatorId inside
  obtain ⟨operator, isOperator⟩ := Option.isSome_iff_exists.mp stillThere
  obtain ⟨oldOperator, wasOperator, sameOperator, -⟩ :=
    folders operatorId operator isOperator
  obtain ⟨found, isFound, agreed⟩ := agree id old operatorId isOld wasInside
  rw [wasOperator] at isFound
  cases isFound
  exact ⟨operator, isOperator, same.trans (agreed.trans sameOperator.symm)⟩

theorem of_rows (agree : FoldersAgree copied db)
    (rows : ∀ id, after.row .categories id = db.row .categories id) :
    FoldersAgree copied after := by
  intro id folder operatorId isFolder inside
  rw [rows] at isFolder ⊢
  exact agree id folder operatorId isFolder inside

/-- A new folder has the same as its operator. -/
theorem put (agree : FoldersAgree copied db) {new : CategoryRow}
    (inside : ∀ operatorId, new.parentCategoryId = some operatorId →
      ∃ operator, db.row .categories operatorId = some operator ∧
        copied new = copied operator) :
    FoldersAgree copied ((db.reserve .categories).put .categories
      (db.nextId .categories) new) := by
  have fresh : ∀ operatorId operator,
      db.row .categories operatorId = some operator →
        operatorId ≠ db.nextId .categories := by
    rintro _ operator isThere rfl
    rw [row_nextId] at isThere
    cases isThere
  have stored : ((db.reserve .categories).put .categories
      (db.nextId .categories) new).row .categories (db.nextId .categories) =
        some new :=
    row_put_self (by simp)
  have others : ∀ id, id ≠ db.nextId .categories →
      ((db.reserve .categories).put .categories (db.nextId .categories)
        new).row .categories id = db.row .categories id := by
    intro id other
    rw [row_put_ne other, row_reserve]
  intro id folder operatorId isFolder isInside
  by_cases isNew : id = db.nextId .categories
  · rw [isNew, stored] at isFolder
    cases isFolder
    obtain ⟨operator, isOperator, same⟩ := inside operatorId isInside
    rw [others _ (fresh _ _ isOperator)]
    exact ⟨operator, isOperator, same⟩
  · rw [others id isNew] at isFolder
    obtain ⟨operator, isOperator, same⟩ :=
      agree id folder operatorId isFolder isInside
    rw [others _ (fresh _ _ isOperator)]
    exact ⟨operator, isOperator, same⟩

/-- A change of anything else does not matter. -/
theorem modify (agree : FoldersAgree copied db) {id : Nat}
    {change : CategoryRow → CategoryRow}
    (kept : ∀ folder, copied (change folder) = copied folder ∧
      (change folder).parentCategoryId = folder.parentCategoryId) :
    FoldersAgree copied (db.modify .categories id change) := by
  have isThere : ∀ key, ((db.modify .categories id change).row .categories
      key).isSome = (db.row .categories key).isSome := by
    intro key
    rw [row_modify]
    split
    · exact Option.isSome_map
    · rfl
  apply agree.of_folders
  intro key folder isFolder
  have found : ∃ old, db.row .categories key = some old ∧
      copied folder = copied old ∧
      folder.parentCategoryId = old.parentCategoryId := by
    rw [row_modify] at isFolder
    split at isFolder
    · obtain ⟨old, isOld, rfl⟩ := Option.map_eq_some_iff.mp isFolder
      exact ⟨old, isOld, kept old⟩
    · exact ⟨folder, isFolder, rfl, rfl⟩
  obtain ⟨old, isOld, same, sameOperator⟩ := found
  refine ⟨old, isOld, same, fun operatorId inside => ?_⟩
  rw [sameOperator] at inside
  obtain ⟨operator, isOperator, -⟩ := agree key old operatorId isOld inside
  exact ⟨inside, by rw [isThere, isOperator]; rfl⟩

section Deletions

open ShopBot.ResellerCatalog

/-- A folder that comes out of its operator keeps what it has. -/
def Stays (copied : CategoryRow → Copy) : Prop :=
  ∀ folder, copied { folder with parentCategoryId := none } = copied folder

theorem deleteCategories (agree : FoldersAgree copied db)
    (stays : Stays copied) {categoryIds : List Nat}
    (deleted : deleteCategories categoryIds db = some after) :
    FoldersAgree copied after := by
  have rows := row_deleteCategories deleted
  apply agree.of_folders
  intro key folder isFolder
  rw [rows] at isFolder
  split at isFolder
  · cases isFolder
  · split at isFolder
    · obtain ⟨old, isOld, rfl⟩ := Option.map_eq_some_iff.mp isFolder
      exact ⟨old, isOld, stays old, fun _ inside => by cases inside⟩
    · rename_i outside
      refine ⟨folder, isFolder, rfl, fun operatorId isInside =>
        ⟨isInside, ?_⟩⟩
      obtain ⟨operator, isOperator, -⟩ :=
        agree key folder operatorId isFolder isInside
      have kept : operatorId ∉ categoryIds := by
        intro isDeleted
        apply outside
        apply mem_idsWhere.mpr
        exact ⟨folder, isFolder, by simp [isInside, isDeleted]⟩
      rw [rows, if_neg kept, isOperator]
      split
      · rfl
      · rfl

theorem deletePackages (agree : FoldersAgree copied db)
    {packageIds : List Nat}
    (deleted : deletePackages packageIds db = some after) :
    FoldersAgree copied after :=
  agree.of_rows ((sameOutside_deletePackages deleted).rows .categories
    (by decide))

theorem deleteSubcategoryTree (agree : FoldersAgree copied db)
    (stays : Stays copied) {subcategoryId : Nat}
    (deleted : deleteSubcategoryTree subcategoryId db = some after) :
    FoldersAgree copied after := by
  obtain ⟨between, packages, categories⟩ :=
    Option.bind_eq_some_iff.mp deleted
  exact (agree.deletePackages packages).deleteCategories stays categories

theorem deleteOperatorTree (agree : FoldersAgree copied db)
    (stays : Stays copied) {operatorId : Nat}
    (deleted : deleteOperatorTree operatorId db = some after) :
    FoldersAgree copied after := by
  rcases of_deleteOperatorTree deleted with
    alone | ⟨first, second, subIds, packages, categories, last⟩
  · exact agree.deleteCategories stays alone
  · exact ((agree.deletePackages packages).deleteCategories stays
      categories).deleteCategories stays last

end Deletions

end FoldersAgree

end Baste
