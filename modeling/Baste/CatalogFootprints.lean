import Baste.PanelFootprints

/-!
# Footprints of the catalog

What the handlers of the catalog may touch.  Six of them write to the folders,
and the prices that wait for a confirmation belong to the catalog.
-/

namespace Baste

namespace ShopBot

namespace ResellerCatalog

open BotScripts BotScripts.Footprint Database

/-- The dialogues of the catalog remember folders, packages and prices. -/
def footprint (tables : List TableName) : ShopFootprint where
  tables := tables
  prices := true
  states := [.enteringName, .enteringPrice, .confirmingSuspiciousPrice,
    .enteringCostPrice, .enteringOperatorName, .enteringSubcategoryTitle,
    .editingOperatorName, .editingSubcategoryTitle, .editingPackageName,
    .editingPackagePrice, .confirmingSuspiciousEditPrice,
    .editingPackageCostPrice]
  others data :=
    { data with
      catalogType := none
      operatorName := none
      parentOperatorId := none
      categoryId := none
      packageName := none
      salePrice := none
      operatorId := none
      subcategoryId := none
      packageId := none }

theorem more {tables wider : List TableName} {handler : ShopHandler}
    (admits : (footprint tables).Admits handler) (subset : tables ⊆ wider) :
    (footprint wider).Admits handler :=
  admits.mono ⟨subset, id, List.Subset.refl _, fun _ _ => id⟩

variable (shop : Shop) (tables : List TableName)

section Scripts

variable {tables} {wide : ShopFootprint}

theorem within_isPriceSuspicious {operatorName : String}
    {salePrice : Numerals.Decimal} :
    wide.Within (isPriceSuspicious operatorName salePrice) := by
  apply (within_query _).bind
  intro floors
  apply (within_query _).bind
  intro floor
  split
  · exact within_pure _
  · exact within_pure _
  · exact within_pure _
  · exact within_throw _

theorem within_setPendingPrice {token : String}
    {price : Option Numerals.Decimal} :
    (footprint tables).Within (setPendingPrice token price) :=
  within_modify fun visit =>
    ⟨.refl _, (nomatch ·), .refl visit.conversation⟩

theorem within_setPendingEditPrice {token : String}
    {pending : Option PendingEditPrice} :
    (footprint tables).Within (setPendingEditPrice token pending) :=
  within_modify fun visit =>
    ⟨.refl _, (nomatch ·), .refl visit.conversation⟩

theorem within_typeAndId {callback : Callback} :
    wide.Within (typeAndId callback) := by
  apply (within_dataField _ _).bind
  intro catalogType
  exact (within_integerField _ _).bind fun _ => within_pure _

theorem within_insertCategory {resellerId : Nat}
    {operatorName title catalogType : String}
    {parentCategoryId : Option Int} :
    (footprint [.categories]).Within
      (insertCategory resellerId operatorName title parentCategoryId
        catalogType) := by
  apply (within_required _ _).bind
  intro catalogType
  exact (within_executeInsert List.mem_cons_self).bind fun _ => within_pure _

theorem within_executePrice {packageId : Nat} {price : Numerals.Decimal}
    {change : Cents → PackageRow → PackageRow} :
    (footprint [.packages]).Within (executePrice packageId price change) := by
  apply (within_query _).bind
  intro package
  apply within_ite
  · apply (within_storedAmount _).bind
    intro price
    exact within_executeWrite fun _ => .modify (by decide)
  · exact within_pure _

theorem keeps_answerWithSubmenu {Observed : Type}
    {observe : Platform → Observed} {data : ShopData} :
    KeepsPlatform observe (answerWithSubmenu data) :=
  (keeps_required _ _).bind fun _ => keeps_clear

theorem within_answerWithSubmenu {data : ShopData} :
    wide.Within (answerWithSubmenu data) :=
  (within_required _ _).bind fun _ => within_clear

theorem admits_dataField {start : String} :
    wide.Admits
      (onCallback (dataStarts start) fun callback => do
        let _ ← dataField callback 2) :=
  admits_onCallback fun _ =>
    (within_dataField _ _).bind fun _ => within_pure _

theorem admits_showDetail {start : String} :
    wide.Admits (showDetail start) :=
  admits_onCallback fun _ => within_typeAndId.bind fun _ => within_pure _

theorem admits_startEdit {start : String}
    {remember : Int → ShopData → ShopData} {question : ShopState}
    (kept : ∀ id data catalogType, (footprint tables).others
        (remember id { data with catalogType := some catalogType }) =
      (footprint tables).others data)
    (member : question ∈ (footprint tables).states) :
    (footprint tables).Admits (startEdit start remember question) := by
  apply admits_onCallback
  intro callback
  apply within_typeAndId.bind
  intro named
  exact within_nextQuestion (fun _ => kept _ _ _) member

end Scripts

section Deletions

/-- A deletion writes to folders, packages and charge codes. -/
abbrev Deletes (delete : Nat → Db → Option Db) (tables : List TableName) :
    Prop :=
  ∀ id db after, delete id db = some after → SameOutside tables db after

theorem sameOutside_deletePackages {packageIds : List Nat} {db after : Db}
    (deleted : deletePackages packageIds db = some after) :
    SameOutside [.packages, .chargeCodes] db after := by
  unfold deletePackages at deleted
  split at deleted
  · cases deleted
    exact (SameOutside.erase (by decide)).trans (.erase (by decide))
  · cases deleted

theorem sameOutside_deleteCategories {categoryIds : List Nat}
    {db after : Db} (deleted : deleteCategories categoryIds db = some after) :
    SameOutside [.categories, .packages, .chargeCodes] db after := by
  obtain ⟨between, packages, rfl⟩ := Option.map_eq_some_iff.mp deleted
  apply ((sameOutside_deletePackages packages).mono
    (List.subset_cons_self _ _)).trans
  dsimp only
  have apart : SameOutside [.categories, .packages, .chargeCodes] between
      ((between.idsWhere .categories fun category =>
          category.parentCategoryId.any (· ∈ categoryIds)).foldl
        (fun db id => db.modify .categories id
          ({ · with parentCategoryId := none })) between) := by
    apply SameOutside.foldl
    intro db id
    exact .modify (by decide)
  exact apart.trans (.erase (by decide))

/-- An operator goes after its subfolders, if there are any. -/
theorem of_deleteOperatorTree {operatorId : Nat} {db after : Db}
    (deleted : deleteOperatorTree operatorId db = some after) :
    deleteCategories [operatorId] db = some after ∨
      ∃ first second subIds, deletePackages (db.idsWhere .packages
          (·.categoryId ∈ subIds)) db = some first ∧
        deleteCategories subIds first = some second ∧
        deleteCategories [operatorId] second = some after := by
  unfold deleteOperatorTree at deleted
  dsimp only at deleted
  split at deleted
  · exact .inl deleted
  · obtain ⟨second, inside, last⟩ := Option.bind_eq_some_iff.mp deleted
    obtain ⟨first, packages, categories⟩ := Option.bind_eq_some_iff.mp inside
    exact .inr ⟨first, second, _, packages, categories, last⟩

theorem deletes_deleteOperatorTree :
    Deletes deleteOperatorTree [.categories, .packages, .chargeCodes] := by
  intro operatorId db after deleted
  rcases of_deleteOperatorTree deleted with
    alone | ⟨first, second, subIds, packages, categories, last⟩
  · exact sameOutside_deleteCategories alone
  · apply ((sameOutside_deletePackages packages).mono
      (List.subset_cons_self _ _)).trans
    exact (sameOutside_deleteCategories categories).trans
      (sameOutside_deleteCategories last)

theorem deletes_deleteSubcategoryTree :
    Deletes deleteSubcategoryTree
      [.categories, .packages, .chargeCodes] := by
  intro subcategoryId db after deleted
  obtain ⟨between, packages, categories⟩ :=
    Option.bind_eq_some_iff.mp deleted
  exact ((sameOutside_deletePackages packages).mono
    (List.subset_cons_self _ _)).trans
      (sameOutside_deleteCategories categories)

theorem deletes_deletePackage :
    Deletes deletePackage [.packages, .chargeCodes] :=
  fun _ _ _ => sameOutside_deletePackages

variable {tables}

/-- A refused transaction changes nothing. -/
theorem visit_inTransaction {change : Db → Option Db}
    {visit : Visit ShopState ShopData} :
    ((inTransaction change).runOn visit).2 =
      { visit with
        platform.db := (change visit.platform.db).getD visit.platform.db } := by
  unfold inTransaction
  rw [Failing.runOn_bind, runOn_query]
  dsimp only
  cases change visit.platform.db with
  | none => rfl
  | some db => rfl

theorem within_inTransaction {change : Db → Option Db}
    (changes : ∀ db after, change db = some after →
      SameOutside tables db after) :
    (footprint tables).Within (inTransaction change) := by
  intro visit
  rw [id, id, visit_inTransaction]
  refine ⟨?_, fun _ => ⟨rfl, rfl⟩, .refl visit.conversation⟩
  dsimp only
  cases changed : change visit.platform.db with
  | none => exact .refl _
  | some db => exact changes _ _ changed

theorem admits_deleteConfirmed {start : String}
    {delete : Nat → Db → Option Db} (deletes : Deletes delete tables) :
    (footprint tables).Admits (deleteConfirmed start delete) := by
  apply admits_onCallback
  intro callback
  apply within_typeAndId.bind
  intro named
  exact within_inTransaction (deletes _)

end Deletions

section Adding

theorem admits_startAddOperator :
    (footprint tables).Admits startAddOperator := by
  apply admits_onCallback
  intro callback
  apply (within_dataField _ _).bind
  intro catalogType
  exact within_nextQuestion (fun _ => rfl) (by simp [footprint])

theorem admits_receiveOperatorNameAndSave :
    (footprint [.categories]).Admits (receiveOperatorNameAndSave shop) := by
  apply admits_onMessage
  intro message
  apply within_getData.bind
  intro data
  apply (within_strippedText _).bind
  intro operatorName
  exact within_insertCategory.bind fun _ => within_clear

theorem admits_pickOperatorForSub :
    (footprint tables).Admits pickOperatorForSub := by
  apply admits_onCallback
  intro callback
  apply within_typeAndId.bind
  intro named
  apply (within_query _).bind
  intro found
  apply (within_required _ _).bind
  intro operator
  exact within_nextQuestion (fun _ => rfl) (by simp [footprint])

theorem admits_receiveSubcategoryTitleAndSave :
    (footprint [.categories]).Admits
      (receiveSubcategoryTitleAndSave shop) := by
  apply admits_onMessage
  intro message
  apply within_getData.bind
  intro data
  apply (within_strippedText _).bind
  intro title
  apply (within_required _ _).bind
  intro operatorName
  apply (within_required _ _).bind
  intro parentOperatorId
  exact within_insertCategory.bind fun _ => within_clear

theorem admits_pickCategory : (footprint tables).Admits pickCategory := by
  apply admits_onCallback
  intro callback
  apply within_typeAndId.bind
  intro named
  apply (within_query _).bind
  intro found
  apply (within_required _ _).bind
  intro category
  exact within_nextQuestion (fun _ => rfl) (by simp [footprint])

theorem admits_receivePackageName :
    (footprint tables).Admits receivePackageName := by
  apply admits_onMessage
  intro message
  apply (within_strippedText _).bind
  intro packageName
  exact within_nextQuestion (fun _ => rfl) (by simp [footprint])

theorem admits_receivePrice :
    (footprint tables).Admits (receivePrice shop) := by
  apply admits_onMessage
  intro message
  apply (within_textOf _).bind
  intro text
  cases typedAmount text with
  | none => exact within_pure _
  | some salePrice =>
      apply within_getData.bind
      intro data
      apply (within_required _ _).bind
      intro operatorName
      apply within_isPriceSuspicious.bind
      intro suspicious
      apply within_ite
      · exact within_setPendingPrice.bind fun _ =>
          within_setState (by simp [footprint])
      · exact within_nextQuestion (fun _ => rfl) (by simp [footprint])

theorem admits_confirmSuspiciousPrice :
    (footprint tables).Admits confirmSuspiciousPrice := by
  apply admits_onCallback
  intro callback
  apply (within_dataField _ _).bind
  intro token
  apply within_get.bind
  intro visit
  apply within_setPendingPrice.bind
  intro _
  split
  · exact within_pure _
  · exact within_nextQuestion (fun _ => rfl) (by simp [footprint])

theorem admits_editSuspiciousPrice :
    (footprint tables).Admits editSuspiciousPrice := by
  apply admits_onCallback
  intro callback
  apply (within_dataField _ _).bind
  intro token
  exact within_setPendingPrice.bind fun _ =>
    within_setState (by simp [footprint])

theorem admits_receiveCostPriceAndSave :
    (footprint [.packages]).Admits (receiveCostPriceAndSave shop) := by
  apply admits_onMessage
  intro message
  apply (within_textOf _).bind
  intro text
  cases typedAmount text with
  | none => exact within_pure _
  | some costPrice =>
      apply within_getData.bind
      intro data
      apply (within_required _ _).bind
      intro categoryId
      apply (within_required _ _).bind
      intro packageName
      apply (within_required _ _).bind
      intro salePrice
      have inserted : (footprint [.packages]).Within
          (insertPackage shop.resellerId categoryId packageName salePrice
            costPrice) := by
        apply (within_storedAmount _).bind
        intro salePrice
        apply (within_storedAmount _).bind
        intro costPrice
        exact (within_executeInsert List.mem_cons_self).bind fun _ =>
          within_pure _
      exact inserted.bind fun _ => within_clear

end Adding

section Managing

theorem admits_saveOperatorNameEdit :
    (footprint [.categories]).Admits saveOperatorNameEdit := by
  apply admits_onMessage
  intro message
  apply within_getData.bind
  intro data
  apply (within_strippedText _).bind
  intro newName
  apply (within_required _ _).bind
  intro operatorId
  exact (within_executeUpdate List.mem_cons_self).bind fun _ =>
    within_answerWithSubmenu

theorem admits_saveSubcategoryTitleEdit :
    (footprint [.categories]).Admits saveSubcategoryTitleEdit := by
  apply admits_onMessage
  intro message
  apply within_getData.bind
  intro data
  apply (within_strippedText _).bind
  intro newTitle
  apply (within_required _ _).bind
  intro subcategoryId
  exact (within_executeUpdate List.mem_cons_self).bind fun _ =>
    within_answerWithSubmenu

theorem admits_savePackageNameEdit :
    (footprint [.packages]).Admits savePackageNameEdit := by
  apply admits_onMessage
  intro message
  apply within_getData.bind
  intro data
  apply (within_strippedText _).bind
  intro newName
  apply (within_required _ _).bind
  intro packageId
  exact (within_executeUpdate List.mem_cons_self).bind fun _ =>
    within_answerWithSubmenu

theorem admits_receivePackagePriceEdit :
    (footprint [.packages]).Admits (receivePackagePriceEdit shop) := by
  apply admits_onMessage
  intro message
  apply (within_textOf _).bind
  intro text
  cases typedAmount text with
  | none => exact within_pure _
  | some salePrice =>
      apply within_getData.bind
      intro data
      apply (within_required _ _).bind
      intro packageId
      apply (within_query _).bind
      intro operatorName
      apply within_isPriceSuspicious.bind
      intro suspicious
      apply within_ite
      · apply (within_required _ _).bind
        intro catalogType
        exact within_setPendingEditPrice.bind fun _ =>
          within_setState (by simp [footprint])
      · exact within_executePrice.bind fun _ => within_answerWithSubmenu

theorem admits_confirmEditSuspiciousPrice :
    (footprint [.packages]).Admits confirmEditSuspiciousPrice := by
  apply admits_onCallback
  intro callback
  apply (within_dataField _ _).bind
  intro token
  apply within_get.bind
  intro visit
  apply within_setPendingEditPrice.bind
  intro _
  split
  · exact within_pure _
  · exact within_executePrice.bind fun _ => within_clear

theorem admits_editAgainSuspiciousPrice :
    (footprint tables).Admits editAgainSuspiciousPrice := by
  apply admits_onCallback
  intro callback
  apply (within_dataField _ _).bind
  intro token
  exact within_setPendingEditPrice.bind fun _ =>
    within_setState (by simp [footprint])

theorem admits_savePackageCostEdit :
    (footprint [.packages]).Admits savePackageCostEdit := by
  apply admits_onMessage
  intro message
  apply (within_textOf _).bind
  intro text
  cases typedAmount text with
  | none => exact within_pure _
  | some costPrice =>
      apply within_getData.bind
      intro data
      apply (within_required _ _).bind
      intro packageId
      exact within_executePrice.bind fun _ => within_answerWithSubmenu

theorem admits_togglePackageActive :
    (footprint [.packages]).Admits togglePackageActive := by
  apply admits_onCallback
  intro callback
  apply within_typeAndId.bind
  intro named
  exact within_executeWrite fun _ => .modify (by decide)

end Managing

/-- The handlers that write to folders. -/
def folderHandlers : List ShopHandler :=
  [receiveOperatorNameAndSave shop, receiveSubcategoryTitleAndSave shop,
    saveOperatorNameEdit, saveSubcategoryTitleEdit, deleteOperatorConfirmed,
    deleteSubcategoryConfirmed]

theorem admits_folderHandlers :
    ∀ handler ∈ folderHandlers shop,
      (footprint [.categories, .packages, .chargeCodes]).Admits handler := by
  simp only [folderHandlers, List.forall_mem_cons, List.not_mem_nil,
    false_imp_iff, implies_true, and_true]
  exact ⟨more (admits_receiveOperatorNameAndSave shop) (by decide),
    more (admits_receiveSubcategoryTitleAndSave shop) (by decide),
    more admits_saveOperatorNameEdit (by decide),
    more admits_saveSubcategoryTitleEdit (by decide),
    admits_deleteConfirmed deletes_deleteOperatorTree,
    admits_deleteConfirmed deletes_deleteSubcategoryTree⟩

/-- The handlers that write to packages only. -/
def packageHandlers : List ShopHandler :=
  [receiveCostPriceAndSave shop, savePackageNameEdit,
    receivePackagePriceEdit shop, confirmEditSuspiciousPrice,
    savePackageCostEdit, togglePackageActive]

theorem admits_packageHandlers :
    ∀ handler ∈ packageHandlers shop,
      (footprint [.packages]).Admits handler := by
  simp only [packageHandlers, List.forall_mem_cons, List.not_mem_nil,
    false_imp_iff, implies_true, and_true]
  exact ⟨admits_receiveCostPriceAndSave shop,
    admits_savePackageNameEdit,
    admits_receivePackagePriceEdit shop,
    admits_confirmEditSuspiciousPrice,
    admits_savePackageCostEdit,
    admits_togglePackageActive⟩

/-- The handlers that write to the catalog. -/
def writers : List ShopHandler :=
  folderHandlers shop ++ [deletePackageConfirmed] ++ packageHandlers shop

/-- The other handlers of the catalog write to no table. -/
theorem writer_or_admits :
    ∀ handler ∈ router shop, handler ∈ writers shop ∨
      (footprint []).Admits handler := by
  have writes : ∀ {handler : ShopHandler}, handler ∈ writers shop →
      handler ∈ writers shop ∨ (footprint []).Admits handler :=
    .inl
  simp only [router, List.forall_mem_cons, List.not_mem_nil, false_imp_iff,
    implies_true, and_true]
  exact ⟨.inr admits_onCallback_pure,
    .inr admits_dataField,
    .inr admits_dataField,
    .inr (admits_startAddOperator _),
    writes (by simp [writers, folderHandlers]),
    .inr admits_dataField,
    .inr (admits_pickOperatorForSub _),
    writes (by simp [writers, folderHandlers]),
    .inr admits_dataField,
    .inr admits_showDetail,
    .inr (admits_pickCategory _),
    .inr (admits_receivePackageName _),
    .inr (admits_receivePrice shop _),
    .inr (admits_confirmSuspiciousPrice _),
    .inr (admits_editSuspiciousPrice _),
    writes (by simp [writers, packageHandlers]),
    .inr admits_dataField,
    .inr admits_showDetail,
    .inr admits_showDetail,
    .inr admits_showDetail,
    .inr (admits_startEdit (fun _ _ _ => rfl) (by simp [footprint])),
    writes (by simp [writers, folderHandlers]),
    .inr (admits_startEdit (fun _ _ _ => rfl) (by simp [footprint])),
    writes (by simp [writers, folderHandlers]),
    .inr (admits_startEdit (fun _ _ _ => rfl) (by simp [footprint])),
    writes (by simp [writers, packageHandlers]),
    .inr (admits_startEdit (fun _ _ _ => rfl) (by simp [footprint])),
    writes (by simp [writers, packageHandlers]),
    writes (by simp [writers, packageHandlers]),
    .inr (admits_editAgainSuspiciousPrice _),
    .inr (admits_startEdit (fun _ _ _ => rfl) (by simp [footprint])),
    writes (by simp [writers, packageHandlers]),
    writes (by simp [writers, packageHandlers]),
    .inr admits_showDetail,
    writes (by simp [writers, folderHandlers]),
    .inr admits_showDetail,
    .inr admits_showDetail,
    writes (by simp [writers, folderHandlers]),
    .inr admits_showDetail,
    .inr admits_showDetail,
    writes (by simp [writers]),
    .inr admits_showDetail⟩

/-- The other handlers of the catalog write to packages at most, besides the
deletion of a package. -/
theorem folderHandler_or_deletes_or_admits :
    ∀ handler ∈ router shop, handler ∈ folderHandlers shop ∨
      handler = deletePackageConfirmed ∨
        (footprint [.packages]).Admits handler := by
  intro handler member
  rcases writer_or_admits shop handler member with writes | beside
  · rcases List.mem_append.mp writes with early | edits
    · rcases List.mem_append.mp early with folder | deletes
      · exact .inl folder
      · exact .inr (.inl (List.mem_singleton.mp deletes))
    · exact .inr (.inr (admits_packageHandlers shop handler edits))
  · exact .inr (.inr (more beside (by decide)))

/-- The other handlers of the catalog leave the folders alone. -/
theorem folderHandler_or_admits :
    ∀ handler ∈ router shop, handler ∈ folderHandlers shop ∨
      (footprint [.packages, .chargeCodes]).Admits handler := by
  intro handler member
  rcases folderHandler_or_deletes_or_admits shop handler member with
    folder | rfl | beside
  · exact .inl folder
  · exact .inr (admits_deleteConfirmed deletes_deletePackage)
  · exact .inr (more beside (by decide))

theorem admits_router :
    ∀ handler ∈ router shop,
      (footprint [.categories, .packages, .chargeCodes]).Admits handler := by
  intro handler member
  rcases folderHandler_or_admits shop handler member with folder | beside
  · exact admits_folderHandlers shop handler folder
  · exact more beside (by decide)

end ResellerCatalog

end ShopBot

end Baste
