import Baste.CatalogShelves

/-!
# Steps of the catalog

What the handlers of a shop do to the shelves of the catalog.  Two of them put
a new row where the conversation says; the others keep everything on its shelf,
and one of them switches a package on or off.
-/

namespace Baste

open Database BotScripts

namespace ShopBot.ResellerCatalog

/-- The update switches the package on or off. -/
def Switches (update : Update) (packageId : Nat) : Prop :=
  ∃ callback number, update = .callback callback ∧
    "catalog:toggle_pkg:".toList.isPrefixOf callback.data.toList = true ∧
    fieldNumber callback.data 3 = some number ∧ rowId number = packageId

/-- The operator that has been picked for a new subfolder is on the shelf of
the shop that the subfolder is for. -/
def PicksOperator (shop : Shop) (visit : Visit ShopState ShopData) : Prop :=
  ∀ operatorId ∈ visit.conversation.data.parentOperatorId,
    ∀ catalogType ∈ readCatalogType
        (visit.conversation.data.catalogType.getD "package"),
      ∀ operator ∈ visit.platform.db.row .categories (rowId operatorId),
        operator.shelf = (shop.resellerId, catalogType)

/-- The folder that has been picked for a new package is one of the shop. -/
def PicksFolder (shop : Shop) (visit : Visit ShopState ShopData) : Prop :=
  ∀ categoryId ∈ visit.conversation.data.categoryId,
    ∀ folder ∈ visit.platform.db.row .categories (rowId categoryId),
      folder.resellerId = shop.resellerId

/-- A new folder or package goes where it should. -/
structure PutsRight (shop : Shop) (visit : Visit ShopState ShopData)
    (update : Update) : Prop where
  subfolder : (receiveSubcategoryTitleAndSave shop).takes
    visit.conversation.state update = true → PicksOperator shop visit
  package : (receiveCostPriceAndSave shop).takes visit.conversation.state
    update = true → PicksFolder shop visit

section Scripts

variable {switched : Nat → Prop} {Result : Type}
variable {visit : Visit ShopState ShopData}

/-- Whatever becomes of the script, the catalog stays as it is. -/
abbrev KeepsShelves (switched : Nat → Prop) (script : ShopScript Result) :
    Prop :=
  script.Moves (fun visit => visit.platform.db) (KeepsCatalog switched)

theorem keepsShelves_of_keeps {script : ShopScript Result}
    (keeps : KeepsPlatform Platform.db script) :
    KeepsShelves switched script :=
  Failing.Keeps.moves keeps

theorem keepsShelves_of_within {footprint : ShopFootprint}
    {script : ShopScript Result} (within : footprint.Within script)
    (noFolders : .categories ∉ footprint.tables)
    (noPackages : .packages ∉ footprint.tables) :
    KeepsShelves switched script :=
  fun visit => .of_sameOutside (within visit).rows noFolders noPackages

theorem keepsShelves_bind {Next : Type} {script : ShopScript Result}
    {next : Result → ShopScript Next} (first : KeepsShelves switched script)
    (rest : ∀ value, KeepsShelves switched (next value)) :
    KeepsShelves switched (script >>= next) :=
  Failing.Moves.bind first rest

theorem keepsShelves_executeUpdate {name : TableName} {id : Nat} {held : Bool}
    {change : RowOf name → RowOf name}
    (kept : ∀ db : Db, KeepsCatalog switched db (db.modify name id change)) :
    KeepsShelves switched (executeUpdate name id held change) := by
  intro visit
  dsimp only
  rw [db_executeUpdate]
  split
  · exact kept _
  · exact .refl _

theorem keepsCatalog_reserve {name : TableName} {db : Db} :
    KeepsCatalog switched db (db.reserve name) :=
  @KeepsCatalog.of_sameOutside _ _ _ [] .reserve (by decide) (by decide)

/-- A new folder without an operator, or inside one on its shelf. -/
theorem keepsCatalog_insertCategory {resellerId : Nat}
    {operatorName title catalogType : String} {parentId : Option Int}
    (fits : ∀ operatorId ∈ parentId, ∀ readType ∈ readCatalogType catalogType,
      ∀ operator ∈ visit.platform.db.row .categories (rowId operatorId),
        operator.shelf = (resellerId, readType)) :
    KeepsCatalog switched visit.platform.db
      ((insertCategory resellerId operatorName title parentId
        catalogType).runOn visit).2.platform.db := by
  unfold insertCategory
  cases isType : readCatalogType catalogType with
  | none => exact .refl _
  | some readType =>
      rw [required, Failing.runOn_bind, Failing.runOn_pure]
      dsimp only
      rw [db_bind_of_keeps fun _ => Failing.keeps_pure _, db_executeInsert]
      dsimp only
      split
      · rename_i allowed
        apply KeepsCatalog.put_folder
        intro operatorId isInside
        obtain ⟨parent, isParent, rfl⟩ := Option.map_eq_some_iff.mp isInside
        simp only [Bool.and_eq_true, isParent, Option.all_some,
          row_reserve] at allowed
        obtain ⟨operator, isOperator⟩ :=
          Option.isSome_iff_exists.mp allowed.2
        exact ⟨operator, isOperator,
          (fits parent isParent readType isType operator isOperator).symm⟩
      · exact keepsCatalog_reserve

theorem keepsShelves_receiveOperatorNameAndSave {shop : Shop}
    {message : Message} :
    KeepsShelves switched ((receiveOperatorNameAndSave shop).action
      (.message message)) := by
  apply keepsShelves_bind (keepsShelves_of_keeps keeps_getData)
  intro data
  apply keepsShelves_bind (keepsShelves_of_keeps (keeps_strippedText message))
  intro operatorName
  apply keepsShelves_bind
  · exact fun visit => keepsCatalog_insertCategory nofun
  · exact fun _ => keepsShelves_of_keeps keeps_clear

theorem keepsCatalog_receiveSubcategoryTitleAndSave {shop : Shop}
    {message : Message} (picks : PicksOperator shop visit) :
    KeepsCatalog switched visit.platform.db
      (((receiveSubcategoryTitleAndSave shop).action
        (.message message)).runOn visit).2.platform.db := by
  simp only [receiveSubcategoryTitleAndSave, onMessage, getData, strippedText,
    textOf, Failing.runOn_bind, Failing.runOn_get, Failing.runOn_pure]
  cases message.text with
  | none => exact .refl _
  | some text =>
      cases visit.conversation.data.operatorName with
      | none => exact .refl _
      | some operatorName =>
          cases isId : visit.conversation.data.parentOperatorId with
          | none => exact .refl _
          | some operatorId =>
              simp only [required, Failing.runOn_pure]
              rw [← Failing.runOn_bind, db_bind_of_keeps fun _ => keeps_clear]
              apply keepsCatalog_insertCategory
              rintro _ ⟨⟩ catalogType isType
              exact picks operatorId isId catalogType isType

theorem keepsShelves_saveOperatorNameEdit {message : Message} :
    KeepsShelves switched (saveOperatorNameEdit.action
      (.message message)) := by
  apply keepsShelves_bind (keepsShelves_of_keeps keeps_getData)
  intro data
  apply keepsShelves_bind (keepsShelves_of_keeps (keeps_strippedText message))
  intro newName
  apply keepsShelves_bind (keepsShelves_of_keeps (keeps_required _ _))
  intro operatorId
  apply keepsShelves_bind
  · exact keepsShelves_executeUpdate fun db =>
      .modify_folder fun _ => ⟨rfl, rfl⟩
  · exact fun _ => keepsShelves_of_keeps keeps_answerWithSubmenu

theorem keepsShelves_saveSubcategoryTitleEdit {message : Message} :
    KeepsShelves switched (saveSubcategoryTitleEdit.action
      (.message message)) := by
  apply keepsShelves_bind (keepsShelves_of_keeps keeps_getData)
  intro data
  apply keepsShelves_bind (keepsShelves_of_keeps (keeps_strippedText message))
  intro newTitle
  apply keepsShelves_bind (keepsShelves_of_keeps (keeps_required _ _))
  intro subcategoryId
  apply keepsShelves_bind
  · exact keepsShelves_executeUpdate fun db =>
      .modify_folder fun _ => ⟨rfl, rfl⟩
  · exact fun _ => keepsShelves_of_keeps keeps_answerWithSubmenu

theorem keepsShelves_deleteConfirmed {start : String}
    {delete : Nat → Db → Option Db} {callback : Callback}
    (deletes : ∀ {id : Nat} {db after : Db}, delete id db = some after →
      KeepsCatalog switched db after) :
    KeepsShelves switched ((deleteConfirmed start delete).action
      (.callback callback)) := by
  have named : KeepsShelves switched (typeAndId callback) :=
    keepsShelves_of_within (@within_typeAndId (footprint []) callback)
      (by decide) (by decide)
  apply keepsShelves_bind named
  intro named visit
  dsimp only
  rw [visit_inTransaction]
  dsimp only
  cases deleted : delete (rowId named.2) visit.platform.db with
  | none => exact .refl _
  | some after => exact deletes deleted

/-- A new package in a folder of its reseller. -/
theorem keepsCatalog_insertPackage {resellerId : Nat} {categoryId : Int}
    {name : String} {salePrice costPrice : Numerals.Decimal}
    (fits : ∀ folder ∈ visit.platform.db.row .categories (rowId categoryId),
      folder.resellerId = resellerId) :
    KeepsCatalog switched visit.platform.db
      ((insertPackage resellerId categoryId name salePrice costPrice).runOn
        visit).2.platform.db := by
  unfold insertPackage
  cases salePrice with
  | infinity | nan => exact .refl _
  | finite sale =>
      cases costPrice with
      | infinity | nan => exact .refl _
      | finite cost =>
          simp only [storedAmount, pure_bind]
          rw [db_bind_of_keeps fun _ => Failing.keeps_pure _,
            db_executeInsert]
          dsimp only
          split
          · rename_i allowed
            apply KeepsCatalog.put_package
            simp only [Bool.and_eq_true, row_reserve] at allowed
            obtain ⟨folder, isFolder⟩ :=
              Option.isSome_iff_exists.mp allowed.2
            exact ⟨folder, isFolder, fits folder isFolder⟩
          · exact keepsCatalog_reserve

theorem keepsCatalog_receiveCostPriceAndSave {shop : Shop}
    {message : Message} (picks : PicksFolder shop visit) :
    KeepsCatalog switched visit.platform.db
      (((receiveCostPriceAndSave shop).action
        (.message message)).runOn visit).2.platform.db := by
  simp only [receiveCostPriceAndSave, onMessage, textOf, Failing.runOn_bind]
  cases message.text with
  | none => exact .refl _
  | some text =>
      simp only [required, Failing.runOn_pure]
      cases typedAmount text with
      | none => exact .refl _
      | some costPrice =>
          simp only [getData, Failing.runOn_bind, Failing.runOn_get,
            Failing.runOn_pure]
          cases isId : visit.conversation.data.categoryId with
          | none => exact .refl _
          | some categoryId =>
              cases visit.conversation.data.packageName with
              | none => exact .refl _
              | some packageName =>
                  cases visit.conversation.data.salePrice with
                  | none => exact .refl _
                  | some salePrice =>
                      simp only [Failing.runOn_pure]
                      rw [← Failing.runOn_bind,
                        db_bind_of_keeps fun _ => keeps_clear]
                      exact keepsCatalog_insertPackage
                        fun folder => picks categoryId isId folder

theorem keepsShelves_savePackageNameEdit {message : Message} :
    KeepsShelves switched (savePackageNameEdit.action (.message message)) := by
  apply keepsShelves_bind (keepsShelves_of_keeps keeps_getData)
  intro data
  apply keepsShelves_bind (keepsShelves_of_keeps (keeps_strippedText message))
  intro newName
  apply keepsShelves_bind (keepsShelves_of_keeps (keeps_required _ _))
  intro packageId
  apply keepsShelves_bind
  · exact keepsShelves_executeUpdate fun db =>
      .modify_package (fun _ => ⟨rfl, rfl⟩) fun _ => .inl
  · exact fun _ => keepsShelves_of_keeps keeps_answerWithSubmenu

/-- A price of a package is written. -/
theorem keepsShelves_executePrice {packageId : Nat}
    {price : Numerals.Decimal} {change : Cents → PackageRow → PackageRow}
    (kept : ∀ cents package,
      (change cents package).resellerId = package.resellerId ∧
        (change cents package).categoryId = package.categoryId)
    (active : ∀ cents package,
      (change cents package).isActive = package.isActive) :
    KeepsShelves switched (executePrice packageId price change) := by
  apply keepsShelves_bind (keepsShelves_of_keeps (keeps_query _))
  intro found
  split
  · apply keepsShelves_bind
    · cases price with
      | finite amount => exact keepsShelves_of_keeps (Failing.keeps_pure _)
      | infinity | nan => exact keepsShelves_of_keeps (Failing.keeps_throw _)
    · intro cents
      apply Failing.moves_modify
      intro visit
      apply KeepsCatalog.modify_package (kept cents)
      intro package isActive
      rw [active]
      exact .inl isActive
  · exact keepsShelves_of_keeps (Failing.keeps_pure _)

theorem keepsShelves_executeSalePrice {packageId : Nat}
    {price : Numerals.Decimal} :
    KeepsShelves switched (executePrice packageId price setSalePrice) :=
  keepsShelves_executePrice (fun _ _ => ⟨rfl, rfl⟩) fun _ _ => rfl

theorem keepsShelves_isPriceSuspicious {operatorName : String}
    {price : Numerals.Decimal} :
    KeepsShelves switched (isPriceSuspicious operatorName price) :=
  keepsShelves_of_within (@within_isPriceSuspicious (footprint []) _ _)
    (by decide) (by decide)

theorem keepsShelves_setPendingEditPrice {token : String}
    {price : Option PendingEditPrice} :
    KeepsShelves switched (setPendingEditPrice token price) :=
  keepsShelves_of_within (@within_setPendingEditPrice [] token price)
    (by decide) (by decide)

theorem keepsShelves_receivePackagePriceEdit {shop : Shop}
    {message : Message} :
    KeepsShelves switched ((receivePackagePriceEdit shop).action
      (.message message)) := by
  apply keepsShelves_bind (keepsShelves_of_keeps (keeps_required _ _))
  intro text
  cases typedAmount text with
  | none => exact keepsShelves_of_keeps (Failing.keeps_pure _)
  | some price =>
      apply keepsShelves_bind (keepsShelves_of_keeps keeps_getData)
      intro data
      apply keepsShelves_bind (keepsShelves_of_keeps (keeps_required _ _))
      intro packageId
      apply keepsShelves_bind (keepsShelves_of_keeps (keeps_query _))
      intro operatorName
      apply keepsShelves_bind keepsShelves_isPriceSuspicious
      intro suspicious
      split
      · apply keepsShelves_bind (keepsShelves_of_keeps (keeps_required _ _))
        intro catalogType
        apply keepsShelves_bind keepsShelves_setPendingEditPrice
        exact fun _ => keepsShelves_of_keeps (keeps_setState _)
      · apply keepsShelves_bind keepsShelves_executeSalePrice
        exact fun _ => keepsShelves_of_keeps keeps_answerWithSubmenu

theorem keepsShelves_confirmEditSuspiciousPrice {callback : Callback} :
    KeepsShelves switched (confirmEditSuspiciousPrice.action
      (.callback callback)) := by
  apply keepsShelves_bind (keepsShelves_of_keeps (keeps_dataField _ _))
  intro token
  apply keepsShelves_bind (keepsShelves_of_keeps Failing.keeps_get)
  intro visit
  apply keepsShelves_bind keepsShelves_setPendingEditPrice
  intro _
  cases visit.platform.pendingEditPriceConfirmations token with
  | none => exact keepsShelves_of_keeps (Failing.keeps_pure _)
  | some pending =>
      apply keepsShelves_bind keepsShelves_executeSalePrice
      exact fun _ => keepsShelves_of_keeps keeps_clear

theorem keepsShelves_savePackageCostEdit {message : Message} :
    KeepsShelves switched (savePackageCostEdit.action (.message message)) := by
  apply keepsShelves_bind (keepsShelves_of_keeps (keeps_required _ _))
  intro text
  cases typedAmount text with
  | none => exact keepsShelves_of_keeps (Failing.keeps_pure _)
  | some costPrice =>
      apply keepsShelves_bind (keepsShelves_of_keeps keeps_getData)
      intro data
      apply keepsShelves_bind (keepsShelves_of_keeps (keeps_required _ _))
      intro packageId
      apply keepsShelves_bind
      · exact keepsShelves_executePrice (fun _ _ => ⟨rfl, rfl⟩) fun _ _ => rfl
      · exact fun _ => keepsShelves_of_keeps keeps_answerWithSubmenu

/-- The package that is named in the callback data is switched. -/
theorem keepsCatalog_togglePackageActive {callback : Callback}
    (starts : "catalog:toggle_pkg:".toList.isPrefixOf
      callback.data.toList = true) :
    KeepsCatalog (Switches (.callback callback)) visit.platform.db
      ((togglePackageActive.action (.callback callback)).runOn
        visit).2.platform.db := by
  change KeepsCatalog _ _ ((typeAndId callback >>= _).runOn
    visit).2.platform.db
  unfold typeAndId
  simp only [bind_assoc, pure_bind]
  rw [dataField, visit_required_bind]
  cases (dataFields callback.data)[2]? with
  | none => exact .refl _
  | some catalogType =>
      rw [Option.elim, visit_integerField_bind]
      cases isNumber : fieldNumber callback.data 3 with
      | none => exact .refl _
      | some packageId =>
          exact KeepsCatalog.modify_package (fun _ => ⟨rfl, rfl⟩) fun _ _ =>
            .inr ⟨callback, packageId, rfl, starts, isNumber, rfl⟩

end Scripts

section Writers

variable {shop : Shop} {visit : Visit ShopState ShopData}

/-- The handlers that write to the catalog keep it in shape if new rows go
where they should. -/
theorem keepsCatalog_writer {update : Update} {handler : ShopHandler}
    (member : handler ∈ writers shop)
    (takes : handler.takes visit.conversation.state update = true)
    (puts : PutsRight shop visit update) :
    KeepsCatalog (Switches update) visit.platform.db
      ((handler.action update).runOn visit).2.platform.db := by
  simp only [writers, folderHandlers, packageHandlers, List.mem_append,
    List.mem_cons, List.not_mem_nil, or_false] at member
  cases update with
  | message message =>
      rcases member with ((rfl | rfl | rfl | rfl | rfl | rfl) | rfl) |
        rfl | rfl | rfl | rfl | rfl | rfl
      · exact keepsShelves_receiveOperatorNameAndSave visit
      · exact keepsCatalog_receiveSubcategoryTitleAndSave
          (puts.subfolder takes)
      · exact keepsShelves_saveOperatorNameEdit visit
      · exact keepsShelves_saveSubcategoryTitleEdit visit
      · exact .refl _
      · exact .refl _
      · exact .refl _
      · exact keepsCatalog_receiveCostPriceAndSave (puts.package takes)
      · exact keepsShelves_savePackageNameEdit visit
      · exact keepsShelves_receivePackagePriceEdit visit
      · exact .refl _
      · exact keepsShelves_savePackageCostEdit visit
      · exact .refl _
  | callback callback =>
      rcases member with ((rfl | rfl | rfl | rfl | rfl | rfl) | rfl) |
        rfl | rfl | rfl | rfl | rfl | rfl
      · exact .refl _
      · exact .refl _
      · exact .refl _
      · exact .refl _
      · exact keepsShelves_deleteConfirmed keepsCatalog_deleteOperatorTree
          visit
      · exact keepsShelves_deleteConfirmed
          keepsCatalog_deleteSubcategoryTree visit
      · exact keepsShelves_deleteConfirmed keepsCatalog_deletePackages visit
      · exact .refl _
      · exact .refl _
      · exact .refl _
      · exact keepsShelves_confirmEditSuspiciousPrice visit
      · exact .refl _
      · exact keepsCatalog_togglePackageActive takes

/-- The handlers of a shop keep the catalog in shape if new rows go where they
should. -/
theorem keepsCatalog_handler {isOwner : Int → Bool} {update : Update}
    {handler : ShopHandler} (member : handler ∈ handlers shop isOwner)
    (takes : handler.takes visit.conversation.state update = true)
    (puts : PutsRight shop visit update) :
    KeepsCatalog (Switches update) visit.platform.db
      ((handler.action update).runOn visit).2.platform.db := by
  rcases catalog_or_admits shop isOwner handler member with catalog | rest
  · rcases writer_or_admits shop handler catalog with writes | beside
    · exact keepsCatalog_writer writes takes puts
    · exact keepsShelves_of_within (beside update) (by decide) (by decide)
        visit
  · exact keepsShelves_of_within (rest update) (by decide) (by decide) visit

end Writers

end ShopBot.ResellerCatalog

end Baste
