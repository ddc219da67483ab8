import Baste.ShopBot

/-!
# The catalog of a reseller

The router in `handlers/reseller/catalog.py`: folders and packages, with a
question before a suspicious price, and their deletion in transactions that
the foreign keys may refuse.
-/

namespace Baste

namespace ShopBot

open BotScripts

namespace ResellerCatalog

section Prices

/-- `is_price_suspicious`.  Python does not compare special values. -/
def isPriceSuspicious (operatorName : String) (salePrice : Numerals.Decimal) :
    ShopScript Bool := do
  let floors ← query (·.idsWhere .categoryPriceFloors
    (·.operatorName = operatorName))
  let floor ← query fun db =>
    floors.head?.bind (db.row .categoryPriceFloors)
  match floor, salePrice with
  | none, _ => return false
  | some floor, .finite price => return price < decimal floor.minSanePrice
  | some _, .infinity negative => return negative
  | some _, .nan => throw .invalidOperation

/-- `_pending_price_confirmations` -/
def setPendingPrice (token : String) (price : Option Numerals.Decimal) :
    ShopScript Unit :=
  modify fun visit =>
    { visit with
      platform.pendingPriceConfirmations := Function.update
        visit.platform.pendingPriceConfirmations token price }

/-- `_pending_edit_price_confirmations` -/
def setPendingEditPrice (token : String) (pending : Option PendingEditPrice) :
    ShopScript Unit :=
  modify fun visit =>
    { visit with
      platform.pendingEditPriceConfirmations := Function.update
        visit.platform.pendingEditPriceConfirmations token pending }

end Prices

section Deletions

/-- Delete packages with their charge codes, unless an order refers to one of
them. -/
def deletePackages (packageIds : List Nat) (db : Db) : Option Db :=
  if db.idsWhere .orders (·.packageId ∈ packageIds) = [] then
    some <| (db.erase .chargeCodes
      (db.idsWhere .chargeCodes (·.packageId ∈ packageIds))).erase .packages
        packageIds
  else none

/-- Delete folders with their packages.  Folders inside become main
folders. -/
def deleteCategories (categoryIds : List Nat) (db : Db) : Option Db :=
  (deletePackages (db.idsWhere .packages (·.categoryId ∈ categoryIds)) db).map
    fun db =>
      let inside := db.idsWhere .categories fun category =>
        category.parentCategoryId.any (· ∈ categoryIds)
      (inside.foldl (fun db id =>
          db.modify .categories id ({ · with parentCategoryId := none }))
        db).erase .categories categoryIds

/-- `_delete_operator_tree` -/
def deleteOperatorTree (operatorId : Nat) (db : Db) : Option Db := do
  let subIds := subcategoriesOf operatorId db
  let db ←
    if subIds = [] then some db
    else
      deletePackages (db.idsWhere .packages (·.categoryId ∈ subIds)) db >>=
        deleteCategories subIds
  deleteCategories [operatorId] db

/-- `_delete_subcategory_tree` -/
def deleteSubcategoryTree (subcategoryId : Nat) (db : Db) : Option Db := do
  let db ← deletePackages (packagesOf subcategoryId db) db
  deleteCategories [subcategoryId] db

/-- `_delete_package` -/
def deletePackage (packageId : Nat) (db : Db) : Option Db :=
  deletePackages [packageId] db

/-- A transaction that is rolled back when a foreign key refuses it.  The
handlers catch the error. -/
def inTransaction (change : Db → Option Db) : ShopScript Unit := do
  match ← query change with
  | some db => executeWrite fun _ => db
  | none => pure ()

end Deletions

section Adding

def catalogTypeMenuCb : ShopHandler :=
  onCallback (dataIs "rmenu:catalog") fun _ => pure ()

def catalogMenu : ShopHandler :=
  onCallback (dataStarts "catalog:menu:") fun callback => do
    let _ ← dataField callback 2

def viewCatalog : ShopHandler :=
  onCallback (dataStarts "catalog:view:") fun callback => do
    let _ ← dataField callback 2

def startAddOperator : ShopHandler :=
  onCallback (dataStarts "catalog:add_operator:") fun callback => do
    let catalogType ← dataField callback 2
    updateData ({ · with catalogType := some catalogType })
    setState .enteringOperatorName

/-- Insert a folder if the columns hold its texts and the rows that it refers
to are there. -/
def insertCategory (resellerId : Nat) (operatorName title : String)
    (parentCategoryId : Option Int) (catalogType : String) :
    ShopScript Unit := do
  let catalogType ← required (.service .dataError)
    (readCatalogType catalogType)
  let _ ← executeInsert .categories
    (fun db => operatorName.length ≤ 64 && title.length ≤ 64 &&
      (db.row .resellers resellerId).isSome &&
      parentCategoryId.all fun parent =>
        (db.row .categories (rowId parent)).isSome)
    { resellerId := resellerId
      operatorName := operatorName
      parentCategoryId := parentCategoryId.map rowId
      title := title
      catalogType := catalogType }

def receiveOperatorNameAndSave (shop : Shop) : ShopHandler :=
  onMessage (inState .enteringOperatorName) fun message => do
    let data ← getData
    let operatorName ← strippedText message
    insertCategory shop.resellerId operatorName operatorName none
      (data.catalogType.getD "package")
    clear

def startAddSubcategory : ShopHandler :=
  onCallback (dataStarts "catalog:add_subcategory:") fun callback => do
    let _ ← dataField callback 2

/-- The catalog type and the id in callback data. -/
def typeAndId (callback : Callback) : ShopScript (String × Int) := do
  let catalogType ← dataField callback 2
  return (catalogType, ← integerField callback 3)

def pickOperatorForSub : ShopHandler :=
  onCallback (dataStarts "catalog:pick_operator_for_sub:") fun callback => do
    let (catalogType, operatorId) ← typeAndId callback
    let operator ← required .typeError
      (← query (·.row .categories (rowId operatorId)))
    updateData ({ · with
      parentOperatorId := some operatorId
      operatorName := some operator.operatorName
      catalogType := some catalogType })
    setState .enteringSubcategoryTitle

def receiveSubcategoryTitleAndSave (shop : Shop) : ShopHandler :=
  onMessage (inState .enteringSubcategoryTitle) fun message => do
    let data ← getData
    let title ← strippedText message
    let operatorName ← required .keyError data.operatorName
    let parentOperatorId ← required .keyError data.parentOperatorId
    insertCategory shop.resellerId operatorName title (some parentOperatorId)
      (data.catalogType.getD "package")
    clear

def startAddPackage : ShopHandler :=
  onCallback (dataStarts "catalog:add_package:") fun callback => do
    let _ ← dataField callback 2

def pickOperatorForPkg : ShopHandler :=
  onCallback (dataStarts "catalog:pick_operator_for_pkg:") fun callback => do
    let _ ← typeAndId callback

def pickCategory : ShopHandler :=
  onCallback (dataStarts "catalog:pick_category:") fun callback => do
    let (catalogType, categoryId) ← typeAndId callback
    let category ← required .typeError
      (← query (·.row .categories (rowId categoryId)))
    updateData ({ · with
      categoryId := some categoryId
      operatorName := some category.operatorName
      catalogType := some catalogType })
    setState .enteringName

def receivePackageName : ShopHandler :=
  onMessage (inState .enteringName) fun message => do
    let packageName ← strippedText message
    updateData ({ · with packageName := some packageName })
    setState .enteringPrice

def receivePrice (shop : Shop) : ShopHandler :=
  onMessage (inState .enteringPrice) fun message => do
    match typedAmount (← textOf message) with
    | none => pure ()
    | some salePrice =>
        let operatorName ← required .keyError (← getData).operatorName
        if ← isPriceSuspicious operatorName salePrice then
          setPendingPrice shop.token (some salePrice)
          setState .confirmingSuspiciousPrice
        else
          updateData ({ · with salePrice := some salePrice })
          setState .enteringCostPrice

def confirmSuspiciousPrice : ShopHandler :=
  onCallback (dataStarts "price_confirm:") fun callback => do
    let token ← dataField callback 1
    let pending := (← get).platform.pendingPriceConfirmations token
    setPendingPrice token none
    match pending with
    | none => pure ()
    | some salePrice =>
        updateData ({ · with salePrice := some salePrice })
        setState .enteringCostPrice

def editSuspiciousPrice : ShopHandler :=
  onCallback (dataStarts "price_edit:") fun callback => do
    let token ← dataField callback 1
    setPendingPrice token none
    setState .enteringPrice

/-- Insert a package if the column holds its name and the rows that it refers
to are there. -/
def insertPackage (resellerId : Nat) (categoryId : Int) (name : String)
    (salePrice costPrice : Numerals.Decimal) : ShopScript Unit := do
  let salePrice ← storedAmount salePrice
  let costPrice ← storedAmount costPrice
  let _ ← executeInsert .packages
    (fun db => name.length ≤ 128 && (db.row .resellers resellerId).isSome &&
      (db.row .categories (rowId categoryId)).isSome)
    { resellerId := resellerId
      categoryId := rowId categoryId
      name := name
      salePrice := salePrice
      costPrice := some costPrice }

def receiveCostPriceAndSave (shop : Shop) : ShopHandler :=
  onMessage (inState .enteringCostPrice) fun message => do
    match typedAmount (← textOf message) with
    | none => pure ()
    | some costPrice =>
        let data ← getData
        let categoryId ← required .keyError data.categoryId
        let packageName ← required .keyError data.packageName
        let salePrice ← required .keyError data.salePrice
        insertPackage shop.resellerId categoryId packageName salePrice
          costPrice
        clear

end Adding

section Managing

def manageOperatorsCb : ShopHandler :=
  onCallback (dataStarts "catalog:manage:") fun callback => do
    let _ ← dataField callback 2

/-- A handler that shows a folder or a package. -/
def showDetail (start : String) : ShopHandler :=
  onCallback (dataStarts start) fun callback => do
    let _ ← typeAndId callback

def manageOperatorDetailCb : ShopHandler :=
  showDetail "catalog:manage_op:"

def manageSubcategoryDetailCb : ShopHandler :=
  showDetail "catalog:manage_sub:"

def managePackageDetailCb : ShopHandler :=
  showDetail "catalog:manage_pkg:"

/-- A handler that asks for a new value of a folder or a package. -/
def startEdit (start : String) (remember : Int → ShopData → ShopData)
    (question : ShopState) : ShopHandler :=
  onCallback (dataStarts start) fun callback => do
    let (catalogType, id) ← typeAndId callback
    updateData fun data =>
      remember id { data with catalogType := some catalogType }
    setState question

/-- The answer to an edit shows the menu of the catalog that the dialogue
remembers, and the dialogue is over. -/
def answerWithSubmenu (data : ShopData) : ShopScript Unit := do
  let _ ← required .keyError data.catalogType
  clear

def startEditOperatorName : ShopHandler :=
  startEdit "catalog:edit_op_name:"
    (fun id data => { data with operatorId := some id }) .editingOperatorName

def saveOperatorNameEdit : ShopHandler :=
  onMessage (inState .editingOperatorName) fun message => do
    let data ← getData
    let newName ← strippedText message
    let operatorId ← required .keyError data.operatorId
    executeUpdate .categories (rowId operatorId) (newName.length ≤ 64)
      ({ · with operatorName := newName, title := newName })
    answerWithSubmenu data

def startEditSubcategoryTitle : ShopHandler :=
  startEdit "catalog:edit_sub_title:"
    (fun id data => { data with subcategoryId := some id })
    .editingSubcategoryTitle

def saveSubcategoryTitleEdit : ShopHandler :=
  onMessage (inState .editingSubcategoryTitle) fun message => do
    let data ← getData
    let newTitle ← strippedText message
    let subcategoryId ← required .keyError data.subcategoryId
    executeUpdate .categories (rowId subcategoryId) (newTitle.length ≤ 64)
      ({ · with title := newTitle })
    answerWithSubmenu data

def startEditPackageName : ShopHandler :=
  startEdit "catalog:edit_pkg_name:"
    (fun id data => { data with packageId := some id }) .editingPackageName

def savePackageNameEdit : ShopHandler :=
  onMessage (inState .editingPackageName) fun message => do
    let data ← getData
    let newName ← strippedText message
    let packageId ← required .keyError data.packageId
    executeUpdate .packages (rowId packageId) (newName.length ≤ 128)
      ({ · with name := newName })
    answerWithSubmenu data

def startEditPackagePrice : ShopHandler :=
  startEdit "catalog:edit_pkg_price:"
    (fun id data => { data with packageId := some id }) .editingPackagePrice

/-- The name on the folder of a package, or nothing. -/
def operatorNameOf (packageId : Nat) (db : Db) : String :=
  (((db.row .packages packageId).bind fun package =>
    db.row .categories package.categoryId).map (·.operatorName)).getD ""

/-- Write a column with an amount.  The server looks at the amount only if the
row is there. -/
def executePrice (packageId : Nat) (price : Numerals.Decimal)
    (change : Cents → PackageRow → PackageRow) : ShopScript Unit := do
  if (← query (·.row .packages packageId)).isSome then
    let price ← storedAmount price
    executeWrite (·.modify .packages packageId (change price))

def setSalePrice (price : Cents) (package : PackageRow) : PackageRow :=
  { package with salePrice := price }

def receivePackagePriceEdit (shop : Shop) : ShopHandler :=
  onMessage (inState .editingPackagePrice) fun message => do
    match typedAmount (← textOf message) with
    | none => pure ()
    | some salePrice =>
        let data ← getData
        let packageId ← required .keyError data.packageId
        let operatorName ← query (operatorNameOf (rowId packageId))
        if ← isPriceSuspicious operatorName salePrice then
          let _ ← required .keyError data.catalogType
          setPendingEditPrice shop.token (some ⟨packageId, salePrice⟩)
          setState .confirmingSuspiciousEditPrice
        else
          executePrice (rowId packageId) salePrice setSalePrice
          answerWithSubmenu data

def confirmEditSuspiciousPrice : ShopHandler :=
  onCallback (dataStarts "pkgedit_price_confirm:") fun callback => do
    let token ← dataField callback 1
    let pending := (← get).platform.pendingEditPriceConfirmations token
    setPendingEditPrice token none
    match pending with
    | none => pure ()
    | some pending =>
        executePrice (rowId pending.packageId) pending.salePrice setSalePrice
        clear

def editAgainSuspiciousPrice : ShopHandler :=
  onCallback (dataStarts "pkgedit_price_edit:") fun callback => do
    let token ← dataField callback 1
    setPendingEditPrice token none
    setState .editingPackagePrice

def startEditPackageCost : ShopHandler :=
  startEdit "catalog:edit_pkg_cost:"
    (fun id data => { data with packageId := some id })
    .editingPackageCostPrice

def savePackageCostEdit : ShopHandler :=
  onMessage (inState .editingPackageCostPrice) fun message => do
    match typedAmount (← textOf message) with
    | none => pure ()
    | some costPrice =>
        let data ← getData
        let packageId ← required .keyError data.packageId
        executePrice (rowId packageId) costPrice
          fun price package => { package with costPrice := some price }
        answerWithSubmenu data

def togglePackageActive : ShopHandler :=
  onCallback (dataStarts "catalog:toggle_pkg:") fun callback => do
    let (_, packageId) ← typeAndId callback
    executeWrite (·.modify .packages (rowId packageId)
      fun package => { package with isActive := !package.isActive })

/-- A handler that deletes, after the question has been confirmed. -/
def deleteConfirmed (start : String) (delete : Nat → Db → Option Db) :
    ShopHandler :=
  onCallback (dataStarts start) fun callback => do
    let (_, id) ← typeAndId callback
    inTransaction (delete (rowId id))

def confirmDeleteOperator : ShopHandler :=
  showDetail "catalog:del_op:"

def deleteOperatorConfirmed : ShopHandler :=
  deleteConfirmed "catalog:del_op_yes:" deleteOperatorTree

def deleteOperatorCancelled : ShopHandler :=
  showDetail "catalog:del_op_no:"

def confirmDeleteSubcategory : ShopHandler :=
  showDetail "catalog:del_sub:"

def deleteSubcategoryConfirmed : ShopHandler :=
  deleteConfirmed "catalog:del_sub_yes:" deleteSubcategoryTree

def deleteSubcategoryCancelled : ShopHandler :=
  showDetail "catalog:del_sub_no:"

def confirmDeletePackage : ShopHandler :=
  showDetail "catalog:del_pkg:"

def deletePackageConfirmed : ShopHandler :=
  deleteConfirmed "catalog:del_pkg_yes:" deletePackage

def deletePackageCancelled : ShopHandler :=
  showDetail "catalog:del_pkg_no:"

end Managing

def router (shop : Shop) : List ShopHandler :=
  [catalogTypeMenuCb, catalogMenu, viewCatalog, startAddOperator,
    receiveOperatorNameAndSave shop, startAddSubcategory, pickOperatorForSub,
    receiveSubcategoryTitleAndSave shop, startAddPackage, pickOperatorForPkg,
    pickCategory, receivePackageName, receivePrice shop,
    confirmSuspiciousPrice, editSuspiciousPrice, receiveCostPriceAndSave shop,
    manageOperatorsCb, manageOperatorDetailCb, manageSubcategoryDetailCb,
    managePackageDetailCb, startEditOperatorName, saveOperatorNameEdit,
    startEditSubcategoryTitle, saveSubcategoryTitleEdit, startEditPackageName,
    savePackageNameEdit, startEditPackagePrice, receivePackagePriceEdit shop,
    confirmEditSuspiciousPrice, editAgainSuspiciousPrice, startEditPackageCost,
    savePackageCostEdit, togglePackageActive, confirmDeleteOperator,
    deleteOperatorConfirmed, deleteOperatorCancelled,
    confirmDeleteSubcategory, deleteSubcategoryConfirmed,
    deleteSubcategoryCancelled, confirmDeletePackage, deletePackageConfirmed,
    deletePackageCancelled]

end ResellerCatalog

end ShopBot

end Baste
