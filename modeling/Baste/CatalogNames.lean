import Baste.CatalogFolders
import Baste.ShopFootprints
import Baste.StaffIsolation

/-!
# The names in the catalog

A folder has the name of its operator and the type of its catalog copied into
its own row.  The copies stay right as long as nobody renames an operator that
has subfolders to another name, and every new subfolder gets the name and the
type that its operator has at that moment.
-/

namespace Baste

open Database

/-- Every folder inside another has its operator name and catalog type. -/
def NamesAgree (db : Db) : Prop :=
  ∀ id folder operatorId, db.row .categories id = some folder →
    folder.parentCategoryId = some operatorId →
      ∃ operator, db.row .categories operatorId = some operator ∧
        folder.operatorName = operator.operatorName ∧
        folder.catalogType = operator.catalogType

/-- The folders agree, so that a package is looked up under the current name
of its operator. -/
structure CatalogRight (db : Db) : Prop where
  folders : NamesAgree db
  lookups : ∀ packageId package folder operatorId operator,
    db.row .packages packageId = some package →
      db.row .categories package.categoryId = some folder →
      folder.parentCategoryId = some operatorId →
      db.row .categories operatorId = some operator →
        ShopBot.ResellerCatalog.operatorNameOf packageId db =
          operator.operatorName

/-- The name is the one that the folder's operator and its subfolders have. -/
structure RenameFits (db : Db) (id : Nat) (newName : String) : Prop where
  operator : ∀ folder ∈ db.row .categories id,
    ∀ operatorId ∈ folder.parentCategoryId,
      ∀ operator ∈ db.row .categories operatorId,
        operator.operatorName = newName
  subfolders : ∀ subfolderId ∈ ShopBot.subcategoriesOf id db,
    ∀ subfolder ∈ db.row .categories subfolderId,
      subfolder.operatorName = newName

instance (db : Db) (id : Nat) (newName : String) :
    Decidable (RenameFits db id newName) :=
  decidable_of_iff (_ ∧ _) ⟨fun both => ⟨both.1, both.2⟩, fun fits =>
    ⟨fits.operator, fits.subfolders⟩⟩

/-- The name and the type are those of the operator. -/
abbrev SubfolderFits (db : Db) (operatorId : Nat) (operatorName : String)
    (catalogType : CatalogType) : Prop :=
  ∀ operator ∈ db.row .categories operatorId,
    operatorName = operator.operatorName ∧
      catalogType = operator.catalogType

section Folders

variable {db after : Db}

theorem NamesAgree.catalogRight (agree : NamesAgree db) : CatalogRight db where
  folders := agree
  lookups packageId package folder operatorId operator isPackage isFolder
      inside isOperator := by
    obtain ⟨found, isFound, sameName, -⟩ :=
      agree _ folder operatorId isFolder inside
    rw [isOperator] at isFound
    cases isFound
    simp [ShopBot.ResellerCatalog.operatorNameOf, isPackage, isFolder,
      sameName]

/-- What a folder copies from its operator. -/
def nameAndType (folder : CategoryRow) : String × CatalogType :=
  (folder.operatorName, folder.catalogType)

theorem namesAgree_iff : NamesAgree db ↔ FoldersAgree nameAndType db := by
  simp [NamesAgree, FoldersAgree, nameAndType]

theorem NamesAgree.of_rows (agree : NamesAgree db)
    (rows : ∀ id, after.row .categories id = db.row .categories id) :
    NamesAgree after := by
  rw [namesAgree_iff] at agree ⊢
  exact agree.of_rows rows

/-- A new folder has the name and the type of its operator. -/
theorem NamesAgree.put (agree : NamesAgree db) {new : CategoryRow}
    (inside : ∀ operatorId, new.parentCategoryId = some operatorId →
      (db.row .categories operatorId).isSome = true ∧
        SubfolderFits db operatorId new.operatorName new.catalogType) :
    NamesAgree ((db.reserve .categories).put .categories
      (db.nextId .categories) new) := by
  rw [namesAgree_iff] at agree ⊢
  apply agree.put
  intro operatorId isInside
  obtain ⟨isThere, fits⟩ := inside operatorId isInside
  obtain ⟨operator, isOperator⟩ := Option.isSome_iff_exists.mp isThere
  obtain ⟨sameName, sameType⟩ := fits operator isOperator
  exact ⟨operator, isOperator, Prod.ext sameName sameType⟩

/-- A change of anything but the name, the type and the operator does not
matter. -/
theorem NamesAgree.modify (agree : NamesAgree db) {id : Nat}
    {change : CategoryRow → CategoryRow}
    (kept : ∀ folder, nameAndType (change folder) = nameAndType folder ∧
      (change folder).parentCategoryId = folder.parentCategoryId) :
    NamesAgree (db.modify .categories id change) := by
  rw [namesAgree_iff] at agree ⊢
  exact agree.modify kept

theorem NamesAgree.rename (agree : NamesAgree db) {id : Nat}
    {newName : String} (fits : RenameFits db id newName) :
    NamesAgree (db.modify .categories id
      ({ · with operatorName := newName, title := newName })) := by
  intro key folder operatorId isFolder inside
  rw [row_modify] at isFolder
  rw [row_modify]
  by_cases isRenamed : key = id
  · -- The renamed folder is inside another.
    rw [if_pos isRenamed] at isFolder
    obtain ⟨old, isOld, rfl⟩ := Option.map_eq_some_iff.mp isFolder
    obtain ⟨operator, isOperator, -, sameType⟩ :=
      agree key old operatorId isOld inside
    have sameName := fits.operator old (isRenamed ▸ isOld) operatorId inside
      operator isOperator
    rw [isOperator]
    split
    · exact ⟨_, rfl, rfl, sameType⟩
    · exact ⟨operator, rfl, sameName.symm, sameType⟩
  · rw [if_neg isRenamed] at isFolder
    obtain ⟨operator, isOperator, sameName, sameType⟩ :=
      agree key folder operatorId isFolder inside
    rw [isOperator]
    split
    · -- The folder is inside the renamed one.
      rename_i isRenamed
      have isInside : key ∈ ShopBot.subcategoriesOf id db :=
        mem_idsWhere.mpr ⟨folder, isFolder, by simpa [isRenamed] using inside⟩
      exact ⟨_, rfl, fits.subfolders key isInside folder isFolder, sameType⟩
    · exact ⟨operator, rfl, sameName, sameType⟩

end Folders

section Deletions

open ShopBot.ResellerCatalog

variable {db after : Db}

/-- A folder that comes out of its operator keeps its name and its type. -/
theorem stays_nameAndType : FoldersAgree.Stays nameAndType :=
  fun _ => rfl

theorem NamesAgree.deleteSubcategoryTree (agree : NamesAgree db)
    {subcategoryId : Nat}
    (deleted : deleteSubcategoryTree subcategoryId db = some after) :
    NamesAgree after := by
  rw [namesAgree_iff] at agree ⊢
  exact agree.deleteSubcategoryTree stays_nameAndType deleted

theorem NamesAgree.deleteOperatorTree (agree : NamesAgree db)
    {operatorId : Nat}
    (deleted : deleteOperatorTree operatorId db = some after) :
    NamesAgree after := by
  rw [namesAgree_iff] at agree ⊢
  exact agree.deleteOperatorTree stays_nameAndType deleted

end Deletions

namespace ShopBot.ResellerCatalog

open BotScripts

section Scripts

variable {visit : Visit ShopState ShopData} {Result : Type}

/-- Agreement before means agreement afterwards. -/
def StaysAgreed (before after : Db) : Prop :=
  NamesAgree before → NamesAgree after

instance : Std.Refl StaysAgreed := ⟨fun _ => id⟩

instance : IsTrans Db StaysAgreed :=
  ⟨fun _ _ _ first second => second ∘ first⟩

/-- Whatever becomes of the script, the folders agree as before. -/
abbrev KeepsNames (script : ShopScript Result) : Prop :=
  script.Moves (fun visit => visit.platform.db) StaysAgreed

theorem keepsNames_bind {Next : Type} {script : ShopScript Result}
    {next : Result → ShopScript Next} (first : KeepsNames script)
    (rest : ∀ value, KeepsNames (next value)) : KeepsNames (script >>= next) :=
  Failing.Moves.bind first rest

theorem keepsNames_of_keeps {script : ShopScript Result}
    (keeps : KeepsPlatform Platform.db script) : KeepsNames script :=
  Failing.Keeps.moves keeps

theorem keepsNames_of_within {footprint : ShopFootprint}
    {script : ShopScript Result} (within : footprint.Within script)
    (outside : .categories ∉ footprint.tables) : KeepsNames script :=
  fun visit agree =>
    agree.of_rows ((within visit).rows.rows .categories outside)

/-- A text without the blanks around it. -/
def stripped (text : String) : String :=
  String.ofList (ChargeService.strip text.toList)

/-- The columns hold the texts of a folder, and its reseller is there. -/
abbrev IsInsertable (db : Db) (resellerId : Nat)
    (operatorName title : String) : Prop :=
  operatorName.length ≤ 64 ∧ title.length ≤ 64 ∧
    (db.row .resellers resellerId).isSome

/-- The insertion of a folder keeps the agreement if the folder fits. -/
theorem namesAgree_insertCategory {resellerId : Nat}
    {operatorName title catalogType : String} {parentId : Option Int}
    (agree : NamesAgree visit.platform.db)
    (fits : ∀ operatorId ∈ parentId, ∀ readType ∈ readCatalogType catalogType,
      IsInsertable visit.platform.db resellerId operatorName title →
        SubfolderFits visit.platform.db (rowId operatorId) operatorName
          readType) :
    NamesAgree ((insertCategory resellerId operatorName title parentId
      catalogType).runOn visit).2.platform.db := by
  unfold insertCategory
  cases isType : readCatalogType catalogType with
  | none => exact agree
  | some readType =>
      rw [required, Failing.runOn_bind, Failing.runOn_pure]
      dsimp only
      rw [db_bind_of_keeps fun _ => Failing.keeps_pure _, db_executeInsert]
      dsimp only
      split
      · rename_i allowed
        apply agree.put
        intro operatorId isInside
        obtain ⟨parent, isParent, rfl⟩ := Option.map_eq_some_iff.mp isInside
        simp only [Bool.and_eq_true, decide_eq_true_eq, isParent,
          Option.all_some, row_reserve] at allowed
        obtain ⟨⟨⟨shortName, shortTitle⟩, isReseller⟩, isThere⟩ := allowed
        exact ⟨isThere, fits parent isParent readType isType
          ⟨shortName, shortTitle, isReseller⟩⟩
      · exact agree.of_rows fun _ => row_reserve

theorem keepsNames_receiveOperatorNameAndSave {shop : Shop}
    {message : Message} :
    KeepsNames ((receiveOperatorNameAndSave shop).action
      (.message message)) := by
  apply keepsNames_bind (keepsNames_of_keeps keeps_getData)
  intro data
  apply keepsNames_bind (keepsNames_of_keeps (keeps_strippedText message))
  intro operatorName
  apply keepsNames_bind
  · intro visit agree
    exact namesAgree_insertCategory agree nofun
  · exact fun _ => keepsNames_of_keeps keeps_clear

theorem keepsNames_saveSubcategoryTitleEdit {message : Message} :
    KeepsNames (saveSubcategoryTitleEdit.action (.message message)) := by
  apply keepsNames_bind (keepsNames_of_keeps keeps_getData)
  intro data
  apply keepsNames_bind (keepsNames_of_keeps (keeps_strippedText message))
  intro newTitle
  apply keepsNames_bind (keepsNames_of_keeps (keeps_required _ _))
  intro subcategoryId
  apply keepsNames_bind
  · intro visit agree
    dsimp only
    rw [db_executeUpdate]
    split
    · exact agree.modify fun _ => ⟨rfl, rfl⟩
    · exact agree
  · exact fun _ => keepsNames_of_keeps keeps_answerWithSubmenu

theorem keepsNames_deleteConfirmed {start : String}
    {delete : Nat → Db → Option Db}
    (deletes : ∀ id db after, delete id db = some after →
      StaysAgreed db after) {callback : Callback} :
    KeepsNames ((deleteConfirmed start delete).action
      (.callback callback)) := by
  have named : KeepsNames (typeAndId callback) :=
    keepsNames_of_within (@within_typeAndId (footprint []) callback)
      (by decide)
  apply keepsNames_bind named
  intro named visit agree
  dsimp only
  rw [visit_inTransaction]
  dsimp only
  cases deleted : delete (rowId named.2) visit.platform.db with
  | none => exact agree
  | some after => exact deletes _ _ after deleted agree

theorem namesAgree_saveOperatorNameEdit {message : Message}
    (agree : NamesAgree visit.platform.db)
    (fits : ∀ text ∈ message.text, ∀ id ∈ visit.conversation.data.operatorId,
      (stripped text).length ≤ 64 →
        RenameFits visit.platform.db (rowId id) (stripped text)) :
    NamesAgree ((saveOperatorNameEdit.action
      (.message message)).runOn visit).2.platform.db := by
  simp only [saveOperatorNameEdit, onMessage, getData, strippedText, textOf,
    Failing.runOn_bind, Failing.runOn_get, Failing.runOn_pure]
  cases isText : message.text with
  | none => exact agree
  | some text =>
      cases isId : visit.conversation.data.operatorId with
      | none => exact agree
      | some id =>
          simp only [required, Failing.runOn_pure]
          rw [← Failing.runOn_bind,
            db_bind_of_keeps fun _ => keeps_answerWithSubmenu,
            db_executeUpdate]
          split
          · rename_i held
            simp only [Bool.or_eq_true, decide_eq_true_eq] at held
            rcases held with short | absent
            · exact agree.rename (fits text isText id isId short)
            · exact agree.of_rows fun _ =>
                row_modify_absent (Option.isNone_iff_eq_none.mp absent)
          · exact agree

theorem namesAgree_receiveSubcategoryTitleAndSave {shop : Shop}
    {message : Message} (agree : NamesAgree visit.platform.db)
    (fits : ∀ text ∈ message.text,
      ∀ operatorName ∈ visit.conversation.data.operatorName,
        ∀ operatorId ∈ visit.conversation.data.parentOperatorId,
          ∀ catalogType ∈ readCatalogType
              (visit.conversation.data.catalogType.getD "package"),
            IsInsertable visit.platform.db shop.resellerId operatorName
                (stripped text) →
              SubfolderFits visit.platform.db (rowId operatorId) operatorName
                catalogType) :
    NamesAgree (((receiveSubcategoryTitleAndSave shop).action
      (.message message)).runOn visit).2.platform.db := by
  simp only [receiveSubcategoryTitleAndSave, onMessage, getData, strippedText,
    textOf, Failing.runOn_bind, Failing.runOn_get, Failing.runOn_pure]
  cases isText : message.text with
  | none => exact agree
  | some text =>
      cases isName : visit.conversation.data.operatorName with
      | none => exact agree
      | some operatorName =>
          cases isId : visit.conversation.data.parentOperatorId with
          | none => exact agree
          | some operatorId =>
              simp only [required, Failing.runOn_pure]
              rw [← Failing.runOn_bind, db_bind_of_keeps fun _ => keeps_clear]
              apply namesAgree_insertCategory agree
              intro parent isParent catalogType isType
              cases isParent
              exact fits text isText operatorName isName operatorId isId
                catalogType isType

end Scripts

end ShopBot.ResellerCatalog

namespace ShopWorld

open BotScripts ShopBot.ResellerCatalog

variable (world : ShopWorld) (shop : Shop)

/-- A rename fits the folders that are there. -/
abbrev RenamesRight (message : Message) : Prop :=
  let conversation := world.conversationOf (.message message)
  conversation.state = some .editingOperatorName →
    ∀ text ∈ message.text, ∀ id ∈ conversation.data.operatorId,
      (stripped text).length ≤ 64 →
        RenameFits world.platform.db (rowId id) (stripped text)

/-- A new subfolder fits its operator as it is now. -/
abbrev InsertsRight (message : Message) : Prop :=
  let conversation := world.conversationOf (.message message)
  conversation.state = some .enteringSubcategoryTitle →
    ∀ text ∈ message.text, ∀ operatorName ∈ conversation.data.operatorName,
      ∀ operatorId ∈ conversation.data.parentOperatorId,
        ∀ catalogType ∈ ShopBot.readCatalogType
            (conversation.data.catalogType.getD "package"),
          IsInsertable world.platform.db shop.resellerId operatorName
              (stripped text) →
            SubfolderFits world.platform.db (rowId operatorId) operatorName
              catalogType

/-- What an update does to the folders fits.  The commands of the owner do
nothing to them. -/
def FitsFolders : Update → Prop
  | .callback _ => True
  | .message message =>
      isOwnerCommand shop.resellerId world.platform.db message = false →
        world.RenamesRight message ∧ world.InsertsRight shop message

instance decidableFitsFolders :
    (update : Update) → Decidable (world.FitsFolders shop update)
  | .callback _ => inferInstanceAs (Decidable True)
  | .message _ => inferInstanceAs (Decidable (_ → _ ∧ _))

variable {world} {shop}

/-- A message that the entry of the panel does not take is no command of the
owner. -/
theorem not_isOwnerCommand {db : Db} {state : Option ShopState}
    {message : Message}
    (passes : Handler.dispatch (ShopBot.ResellerStart.router fun userId =>
        ShopBot.isResellerOwner shop.resellerId userId db) state
      (.message message) = none) :
    isOwnerCommand shop.resellerId db message = false := by
  rw [Handler.dispatch_eq_none_iff] at passes
  simp only [ShopBot.ResellerStart.router, List.forall_mem_cons] at passes
  rw [isOwnerCommand, Bool.and_or_distrib_right, Bool.or_eq_false_iff]
  exact ⟨passes.1, passes.2.1⟩

/-- The handlers of folders keep the agreement if what they do fits. -/
theorem namesAgree_folderHandler {update : Update} {handler : ShopHandler}
    (folder : handler ∈ folderHandlers shop)
    (takes : handler.takes (world.conversationOf update).state update = true)
    (agree : NamesAgree world.platform.db)
    (fits : ∀ message, update = .message message →
      world.RenamesRight message ∧ world.InsertsRight shop message) :
    NamesAgree ((handler.action update).runOn
      ⟨world.platform, world.conversationOf update⟩).2.platform.db := by
  simp only [folderHandlers, List.mem_cons, List.not_mem_nil,
    or_false] at folder
  cases update with
  | callback callback =>
      rcases folder with rfl | rfl | rfl | rfl | rfl | rfl
      · exact agree
      · exact agree
      · exact agree
      · exact agree
      · exact keepsNames_deleteConfirmed
          (fun _ _ _ deleted agree => agree.deleteOperatorTree deleted) _ agree
      · exact keepsNames_deleteConfirmed
          (fun _ _ _ deleted agree => agree.deleteSubcategoryTree deleted) _
          agree
  | message message =>
      obtain ⟨renames, inserts⟩ := fits message rfl
      rcases folder with rfl | rfl | rfl | rfl | rfl | rfl
      · exact keepsNames_receiveOperatorNameAndSave _ agree
      · have isState := of_decide_eq_true takes
        exact namesAgree_receiveSubcategoryTitleAndSave agree
          (inserts isState)
      · have isState := of_decide_eq_true takes
        exact namesAgree_saveOperatorNameEdit agree (renames isState)
      · exact keepsNames_saveSubcategoryTitleEdit _ agree
      · exact agree
      · exact agree

/-- An update that fits keeps the agreement. -/
theorem namesAgree_handle {update : Update}
    (agree : NamesAgree world.platform.db)
    (fits : world.FitsFolders shop update) :
    NamesAgree (world.handle shop update).platform.db := by
  let isOwner : Int → Bool := fun userId =>
    ShopBot.isResellerOwner shop.resellerId userId world.platform.db
  let state := (world.conversationOf update).state
  cases found : Handler.dispatch (ShopBot.handlers shop isOwner) state
      update with
  | none =>
      rw [handle, BotWorld.receive_of_none found]
      exact agree
  | some script =>
      rw [handle, BotWorld.platform_receive found]
      cases started : Handler.dispatch (ShopBot.ResellerStart.router isOwner)
          state update with
      | some entry =>
          have first : Handler.dispatch (ShopBot.handlers shop isOwner) state
              update = some entry := by
            unfold ShopBot.handlers
            iterate 12 apply Handler.dispatch_append_of_some
            exact started
          rw [found] at first
          cases first
          obtain ⟨handler, member, -, rfl⟩ :=
            Handler.exists_of_dispatch started
          have admits : ShopBot.outsideCatalog.Admits handler :=
            ShopBot.ResellerStart.admits_router isOwner handler member
          exact keepsNames_of_within (admits update) (by decide) _ agree
      | none =>
          obtain ⟨handler, member, takes, rfl⟩ :=
            Handler.exists_of_dispatch found
          rcases ShopBot.catalog_or_admits shop isOwner handler member with
            catalog | rest
          · rcases folderHandler_or_admits shop handler catalog with
              folder | beside
            · apply namesAgree_folderHandler folder takes agree
              rintro message rfl
              exact fits (not_isOwnerCommand started)
            · exact keepsNames_of_within (beside update) (by decide) _ agree
          · exact keepsNames_of_within (rest update) (by decide) _ agree

end ShopWorld

/-- In every run whose renames and new subfolders fit, the catalog is right in
every state. -/
theorem catalogRight_of_fitsFolders {world : ShopsWorld}
    {events : List ShopUpdate} (agree : NamesAgree world.platform.db)
    (fitting : StepRuns.Along ShopsWorld.step
      (fun world received =>
        (world.bot received.shop.resellerId).FitsFolders received.shop
          received.update) world events) :
    StepRuns.Along ShopsWorld.step
      (fun world received => CatalogRight (world.step received).platform.db)
      world events := by
  apply And.left
  apply StepRuns.along_of_guarded (fun world => NamesAgree world.platform.db)
    _ _ agree fitting
  intro world received agree fits
  have kept : NamesAgree (world.step received).platform.db :=
    ShopWorld.namesAgree_handle agree fits
  exact ⟨kept.catalogRight, kept⟩

section Examples

/-- The owner of the shop sends this text. -/
def ownerTypes (text : String) : ShopUpdate where
  shop := ⟨shopSettings, shopSurroundings⟩
  update := .message { sender := 1001, chat := 1001, text := some text }

/-- The owner of the shop presses a button with this data. -/
def ownerTaps (data : String) : ShopUpdate where
  shop := ⟨shopSettings, shopSurroundings⟩
  update := .callback ⟨1001, 1001, data⟩

/-- A new operator with one subfolder. -/
def operatorWithSubfolder : List ShopUpdate :=
  [ownerTaps "catalog:add_operator:package", ownerTypes "ایرانسل",
    ownerTaps "catalog:pick_operator_for_sub:package:1", ownerTypes "ماهانه"]

/-- A shop without a catalog. -/
def newCatalogDb : Db :=
  Db.filled fun
    | .resellers => [shopReseller]
    | _ => []

theorem namesAgree_newCatalogDb : NamesAgree newCatalogDb := by
  intro id folder operatorId isFolder
  have member : folder ∈ ([] : List CategoryRow) :=
    KeyedTable.mem_of_row_ofRows isFolder
  cases member

theorem catalogRight_of_fitsFolders_subfolder :
    StepRuns.Along ShopsWorld.step
      (fun world received => CatalogRight (world.step received).platform.db)
      (newShopsWorld newCatalogDb) operatorWithSubfolder :=
  catalogRight_of_fitsFolders namesAgree_newCatalogDb (by decide +kernel)

/-- A package is added to the subfolder, and then the operator is renamed. -/
def renamedOperator : ShopsWorld :=
  StepRuns.final ShopsWorld.step (newShopsWorld newCatalogDb)
    (operatorWithSubfolder ++
      [ownerTaps "catalog:pick_category:package:2", ownerTypes "7 GB",
        ownerTypes "65000", ownerTypes "60000",
        ownerTaps "catalog:edit_op_name:package:1", ownerTypes "همراه اول"])

/-- The subfolder keeps the old name of the operator, and so does the look-up
for its package. -/
theorem subfolder_keeps_old_name :
    (renamedOperator.platform.db.row .categories 1).map (·.operatorName) =
        some "همراه اول" ∧
      ShopBot.ResellerCatalog.operatorNameOf 1 renamedOperator.platform.db =
        "ایرانسل" ∧
      ¬ NamesAgree renamedOperator.platform.db := by
  have operator : (renamedOperator.platform.db.row .categories 1).map
      (·.operatorName) = some "همراه اول" := by
    decide +kernel
  have subfolder : renamedOperator.platform.db.row .categories 2 =
      some { resellerId := 1
             operatorName := "ایرانسل"
             parentCategoryId := some 1
             title := "ماهانه" } := by
    decide +kernel
  refine ⟨operator, by decide +kernel, fun agree => ?_⟩
  obtain ⟨found, isFound, sameName, -⟩ := agree 2 _ 1 subfolder rfl
  rw [isFound] at operator
  dsimp only at sameName
  rw [Option.map_some, ← sameName] at operator
  exact absurd operator (by decide)

end Examples

end Baste
