import Baste.BrowsingSteps
import Baste.CatalogSteps
import Baste.OrderOrigins

/-!
# Packages on offer

What customers are shown are folders and packages of the shop, and packages
for sale of the kind that they look for.  This stays so as long as no package
is switched off that some customer still has on the screen, and new rows of the
catalog go where they should.  Then every order is for a package for sale, in
the right part of the catalog, at its price.
-/

namespace Baste

open Database BotScripts ShopBot

section Offers

/-- The folder belongs to a part of the catalog of the reseller, if it is
still there. -/
structure IsFolder (resellerId : Nat) (catalogType : CatalogType) (db : Db)
    (id : Nat) : Prop where
  isOld : id < db.nextId .categories
  shelf : ∀ folder, db.row .categories id = some folder →
    folder.shelf = (resellerId, catalogType)

/-- The package is for sale in a part of the catalog of the reseller, if it is
still there. -/
structure IsOffered (resellerId : Nat) (catalogType : CatalogType) (db : Db)
    (id : Nat) : Prop where
  isOld : id < db.nextId .packages
  offered : ∀ package, db.row .packages id = some package →
    package.isActive = true ∧ package.resellerId = resellerId ∧
      IsFolder resellerId catalogType db package.categoryId

/-- What the customer has been shown is what the reseller offers. -/
structure ShowsOffers (resellerId : Nat) (db : Db)
    (conversation : Conversation ShopState ShopData) : Prop where
  operators : ∀ catalogType other text id,
    (text, id) ∈ (Listing.operators catalogType other).labels
      conversation.data → IsFolder resellerId catalogType db id
  folders : ∀ catalogType operatorId text id,
    (text, id) ∈ (Listing.folders catalogType operatorId).labels
      conversation.data → IsFolder resellerId catalogType db id
  packages : ∀ catalogType id, OnScreen catalogType conversation id →
    IsOffered resellerId catalogType db id

variable {switched : Nat → Prop} {db after : Db} {resellerId id : Nat}
variable {catalogType : CatalogType}

theorem IsFolder.of_stays (isFolder : IsFolder resellerId catalogType db id)
    (stays : CatalogStays switched db after) :
    IsFolder resellerId catalogType after id where
  isOld := isFolder.isOld.trans_le (stays.grown _)
  shelf folder found := by
    rcases stays.folders id folder found with new | ⟨old, isOld, same⟩
    · exact absurd isFolder.isOld (not_lt.mpr new)
    · rw [← same]
      exact isFolder.shelf old isOld

theorem IsOffered.of_stays (isOffered : IsOffered resellerId catalogType db id)
    (stays : CatalogStays switched db after) (kept : ¬ switched id) :
    IsOffered resellerId catalogType after id where
  isOld := isOffered.isOld.trans_le (stays.grown _)
  offered package found := by
    rcases stays.packages id package found with
      new | ⟨old, isOld, reseller, folder, active⟩
    · exact absurd isOffered.isOld (not_lt.mpr new)
    · obtain ⟨wasActive, wasReseller, wasFolder⟩ := isOffered.offered old isOld
      refine ⟨(active wasActive).resolve_right kept,
        reseller.trans wasReseller, ?_⟩
      rw [folder]
      exact wasFolder.of_stays stays

theorem ShowsOffers.of_stays
    {conversation : Conversation ShopState ShopData}
    (shows : ShowsOffers resellerId db conversation)
    (stays : CatalogStays switched db after)
    (kept : ∀ catalogType id, OnScreen catalogType conversation id →
      ¬ switched id) : ShowsOffers resellerId after conversation where
  operators catalogType other text id label :=
    (shows.operators catalogType other text id label).of_stays stays
  folders catalogType operatorId text id label :=
    (shows.folders catalogType operatorId text id label).of_stays stays
  packages catalogType id onScreen :=
    (shows.packages catalogType id onScreen).of_stays stays
      (kept catalogType id onScreen)

end Offers

section Listings

variable {db : Db} {resellerId id : Nat} {catalogType : CatalogType}

theorem isFolder_of_mem_operators
    (member : id ∈ operatorsOf resellerId catalogType db) :
    IsFolder resellerId catalogType db id := by
  obtain ⟨folder, found, test⟩ := mem_idsWhere.mp member
  simp only [Bool.and_eq_true, decide_eq_true_eq] at test
  refine ⟨lt_nextId_of_row found, fun other isOther => ?_⟩
  cases found.symm.trans isOther
  exact Prod.ext test.1.1 test.2

/-- The folders of an operator are on its shelf. -/
theorem isFolder_of_mem_folders (sound : CatalogSound db) {operatorId : Nat}
    (operator : IsFolder resellerId catalogType db operatorId)
    (member : id ∈ subcategoriesOf operatorId db) :
    IsFolder resellerId catalogType db id := by
  obtain ⟨folder, found, inside⟩ := mem_idsWhere.mp member
  obtain ⟨row, isRow, same⟩ :=
    sound.folders id folder operatorId found (of_decide_eq_true inside)
  refine ⟨lt_nextId_of_row found, fun other isOther => ?_⟩
  cases found.symm.trans isOther
  exact same.trans (operator.shelf row isRow)

/-- The packages that are listed for a folder are on offer. -/
theorem isOffered_of_mem_packages (sound : CatalogSound db)
    {categoryId : Nat}
    (isFolder : IsFolder resellerId catalogType db categoryId)
    (member : id ∈ activePackagesOf categoryId db) :
    IsOffered resellerId catalogType db id := by
  obtain ⟨package, found, test⟩ := mem_idsWhere.mp member
  simp only [Bool.and_eq_true, decide_eq_true_eq] at test
  obtain ⟨rfl, isActive⟩ := test
  obtain ⟨folder, isRow, same⟩ := sound.packages id package found
  have shelf := isFolder.shelf folder isRow
  refine ⟨lt_nextId_of_row found, fun other isOther => ?_⟩
  cases found.symm.trans isOther
  exact ⟨isActive, same.symm.trans (congrArg Prod.fst shelf), isFolder⟩

/-- The labels of a listing stand for its rows. -/
theorem mem_rows_of_labelMap {listing : Listing} {text : String}
    (label : (text, id) ∈ listing.labelMap db) : id ∈ listing.rows db := by
  rw [Listing.labelMap_eq] at label
  exact (Listing.mem_labelMap.mp label).1

end Listings

section Browsing

variable {shop : Shop} {db : Db}
variable {before after : Conversation ShopState ShopData}

theorem showsOffers_empty : ShowsOffers shop.resellerId db { data := ∅ } where
  operators catalogType _ _ _ label := by cases catalogType <;> cases label
  folders catalogType _ _ _ label := by cases catalogType <;> cases label
  packages _ _ onScreen := absurd onScreen not_onScreen_empty

/-- Other listings are shown in other states. -/
theorem eq_operators_of_state {listing : Listing} {catalogType : CatalogType}
    {other : Nat}
    (same : (Listing.operators catalogType other).state = listing.state) :
    ∃ resellerId, listing = .operators catalogType resellerId := by
  rcases listing with ⟨listed, id⟩ | ⟨listed, id⟩ | ⟨listed, id⟩ <;>
    cases catalogType <;> cases listed <;>
      first | exact ⟨id, rfl⟩ | cases same

theorem eq_folders_of_state {listing : Listing} {catalogType : CatalogType}
    {other : Nat}
    (same : (Listing.folders catalogType other).state = listing.state) :
    ∃ operatorId, listing = .folders catalogType operatorId := by
  rcases listing with ⟨listed, id⟩ | ⟨listed, id⟩ | ⟨listed, id⟩ <;>
    cases catalogType <;> cases listed <;>
      first | exact ⟨id, rfl⟩ | cases same

/-- A listing with a package on the screen is one of packages, and none has
been picked. -/
theorem eq_packages_of_screen {listing : Listing} {catalogType : CatalogType}
    (member : listing.state ∈ screenStates catalogType) :
    (∃ categoryId, listing = .packages catalogType categoryId) ∧
      listing.state ∉ [pickedState catalogType, buyingState catalogType] := by
  rcases listing with ⟨listed, id⟩ | ⟨listed, id⟩ | ⟨listed, id⟩ <;>
    cases catalogType <;> cases listed <;>
      simp [screenStates, listedState, pickedState, buyingState,
        Listing.state] at member ⊢

/-- A listing that a customer has come to shows what is on offer. -/
theorem showsOffers_listing {listing : Listing} (sound : CatalogSound db)
    (shows : ShowsOffers shop.resellerId db before)
    (reached : listing.IsReached shop before.data) :
    ShowsOffers shop.resellerId db (listing.conversation db before.data) := by
  constructor
  · intro catalogType other text id label
    rw [Listing.conversation, Listing.labels_remember] at label
    split at label
    · obtain ⟨resellerId, rfl⟩ := eq_operators_of_state ‹_›
      cases (show resellerId = shop.resellerId from reached)
      exact isFolder_of_mem_operators (mem_rows_of_labelMap label)
    · exact shows.operators catalogType other text id label
  · intro catalogType other text id label
    rw [Listing.conversation, Listing.labels_remember] at label
    split at label
    · obtain ⟨operatorId, rfl⟩ := eq_folders_of_state ‹_›
      obtain ⟨resellerId, name, button⟩ := reached
      have operator :=
        shows.operators catalogType resellerId name operatorId button
      exact isFolder_of_mem_folders sound operator
        (mem_rows_of_labelMap label)
    · exact shows.folders catalogType other text id label
  · intro catalogType id onScreen
    have isScreen : listing.state ∈ screenStates catalogType := by
      obtain ⟨state, member, isState⟩ := onScreen.exists_state
      cases isState
      exact member
    obtain ⟨⟨categoryId, rfl⟩, notPicked⟩ := eq_packages_of_screen isScreen
    cases onScreen with
    | listed _ label =>
        rw [Listing.conversation, Listing.labels_remember,
          if_pos (by cases catalogType <;> rfl)] at label
        obtain ⟨operatorId, name, button⟩ := reached
        have folder :=
          shows.folders catalogType operatorId name categoryId button
        exact isOffered_of_mem_packages sound folder
          (mem_rows_of_labelMap label)
    | picked isState _ =>
        obtain ⟨state, member, same⟩ := isState
        cases same
        exact absurd member notPicked

theorem labels_pick (listing : Listing) {catalogType : CatalogType} {id : Nat}
    (data : ShopData) :
    listing.labels (pick catalogType id data) = listing.labels data := by
  rcases listing with listed | listed | listed <;>
    cases listed <;> cases catalogType <;> rfl

theorem pickedId_pick (catalogType : CatalogType) (id : Nat)
    (data : ShopData) :
    pickedId catalogType (pick catalogType id data) = some id := by
  cases catalogType <;> rfl

/-- A step of browsing shows what is on offer. -/
theorem showsOffers_of_browses (sound : CatalogSound db)
    (shows : ShowsOffers shop.resellerId db before)
    (browses : Browses shop db before after) :
    ShowsOffers shop.resellerId db after := by
  cases browses with
  | stays => exact shows
  | clears => exact showsOffers_empty
  | moves fewer =>
      exact
        { operators := shows.operators
          folders := shows.folders
          packages := fun catalogType id onScreen =>
            shows.packages catalogType id (fewer catalogType id onScreen) }
  | lists reached => exact showsOffers_listing sound shows reached
  | @picks catalogType id onScreen =>
      constructor
      · intro other resellerId text key label
        rw [labels_pick] at label
        exact shows.operators other resellerId text key label
      · intro other operatorId text key label
        rw [labels_pick] at label
        exact shows.folders other operatorId text key label
      · intro other key screen
        obtain ⟨state, member, isState⟩ := screen.exists_state
        cases isState
        have isPicked : pickedState catalogType ∈ screenStates catalogType := by
          simp [screenStates]
        cases screenStates_disjoint isPicked member
        apply shows.packages
        cases screen with
        | listed _ label =>
            rw [labels_pick] at label
            exact .listed onScreen.exists_state label
        | picked _ found =>
            cases (pickedId_pick catalogType id before.data).symm.trans found
            exact onScreen

/-- The other handlers show nothing new. -/
theorem showsOffers_of_continues
    (shows : ShowsOffers shop.resellerId db before)
    (continues : besidesBrowsing.Continues before after) :
    ShowsOffers shop.resellerId db after := by
  have packages : ∀ catalogType id, OnScreen catalogType after id →
      IsOffered shop.resellerId catalogType db id :=
    fun catalogType id onScreen =>
      shows.packages catalogType id (onScreen_of_continues continues onScreen)
  obtain ⟨start, rfl | rfl, -, same⟩ := continues
  · constructor
    · intro catalogType other text id label
      rw [labels_of_others same] at label
      exact shows.operators catalogType other text id label
    · intro catalogType other text id label
      rw [labels_of_others same] at label
      exact shows.folders catalogType other text id label
    · exact packages
  · constructor
    · intro catalogType other text id label
      rw [labels_of_others same] at label
      exact (@showsOffers_empty shop db).operators catalogType other text id
        label
    · intro catalogType other text id label
      rw [labels_of_others same] at label
      exact (@showsOffers_empty shop db).folders catalogType other text id
        label
    · exact packages

end Browsing

section Handlers

variable {shop : Shop} {isOwner : Int → Bool} {handler : ShopHandler}
variable {visit : Visit ShopState ShopData} {update : Update}

/-- What is on offer stays in shape, and the conversation shows what is. -/
theorem showsOffers_handler (member : handler ∈ handlers shop isOwner)
    (takes : handler.takes visit.conversation.state update = true)
    (puts : ResellerCatalog.PutsRight shop visit update)
    (unseen : ∀ packageId, ResellerCatalog.Switches update packageId →
      ∀ catalogType, ¬ OnScreen catalogType visit.conversation packageId)
    (sound : CatalogSound visit.platform.db)
    (shows : ShowsOffers shop.resellerId visit.platform.db
      visit.conversation) :
    let after := ((handler.action update).runOn visit).2
    CatalogSound after.platform.db ∧
      CatalogStays (ResellerCatalog.Switches update) visit.platform.db
        after.platform.db ∧
      ShowsOffers shop.resellerId after.platform.db after.conversation := by
  obtain ⟨stillSound, stays⟩ :=
    ResellerCatalog.keepsCatalog_handler member takes puts sound
  refine ⟨stillSound, stays, ?_⟩
  rcases browsing_or_admits shop isOwner handler member with browses | rest
  · have step := takesStep_of_mem browses takes
    rw [step.platform]
    exact showsOffers_of_browses sound shows step.conversation
  · have continues := (rest update visit).conversation
    apply (showsOffers_of_continues shows continues).of_stays stays
    intro catalogType packageId onScreen isSwitched
    exact unseen packageId isSwitched catalogType
      (onScreen_of_continues continues onScreen)

end Handlers

/-- The same, whether a handler takes the update or none. -/
theorem ShopWorld.showsOffers_handle {world : ShopWorld} {shop : Shop}
    {update : Update}
    (puts : ResellerCatalog.PutsRight shop
      ⟨world.platform, world.conversationOf update⟩ update)
    (unseen : ∀ packageId, ResellerCatalog.Switches update packageId →
      ∀ catalogType,
        ¬ OnScreen catalogType (world.conversationOf update) packageId)
    (sound : CatalogSound world.platform.db)
    (shows : ShowsOffers shop.resellerId world.platform.db
      (world.conversationOf update)) :
    let after := world.handle shop update
    CatalogSound after.platform.db ∧
      CatalogStays (ResellerCatalog.Switches update) world.platform.db
        after.platform.db ∧
      ShowsOffers shop.resellerId after.platform.db
        (after.conversationOf update) := by
  rw [handle]
  cases found : Handler.dispatch (handlers shop fun userId =>
      isResellerOwner shop.resellerId userId world.platform.db)
      (world.conversationOf update).state update with
  | none =>
      rw [BotWorld.receive_of_none found]
      exact ⟨sound, .refl _, shows⟩
  | some script =>
      obtain ⟨handler, member, takes, rfl⟩ := Handler.exists_of_dispatch found
      have stepped :=
        showsOffers_handler member takes puts unseen sound shows
      rw [← BotWorld.visit_receive found] at stepped
      exact stepped

namespace ShopsWorld

/-- All customers are shown what is on offer. -/
structure OnOffer (world : ShopsWorld) : Prop where
  sound : CatalogSound world.platform.db
  shows : ∀ resellerId key, ShowsOffers resellerId world.platform.db
    (world.conversations resellerId key)

/-- A new row of the catalog goes where it should, and no package is switched
that a customer has on the screen. -/
structure LeavesOffers (world : ShopsWorld) (received : ShopUpdate) :
    Prop where
  puts : ResellerCatalog.PutsRight received.shop
    ⟨world.platform,
      (world.bot received.shop.resellerId).conversationOf received.update⟩
    received.update
  unseen : ∀ packageId,
    ResellerCatalog.Switches received.update packageId →
      ∀ resellerId key catalogType,
        ¬ OnScreen catalogType (world.conversations resellerId key) packageId

variable {world : ShopsWorld} {received : ShopUpdate}

theorem platform_step :
    (world.step received).platform =
      ((world.bot received.shop.resellerId).handle received.shop
        received.update).platform :=
  rfl

theorem conversations_step_self :
    (world.step received).conversations received.shop.resellerId =
      ((world.bot received.shop.resellerId).handle received.shop
        received.update).conversations :=
  Function.update_self _ _ _

theorem conversations_step_of_ne {resellerId : Nat}
    (other : resellerId ≠ received.shop.resellerId) :
    (world.step received).conversations resellerId =
      world.conversations resellerId :=
  Function.update_of_ne other _ _

theorem onOffer_step (onOffer : world.OnOffer)
    (leaves : world.LeavesOffers received) :
    (world.step received).OnOffer := by
  obtain ⟨sound, stays, here⟩ :=
    (world.bot received.shop.resellerId).showsOffers_handle leaves.puts
      (fun packageId isSwitched => leaves.unseen packageId isSwitched _ _)
      onOffer.sound (onOffer.shows _ _)
  refine ⟨sound, fun resellerId key => ?_⟩
  have elsewhere : ShowsOffers resellerId (world.step received).platform.db
      (world.conversations resellerId key) := by
    apply (onOffer.shows resellerId key).of_stays stays
    intro catalogType packageId onScreen isSwitched
    exact leaves.unseen packageId isSwitched resellerId key catalogType
      onScreen
  by_cases sameShop : resellerId = received.shop.resellerId
  · subst sameShop
    rw [conversations_step_self]
    by_cases sameChat : key = (received.update.chat, received.update.sender)
    · rw [sameChat]
      exact here
    · rw [ShopWorld.handle, BotWorld.conversations_receive_of_ne sameChat]
      exact elsewhere
  · rw [conversations_step_of_ne sameShop]
    exact elsewhere

end ShopsWorld

end Baste
