import Baste.ShopRuns

/-!
# The buttons with which customers browse

A customer finds operators, their folders and the packages in these on
keyboards.  What the bot gets back is the text of a button, and a map from
these texts to ids tells it what has been chosen.
-/

namespace Baste

namespace ShopBot

open BotScripts Database

/-- The six listings of the catalog. -/
inductive Listing where
  | operators (catalogType : CatalogType) (resellerId : Nat)
  | folders (catalogType : CatalogType) (operatorId : Nat)
  | packages (catalogType : CatalogType) (categoryId : Nat)
  deriving DecidableEq

namespace Listing

/-- The rows that are listed. -/
def rows : Listing → Db → List Nat
  | operators catalogType resellerId, db =>
      operatorsOf resellerId catalogType db
  | folders _ operatorId, db => subcategoriesOf operatorId db
  | packages _ categoryId, db => activePackagesOf categoryId db

/-- The icon of a package. -/
def icon : CatalogType → String
  | .package => "📦"
  | .charge => "🔋"

def labelMap : Listing → Db → LabelMap
  | operators catalogType resellerId, db =>
      operatorLabels (operatorsOf resellerId catalogType db) db
  | folders _ operatorId, db =>
      subcategoryLabels (subcategoriesOf operatorId db) db
  | packages catalogType categoryId, db =>
      packageLabels (icon catalogType) (activePackagesOf categoryId db) db

/-- The text of the button of a row. -/
def button : Listing → Db → Nat → Option String
  | operators _ _, db, id => (db.row .categories id).map fun category =>
      s!"📁 {category.operatorName}"
  | folders _ _, db, id => (db.row .categories id).map fun category =>
      s!"📂 {category.title}"
  | packages catalogType _, db, id => (db.row .packages id).map fun package =>
      s!"{icon catalogType} {package.name} — {formatAmount package.salePrice} تومان"

/-- What tells a row from others on its button: its name, and for a package
also its price as it is shown. -/
def shownAs : Listing → Db → Nat → Option (String × Option String)
  | operators _ _, db, id => (db.row .categories id).map fun category =>
      (category.operatorName, none)
  | folders _ _, db, id => (db.row .categories id).map fun category =>
      (category.title, none)
  | packages _ _, db, id => (db.row .packages id).map fun package =>
      (package.name, some (formatAmount package.salePrice))

/-- No two listed rows have the same name and, if they are packages, the same
price as it is shown. -/
def Distinct (listing : Listing) (db : Db) : Prop :=
  ∀ first ∈ listing.rows db, ∀ second ∈ listing.rows db,
    listing.shownAs db first = listing.shownAs db second → first = second

theorem labelMap_eq (listing : Listing) (db : Db) :
    listing.labelMap db =
      ShopBot.labelMap (listing.rows db) (listing.button db) := by
  cases listing <;> rfl

/-- The state in which the buttons of a listing are shown. -/
def state : Listing → ShopState
  | operators .package _ => .browsingOperators
  | operators .charge _ => .browsingChargeOperators
  | folders .package _ => .browsingSubcategories
  | folders .charge _ => .browsingChargeSubcategories
  | packages .package _ => .browsingPackages
  | packages .charge _ => .browsingChargeProducts

/-- The text of the button that leads back. -/
def back : Listing → String
  | operators _ _ => customerBackToMenuButtonText
  | _ => customerBackButtonText

/-- Where the data of a conversation keep the labels. -/
def labels : Listing → ShopData → LabelMap
  | operators .package _ => (·.operatorMap)
  | operators .charge _ => (·.chargeOperatorMap)
  | folders .package _ => (·.subcategoryMap)
  | folders .charge _ => (·.chargeSubcategoryMap)
  | packages .package _ => (·.packageMap)
  | packages .charge _ => (·.chargeProductMap)

/-- The handler that takes the texts of the buttons. -/
def handler (shop : Shop) : Listing → ShopHandler
  | operators .package _ => CustomerOrders.handleOperatorPick
  | operators .charge _ => CustomerCharge.handleChargeOperatorPick
  | folders .package _ => CustomerOrders.handleSubcategoryPick shop
  | folders .charge _ => CustomerCharge.handleChargeSubcategoryPick
  | packages .package _ => CustomerOrders.handlePackagePick
  | packages .charge _ => CustomerCharge.handleChargeProductPick

/-- What becomes of a row that has been chosen: an operator's folders or a
folder's packages are listed, and a package is kept as the one to buy. -/
def choose : Listing → Nat → ShopScript Unit
  | operators .package _, operatorId => do
      let subcategories ← query (subcategoriesOf operatorId)
      if subcategories ≠ [] then
        let subcategoryMap ← query (subcategoryLabels subcategories)
        setState .browsingSubcategories
        updateData ({ · with subcategoryMap := subcategoryMap })
  | operators .charge _, operatorId => do
      let subcategories ← query (subcategoriesOf operatorId)
      if subcategories ≠ [] then
        let subcategoryMap ← query (subcategoryLabels subcategories)
        setState .browsingChargeSubcategories
        updateData ({ · with chargeSubcategoryMap := subcategoryMap })
  | folders .package _, categoryId => do
      let packages ← query (activePackagesOf categoryId)
      if packages ≠ [] then
        let packageMap ← query (packageLabels "📦" packages)
        updateData ({ · with packageMap := packageMap })
        setState .browsingPackages
  | folders .charge _, categoryId => do
      let products ← query (activePackagesOf categoryId)
      if products ≠ [] then
        let productMap ← query (packageLabels "🔋" products)
        updateData ({ · with chargeProductMap := productMap })
        setState .browsingChargeProducts
  | packages .package _, packageId => do
      if ← query (isListed packageId) then
        setState .packageSelected
        updateData ({ · with selectedPackageId := some packageId })
  | packages .charge _, packageId => do
      if ← query (isListed packageId) then
        setState .productSelected
        updateData ({ · with selectedChargePackageId := some packageId })

section Labels

/-- A label that stands for one id leads to it. -/
theorem get_eq_of_unique {labels : LabelMap} {text : String} {id : Nat}
    (listed : (text, id) ∈ labels)
    (unique : ∀ other, (text, other) ∈ labels → other = id) :
    labels.get (some text) = some id := by
  have inReverse : (text, id) ∈ labels.reverse := List.mem_reverse.mpr listed
  have uniqueInReverse : ∀ other, (text, other) ∈ labels.reverse →
      other = id :=
    fun other member => unique other (List.mem_reverse.mp member)
  change labels.reverse.lookup text = some id
  generalize labels.reverse = entries at inReverse uniqueInReverse
  induction entries with
  | nil => cases inReverse
  | cons entry entries ih =>
      obtain ⟨label, target⟩ := entry
      rw [List.lookup_cons]
      by_cases same : text = label
      · subst same
        rw [beq_self_eq_true]
        exact congrArg some (uniqueInReverse target List.mem_cons_self)
      · rw [beq_false_of_ne same]
        apply ih
        · rcases List.mem_cons.mp inReverse with isEntry | later
          · exact absurd (congrArg Prod.fst isEntry) same
          · exact later
        · exact fun other member =>
            uniqueInReverse other (List.mem_cons_of_mem _ member)

theorem mem_labelMap {ids : List Nat} {label : Nat → Option String}
    {text : String} {id : Nat} :
    (text, id) ∈ ShopBot.labelMap ids label ↔
      id ∈ ids ∧ label id = some text := by
  rw [ShopBot.labelMap, List.mem_filterMap]
  constructor
  · rintro ⟨other, member, labelled⟩
    obtain ⟨found, isLabel, pair⟩ := Option.map_eq_some_iff.mp labelled
    cases pair
    exact ⟨member, isLabel⟩
  · rintro ⟨member, isLabel⟩
    exact ⟨id, member, by rw [isLabel]; rfl⟩

/-- The last of two lists that are joined by a character is found again. -/
theorem append_cons_inj {separator : Char} {first second : List Char}
    (notFirst : separator ∉ first) (notSecond : separator ∉ second) :
    ∀ {before after : List Char},
      before ++ separator :: first = after ++ separator :: second →
        before = after ∧ first = second
  | [], [], same => ⟨rfl, (List.cons.inj same).2⟩
  | [], char :: after, same => by
      obtain ⟨rfl, rest⟩ := List.cons.inj same
      exact absurd (rest ▸ List.mem_append_right after List.mem_cons_self)
        notFirst
  | char :: before, [], same => by
      obtain ⟨rfl, rest⟩ := List.cons.inj same
      exact absurd (rest ▸ List.mem_append_right before List.mem_cons_self)
        notSecond
  | char :: before, other :: after, same => by
      obtain ⟨rfl, rest⟩ := List.cons.inj same
      obtain ⟨rfl, sameLast⟩ := append_cons_inj notFirst notSecond rest
      exact ⟨rfl, sameLast⟩

/-- Digits in groups are digits and commas. -/
theorem mem_group {char : Char} (digits : List Char)
    (member : char ∈ groupThousands.group digits) :
    char ∈ digits ∨ char = ',' := by
  fun_induction groupThousands.group digits with
  | case1 first second third fourth rest ih =>
      simp only [List.mem_cons] at member ih ⊢
      tauto
  | case2 digits notLong => exact .inl member

/-- An amount is shown without spaces. -/
theorem space_notMem_formatAmount (cents : Cents) :
    ' ' ∉ (formatAmount cents).toList := by
  have noSign : ' ' ∉ (if cents < 0 then "-" else "").toList := by
    split <;> decide
  have noDigit : ∀ number : Nat, ' ' ∉ (groupThousands number).toList := by
    intro number member
    rw [groupThousands, String.toList_ofList, List.mem_reverse] at member
    rcases mem_group _ member with isDigit | isComma
    · have digit := Nat.isDigit_of_mem_toDigits (by omega) (by omega)
        (List.mem_reverse.mp isDigit)
      exact absurd digit (by decide)
    · exact absurd isComma (by decide)
  unfold formatAmount
  simp only [toString, String.toList_append, List.mem_append, not_or]
  exact ⟨noSign, noDigit _⟩

end Labels

/-- The buttons of a listing are shown. -/
def Shown (listing : Listing) (db : Db)
    (conversation : Conversation ShopState ShopData) : Prop :=
  conversation.state = some listing.state ∧
    listing.labels conversation.data = listing.labelMap db

/-- Every row of a listing can be chosen: what its button sends leads to this
row, whatever has happened since it was shown, and to no other one. -/
structure SelectsEach (listing : Listing) (db : Db) : Prop where
  found : ∀ id ∈ listing.rows db, ∀ text, listing.button db id = some text →
    (listing.labelMap db).get (some text) = some id
  apart : ∀ id ∈ listing.rows db, listing.button db id ≠ some listing.back
  handled : ∀ id ∈ listing.rows db, ∀ text,
    listing.button db id = some text →
      ∀ (shop : Shop) (isOwner : Int → Bool) (message : Message)
        (visit : Visit ShopState ShopData),
        listing.Shown db visit.conversation → message.text = some text →
          ∃ script, Handler.dispatch (handlers shop isOwner)
              visit.conversation.state (.message message) = some script ∧
            script.runOn visit = (listing.choose id).runOn visit

section Dispatch

variable {listing : Listing} {shop : Shop} {isOwner : Int → Bool}
variable {message : Message} {text : String}

/-- The characters with which the texts of the buttons begin. -/
def icons : List Char :=
  ['📁', '📂', '📦', '🔋']

theorem forall_icons {holds : Char → Prop}
    (all : holds '📁' ∧ holds '📂' ∧ holds '📦' ∧ holds '🔋') :
    ∀ icon ∈ icons, holds icon := by
  simpa only [icons, List.forall_mem_cons, List.not_mem_nil, false_imp_iff,
    implies_true, and_true] using all

/-- The text begins with an icon, and it is no button of the menu. -/
structure IsButtonText (text : String) : Prop where
  icon : ∃ icon ∈ icons, ∃ rest, text.toList = icon :: rest
  noMenu : text ≠ customerChargeButtonText

/-- A text that begins with another character is not sent by a button. -/
theorem IsButtonText.ne (isButton : IsButtonText text) {other : String}
    (begins : ∀ icon ∈ icons, other.toList.head? ≠ some icon) :
    text ≠ other := by
  rintro rfl
  obtain ⟨icon, isIcon, rest, isText⟩ := isButton.icon
  apply begins icon isIcon
  rw [isText, List.head?_cons]

theorem not_textIs {menu : String} (isText : message.text = some text)
    (other : text ≠ menu) (state : Option ShopState) :
    textIs menu state message = false := by
  rw [textIs, isText, decide_eq_false_iff_not]
  exact fun same => other (Option.some.inj same)

theorem not_textStarts (isText : message.text = some text)
    (isButton : IsButtonText text) (state : Option ShopState) :
    textStarts "/start" state message = false := by
  obtain ⟨icon, isIcon, rest, begins⟩ := isButton.icon
  have other : ∀ icon ∈ icons, ('/' == icon) = false :=
    forall_icons (by decide)
  rw [textStarts, isText, Option.any_some, begins]
  change ('/' == icon && _) = false
  rw [other icon isIcon, Bool.false_and]

theorem not_isPendingOrders (isText : message.text = some text)
    (isButton : IsButtonText text) (state : Option ShopState) :
    OperatorOrders.isPendingOrders shop state message = false := by
  obtain ⟨icon, isIcon, rest, begins⟩ := isButton.icon
  have ordinary : ∀ icon ∈ icons, ChargeService.isSpace icon = false ∧
      icon ≠ '@' ∧ icon ≠ '/' :=
    forall_icons (by decide)
  obtain ⟨notSpace, notAt, notSlash⟩ := ordinary icon isIcon
  unfold OperatorOrders.isPendingOrders
  dsimp only
  rw [isText, Option.getD_some, begins,
    List.dropWhile_cons_of_neg (by simp [notSpace]),
    List.takeWhile_cons_of_pos (by simp [notSpace]),
    List.takeWhile_cons_of_pos (by simp [notAt])]
  have otherName : ∀ name : List Char,
      icon :: name ≠ "/pending_orders".toList :=
    fun name same => notSlash (List.cons.inj same).1
  rw [decide_eq_false (otherName _), Bool.false_and]

/-- While a customer browses, no handler of the staff takes what a button
sends. -/
theorem dispatch_staff (isText : message.text = some text)
    (isButton : IsButtonText text) :
    Handler.dispatch (ResellerStart.router isOwner ++
        (ResellerOrders.router shop ++ ResellerCatalog.router shop ++
          ResellerChargeStock.router shop ++ ResellerWallet.router shop ++
          ResellerSettings.router shop ++ ResellerReports.router ++
          ResellerStats.router ++ ResellerPaymentMethods.router shop) ++
        OperatorOrders.router shop) (some listing.state)
        (.message message) = none := by
  have commands : Handler.dispatch (ResellerStart.router isOwner)
      (some listing.state) (.message message) = none := by
    have notCancel : text ≠ "/cancel" := isButton.ne (forall_icons (by decide))
    rw [Handler.dispatch_eq_none_iff]
    simp only [ResellerStart.router, List.forall_mem_cons]
    refine ⟨?_, ?_, rfl, fun _ member => by cases member⟩
    · change (textStarts "/start" _ message && _) = false
      rw [not_textStarts isText isButton, Bool.false_and]
    · change (textIs "/cancel" _ message && _) = false
      rw [not_textIs isText notCancel, Bool.false_and]
  have dialogues : Handler.dispatch
      (ResellerOrders.router shop ++ ResellerCatalog.router shop ++
          ResellerChargeStock.router shop ++ ResellerWallet.router shop ++
          ResellerSettings.router shop ++ ResellerReports.router ++
          ResellerStats.router ++ ResellerPaymentMethods.router shop)
      (some listing.state) (.message message) = none := by
    rcases listing with catalogType | catalogType | catalogType <;>
      cases catalogType <;> rfl
  rw [List.append_assoc, Handler.dispatch_append_of_none commands,
    Handler.dispatch_append_of_none dialogues]
  exact Handler.dispatch_cons_of_not_takes
    (not_isPendingOrders isText isButton (some listing.state))

/-- While a customer browses, what a button sends goes to the handler of the
listing. -/
theorem dispatch_browsing (isText : message.text = some text)
    (isButton : IsButtonText text) :
    Handler.dispatch (handlers shop isOwner) (some listing.state)
        (.message message) =
      some ((listing.handler shop).action (.message message)) := by
  have split : handlers shop isOwner =
      (ResellerStart.router isOwner ++
        (ResellerOrders.router shop ++ ResellerCatalog.router shop ++
          ResellerChargeStock.router shop ++ ResellerWallet.router shop ++
          ResellerSettings.router shop ++ ResellerReports.router ++
          ResellerStats.router ++ ResellerPaymentMethods.router shop) ++
        OperatorOrders.router shop) ++
        (CustomerOrders.router shop ++
          (CustomerCharge.router shop ++ CustomerWallet.router shop)) :=
    rfl
  have orders : Handler.dispatch (CustomerOrders.router shop)
      (some listing.state) (.message message) =
        Handler.dispatch ((CustomerOrders.router shop).drop 4)
          (some listing.state) (.message message) := by
    have notCancel : text ≠ "/cancel" := isButton.ne (forall_icons (by decide))
    have notSupport : text ≠ customerSupportButtonText :=
      isButton.ne (forall_icons (by decide))
    have notCatalog : text ≠ customerCatalogButtonText :=
      isButton.ne (forall_icons (by decide))
    have passes (menu : String) (other : text ≠ menu) :
        textIs menu (some listing.state) message = false :=
      not_textIs isText other _
    rw [CustomerOrders.router,
      Handler.dispatch_cons_of_not_takes (passes "/cancel" notCancel),
      Handler.dispatch_cons_of_not_takes
        (not_textStarts isText isButton (some listing.state)),
      Handler.dispatch_cons_of_not_takes (passes _ notSupport),
      Handler.dispatch_cons_of_not_takes (passes _ notCatalog)]
    rfl
  have charges : Handler.dispatch (CustomerCharge.router shop)
      (some listing.state) (.message message) =
        Handler.dispatch ((CustomerCharge.router shop).drop 1)
          (some listing.state) (.message message) :=
    Handler.dispatch_cons_of_not_takes
      (not_textIs isText isButton.noMenu (some listing.state))
  rw [split, Handler.dispatch_append_of_none (dispatch_staff isText isButton)]
  rcases listing with catalogType | catalogType | catalogType <;>
    cases catalogType
  all_goals
    first
    | exact Handler.dispatch_append_of_some (orders.trans rfl)
    | rw [Handler.dispatch_append_of_none (orders.trans rfl)]
      exact Handler.dispatch_append_of_some (charges.trans rfl)

end Dispatch

section Buttons

variable {listing : Listing} {db : Db} {id first second : Nat} {text : String}

/-- The text of a button of a folder. -/
theorem toList_folder (icon name : String) :
    (toString s!"{icon} " ++ toString name).toList =
      icon.toList ++ ' ' :: name.toList := by
  simp [toString]

/-- The text of the button of a package. -/
theorem toList_package (icon name amount : String) :
    s!"{icon} {name} — {amount} تومان".toList =
      icon.toList ++ ' ' :: (name.toList ++ " —".toList ++
        ' ' :: amount.toList ++ " تومان".toList) := by
  simp [toString]

theorem isButtonText_of_begins {icon : Char} {rest : List Char}
    (isIcon : icon ∈ icons) (isText : text.toList = icon :: rest)
    (noMenu : icon ≠ '🔋' ∨ text.toList.getLast? ≠ some 'ژ') :
    IsButtonText text where
  icon := ⟨icon, isIcon, rest, isText⟩
  noMenu := by
    rintro rfl
    rcases noMenu with otherIcon | otherEnd
    · exact otherIcon (List.cons.inj isText).1.symm
    · exact otherEnd (by decide)

/-- What buttons send begins with an icon. -/
theorem isButtonText_button (isText : listing.button db id = some text) :
    IsButtonText text := by
  cases listing with
  | operators =>
      obtain ⟨category, -, rfl⟩ := Option.map_eq_some_iff.mp isText
      exact isButtonText_of_begins (by decide)
        (toList_folder "📁" category.operatorName) (.inl (by decide))
  | folders =>
      obtain ⟨category, -, rfl⟩ := Option.map_eq_some_iff.mp isText
      exact isButtonText_of_begins (by decide)
        (toList_folder "📂" category.title) (.inl (by decide))
  | packages catalogType =>
      obtain ⟨package, -, rfl⟩ := Option.map_eq_some_iff.mp isText
      have isList := toList_package (icon catalogType) package.name
        (formatAmount package.salePrice)
      have ends : " تومان".toList.getLast? = some 'ن' := by decide
      cases catalogType with
      | package =>
          exact isButtonText_of_begins (by decide) isList (.inl (by decide))
      | charge =>
          refine isButtonText_of_begins (by decide) isList (.inr ?_)
          rw [isList, ← List.cons_append, ← List.append_assoc,
            List.getLast?_append, ends, Option.some_or]
          decide

theorem map_eq_map_iff {Row Text Name : Type} {toText : Row → Text}
    {toName : Row → Name}
    (same : ∀ row other, toText row = toText other ↔
      toName row = toName other) (row other : Option Row) :
    row.map toText = other.map toText ↔
      row.map toName = other.map toName := by
  cases row <;> cases other <;>
    simp only [Option.map_none, Option.map_some, Option.some.injEq, same,
      reduceCtorEq]

theorem folder_eq_iff (icon name other : String) :
    toString s!"{icon} " ++ toString name =
        toString s!"{icon} " ++ toString other ↔ name = other := by
  constructor
  · intro same
    have sameList := congrArg String.toList same
    rw [toList_folder, toList_folder] at sameList
    have sameRest := List.append_cancel_left sameList
    exact String.toList_injective (List.cons.inj sameRest).2
  · rintro rfl
    rfl

theorem package_eq_iff (icon : String) (row other : PackageRow) :
    s!"{icon} {row.name} — {formatAmount row.salePrice} تومان" =
        s!"{icon} {other.name} — {formatAmount other.salePrice} تومان" ↔
      (row.name, some (formatAmount row.salePrice)) =
        (other.name, some (formatAmount other.salePrice)) := by
  constructor
  · intro same
    have sameList := congrArg String.toList same
    rw [toList_package, toList_package] at sameList
    have sameRest :=
      (List.cons.inj (List.append_cancel_left sameList)).2
    obtain ⟨sameName, sameAmount⟩ := append_cons_inj
      (space_notMem_formatAmount _) (space_notMem_formatAmount _)
      (List.append_cancel_right sameRest)
    rw [String.toList_injective (List.append_cancel_right sameName),
      String.toList_injective sameAmount]
  · intro same
    obtain ⟨sameName, sameAmount⟩ := Prod.mk.inj same
    rw [sameName, Option.some.inj sameAmount]

/-- Two buttons of a listing have the same text if and only if their rows are
shown alike. -/
theorem button_eq_iff :
    listing.button db first = listing.button db second ↔
      listing.shownAs db first = listing.shownAs db second := by
  cases listing with
  | operators =>
      apply map_eq_map_iff
      intro row other
      rw [Prod.mk.injEq, eq_self, and_true]
      exact folder_eq_iff "📁" row.operatorName other.operatorName
  | folders =>
      apply map_eq_map_iff
      intro row other
      rw [Prod.mk.injEq, eq_self, and_true]
      exact folder_eq_iff "📂" row.title other.title
  | packages => exact map_eq_map_iff (package_eq_iff _) _ _

/-- Every listed row has a button. -/
theorem exists_button (listed : id ∈ listing.rows db) :
    ∃ text, listing.button db id = some text := by
  cases listing <;>
    obtain ⟨row, found, -⟩ := mem_idsWhere.mp listed <;>
    exact ⟨_, congrArg (Option.map _) found⟩

/-- A button that leads to its row is what tells the row from the others. -/
theorem found_iff_distinct :
    (∀ id ∈ listing.rows db, ∀ text, listing.button db id = some text →
        (listing.labelMap db).get (some text) = some id) ↔
      listing.Distinct db := by
  rw [labelMap_eq]
  constructor
  · intro found first isFirst second isSecond same
    obtain ⟨text, isText⟩ := exists_button isFirst
    have alsoText : listing.button db second = some text := by
      rw [← button_eq_iff.mpr same, isText]
    exact Option.some.inj ((found first isFirst text isText).symm.trans
      (found second isSecond text alsoText))
  · intro distinct id listed text isText
    apply get_eq_of_unique (mem_labelMap.mpr ⟨listed, isText⟩)
    intro other member
    obtain ⟨alsoListed, alsoText⟩ := mem_labelMap.mp member
    exact distinct other alsoListed id listed
      (button_eq_iff.mp (alsoText.trans isText.symm))

/-- A button whose text leads to a row chooses it. -/
theorem runOn_handler {shop : Shop} {message : Message}
    {visit : Visit ShopState ShopData} (isText : message.text = some text)
    (notBack : text ≠ listing.back)
    (found : (listing.labels visit.conversation.data).get (some text) =
      some id) :
    ((listing.handler shop).action (.message message)).runOn visit =
      (listing.choose id).runOn visit := by
  have other : ¬ message.text = some listing.back := by
    rw [isText]
    exact fun same => notBack (Option.some.inj same)
  have reads : ∀ next : ShopData → ShopScript Unit,
      (getData >>= next).runOn visit =
        (next visit.conversation.data).runOn visit :=
    fun _ => rfl
  rw [← isText] at found
  rcases listing with catalogType | catalogType | catalogType <;>
    cases catalogType
  all_goals
    refine (congrArg (Failing.runOn · visit) (if_neg other)).trans ?_
    refine (reads _).trans ?_
    dsimp only [labels] at found
    rw [found]
    rfl

end Buttons

/-- Every row of a listing can be chosen if and only if no two rows are shown
alike. -/
theorem selectsEach_iff (listing : Listing) (db : Db) :
    listing.SelectsEach db ↔ listing.Distinct db := by
  constructor
  · exact fun selects => found_iff_distinct.mp selects.found
  · intro distinct
    have found := found_iff_distinct.mpr distinct
    have notBack : ∀ id text, listing.button db id = some text →
        text ≠ listing.back := by
      intro id text isText
      apply (isButtonText_button isText).ne
      cases listing with
      | operators =>
          have begins : ∀ icon ∈ icons,
              customerBackToMenuButtonText.toList.head? ≠ some icon :=
            forall_icons (by decide)
          exact begins
      | folders | packages =>
          have begins : ∀ icon ∈ icons,
              customerBackButtonText.toList.head? ≠ some icon :=
            forall_icons (by decide)
          exact begins
    refine ⟨found, ?_, ?_⟩
    · exact fun id _ isBack => notBack id _ isBack rfl
    · intro id listed text isButton shop isOwner message visit shown isText
      obtain ⟨isState, isMap⟩ := shown
      refine ⟨(listing.handler shop).action (.message message), ?_, ?_⟩
      · rw [isState]
        exact dispatch_browsing isText (isButtonText_button isButton)
      · apply runOn_handler isText (notBack id text isButton)
        rw [isMap]
        exact found id listed text isButton

section Showing

/-- The data with other labels of the listing. -/
def remember : Listing → LabelMap → ShopData → ShopData
  | operators .package _, labels, data => { data with operatorMap := labels }
  | operators .charge _, labels, data =>
      { data with chargeOperatorMap := labels }
  | folders .package _, labels, data => { data with subcategoryMap := labels }
  | folders .charge _, labels, data =>
      { data with chargeSubcategoryMap := labels }
  | packages .package _, labels, data => { data with packageMap := labels }
  | packages .charge _, labels, data =>
      { data with chargeProductMap := labels }

/-- Only listings that are shown in the same state have the same labels. -/
theorem labels_remember (listing other : Listing) (labels : LabelMap)
    (data : ShopData) :
    other.labels (listing.remember labels data) =
      if other.state = listing.state then labels else other.labels data := by
  rcases listing with catalogType | catalogType | catalogType <;>
    cases catalogType <;>
      rcases other with otherType | otherType | otherType <;>
        cases otherType <;> rfl

/-- The conversation in which the buttons of a listing are shown. -/
def conversation (listing : Listing) (db : Db) (data : ShopData) :
    Conversation ShopState ShopData where
  state := some listing.state
  data := listing.remember (listing.labelMap db) data

/-- The script shows a listing, or it changes nothing. -/
def Lists (listing : Listing) (script : ShopScript Unit) : Prop :=
  ∀ visit : Visit ShopState ShopData,
    (script.runOn visit).2 = visit ∨
      (script.runOn visit).2 = ⟨visit.platform,
        listing.conversation visit.platform.db visit.conversation.data⟩

/-- The menu leads to the operators of the reseller. -/
theorem lists_showOperators (shop : Shop) :
    (operators .package shop.resellerId).Lists
      (CustomerOrders.showOperators shop) := by
  intro visit
  unfold CustomerOrders.showOperators
  rw [Failing.runOn_bind, runOn_query]
  dsimp only
  split
  · rw [Failing.runOn_bind, runOn_query]
    dsimp only
    split
    · exact .inr rfl
    · exact .inl rfl
  · exact .inl rfl

theorem lists_showChargeOperators (shop : Shop) :
    (operators .charge shop.resellerId).Lists
      (CustomerCharge.showOperators shop) := by
  intro visit
  unfold CustomerCharge.showOperators
  rw [Failing.runOn_bind, runOn_query]
  dsimp only
  split
  · rw [Failing.runOn_bind, runOn_query]
    dsimp only
    split
    · exact .inr rfl
    · exact .inl rfl
  · exact .inl rfl

/-- An operator leads to its folders. -/
theorem lists_choose_operator (catalogType : CatalogType)
    (resellerId operatorId : Nat) :
    (folders catalogType operatorId).Lists
      ((operators catalogType resellerId).choose operatorId) := by
  intro visit
  cases catalogType
  all_goals
    unfold choose
    rw [Failing.runOn_bind, runOn_query]
    dsimp only
    split
    · exact .inr rfl
    · exact .inl rfl

/-- A folder leads to its packages. -/
theorem lists_choose_folder (catalogType : CatalogType)
    (operatorId categoryId : Nat) :
    (packages catalogType categoryId).Lists
      ((folders catalogType operatorId).choose categoryId) := by
  intro visit
  cases catalogType
  all_goals
    unfold choose
    rw [Failing.runOn_bind, runOn_query]
    dsimp only
    split
    · exact .inr rfl
    · exact .inl rfl

end Showing

section Examples

/-- A folder with two packages of one name, the prices of which differ by
less than a unit. -/
def sameNamesDb : Db :=
  .filled fun
    | .resellers => [shopReseller]
    | .categories =>
        [{ resellerId := 1, operatorName := "Irancell", title := "Irancell" },
          { resellerId := 1, operatorName := "Irancell",
            parentCategoryId := some 1, title := "Daily" }]
    | .packages =>
        [{ shopPackage with categoryId := 2, salePrice := 100010 },
          { shopPackage with categoryId := 2, salePrice := 100040 }]
    | _ => []

/-- The button of the cheaper package sells the other one. -/
theorem same_button_selects_last :
    ¬ (packages .package 2).SelectsEach sameNamesDb := by
  intro selects
  have listed : 1 ∈ (packages .package 2).rows sameNamesDb := by
    decide +kernel
  have isText : (packages .package 2).button sameNamesDb 1 =
      some "📦 1 GB — 1,000 تومان" := by
    decide +kernel
  have leads : ((packages .package 2).labelMap sameNamesDb).get
      (some "📦 1 GB — 1,000 تومان") = some 2 := by
    decide +kernel
  cases (selects.found 1 listed _ isText).symm.trans leads

end Examples

end Listing

end ShopBot

end Baste
