import Baste.OrderOrigins

/-!
# Phone numbers

A line number is written with a leading zero, or with the code of the country
and one or two zeros before it.  The handlers bring a typed number into the
first form; a shared contact goes to the order as it comes.
-/

namespace Baste

open ShopBot.CustomerOrders

/-- The ten digits of a line number after its leading zero. -/
structure LineNumber where
  digits : List Char
  length_digits : digits.length = 10
  all_digits : ∀ char ∈ digits, isDigitChar char = true
  head?_digits : digits.head? = some '9'

namespace LineNumber

theorem ext {first second : LineNumber}
    (same : first.digits = second.digits) : first = second := by
  rcases first with ⟨digits, _, _, _⟩
  subst same
  rfl

/-- The form in which an order keeps the number. -/
def normal (number : LineNumber) : String :=
  String.ofList ('0' :: number.digits)

/-- The sequences of digits that spell the number. -/
def spellings (number : LineNumber) : List (List Char) :=
  ['0' :: number.digits, '9' :: '8' :: number.digits,
    '0' :: '0' :: '9' :: '8' :: number.digits]

theorem digits_eq_cons (number : LineNumber) :
    ∃ rest, number.digits = '9' :: rest ∧ rest.length = 9 := by
  obtain ⟨rest, same⟩ := List.head?_eq_some_iff.mp number.head?_digits
  have length := number.length_digits
  rw [same, List.length_cons] at length
  exact ⟨rest, same, by omega⟩

theorem normal_injective {first second : LineNumber}
    (same : first.normal = second.normal) : first = second := by
  have chars := congrArg String.toList same
  simp only [normal, String.toList_ofList, List.cons.injEq, true_and] at chars
  exact ext chars

end LineNumber

/-- The digits of a text, in order. -/
def typedDigits (raw : String) : List Char :=
  raw.toList.filter isDigitChar

section Normalizing

variable {raw other text : String} {number : LineNumber}

theorem all_typedDigits {char : Char} (member : char ∈ typedDigits raw) :
    isDigitChar char = true :=
  (List.mem_filter.mp member).2

/-- Eleven digits that begin with a zero and a nine are a number. -/
theorem exists_lineNumber {digits : List Char}
    (eleven : digits.length = 11)
    (starts : "09".toList.isPrefixOf digits = true)
    (all : ∀ char ∈ digits, isDigitChar char = true) :
    ∃ number : LineNumber, digits = '0' :: number.digits := by
  obtain ⟨rest, rfl⟩ := List.isPrefixOf_iff_prefix.mp starts
  have length : rest.length = 9 := by
    rw [List.length_append] at eleven
    change 2 + rest.length = 11 at eleven
    omega
  have digitsOfRest : ∀ char ∈ '9' :: rest, isDigitChar char = true :=
    fun char member => all char (List.mem_cons_of_mem _ member)
  exact ⟨⟨'9' :: rest, by rw [List.length_cons, length], digitsOfRest, rfl⟩,
    rfl⟩

/-- What is left of the typed digits without the code of the country. -/
def withoutCountry (typed : List Char) : List Char :=
  if "0098".toList.isPrefixOf typed then '0' :: typed.drop 4
  else if "98".toList.isPrefixOf typed && typed.length = 12 then
    '0' :: typed.drop 2
  else typed

theorem all_withoutCountry {typed : List Char}
    (all : ∀ char ∈ typed, isDigitChar char = true) :
    ∀ char ∈ withoutCountry typed, isDigitChar char = true := by
  have shortened : ∀ count, ∀ char ∈ '0' :: typed.drop count,
      isDigitChar char = true := by
    intro count char member
    rcases List.mem_cons.mp member with rfl | member
    · decide
    · exact all char (List.mem_of_mem_drop member)
  unfold withoutCountry
  split
  · exact shortened 4
  · split
    · exact shortened 2
    · exact all

theorem withoutCountry_of_mem_spellings {typed : List Char}
    (spells : typed ∈ number.spellings) :
    withoutCountry typed = '0' :: number.digits := by
  obtain ⟨rest, digits, length⟩ := number.digits_eq_cons
  simp only [LineNumber.spellings, List.mem_cons, List.not_mem_nil,
    or_false] at spells
  rcases spells with rfl | rfl | rfl
  · rw [digits]
    rfl
  · have twelve : ('9' :: '8' :: number.digits).length = 12 := by
      simp only [List.length_cons, number.length_digits]
    have notDouble :
        ¬ "0098".toList.isPrefixOf ('9' :: '8' :: number.digits) := by
      rintro ⟨⟩
    have country :
        "98".toList.isPrefixOf ('9' :: '8' :: number.digits) = true := rfl
    rw [withoutCountry, if_neg notDouble, country, twelve]
    rfl
  · rfl

/-- Digits that become a normal form spell its number. -/
theorem mem_spellings_of_withoutCountry {typed : List Char}
    (isNumber : withoutCountry typed = '0' :: number.digits) :
    typed ∈ number.spellings := by
  unfold withoutCountry at isNumber
  split at isNumber
  · rename_i double
    obtain ⟨rest, rfl⟩ := List.isPrefixOf_iff_prefix.mp double
    have same : rest = number.digits := (List.cons.inj isNumber).2
    rw [same]
    exact List.mem_of_getElem? (i := 2) rfl
  · split at isNumber
    · rename_i country
      rw [Bool.and_eq_true] at country
      obtain ⟨rest, rfl⟩ := List.isPrefixOf_iff_prefix.mp country.1
      have same : rest = number.digits := (List.cons.inj isNumber).2
      rw [same]
      exact List.mem_of_getElem? (i := 1) rfl
    · rw [isNumber]
      exact List.mem_of_getElem? (i := 0) rfl

/-- The normaliser finds the numbers that the digits of a text spell. -/
theorem normalizePhoneNumber_eq_some_iff :
    normalizePhoneNumber raw = some text ↔
      ∃ number : LineNumber, text = number.normal ∧
        typedDigits raw ∈ number.spellings := by
  have unfolded : normalizePhoneNumber raw =
      if (withoutCountry (typedDigits raw)).length = 11 ∧
          "09".toList.isPrefixOf (withoutCountry (typedDigits raw)) = true then
        some (String.ofList (withoutCountry (typedDigits raw)))
      else none := rfl
  rw [unfolded]
  constructor
  · intro found
    split at found
    · rename_i valid
      have all := all_withoutCountry fun _ => @all_typedDigits raw _
      obtain ⟨number, isNumber⟩ := exists_lineNumber valid.1 valid.2 all
      cases found
      exact ⟨number, by rw [isNumber]; rfl,
        mem_spellings_of_withoutCountry isNumber⟩
    · cases found
  · rintro ⟨number, rfl, spells⟩
    obtain ⟨rest, digits, length⟩ := number.digits_eq_cons
    have isNumber := withoutCountry_of_mem_spellings spells
    have eleven : ('0' :: number.digits).length = 11 := by
      rw [List.length_cons, number.length_digits]
    have starts : "09".toList.isPrefixOf ('0' :: number.digits) = true := by
      rw [digits]
      rfl
    rw [isNumber, if_pos ⟨eleven, starts⟩]
    rfl

theorem normalizePhoneNumber_eq_none_iff :
    normalizePhoneNumber raw = none ↔
      ∀ number : LineNumber, typedDigits raw ∉ number.spellings := by
  rw [Option.eq_none_iff_forall_ne_some]
  constructor
  · intro refused number spells
    exact refused number.normal
      (normalizePhoneNumber_eq_some_iff.mpr ⟨number, rfl, spells⟩)
  · intro spellsNone text found
    obtain ⟨number, -, spells⟩ := normalizePhoneNumber_eq_some_iff.mp found
    exact spellsNone number spells

/-- No digits spell two numbers. -/
theorem eq_of_mem_spellings {typed : List Char} {first second : LineNumber}
    (spellsFirst : typed ∈ first.spellings)
    (spellsSecond : typed ∈ second.spellings) : first = second := by
  have same := (withoutCountry_of_mem_spellings spellsFirst).symm.trans
    (withoutCountry_of_mem_spellings spellsSecond)
  exact LineNumber.ext (List.cons.inj same).2

/-- The digits of a normal form are the form itself. -/
theorem typedDigits_normal :
    typedDigits number.normal = '0' :: number.digits := by
  have all : ∀ char ∈ '0' :: number.digits, isDigitChar char = true := by
    intro char member
    rcases List.mem_cons.mp member with rfl | member
    · decide
    · exact number.all_digits char member
  rw [typedDigits, LineNumber.normal, String.toList_ofList,
    List.filter_eq_self.mpr all]

/-- The normaliser accepts exactly the spellings of a number, whatever else
the text contains.  It leaves its results alone and never merges two
numbers. -/
theorem normalizePhoneNumber_exact (raw : String) :
    (∀ number : LineNumber,
      normalizePhoneNumber raw = some number.normal ↔
        typedDigits raw ∈ number.spellings) ∧
    (normalizePhoneNumber raw = none ↔
      ∀ number : LineNumber, typedDigits raw ∉ number.spellings) ∧
    (∀ plain, typedDigits plain = typedDigits raw →
      normalizePhoneNumber plain = normalizePhoneNumber raw) ∧
    (∀ text, normalizePhoneNumber raw = some text →
      normalizePhoneNumber text = some text) ∧
    ∀ (other : String) (first second : LineNumber),
      typedDigits raw ∈ first.spellings →
      typedDigits other ∈ second.spellings →
      normalizePhoneNumber raw = normalizePhoneNumber other →
        first = second := by
  have exactly : ∀ (raw : String) (number : LineNumber),
      normalizePhoneNumber raw = some number.normal ↔
        typedDigits raw ∈ number.spellings := by
    intro raw number
    rw [normalizePhoneNumber_eq_some_iff]
    constructor
    · rintro ⟨other, same, spells⟩
      rwa [LineNumber.normal_injective same]
    · exact fun spells => ⟨number, rfl, spells⟩
  refine ⟨exactly raw, normalizePhoneNumber_eq_none_iff, ?_, ?_, ?_⟩
  · intro plain same
    have filtered : plain.toList.filter isDigitChar =
        raw.toList.filter isDigitChar := same
    unfold normalizePhoneNumber
    rw [filtered]
  · intro text found
    obtain ⟨number, rfl, -⟩ := normalizePhoneNumber_eq_some_iff.mp found
    rw [exactly, typedDigits_normal]
    exact List.mem_cons_self
  · intro other first second spellsFirst spellsSecond same
    rw [(exactly raw first).mpr spellsFirst,
      (exactly other second).mpr spellsSecond] at same
    exact LineNumber.normal_injective (Option.some.inj same)

end Normalizing

section Storing

variable {number : LineNumber} {text : String} {char : Char}

/-- Eleven decimal digits of ASCII that begin with a zero and a nine. -/
def IsPlainNumber (text : String) : Prop :=
  ∃ digits : List Char, text = String.ofList ('0' :: '9' :: digits) ∧
    digits.length = 9 ∧ ∀ char ∈ digits, char.isDigit = true

/-- What a message gives as the number, before anything is done with it. -/
def Message.givenNumber (message : Message) : Option String :=
  match message.contact with
  | some contact => some contact.phoneNumber
  | none => message.text

/-- The order stores eleven digits, and the normal form of the number that the
message spells. -/
structure StoresNumber (message : Message) (order : OrderRow) : Prop where
  plain : ∃ phone, order.phoneNumber = some phone ∧ IsPlainNumber phone
  sameLine : ∀ number : LineNumber, ∀ given ∈ message.givenNumber,
    typedDigits given ∈ number.spellings →
      order.phoneNumber = some number.normal

/-- A shared number is stored as it comes and must be plain.  A typed one may
be spelled in any way, but with digits of ASCII. -/
def Message.SuppliesPlain (message : Message) : Prop :=
  match message.contact with
  | some contact => IsPlainNumber contact.phoneNumber
  | none => ∀ text ∈ message.text, ∀ char ∈ typedDigits text,
      char.isDigit = true

theorem isDigitChar_of_isDigit (digit : char.isDigit = true) :
    isDigitChar char = true := by
  have bounds : 48 ≤ char.toNat ∧ char.toNat ≤ 57 := by
    simpa [Char.isDigit, UInt32.le_iff_toNat_le] using digit
  have inFirst : (48 ≤ char.toNat && char.toNat < 48 + 10) = true := by
    simp only [Bool.and_eq_true, decide_eq_true_eq]
    omega
  have found : Numerals.zeros.find? (fun first =>
      first ≤ char.toNat && char.toNat < first + 10) = some 48 :=
    List.find?_cons_of_pos inFirst
  rw [isDigitChar, Numerals.isDigit, Numerals.digitValue, found]
  rfl

theorem isPlainNumber_normal_iff :
    IsPlainNumber number.normal ↔
      ∀ char ∈ number.digits, char.isDigit = true := by
  obtain ⟨rest, digits, length⟩ := number.digits_eq_cons
  rw [LineNumber.normal, digits]
  constructor
  · rintro ⟨others, same, -, all⟩ char member
    have chars := congrArg String.toList same
    simp only [String.toList_ofList, List.cons.injEq, true_and] at chars
    rcases List.mem_cons.mp member with rfl | member
    · rfl
    · exact all char (chars ▸ member)
  · intro all
    exact ⟨rest, rfl, length,
      fun char member => all char (List.mem_cons_of_mem _ member)⟩

/-- A plain number is a normal form. -/
theorem exists_normal_of_isPlainNumber (plain : IsPlainNumber text) :
    ∃ number : LineNumber, text = number.normal := by
  obtain ⟨digits, rfl, length, all⟩ := plain
  have allDigits : ∀ char ∈ '9' :: digits, isDigitChar char = true := by
    intro char member
    rcases List.mem_cons.mp member with rfl | member
    · decide
    · exact isDigitChar_of_isDigit (all char member)
  exact ⟨⟨'9' :: digits, by rw [List.length_cons, length], allDigits, rfl⟩,
    rfl⟩

/-- The digits of a spelling are those of ASCII if those of the number are. -/
theorem all_isDigit_iff_of_mem_spellings {typed : List Char}
    (spells : typed ∈ number.spellings) :
    (∀ char ∈ typed, char.isDigit = true) ↔
      ∀ char ∈ number.digits, char.isDigit = true := by
  simp only [LineNumber.spellings, List.mem_cons, List.not_mem_nil,
    or_false] at spells
  rcases spells with rfl | rfl | rfl <;>
    simp only [List.forall_mem_cons] <;> simp

variable {message : Message} {order : OrderRow}

/-- A shared number goes to the order as it is. -/
theorem storesNumber_iff_of_contact {contact : Contact}
    (shares : message.contact = some contact)
    (stored : order.phoneNumber = some contact.phoneNumber) :
    StoresNumber message order ↔ message.SuppliesPlain := by
  rw [Message.SuppliesPlain, shares]
  constructor
  · rintro ⟨⟨phone, isPhone, plain⟩, -⟩
    cases stored.symm.trans isPhone
    exact plain
  · intro plain
    refine ⟨⟨_, stored, plain⟩, ?_⟩
    intro number given isGiven spells
    rw [Message.givenNumber, shares] at isGiven
    cases isGiven
    obtain ⟨own, isNormal⟩ := exists_normal_of_isPlainNumber plain
    rw [isNormal, typedDigits_normal] at spells
    have isOwn : '0' :: own.digits ∈ own.spellings := List.mem_cons_self
    rw [stored, isNormal, eq_of_mem_spellings isOwn spells]

/-- A typed number goes to the order in its normal form. -/
theorem storesNumber_iff_of_text {phone : String}
    (shares : message.contact = none) (isText : message.text = some text)
    (normal : normalizePhoneNumber text = some phone)
    (stored : order.phoneNumber = some phone) :
    StoresNumber message order ↔ message.SuppliesPlain := by
  obtain ⟨number, rfl, spells⟩ := normalizePhoneNumber_eq_some_iff.mp normal
  have supplies : message.SuppliesPlain ↔
      ∀ char ∈ number.digits, char.isDigit = true := by
    rw [← all_isDigit_iff_of_mem_spellings spells, Message.SuppliesPlain,
      shares, isText]
    exact ⟨fun all => all text rfl, by rintro all _ ⟨⟩; exact all⟩
  rw [supplies, ← isPlainNumber_normal_iff]
  constructor
  · rintro ⟨⟨phone, isPhone, plain⟩, -⟩
    cases stored.symm.trans isPhone
    exact plain
  · intro plain
    refine ⟨⟨_, stored, plain⟩, ?_⟩
    intro other given isGiven spellsOther
    rw [Message.givenNumber, shares, isText] at isGiven
    cases isGiven
    rw [stored, eq_of_mem_spellings spells spellsOther]

/-- An order for a package stores a proper number exactly if the message
supplies one. -/
theorem storesNumber_iff {world : ShopWorld} {shop : Shop} {update : Update}
    {id : Nat} {order : OrderRow}
    (absent : world.platform.db.row .orders id = none)
    (created : (world.handle shop update).platform.db.row .orders id =
      some order)
    (isPackage : order.orderType = .package) :
    ∃ message, update = .message message ∧
      (StoresNumber message order ↔ message.SuppliesPlain) := by
  obtain ⟨message, isMessage, ⟨-, packageId, phone, -, supplied, purchase⟩ |
    ⟨-, packageId, -, purchase⟩⟩ := ShopWorld.purchase_of_created absent created
  · refine ⟨message, isMessage, ?_⟩
    have stored : order.phoneNumber = some phone := purchase.1.phone
    unfold Message.suppliedNumber at supplied
    cases shares : message.contact with
    | some contact =>
        rw [shares] at supplied
        cases supplied
        exact storesNumber_iff_of_contact shares stored
    | none =>
        rw [shares] at supplied
        obtain ⟨text, isText, normal⟩ := Option.bind_eq_some_iff.mp supplied
        exact storesNumber_iff_of_text shares isText normal stored
  · rw [purchase.1.type] at isPackage
    cases isPackage

section Examples

/-- A customer shares this contact. -/
def customerShares (phoneNumber : String) : Update :=
  .message { sender := 7, chat := 7, contact := some ⟨phoneNumber⟩ }

/-- A shop with one product of 8.00 in a subfolder. -/
def browsingDb : Db :=
  .filled fun
    | .resellers => [shopReseller]
    | .categories =>
        [{ resellerId := 1, operatorName := "ایرانسل", title := "ایرانسل" },
          { resellerId := 1, operatorName := "ایرانسل"
            parentCategoryId := some 1, title := "ماهانه" }]
    | .packages => [{ shopPackage with categoryId := 2 }]
    | _ => []

/-- A customer has picked the product and is asked for the number. -/
def atPhoneNumber : ShopWorld :=
  [ShopBot.customerCatalogButtonText, "📁 ایرانسل", "📂 ماهانه",
    "📦 1 GB — 8 تومان", ShopBot.customerBuyButtonText].foldl
      (fun world text =>
        world.handle ⟨shopSettings, shopSurroundings⟩ (customerTypes text))
      (newShopWorld browsingDb)

/-- The order for the product. -/
def numberedOrder (phoneNumber : String) : OrderRow where
  orderCode := "AR-240131-120000A1B2"
  resellerId := 1
  packageId := 1
  customerId := 1
  phoneNumber := some phoneNumber
  packagePrice := 800

theorem storesNumber_iff_typed :
    ∃ message, customerTypes "+98 912-123-4567" = .message message ∧
      (StoresNumber message (numberedOrder "09121234567") ↔
        message.SuppliesPlain) :=
  @storesNumber_iff atPhoneNumber ⟨shopSettings, shopSurroundings⟩
    (customerTypes "+98 912-123-4567") 1 (numberedOrder "09121234567")
    (by decide +kernel) (by decide +kernel) rfl

/-- A contact with the code of the country is stored as it comes, and the
typed form of the same number is not. -/
theorem shared_number_as_it_comes :
    (atPhoneNumber.handle ⟨shopSettings, shopSurroundings⟩
        (customerShares "+989121234567")).platform.db.row .orders 1 =
      some (numberedOrder "+989121234567") ∧
    (atPhoneNumber.handle ⟨shopSettings, shopSurroundings⟩
        (customerTypes "+989121234567")).platform.db.row .orders 1 =
      some (numberedOrder "09121234567") ∧
    ¬ IsPlainNumber "+989121234567" := by
  refine ⟨by decide +kernel, by decide +kernel, ?_⟩
  rintro ⟨digits, same, -⟩
  have head := congrArg (fun text : String => text.toList.head?) same
  simp at head

end Examples

end Storing

end Baste
