import Baste.BotUpdates
import Baste.TextRoutes

/-!
# The fields of callback data

A button carries its command as fields between colons.  The fields are read
back as they were written, and numbers among them as numbers.  The filters of
the handlers for callback queries are routes.
-/

namespace Baste

open BotScripts

section Numbers

variable {char : Char}

theorem digit_bounds (digit : char.isDigit = true) :
    48 ≤ char.toNat ∧ char.toNat ≤ 57 := by
  simpa [Char.isDigit, UInt32.le_iff_toNat_le] using digit

/-- The digits of ASCII are the first of all scripts. -/
theorem digitValue_of_isDigit (digit : char.isDigit = true) :
    Numerals.digitValue char = some (char.toNat - 48) := by
  have bounds := digit_bounds digit
  have inFirst : (48 ≤ char.toNat && char.toNat < 48 + 10) = true := by
    simp only [Bool.and_eq_true, decide_eq_true_eq]
    omega
  have found : Numerals.zeros.find? (fun first =>
      first ≤ char.toNat && char.toNat < first + 10) = some 48 :=
    List.find?_cons_of_pos inFirst
  rw [Numerals.digitValue, found]
  rfl

theorem numeralDigit_of_isDigit (digit : char.isDigit = true) :
    Numerals.isDigit char = true := by
  rw [Numerals.isDigit, digitValue_of_isDigit digit]
  rfl

theorem not_isSpace_of_isDigit (digit : char.isDigit = true) :
    ChargeService.isSpace char = false := by
  have bounds := digit_bounds digit
  simp only [ChargeService.isSpace, List.mem_cons, List.not_mem_nil, or_false,
    Bool.or_eq_false_iff, decide_eq_false_iff_not, Bool.and_eq_false_iff]
  omega

theorem ne_of_isDigit {other : Char} (digit : char.isDigit = true)
    (noDigit : other.isDigit = false) : char ≠ other := by
  rintro rfl
  rw [digit] at noDigit
  cases noDigit

variable {digits : List Char}

theorem strip_of_digits (all : ∀ char ∈ digits, char.isDigit = true) :
    ChargeService.strip digits = digits := by
  have stays : ∀ {text : List Char}, (∀ char ∈ text, char.isDigit = true) →
      text.dropWhile ChargeService.isSpace = text := by
    intro text all
    cases text with
    | nil => rfl
    | cons char rest =>
        have noSpace := not_isSpace_of_isDigit (all char List.mem_cons_self)
        rw [List.dropWhile_cons_of_neg (by simp [noSpace])]
  rw [ChargeService.strip, stays all, stays (by simpa using all),
    List.reverse_reverse]

theorem ungroup_of_digits (all : ∀ char ∈ digits, char.isDigit = true)
    (some_ : digits ≠ []) : Numerals.ungroup digits = some digits := by
  induction digits with
  | nil => exact absurd rfl some_
  | cons char rest ih =>
      have isDigit := numeralDigit_of_isDigit (all char List.mem_cons_self)
      cases rest with
      | nil => simp [Numerals.ungroup, isDigit]
      | cons next rest =>
          have later := ih (fun other member =>
            all other (List.mem_cons_of_mem _ member)) (by simp)
          have noGroup : next ≠ '_' :=
            ne_of_isDigit (all next (by simp)) (by decide)
          rw [Numerals.ungroup]
          · simp [isDigit, later]
          · exact fun empty => List.cons_ne_nil _ _ empty
          · exact fun _ same => noGroup (List.cons.inj same).1

theorem ofDigits_of_digits (all : ∀ char ∈ digits, char.isDigit = true) :
    Numerals.ofDigits digits = Nat.ofDigitChars 10 digits 0 := by
  have values : ∀ start, digits.foldl (fun number char =>
      10 * number + (Numerals.digitValue char).getD 0) start =
        Nat.ofDigitChars 10 digits start := by
    induction digits with
    | nil => intro start; simp
    | cons char rest ih =>
        intro start
        rw [List.foldl_cons, Nat.ofDigitChars_cons,
          digitValue_of_isDigit (all char List.mem_cons_self),
          ih fun other member => all other (List.mem_cons_of_mem _ member)]
        rfl
  exact values 0

/-- Numbers are read as they are written. -/
theorem typedInteger_repr (number : Nat) :
    typedInteger (toString number) = some (number : Int) := by
  have text : (toString number).toList = Nat.toDigits 10 number :=
    Nat.toList_repr
  have all : ∀ char ∈ Nat.toDigits 10 number, char.isDigit = true :=
    fun _ member => Nat.isDigit_of_mem_toDigits (by omega) (by omega) member
  have unsigned : Numerals.readSign (Nat.toDigits 10 number) =
      (false, Nat.toDigits 10 number) := by
    cases written : Nat.toDigits 10 number with
    | nil => rfl
    | cons char rest =>
        have digit := all char (by simp [written])
        have noMinus : char ≠ '-' := ne_of_isDigit digit (by decide)
        have noPlus : char ≠ '+' := ne_of_isDigit digit (by decide)
        rw [Numerals.readSign]
        · exact fun _ same => noMinus (List.cons.inj same).1
        · exact fun _ same => noPlus (List.cons.inj same).1
  rw [typedInteger, text, strip_of_digits all, Numerals.readInteger, unsigned]
  dsimp only
  rw [ungroup_of_digits all Nat.toDigits_ne_nil, Option.map_some,
    ofDigits_of_digits all, Nat.ofDigitChars_ten_toDigits]
  rfl

theorem colon_notMem_repr (number : Nat) :
    ':' ∉ (toString number).toList := by
  rw [show (toString number).toList = Nat.toDigits 10 number from
    Nat.toList_repr]
  intro member
  have digit := Nat.isDigit_of_mem_toDigits (by omega) (by omega) member
  cases digit

end Numbers

/-- A text that can be a field of callback data. -/
abbrev FieldText := {text : String // ':' ∉ text.toList}

namespace FieldText

/-- The text of an id. -/
def ofNat (number : Nat) : FieldText :=
  ⟨toString number, colon_notMem_repr number⟩

/-! Words that the panels of both bots have. -/

theorem colon_notMem_home : ':' ∉ "home".toList := by decide

theorem colon_notMem_wallet : ':' ∉ "wallet".toList := by decide

theorem colon_notMem_add : ':' ∉ "add".toList := by decide

theorem colon_notMem_list : ':' ∉ "list".toList := by decide

end FieldText

/-- Callback data with the given fields. -/
def fieldData (fields : List FieldText) : String :=
  ":".intercalate (fields.map (·.val))

theorem dataFields_fieldData {fields : List FieldText}
    (nonempty : fields ≠ []) :
    dataFields (fieldData fields) = fields.map (·.val) := by
  have letters : (fieldData fields).toList =
      [':'].intercalate (fields.map (·.val.toList)) := by
    rw [fieldData, String.toList_intercalate, List.map_map]
    rfl
  have split := List.splitOn_intercalate ':'
    (show ∀ letters ∈ fields.map (·.val.toList), ':' ∉ letters by
      intro letters member
      obtain ⟨text, -, rfl⟩ := List.mem_map.mp member
      exact text.2) (fun empty => nonempty (List.map_eq_nil_iff.mp empty))
  rw [dataFields, letters, split, List.map_map]
  exact List.map_congr_left fun text _ => String.ofList_toList

section Reading

variable {State Data : Type} {sender chat : Int} {fields : List FieldText}
variable {index : Nat}

theorem dataField_fieldData {text : FieldText}
    (isField : fields[index]? = some text) :
    (dataField ⟨sender, chat, fieldData fields⟩ index :
      BotScript State Data String) = pure text.val := by
  have nonempty : fields ≠ [] := by
    rintro rfl
    cases isField
  have field : (dataFields (fieldData fields))[index]? = some text.val := by
    rw [dataFields_fieldData nonempty, List.getElem?_map, isField]
    rfl
  rw [dataField, field]
  rfl

theorem integerField_fieldData {number : Nat}
    (isField : fields[index]? = some (.ofNat number)) :
    (integerField ⟨sender, chat, fieldData fields⟩ index :
      BotScript State Data Int) = pure (number : Int) := by
  rw [integerField, dataField_fieldData isField, pure_bind]
  change required .valueError (typedInteger (toString number)) = _
  rw [typedInteger_repr]
  rfl

/-- Data with more fields starts with the first fields and a colon. -/
theorem dataStarts_fieldData {first rest : List FieldText} {start : String}
    (isStart : fieldData first ++ ":" = start) (some_ : first ≠ [])
    (more : rest ≠ []) (state : Option State) :
    dataStarts start state (fieldData (first ++ rest)) = true := by
  have joined : fieldData (first ++ rest) =
      fieldData first ++ ":" ++ fieldData rest := by
    unfold fieldData
    rw [List.map_append, String.intercalate_append_of_ne_nil
      (fun empty => some_ (List.map_eq_nil_iff.mp empty))
      (fun empty => more (List.map_eq_nil_iff.mp empty))]
  rw [dataStarts, joined, isStart, String.toList_append,
    List.isPrefixOf_iff_prefix]
  exact List.prefix_append _ _

end Reading

section Routes

variable {State Data : Type} {state : Option State} {callback : Callback}
variable {text : String}

/-- The handler for the callback query has its data on the route. -/
abbrev FollowsData (state : Option State) (callback : Callback) :
    BotHandler State Data → TextRoute Char → Prop :=
  Handler.Follows state (.callback callback) callback.data.toList

theorem follows_onMessage {test : Option State → Message → Bool}
    {action : Message → BotScript State Data Unit} :
    FollowsData state callback (onMessage test action) .nothing := by
  intro takes
  cases takes

theorem takes_of_dataIs {found : String}
    (is : dataIs text state found = true) :
    (TextRoute.exactly text.toList).takes found.toList = true := by
  rw [TextRoute.takes_exactly]
  exact congrArg String.toList (of_decide_eq_true is)

theorem follows_dataIs {action : Callback → BotScript State Data Unit} :
    FollowsData state callback (onCallback (dataIs text) action)
      (.exactly text.toList) :=
  fun takes => @takes_of_dataIs _ state _ _ takes

theorem follows_dataStarts {action : Callback → BotScript State Data Unit} :
    FollowsData state callback (onCallback (dataStarts text) action)
      (.starting text.toList) :=
  fun takes => takes

end Routes

end Baste
