import Baste.JsonText
import Baste.Schema

/-!
# Column values and their texts

The values that columns hold, and the texts under which dates and decimals
travel.  Reading the text of a value gives the value back.
-/

namespace Baste

/-- Two digits of a number below a hundred. -/
def digitPair (number : Nat) : List Char :=
  [(number / 10).digitChar, (number % 10).digitChar]

theorem ofDigitChars_digitPair {number : Nat} (small : number < 100)
    (initial : Nat) :
    Nat.ofDigitChars 10 (digitPair number) initial =
      100 * initial + number := by
  rw [digitPair, Nat.ofDigitChars_cons_digitChar_of_lt_ten (by omega),
    Nat.ofDigitChars_cons_digitChar_of_lt_ten (by omega),
    Nat.ofDigitChars_nil]
  omega

section Dates

def daysIn (year month : Nat) : Nat :=
  if month = 2 then
    if year % 4 = 0 ∧ (year % 100 ≠ 0 ∨ year % 400 = 0) then 29 else 28
  else if month ∈ [4, 6, 9, 11] then 30
  else 31

/-- The value of a `DATETIME` column. -/
structure Datetime where
  year : Fin 10000
  month : Fin 13
  day : Fin 32
  hour : Fin 24
  minute : Fin 60
  second : Fin 60
  month_pos : 0 < month.val
  day_pos : 0 < day.val
  day_le : day.val ≤ daysIn year month
  deriving DecidableEq, Repr

/-- `datetime.isoformat` of a value without microseconds. -/
def Datetime.isoformat (value : Datetime) : String :=
  String.ofList
    (digitPair (value.year / 100) ++ digitPair (value.year % 100) ++
      '-' :: digitPair value.month ++ '-' :: digitPair value.day ++
      'T' :: digitPair value.hour ++ ':' :: digitPair value.minute ++
      ':' :: digitPair value.second)

/-- A moment with the given parts. -/
def Datetime.ofParts (year month day hour minute second : Nat) :
    Option Datetime :=
  if valid : (year < 10000 ∧ month < 13 ∧ day < 32) ∧
      (hour < 24 ∧ minute < 60 ∧ second < 60) ∧
      0 < month ∧ 0 < day ∧ day ≤ daysIn year month then
    some
      { year := ⟨year, valid.1.1⟩
        month := ⟨month, valid.1.2.1⟩
        day := ⟨day, valid.1.2.2⟩
        hour := ⟨hour, valid.2.1.1⟩
        minute := ⟨minute, valid.2.1.2.1⟩
        second := ⟨second, valid.2.1.2.2⟩
        month_pos := valid.2.2.1
        day_pos := valid.2.2.2.1
        day_le := valid.2.2.2.2 }
  else none

/-- Read a date and a time in the format of ISO 8601. -/
def readIsoformat (text : String) : Option Datetime :=
  match text.toList with
  | [y, e, a, r, '-', m, n, '-', d, f, 'T', h, i, ':', k, l, ':', s, t] =>
      Datetime.ofParts (Nat.ofDigitChars 10 [y, e, a, r] 0)
        (Nat.ofDigitChars 10 [m, n] 0) (Nat.ofDigitChars 10 [d, f] 0)
        (Nat.ofDigitChars 10 [h, i] 0) (Nat.ofDigitChars 10 [k, l] 0)
        (Nat.ofDigitChars 10 [s, t] 0)
  | _ => none

theorem Datetime.ofParts_self (value : Datetime) :
    Datetime.ofParts value.year value.month value.day value.hour
      value.minute value.second = some value := by
  have valid := And.intro value.month_pos
    (And.intro value.day_pos value.day_le)
  simp [Datetime.ofParts, valid]

theorem readIsoformat_isoformat (value : Datetime) :
    readIsoformat value.isoformat = some value := by
  have century := ofDigitChars_digitPair
    (show (value.year : Nat) / 100 < 100 by omega) 0
  have month := ofDigitChars_digitPair
    (show (value.month : Nat) < 100 by omega) 0
  have day := ofDigitChars_digitPair
    (show (value.day : Nat) < 100 by omega) 0
  have hour := ofDigitChars_digitPair
    (show (value.hour : Nat) < 100 by omega) 0
  have minute := ofDigitChars_digitPair
    (show (value.minute : Nat) < 100 by omega) 0
  have second := ofDigitChars_digitPair
    (show (value.second : Nat) < 100 by omega) 0
  have year : Nat.ofDigitChars 10
      (digitPair (value.year / 100) ++ digitPair (value.year % 100)) 0 =
        value.year := by
    rw [Nat.ofDigitChars_append, century,
      ofDigitChars_digitPair (Nat.mod_lt _ (by omega))]
    omega
  rw [readIsoformat, Datetime.isoformat, String.toList_ofList]
  simp only [digitPair, List.cons_append, List.nil_append, mul_zero,
    zero_add] at *
  rw [year, month, day, hour, minute, second, Datetime.ofParts_self]

end Dates

section Decimals

/-- The sign of a number and what follows it. -/
def splitSign : List Char → Int × List Char
  | '-' :: digits => (-1, digits)
  | digits => (1, digits)

theorem splitSign_of_ne {head : Char} (notMinus : head ≠ '-')
    (tail : List Char) : splitSign (head :: tail) = (1, head :: tail) := by
  simp [splitSign, notMinus]

/-- Read a decimal with two places. -/
def readDecimal (text : String) : Option Cents :=
  let (sign, digits) := splitSign text.toList
  match Json.readDigits digits with
  | (whole, ['.', tens, ones]) =>
      some (sign * Nat.ofDigitChars 10 (whole ++ [tens, ones]) 0)
  | _ => none

theorem toList_formatDecimal (cents : Int) :
    (formatDecimal cents).toList =
      (if cents < 0 then ['-'] else []) ++
        Nat.toDigits 10 (cents.natAbs / 100) ++
          '.' :: digitPair (cents.natAbs % 100) := by
  have fraction : ∀ number < 100,
      (if number < 10 then "0" else "").toList ++ Nat.toDigits 10 number =
        digitPair number := by
    intro number small
    rw [Nat.toDigits_eq_if (by omega), digitPair]
    split_ifs with one
    · simp [Nat.div_eq_of_lt one, Nat.mod_eq_of_lt one]
    · rw [Nat.toDigits_of_lt_base (by omega)]
      simp
  have last := fraction (cents.natAbs % 100) (Nat.mod_lt _ (by omega))
  have same : ∀ text : String, toString text = text := fun _ => rfl
  rw [← last, formatDecimal]
  simp only [same, String.toList_append, Nat.toString_eq_repr,
    Nat.toList_repr, List.append_assoc]
  split_ifs <;> rfl

theorem readDecimal_formatDecimal (cents : Int) :
    readDecimal (formatDecimal cents) = some cents := by
  have allDigits : ∀ char ∈ Nat.toDigits 10 (cents.natAbs / 100),
      char.isDigit = true :=
    fun _ member => Nat.isDigit_of_mem_toDigits (by omega) (by omega) member
  have read := Json.readDigits_append allDigits
    ('.' :: digitPair (cents.natAbs % 100)) (by simp)
  have magnitude : Nat.ofDigitChars 10
      (Nat.toDigits 10 (cents.natAbs / 100) ++ digitPair (cents.natAbs % 100))
        0 = cents.natAbs := by
    rw [Nat.ofDigitChars_append, Nat.ofDigitChars_ten_toDigits,
      ofDigitChars_digitPair (Nat.mod_lt _ (by omega))]
    omega
  obtain ⟨head, tail, digits, isDigit⟩ :=
    Json.exists_isDigit_toDigits (cents.natAbs / 100)
  have notMinus : head ≠ '-' := by rintro rfl; simp at isDigit
  rw [digitPair] at read magnitude
  rw [readDecimal, toList_formatDecimal, digitPair]
  rcases lt_or_ge cents 0 with negative | nonneg
  · have opposite : -1 * (cents.natAbs : Int) = cents := by omega
    simp only [negative, if_true, List.cons_append, List.nil_append,
      splitSign, read, magnitude]
    exact congrArg some opposite
  · have same : 1 * (cents.natAbs : Int) = cents := by omega
    have unsigned : ¬ cents < 0 := by omega
    rw [digits] at read magnitude ⊢
    simp only [List.cons_append] at read magnitude
    simp only [unsigned, if_false, List.nil_append, List.cons_append,
      splitSign_of_ne notMinus, read, magnitude]
    exact congrArg some same

end Decimals

/-- What a column holds, and what the driver gives a program for it. -/
inductive ColumnValue where
  | null
  | integer (value : Int)
  | decimal (cents : Cents)
  | text (value : String)
  | datetime (value : Datetime)
  deriving DecidableEq, Repr

end Baste
