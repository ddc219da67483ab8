import Mathlib.Data.Char
import Mathlib.Data.List.Basic

/-!
# JSON documents and their text

Documents as trees, the text that a writer makes of them, and a reader of
arbitrary text.  The writer separates with `", "` and `": "` and escapes only
what it has to; the reader accepts every document, keeps the last of several
members with one name, and keeps the text of numbers that are not integers.
Reading what was written gives the document back.
-/

inductive Json where
  | null
  | bool (value : Bool)
  | integer (value : Int)
  | real (literal : String)
  | string (value : String)
  | array (elements : List Json)
  | object (members : List (String × Json))
  deriving Repr

namespace Json

section Writing

def hexDigit (digit : Nat) : Char :=
  if digit < 10 then Char.ofNat (48 + digit) else Char.ofNat (87 + digit)

/-- A character inside a string. -/
def escape (char : Char) : List Char :=
  if char = '"' then ['\\', '"']
  else if char = '\\' then ['\\', '\\']
  else if char = '\n' then ['\\', 'n']
  else if char = '\r' then ['\\', 'r']
  else if char = '\t' then ['\\', 't']
  else if char.toNat = 12 then ['\\', 'f']
  else if char.toNat = 8 then ['\\', 'b']
  else if char.toNat < 32 then
    ['\\', 'u', '0', '0', hexDigit (char.toNat / 16),
      hexDigit (char.toNat % 16)]
  else [char]

def printString (value : String) : List Char :=
  '"' :: value.toList.flatMap escape ++ ['"']

/-- What stands before an element. -/
def separator (first : Bool) : List Char :=
  if first then [] else [',', ' ']

mutual

def print : Json → List Char
  | null => ['n', 'u', 'l', 'l']
  | bool true => ['t', 'r', 'u', 'e']
  | bool false => ['f', 'a', 'l', 's', 'e']
  | integer (.ofNat value) => Nat.toDigits 10 value
  | integer (.negSucc value) => '-' :: Nat.toDigits 10 (value + 1)
  | real literal => literal.toList
  | string value => printString value
  | array elements => '[' :: printElements true elements
  | object members => '{' :: printMembers true members

def printElements (first : Bool) : List Json → List Char
  | [] => [']']
  | element :: elements =>
      separator first ++ print element ++ printElements false elements

def printMembers (first : Bool) : List (String × Json) → List Char
  | [] => ['}']
  | (name, value) :: members =>
      separator first ++ printString name ++ ':' :: ' ' :: print value ++
        printMembers false members

end

end Writing

section Reading

def isBlank (char : Char) : Bool :=
  char = ' ' || char = '\n' || char = '\r' || char = '\t'

def skip (input : List Char) : List Char :=
  input.dropWhile isBlank

def hexValue (char : Char) : Option Nat :=
  if '0' ≤ char ∧ char ≤ '9' then some (char.toNat - 48)
  else if 'a' ≤ char ∧ char ≤ 'f' then some (char.toNat - 87)
  else if 'A' ≤ char ∧ char ≤ 'F' then some (char.toNat - 55)
  else none

/-- Four hexadecimal digits. -/
def readCode : List Char → Option (Nat × List Char)
  | a :: b :: c :: d :: rest => do
      let a ← hexValue a
      let b ← hexValue b
      let c ← hexValue c
      let d ← hexValue d
      return (((a * 16 + b) * 16 + c) * 16 + d, rest)
  | _ => none

/-- The character with the given code.  The codes of surrogates have none. -/
def charOfCode (code : Nat) : Option Char :=
  if code.isValidChar then some (Char.ofNat code) else none

def unescape : Char → Option Char
  | '"' => some '"'
  | '\\' => some '\\'
  | '/' => some '/'
  | 'b' => some (Char.ofNat 8)
  | 'f' => some (Char.ofNat 12)
  | 'n' => some '\n'
  | 'r' => some '\r'
  | 't' => some '\t'
  | _ => none

/-- One character of a string, which may be escaped. -/
def readChar : List Char → Option (Char × List Char)
  | '\\' :: 'u' :: rest => do
      let (high, rest) ← readCode rest
      if 0xd800 ≤ high ∧ high < 0xdc00 then
        match rest with
        | '\\' :: 'u' :: rest =>
            let (low, rest) ← readCode rest
            if 0xdc00 ≤ low ∧ low < 0xe000 then
              let code := 0x10000 + (high - 0xd800) * 0x400 + (low - 0xdc00)
              return (← charOfCode code, rest)
            else none
        | _ => none
      else return (← charOfCode high, rest)
  | '\\' :: char :: rest => (unescape char).map fun char => (char, rest)
  | '\\' :: [] => none
  | char :: rest => if char.toNat < 32 then none else some (char, rest)
  | [] => none

/-- The rest of a string after its opening quote. -/
def readString : Nat → List Char → Option (List Char × List Char)
  | 0, _ => none
  | _ + 1, '"' :: rest => some ([], rest)
  | fuel + 1, input => do
      let (char, rest) ← readChar input
      let (chars, rest) ← readString fuel rest
      return (char :: chars, rest)

/-- The digits at the front. -/
def readDigits (input : List Char) : List Char × List Char :=
  (input.takeWhile Char.isDigit, input.dropWhile Char.isDigit)

/-- An integer without its sign has no leading zero. -/
def readNatural : List Char → List Char × List Char
  | '0' :: rest => (['0'], rest)
  | input => readDigits input

def readFraction : List Char → List Char × List Char
  | '.' :: rest =>
      match readDigits rest with
      | ([], _) => ([], '.' :: rest)
      | (digits, rest) => ('.' :: digits, rest)
  | input => ([], input)

def readExponent (input : List Char) : List Char × List Char :=
  match input with
  | [] => ([], input)
  | mark :: rest =>
      if mark = 'e' ∨ mark = 'E' then
        let (sign, afterSign) := match rest with
          | '-' :: rest => (['-'], rest)
          | '+' :: rest => (['+'], rest)
          | rest => ([], rest)
        match readDigits afterSign with
        | ([], _) => ([], input)
        | (digits, rest) => (mark :: sign ++ digits, rest)
      else ([], input)

/-- A number after its sign. -/
def readNumber (sign : List Char) (input : List Char) :
    Option (Json × List Char) :=
  match readNatural input with
  | ([], _) => none
  | (digits, rest) =>
      let (fraction, rest) := readFraction rest
      let (exponent, rest) := readExponent rest
      if fraction = [] ∧ exponent = [] then
        let magnitude := Nat.ofDigitChars 10 digits 0
        some (.integer (if sign = [] then magnitude else -magnitude), rest)
      else
        some (.real (String.ofList (sign ++ digits ++ fraction ++ exponent)),
          rest)

/-- The words that stand for values. -/
def words : List (List Char × Json) :=
  [(['n', 'u', 'l', 'l'], .null),
    (['t', 'r', 'u', 'e'], .bool true),
    (['f', 'a', 'l', 's', 'e'], .bool false),
    (['N', 'a', 'N'], .real "NaN"),
    (['I', 'n', 'f', 'i', 'n', 'i', 't', 'y'], .real "Infinity"),
    (['-', 'I', 'n', 'f', 'i', 'n', 'i', 't', 'y'], .real "-Infinity")]

def readScalar (input : List Char) : Option (Json × List Char) :=
  match words.findSome? fun (word, value) =>
      (word.isPrefixOf? input).map fun rest => (value, rest) with
  | some found => some found
  | none =>
      match input with
      | '-' :: rest => readNumber ['-'] rest
      | _ => readNumber [] input

/-- Read past what has to stand before an element. -/
def readSeparator (first : Bool) : List Char → Option (List Char)
  | ',' :: rest => if first then none else some rest
  | input => if first then some input else none

/-- The name of a member and the colon after it. -/
def readName (input : List Char) : Option (String × List Char) :=
  match skip input with
  | '"' :: rest => do
      let (name, rest) ← readString rest.length rest
      match skip rest with
      | ':' :: rest => return (String.ofList name, rest)
      | _ => none
  | _ => none

/-- Give a name its value in place of an earlier one. -/
def setMember (name : String) (value : Json) :
    List (String × Json) → List (String × Json)
  | [] => [(name, value)]
  | (other, old) :: members =>
      if other = name then (name, value) :: members
      else (other, old) :: setMember name value members

/-- The members with the last value of each name. -/
def lastMembers (members : List (String × Json)) : List (String × Json) :=
  members.foldl (fun kept member => setMember member.1 member.2 kept) []

mutual

def readValue : Nat → List Char → Option (Json × List Char)
  | 0, _ => none
  | fuel + 1, input =>
      match skip input with
      | '"' :: rest => do
          let (chars, rest) ← readString rest.length rest
          return (.string (String.ofList chars), rest)
      | '[' :: rest => do
          let (elements, rest) ← readElements fuel true rest
          return (.array elements, rest)
      | '{' :: rest => do
          let (members, rest) ← readMembers fuel true rest
          return (.object (lastMembers members), rest)
      | input => readScalar input

def readElements : Nat → Bool → List Char → Option (List Json × List Char)
  | 0, _, _ => none
  | fuel + 1, first, input =>
      match skip input with
      | ']' :: rest => some ([], rest)
      | input => do
          let input ← readSeparator first input
          let (element, rest) ← readValue fuel input
          let (elements, rest) ← readElements fuel false rest
          return (element :: elements, rest)

def readMembers : Nat → Bool → List Char →
    Option (List (String × Json) × List Char)
  | 0, _, _ => none
  | fuel + 1, first, input =>
      match skip input with
      | '}' :: rest => some ([], rest)
      | input => do
          let input ← readSeparator first input
          let (name, rest) ← readName input
          let (value, rest) ← readValue fuel rest
          let (members, rest) ← readMembers fuel false rest
          return ((name, value) :: members, rest)

end

/-- Read a whole text. -/
def read (text : List Char) : Option Json := do
  let (value, rest) ← readValue (text.length + 1) text
  if skip rest = [] then return value else none

end Reading

section RoundTrip

mutual

/-- A document that reads back: its numbers are integers, and the members of
each of its objects have different names. -/
def Printable : Json → Prop
  | real _ => False
  | array elements => PrintableElements elements
  | object members =>
      (members.map Prod.fst).Nodup ∧ PrintableMembers members
  | _ => True

def PrintableElements : List Json → Prop
  | [] => True
  | element :: elements => element.Printable ∧ PrintableElements elements

def PrintableMembers : List (String × Json) → Prop
  | [] => True
  | (_, value) :: members => value.Printable ∧ PrintableMembers members

end

theorem hexValue_hexDigit :
    ∀ digit < 16, hexValue (hexDigit digit) = some digit := by
  decide

theorem readCode_hexDigits (code : Nat) (small : code < 256)
    (rest : List Char) :
    readCode ('0' :: '0' :: hexDigit (code / 16) :: hexDigit (code % 16) ::
      rest) = some (code, rest) := by
  have zero : hexValue '0' = some 0 := by decide
  have high := hexValue_hexDigit (code / 16) (by omega)
  have low := hexValue_hexDigit (code % 16) (by omega)
  simp only [readCode, zero, high, low, Option.bind_eq_bind,
    Option.bind_some, Option.pure_def, Option.some.injEq, Prod.mk.injEq,
    and_true]
  omega

theorem charOfCode_toNat (char : Char) :
    charOfCode char.toNat = some char := by
  have valid : char.toNat.isValidChar := char.valid
  simp [charOfCode, valid]

theorem readChar_escape (char : Char) (rest : List Char) :
    readChar (escape char ++ rest) = some (char, rest) := by
  unfold escape
  split_ifs with quote backslash newline carriage tab feed backspace control
  · subst quote; rfl
  · subst backslash; rfl
  · subst newline; rfl
  · subst carriage; rfl
  · subst tab; rfl
  · have same : char = Char.ofNat 12 := by rw [← feed, Char.ofNat_toNat]
    subst same; rfl
  · have same : char = Char.ofNat 8 := by rw [← backspace, Char.ofNat_toNat]
    subst same; rfl
  · have code := readCode_hexDigits char.toNat (by omega) rest
    have notSurrogate : ¬ 0xd800 ≤ char.toNat := by omega
    simp [readChar, code, charOfCode_toNat, notSurrogate]
  · simp [readChar, backslash, control]

/-- An escape never begins with the quote that closes a string. -/
theorem exists_escape (char : Char) :
    ∃ head tail, escape char = head :: tail ∧ head ≠ '"' := by
  unfold escape
  split_ifs with quote <;> simp [quote]

theorem readString_flatMap_escape (chars rest : List Char) (fuel : Nat)
    (enough : chars.length < fuel) :
    readString fuel (chars.flatMap escape ++ '"' :: rest) =
      some (chars, rest) := by
  induction chars generalizing fuel with
  | nil =>
      obtain ⟨fuel, rfl⟩ : ∃ less, fuel = less + 1 := ⟨fuel - 1, by grind⟩
      rfl
  | cons char chars ih =>
      obtain ⟨fuel, rfl⟩ : ∃ less, fuel = less + 1 := ⟨fuel - 1, by grind⟩
      obtain ⟨head, tail, escaped, notQuote⟩ := exists_escape char
      have first := readChar_escape char
        (chars.flatMap escape ++ '"' :: rest)
      have others := ih fuel (by simpa using enough)
      rw [List.flatMap_cons, List.append_assoc]
      rw [escaped, List.cons_append] at first ⊢
      rw [readString.eq_3 _ _ (by simp [notQuote]), first]
      simp [others]

/-- A positive number has no leading zero. -/
theorem exists_toDigits (number : Nat) (positive : 0 < number) :
    ∃ head tail, Nat.toDigits 10 number = head :: tail ∧ head ≠ '0' := by
  induction number using Nat.strong_induction_on with
  | _ number ih =>
      rw [Nat.toDigits_eq_if (by omega)]
      split_ifs with small
      · refine ⟨number.digitChar, [], rfl, ?_⟩
        have notZero : ∀ digit < 10, 0 < digit → digit.digitChar ≠ '0' := by
          decide
        exact notZero number small positive
      · obtain ⟨head, tail, digits, notZero⟩ :=
          ih (number / 10) (by omega) (by omega)
        exact ⟨head, tail ++ [(number % 10).digitChar], by simp [digits],
          notZero⟩

theorem exists_isDigit_toDigits (number : Nat) :
    ∃ head tail, Nat.toDigits 10 number = head :: tail ∧
      head.isDigit = true := by
  have notEmpty : Nat.toDigits 10 number ≠ [] := Nat.toDigits_ne_nil
  obtain ⟨head, tail, digits⟩ := List.exists_cons_of_ne_nil notEmpty
  have member : head ∈ Nat.toDigits 10 number := by simp [digits]
  exact ⟨head, tail, digits,
    Nat.isDigit_of_mem_toDigits (by omega) (by omega) member⟩

/-- A number that stops before the text does not go on in it. -/
def EndsNumber (rest : List Char) : Prop :=
  ∀ char ∈ rest.head?,
    char.isDigit = false ∧ char ≠ '.' ∧ char ≠ 'e' ∧ char ≠ 'E'

theorem readDigits_append {digits : List Char}
    (allDigits : ∀ char ∈ digits, char.isDigit = true) (rest : List Char)
    (ends : ∀ char ∈ rest.head?, char.isDigit = false) :
    readDigits (digits ++ rest) = (digits, rest) := by
  have takeNone : rest.takeWhile Char.isDigit = [] := by
    cases rest with
    | nil => rfl
    | cons char rest => simp [ends char rfl]
  have dropNone : rest.dropWhile Char.isDigit = rest := by
    cases rest with
    | nil => rfl
    | cons char rest => simp [ends char rfl]
  simp [readDigits, List.takeWhile_append_of_pos allDigits,
    List.dropWhile_append_of_pos allDigits, takeNone, dropNone]

theorem readNatural_toDigits (number : Nat) {rest : List Char}
    (ends : EndsNumber rest) :
    readNatural (Nat.toDigits 10 number ++ rest) =
      (Nat.toDigits 10 number, rest) := by
  rcases Nat.eq_zero_or_pos number with rfl | positive
  · simp [readNatural]
  · have allDigits : ∀ char ∈ Nat.toDigits 10 number, char.isDigit = true :=
      fun _ member => Nat.isDigit_of_mem_toDigits (by omega) (by omega) member
    have read := readDigits_append allDigits rest
      fun char member => (ends char member).1
    obtain ⟨head, tail, digits, notZero⟩ := exists_toDigits number positive
    rw [digits, List.cons_append] at read ⊢
    rw [readNatural, read]
    simp [notZero]

theorem readFraction_of_ends {rest : List Char} (ends : EndsNumber rest) :
    readFraction rest = ([], rest) := by
  cases rest with
  | nil => rfl
  | cons char rest => simp [readFraction, (ends char rfl).2.1]

theorem readExponent_of_ends {rest : List Char} (ends : EndsNumber rest) :
    readExponent rest = ([], rest) := by
  cases rest with
  | nil => rfl
  | cons char rest =>
      obtain ⟨-, -, lower, upper⟩ := ends char rfl
      simp [readExponent, lower, upper]

theorem readNumber_toDigits (sign : List Char) (number : Nat)
    {rest : List Char} (ends : EndsNumber rest) :
    readNumber sign (Nat.toDigits 10 number ++ rest) =
      some (.integer (if sign = [] then number else -number), rest) := by
  rw [readNumber, readNatural_toDigits number ends]
  simp [readFraction_of_ends ends, readExponent_of_ends ends,
    Nat.ofDigitChars_ten_toDigits]

/-- A word or a number that starts with a digit is not another word. -/
theorem readScalar_toDigits (number : Nat) {rest : List Char}
    (ends : EndsNumber rest) :
    readScalar (Nat.toDigits 10 number ++ rest) =
      some (.integer number, rest) := by
  have read := readNumber_toDigits [] number ends
  obtain ⟨head, tail, digits, isDigit⟩ := exists_isDigit_toDigits number
  rw [digits, List.cons_append] at read ⊢
  have notN : 'n' ≠ head := by rintro rfl; simp at isDigit
  have notT : 't' ≠ head := by rintro rfl; simp at isDigit
  have notF : 'f' ≠ head := by rintro rfl; simp at isDigit
  have notUpperN : 'N' ≠ head := by rintro rfl; simp at isDigit
  have notUpperI : 'I' ≠ head := by rintro rfl; simp at isDigit
  have notMinus : '-' ≠ head := by rintro rfl; simp at isDigit
  simp [readScalar, words, List.isPrefixOf?, notN, notT, notF, notUpperN,
    notUpperI, notMinus, notMinus.symm, read]

theorem readScalar_neg_toDigits (number : Nat) {rest : List Char}
    (ends : EndsNumber rest) :
    readScalar ('-' :: Nat.toDigits 10 number ++ rest) =
      some (.integer (-number), rest) := by
  have read := readNumber_toDigits ['-'] number ends
  obtain ⟨head, tail, digits, isDigit⟩ := exists_isDigit_toDigits number
  rw [digits, List.cons_append] at read ⊢
  have notUpperI : 'I' ≠ head := by rintro rfl; simp at isDigit
  simp [readScalar, words, List.isPrefixOf?, notUpperI, read]

/-- Every text starts with a character that begins no separator and closes
nothing. -/
theorem exists_print {value : Json} (printable : value.Printable) :
    ∃ head tail, print value = head :: tail ∧ isBlank head = false ∧
      head ≠ ']' ∧ head ≠ ',' := by
  cases value with
  | null => exact ⟨_, _, rfl, by decide⟩
  | bool value => cases value <;> exact ⟨_, _, rfl, by decide⟩
  | integer value =>
      cases value with
      | ofNat value =>
          obtain ⟨head, tail, digits, isDigit⟩ :=
            exists_isDigit_toDigits value
          refine ⟨head, tail, digits, ?_, ?_, ?_⟩
          · rw [← Bool.not_eq_true, isBlank]
            rintro blank
            simp only [Bool.or_eq_true, decide_eq_true_eq] at blank
            rcases blank with ((rfl | rfl) | rfl) | rfl <;> simp at isDigit
          · rintro rfl; simp at isDigit
          · rintro rfl; simp at isDigit
      | negSucc value => exact ⟨_, _, rfl, by decide⟩
  | real literal => simp [Printable] at printable
  | string value => exact ⟨_, _, rfl, by decide⟩
  | array elements => exact ⟨_, _, rfl, by decide⟩
  | object members => exact ⟨_, _, rfl, by decide⟩

theorem setMember_of_notMem {name : String} {value : Json}
    {members : List (String × Json)}
    (fresh : name ∉ members.map Prod.fst) :
    setMember name value members = members ++ [(name, value)] := by
  induction members with
  | nil => rfl
  | cons member members ih =>
      simp only [List.map_cons, List.mem_cons, not_or] at fresh
      simp [setMember, Ne.symm fresh.1, ih fresh.2]

theorem foldl_setMember (kept members : List (String × Json))
    (distinct : ((kept ++ members).map Prod.fst).Nodup) :
    members.foldl (fun kept member => setMember member.1 member.2 kept)
      kept = kept ++ members := by
  induction members generalizing kept with
  | nil => simp
  | cons member members ih =>
      have fresh : member.1 ∉ kept.map Prod.fst := by
        rw [List.map_append, List.nodup_append] at distinct
        intro present
        exact distinct.2.2 _ present _ (by simp) rfl
      rw [List.foldl_cons, setMember_of_notMem fresh,
        ih _ (by simpa using distinct)]
      simp

/-- Nothing is lost of members with different names. -/
theorem lastMembers_of_nodup {members : List (String × Json)}
    (distinct : (members.map Prod.fst).Nodup) :
    lastMembers members = members := by
  simpa [lastMembers] using foldl_setMember [] members (by simpa)

theorem skip_cons {head : Char} (notBlank : isBlank head = false)
    (tail : List Char) : skip (head :: tail) = head :: tail := by
  simp [skip, notBlank]

theorem skip_blank (rest : List Char) : skip (' ' :: rest) = skip rest :=
  rfl

theorem skip_print {value : Json} (printable : value.Printable)
    (rest : List Char) :
    skip (print value ++ rest) = print value ++ rest := by
  obtain ⟨head, tail, text, notBlank, -, -⟩ := exists_print printable
  rw [text, List.cons_append, skip_cons notBlank]

theorem length_le_flatMap_escape (chars : List Char) :
    chars.length ≤ (chars.flatMap escape).length := by
  induction chars with
  | nil => rfl
  | cons char chars ih =>
      obtain ⟨head, tail, escaped, -⟩ := exists_escape char
      rw [List.flatMap_cons, escaped, List.cons_append, List.length_cons,
        List.length_cons, List.length_append]
      omega

theorem readString_printString (name : String) (rest : List Char) :
    readString (name.toList.flatMap escape ++ '"' :: rest).length
      (name.toList.flatMap escape ++ '"' :: rest) =
        some (name.toList, rest) := by
  apply readString_flatMap_escape
  have grows := length_le_flatMap_escape name.toList
  rw [List.length_append, List.length_cons]
  omega

theorem printString_append (name : String) (rest : List Char) :
    printString name ++ rest =
      '"' :: (name.toList.flatMap escape ++ '"' :: rest) := by
  simp [printString]

theorem readName_printString {name : String} {input rest : List Char}
    (text : skip input = printString name ++ ':' :: rest) :
    readName input = some (name, rest) := by
  have colon : isBlank ':' = false := by decide
  rw [readName, text, printString_append]
  simp only [readString_printString, Option.bind_eq_bind, Option.bind_some,
    skip_cons colon]
  simp

theorem endsNumber_printElements (elements : List Json) (rest : List Char) :
    EndsNumber (printElements false elements ++ rest) := by
  cases elements <;> simp [EndsNumber, printElements, separator]

theorem endsNumber_printMembers (members : List (String × Json))
    (rest : List Char) :
    EndsNumber (printMembers false members ++ rest) := by
  cases members <;> simp [EndsNumber, printMembers, separator]

theorem length_print_pos {value : Json} (printable : value.Printable) :
    0 < (print value).length := by
  obtain ⟨head, tail, text, -⟩ := exists_print printable
  simp [text]

theorem length_printElements_pos (first : Bool) (elements : List Json) :
    0 < (printElements first elements).length := by
  cases elements with
  | nil => simp [printElements]
  | cons element elements =>
      have others := length_printElements_pos false elements
      simp only [printElements, List.length_append]
      omega

theorem length_printMembers_pos (first : Bool)
    (members : List (String × Json)) :
    0 < (printMembers first members).length := by
  cases members with
  | nil => simp [printMembers]
  | cons member members =>
      simp only [printMembers, List.length_append, List.length_cons]
      omega

mutual

/-- Induction on the document.  The length of its text is fuel enough, since
each call reads a part that at least one more character belongs to. -/
theorem readValue_print (value : Json) (printable : value.Printable)
    (fuel : Nat) {input rest : List Char}
    (text : skip input = print value ++ rest) (ends : EndsNumber rest)
    (enough : (print value).length ≤ fuel) :
    readValue fuel input = some (value, rest) := by
  obtain ⟨fuel, rfl⟩ : ∃ less, fuel = less + 1 :=
    ⟨fuel - 1, by have := length_print_pos printable; omega⟩
  rw [readValue, text]
  match value with
  | null => rfl
  | bool true => rfl
  | bool false => rfl
  | integer (.ofNat value) =>
      have read := readScalar_toDigits value ends
      obtain ⟨head, tail, digits, isDigit⟩ := exists_isDigit_toDigits value
      simp only [print]
      rw [digits, List.cons_append] at read ⊢
      split <;> simp_all
  | integer (.negSucc value) =>
      exact readScalar_neg_toDigits (value + 1) ends
  | real literal => simp [Printable] at printable
  | string value =>
      rw [print, printString_append]
      simp only [readString_printString]
      simp
  | array elements =>
      have read := readElements_print elements printable true
        rest fuel (by simp [print] at enough; omega)
      simp [print, read]
  | object members =>
      have read := readMembers_print members printable.2 true
        rest fuel (by simp [print] at enough; omega)
      simp [print, read, lastMembers_of_nodup printable.1]

theorem readElements_print (elements : List Json)
    (printable : PrintableElements elements) (first : Bool)
    (rest : List Char) (fuel : Nat)
    (enough : (printElements first elements).length ≤ fuel) :
    readElements fuel first (printElements first elements ++ rest) =
      some (elements, rest) := by
  obtain ⟨fuel, rfl⟩ : ∃ less, fuel = less + 1 :=
    ⟨fuel - 1, by have := length_printElements_pos first elements; omega⟩
  match elements with
  | [] => rfl
  | element :: elements =>
      have others := length_printElements_pos false elements
      have one := length_print_pos printable.1
      simp only [printElements, List.length_append] at enough
      have readOthers := readElements_print elements printable.2 false
        rest fuel (by omega)
      have ends := endsNumber_printElements elements rest
      cases first with
      | true =>
          have readFirst := readValue_print element printable.1 fuel
            (skip_print printable.1 _) ends (by omega)
          obtain ⟨head, tail, print, notBlank, notClose, notComma⟩ :=
            exists_print printable.1
          simp only [printElements, separator, if_true, List.nil_append,
            List.append_assoc]
          rw [print, List.cons_append] at readFirst ⊢
          rw [readElements, skip_cons notBlank]
          simp [notClose, readSeparator, notComma, readFirst, readOthers]
      | false =>
          have readFirst := readValue_print element printable.1 fuel
            ((skip_blank _).trans (skip_print printable.1 _)) ends
            (by omega)
          have comma : isBlank ',' = false := by decide
          simp only [printElements, separator, Bool.false_eq_true, if_false,
            List.cons_append, List.nil_append, List.append_assoc]
          rw [readElements, skip_cons comma]
          simp [readSeparator, readFirst, readOthers]

theorem readMembers_print (members : List (String × Json))
    (printable : PrintableMembers members) (first : Bool)
    (rest : List Char) (fuel : Nat)
    (enough : (printMembers first members).length ≤ fuel) :
    readMembers fuel first (printMembers first members ++ rest) =
      some (members, rest) := by
  obtain ⟨fuel, rfl⟩ : ∃ less, fuel = less + 1 :=
    ⟨fuel - 1, by have := length_printMembers_pos first members; omega⟩
  match members with
  | [] => rfl
  | (name, value) :: members =>
      have others := length_printMembers_pos false members
      simp only [printMembers, List.length_append, List.length_cons]
        at enough
      have readOthers := readMembers_print members printable.2 false
        rest fuel (by omega)
      have readFirst := readValue_print value printable.1 fuel
        ((skip_blank _).trans (skip_print printable.1 _))
        (endsNumber_printMembers members rest) (by omega)
      have text := printString_append name
        (':' :: ' ' :: (print value ++ (printMembers false members ++ rest)))
      have quote : isBlank '"' = false := by decide
      cases first with
      | true =>
          have readFirstName := readName_printString
            ((skip_cons quote _).trans text.symm)
          simp only [printMembers, separator, if_true, List.nil_append,
            List.append_assoc, List.cons_append, text]
          rw [readMembers, skip_cons quote]
          simp [readSeparator, readFirstName, readFirst, readOthers]
      | false =>
          have readFirstName := readName_printString
            ((skip_blank _).trans ((skip_cons quote _).trans text.symm))
          have comma : isBlank ',' = false := by decide
          simp only [printMembers, separator, Bool.false_eq_true, if_false,
            List.nil_append, List.append_assoc, List.cons_append, text]
          rw [readMembers, skip_cons comma]
          simp [readSeparator, readFirstName, readFirst, readOthers]

end

/-- Reading the text of a document gives the document. -/
theorem read_print {value : Json} (printable : value.Printable) :
    read (print value) = some value := by
  have noMore : EndsNumber [] := by simp [EndsNumber]
  have text : skip (print value) = print value ++ [] := by
    simpa using skip_print printable []
  have whole : readValue ((print value).length + 1) (print value) =
      some (value, []) :=
    readValue_print value printable _ text noMore (Nat.le_succ _)
  have noRest : skip [] = [] := rfl
  rw [read, whole]
  change (if skip [] = [] then some value else none) = some value
  exact if_pos noRest

end RoundTrip

end Json
