import Baste.ChargeService
import Baste.Numerals

/-!
# Numbers typed into messages

How the handlers read the numbers that people type, and the texts of callback
data.
-/

namespace Baste

open ChargeService (strip)

/-- `int(text)` -/
def typedInteger (text : String) : Option Int :=
  Numerals.readInteger (strip text.toList)

/-- `Decimal(text)` -/
def typedDecimal (text : String) : Option Numerals.Decimal :=
  Numerals.readDecimal (strip text.toList)

/-- `Decimal(text.replace(",", "").strip())` -/
def typedAmount (text : String) : Option Numerals.Decimal :=
  typedDecimal (String.ofList (text.toList.filter (· ≠ ',')))

/-- The characters that are digits without being decimal digits, from first
to last. -/
def specialDigits : List (Nat × Nat) :=
  [(0xb2, 0xb3), (0xb9, 0xb9), (0x1369, 0x1371), (0x19da, 0x19da),
    (0x2070, 0x2070), (0x2074, 0x2079), (0x2080, 0x2089), (0x2460, 0x2468),
    (0x2474, 0x247c), (0x2488, 0x2490), (0x24ea, 0x24ea), (0x24f5, 0x24fd),
    (0x24ff, 0x24ff), (0x2776, 0x277e), (0x2780, 0x2788), (0x278a, 0x2792),
    (0x10a40, 0x10a43), (0x10e60, 0x10e68), (0x11052, 0x1105a),
    (0x1f100, 0x1f10a)]

/-- `char.isdigit()` -/
def isDigitChar (char : Char) : Bool :=
  Numerals.isDigit char || specialDigits.any fun (first, last) =>
    first ≤ char.toNat && char.toNat ≤ last

/-- The digits of a number with a comma before every third from the right. -/
def groupThousands (number : Nat) : String :=
  let digits := (Nat.toDigits 10 number).reverse
  String.ofList (group digits).reverse
where
  group : List Char → List Char
    | first :: second :: third :: fourth :: rest =>
        first :: second :: third :: ',' :: group (fourth :: rest)
    | digits => digits

/-- `{amount:,.0f}` of a column value. -/
def formatAmount (cents : Cents) : String :=
  let sign := if cents < 0 then "-" else ""
  s!"{sign}{groupThousands (roundHalfEven (decimal cents)).natAbs}"

example : formatAmount (-123456750) = "-1,234,568" := by decide +kernel

end Baste
