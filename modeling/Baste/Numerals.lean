import Mathlib.Data.Rat.Defs
import Mathlib.Algebra.Field.Rat

/-!
# Numerals in typed text

The integers and decimals that a general-purpose language reads from text.
The digits may be the decimal digits of any script, and underscores may group
them: singly between two digits of an integer, anywhere in a decimal.
-/

namespace Numerals

/-- The zeros of the scripts of Unicode.  The other nine digits follow. -/
def zeros : List Nat :=
  [48, 1632, 1776, 1984, 2406, 2534, 2662, 2790, 2918, 3046, 3174, 3302, 3430,
    3558, 3664, 3792, 3872, 4160, 4240, 6112, 6160, 6470, 6608, 6784, 6800,
    6992, 7088, 7232, 7248, 42528, 43216, 43264, 43472, 43504, 43600, 44016,
    65296, 66720, 68912, 69734, 69872, 69942, 70096, 70384, 70736, 70864,
    71248, 71360, 71472, 71904, 72016, 72784, 73040, 73120, 92768, 92864,
    93008, 120782, 120792, 120802, 120812, 120822, 123200, 123632, 125264,
    130032]

/-- The value of a decimal digit. -/
def digitValue (char : Char) : Option Nat :=
  (zeros.find? fun first => first ≤ char.toNat && char.toNat < first + 10).map
    (char.toNat - ·)

def isDigit (char : Char) : Bool :=
  (digitValue char).isSome

/-- The number that the digits spell. -/
def ofDigits (digits : List Char) : Nat :=
  digits.foldl (fun number char => 10 * number + (digitValue char).getD 0) 0

/-- Whether the number has a minus sign, and what follows the sign. -/
def readSign : List Char → Bool × List Char
  | '-' :: rest => (true, rest)
  | '+' :: rest => (false, rest)
  | rest => (false, rest)

/-- The digits of an integer without the underscores between them. -/
def ungroup : List Char → Option (List Char)
  | [] => none
  | [char] => if isDigit char then some [char] else none
  | char :: '_' :: rest =>
      if isDigit char then (ungroup rest).map (char :: ·) else none
  | char :: rest =>
      if isDigit char then (ungroup rest).map (char :: ·) else none

/-- Read an integer that fills the text. -/
def readInteger (text : List Char) : Option Int :=
  let (negative, body) := readSign text
  (ungroup body).map fun digits =>
    if negative then -(ofDigits digits : Int) else ofDigits digits

/-- A decimal number, or one of the special values. -/
inductive Decimal where
  | finite (value : Rat)
  | infinity (negative : Bool)
  | nan
  deriving DecidableEq

/-- The coefficient of a decimal and the number of its digits after the
point. -/
def readCoefficient (text : List Char) : Option (Nat × Nat) :=
  let (whole, rest) := text.span isDigit
  let fraction := rest.drop 1
  if rest ≠ [] ∧ rest.head? ≠ some '.' ∨ ¬ fraction.all isDigit ∨
      whole ++ fraction = [] then none
  else some (ofDigits (whole ++ fraction), fraction.length)

/-- The exponent of a decimal, which begins with a letter if it is there. -/
def readExponent : List Char → Option Int
  | [] => some 0
  | _ :: text =>
      let (negative, digits) := readSign text
      if digits = [] ∨ ¬ digits.all isDigit then none
      else if negative then some (-(ofDigits digits : Int))
      else some (ofDigits digits)

/-- Read a decimal that fills the text. -/
def readDecimal (text : List Char) : Option Decimal :=
  let (negative, body) := readSign (text.filter (· ≠ '_'))
  let (word, payload) := (body.map Char.toLower).span (¬ isDigit ·)
  if word = "inf".toList ∧ payload = [] ∨
      word = "infinity".toList ∧ payload = [] then
    some (.infinity negative)
  else if (word = "nan".toList ∨ word = "snan".toList) ∧
      payload.all isDigit then
    some .nan
  else
    let (mantissa, exponent) := body.span fun char => char.toLower ≠ 'e'
    match readCoefficient mantissa, readExponent exponent with
    | some (coefficient, places), some power =>
        let magnitude := (coefficient : Rat) * 10 ^ (power - places)
        some (.finite (if negative then -magnitude else magnitude))
    | _, _ => none

end Numerals
