/-!
# Digits

Numbers written to base sixteen, with small letters and without leading zeros, and the values of
rows of digits to any base.
-/

namespace ValueMethods
namespace Text

/-- The digit for a value below sixteen, with small letters. -/
def hexDigit (value : Nat) : Char :=
  if value < 10 then Char.ofNat ('0'.toNat + value) else Char.ofNat ('a'.toNat + (value - 10))

/-- The hexadecimal digits of a number without leading zeros. -/
def hexDigits (value : Nat) : List Char :=
  if value < 16 then [hexDigit value] else hexDigits (value / 16) ++ [hexDigit (value % 16)]

/-- A number in hexadecimal. -/
def hexText (value : Nat) : String :=
  String.ofList (hexDigits value)

/-- The value of a digit to base sixteen, in small or capital letters. -/
def digitValue? (c : Char) : Option Nat :=
  if '0' ≤ c && c ≤ '9' then some (c.toNat - '0'.toNat)
  else if 'a' ≤ c && c ≤ 'f' then some (c.toNat - 'a'.toNat + 10)
  else if 'A' ≤ c && c ≤ 'F' then some (c.toNat - 'A'.toNat + 10)
  else none

/-- The number that a row of digits stands for, after a number already read.  Each digit must be
less than the base. -/
def numberFrom? (base : Nat) : Nat → List Char → Option Nat
  | number, [] => some number
  | number, digit :: rest =>
      match digitValue? digit with
      | some value =>
          if value < base then numberFrom? base (number * base + value) rest else none
      | none => none

/-- The number that a row of digits stands for. -/
def number? (base : Nat) (digits : List Char) : Option Nat :=
  numberFrom? base 0 digits

/-- The number that a row of decimal digits stands for; other characters count as zeros. -/
def decimalValue (digits : List Char) : Nat :=
  (number? 10 digits).getD 0

end Text
end ValueMethods
