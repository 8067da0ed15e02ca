import ValueMethods.Evaluation.Value

/-!
# Hash arithmetic

Hashes are 32-bit words with wrapping arithmetic.  The hash of a sequence is a polynomial in 31
whose coefficients are the hashes of the elements, the last one with weight one.  A text is hashed
as a sequence of 16-bit code units, of which a character beyond the first 65536 has two, a high and
a low surrogate.
-/

namespace ValueMethods

namespace Text

/-- The code units of a character. -/
def charUnits (c : Char) : List Nat :=
  if c.toNat < 0x10000 then
    [c.toNat]
  else
    [0xD800 + (c.toNat - 0x10000) / 0x400, 0xDC00 + (c.toNat - 0x10000) % 0x400]

/-- The code units of a text. -/
def units (text : String) : List Nat :=
  text.toList.flatMap charUnits

@[simp]
theorem units_append (front back : String) : units (front ++ back) = units front ++ units back := by
  simp [units]

end Text

namespace Hash

/-- Takes one more element into the hash of a sequence. -/
def combine (hash element : Int32) : Int32 :=
  hash * 31 + element

/-- The hash of a sequence of words, from a start value. -/
def fold (start : Int32) (elements : List Int32) : Int32 :=
  elements.foldl combine start

/-- The hash of a string: its code units from zero. -/
def ofText (text : String) : Int32 :=
  fold 0 ((Text.units text).map Int32.ofNat)

/-- The hash of a truth value. -/
def ofBool : Bool → Int32
  | true => 1231
  | false => 1237

/-- The hash of a 64-bit word: its halves combined by exclusive or. -/
def ofLong (value : Int64) : Int32 :=
  (value.toUInt64 ^^^ (value.toUInt64 >>> 32)).toInt64.toInt32

@[simp]
theorem fold_nil (start : Int32) : fold start [] = start := rfl

@[simp]
theorem fold_cons (start element : Int32) (rest : List Int32) :
    fold start (element :: rest) = fold (combine start element) rest := rfl

/-- A sequence can be hashed in two parts. -/
theorem fold_append (start : Int32) (front back : List Int32) :
    fold start (front ++ back) = fold (fold start front) back := by
  simp [fold]

end Hash
end ValueMethods
