import Mathlib.Algebra.BigOperators.Fin
import Mathlib.Tactic.Ring
import ValueMethods.Evaluation.Invocation

/-!
# Hashes as polynomials

The hash of a string or of a list of values is a polynomial in 31, computed modulo `2 ^ 32` and read
as a signed number.  So the hash of a sequence follows from the hashes of its two parts and the
length of the second.
-/

namespace ValueMethods

/-! ## Code units -/

namespace Text

/-- The units encode the characters one after the other.  A character among the first 65536 is one
unit.  Every other is a high surrogate and a low one, each of which holds ten bits of the distance
from there. -/
inductive Encodes : List Char → List Nat → Prop
  | nil : Encodes [] []
  | basic {c : Char} {rest : List Char} {units : List Nat} (inPlane : c.toNat < 0x10000)
      (others : Encodes rest units) : Encodes (c :: rest) (c.toNat :: units)
  | supplementary {c : Char} {rest : List Char} {units : List Nat} {high low : Nat}
      (isHigh : 0xD800 ≤ high ∧ high < 0xDC00) (isLow : 0xDC00 ≤ low ∧ low < 0xE000)
      (joined : c.toNat = 0x10000 + (high - 0xD800) * 0x400 + (low - 0xDC00))
      (others : Encodes rest units) : Encodes (c :: rest) (high :: low :: units)

theorem encodes_units (text : String) : Encodes text.toList (units text) := by
  unfold units
  induction text.toList with
  | nil => exact .nil
  | cons c rest ih =>
      have bounded : c.toNat < 0x110000 := by
        rcases c.valid with low | ⟨_, high⟩
        · exact Nat.lt_trans low (by decide)
        · exact high
      rw [List.flatMap_cons, charUnits]
      split
      · next inPlane => exact .basic inPlane ih
      · next beyond =>
          have isHigh : 0xD800 ≤ 0xD800 + (c.toNat - 0x10000) / 0x400 ∧
              0xD800 + (c.toNat - 0x10000) / 0x400 < 0xDC00 := by omega
          have isLow : 0xDC00 ≤ 0xDC00 + (c.toNat - 0x10000) % 0x400 ∧
              0xDC00 + (c.toNat - 0x10000) % 0x400 < 0xE000 := by omega
          exact .supplementary isHigh isLow (by omega) ih

namespace Encodes

variable {characters : List Char} {units : List Nat}

/-- Code units are 16-bit words. -/
theorem lt_of_mem (encodes : Encodes characters units) {unit : Nat} (member : unit ∈ units) :
    unit < 0x10000 := by
  induction encodes with
  | nil => simp at member
  | basic inPlane others ih =>
      rcases List.mem_cons.mp member with rfl | later
      · exact inPlane
      · exact ih later
  | supplementary isHigh isLow joined others ih =>
      simp only [List.mem_cons] at member
      rcases member with rfl | rfl | later
      · exact Nat.lt_trans isHigh.2 (by decide)
      · exact Nat.lt_trans isLow.2 (by decide)
      · exact ih later

/-- There are two units for a character beyond the first 65536 and one for every other. -/
theorem length_eq (encodes : Encodes characters units) :
    units.length = characters.length + characters.countP (0x10000 ≤ ·.toNat) := by
  induction encodes with
  | nil => rfl
  | basic inPlane others ih =>
      rw [List.countP_cons_of_neg (by simpa using inPlane), List.length_cons, List.length_cons, ih]
      omega
  | supplementary isHigh isLow joined others ih =>
      rw [List.countP_cons_of_pos (by simp only [decide_eq_true_eq]; omega), List.length_cons,
        List.length_cons, List.length_cons, ih]
      omega

end Encodes
end Text

/-! ## Sequences of words -/

namespace Hash

/-- The polynomial in 31 with the given coefficients, the last one with weight one. -/
def polynomial (coefficients : List Int) : Int :=
  ∑ i : Fin coefficients.length, coefficients[i] * 31 ^ (coefficients.length - 1 - i)

@[simp]
theorem polynomial_nil : polynomial [] = 0 := rfl

theorem polynomial_cons (first : Int) (rest : List Int) :
    polynomial (first :: rest) = first * 31 ^ rest.length + polynomial rest := by
  calc polynomial (first :: rest)
      = ∑ i : Fin (rest.length + 1), (first :: rest)[i] * 31 ^ (rest.length - i) := rfl
    _ = first * 31 ^ rest.length +
          ∑ i : Fin rest.length, rest[i] * 31 ^ (rest.length - (i + 1)) := Fin.sum_univ_succ _
    _ = first * 31 ^ rest.length + polynomial rest := by
      simp only [polynomial, Nat.sub_add_eq, Nat.sub_right_comm]

/-- A factor may be reduced before the remainder is taken. -/
private theorem bmod_mul_add_bmod (factor weight rest : Int) (modulus : Nat) :
    (factor.bmod modulus * weight + rest).bmod modulus =
      (factor * weight + rest).bmod modulus := by
  rw [← Int.bmod_add_bmod, Int.bmod_mul_bmod, Int.bmod_add_bmod]

/-- Hashing words after a start value puts that value above their polynomial. -/
theorem toInt_fold (start : Int32) (elements : List Int32) :
    (fold start elements).toInt = (start.toInt * 31 ^ elements.length +
      polynomial (elements.map Int32.toInt)).bmod (2 ^ 32) := by
  induction elements generalizing start with
  | nil => simp
  | cons first rest ih =>
      have combined : (combine start first).toInt =
          (start.toInt * 31 + first.toInt).bmod (2 ^ 32) := by
        simp [combine, Int32.toInt_add, Int32.toInt_mul]
      calc (fold start (first :: rest)).toInt
          = ((start.toInt * 31 + first.toInt).bmod (2 ^ 32) * 31 ^ rest.length +
              polynomial (rest.map Int32.toInt)).bmod (2 ^ 32) := by rw [fold_cons, ih, combined]
        _ = ((start.toInt * 31 + first.toInt) * 31 ^ rest.length +
              polynomial (rest.map Int32.toInt)).bmod (2 ^ 32) := bmod_mul_add_bmod _ _ _ _
        _ = _ := by
          rw [List.map_cons, polynomial_cons, List.length_map, List.length_cons, pow_succ]
          ring_nf

/-! ## Strings -/

/-- The hash of a string is the polynomial of its code units. -/
theorem toInt_ofText (text : String) :
    (ofText text).toInt = (polynomial ((Text.units text).map Int.ofNat)).bmod (2 ^ 32) := by
  have coefficients : ((Text.units text).map Int32.ofNat).map Int32.toInt =
      (Text.units text).map Int.ofNat := by
    rw [List.map_map]
    refine List.map_congr_left fun unit member => ?_
    have small := (Text.encodes_units text).lt_of_mem member
    exact Int32.toInt_ofNat_of_lt (by omega)
  rw [ofText, toInt_fold, coefficients]
  simp

theorem toInt_ofText_append (front back : String) :
    (ofText (front ++ back)).toInt = ((ofText front).toInt * 31 ^ (Text.units back).length +
      (ofText back).toInt).bmod (2 ^ 32) := by
  have whole : ofText (front ++ back) =
      fold (ofText front) ((Text.units back).map Int32.ofNat) := by
    simp [ofText, fold_append]
  have low : (ofText back).toInt =
      (polynomial (((Text.units back).map Int32.ofNat).map Int32.toInt)).bmod (2 ^ 32) := by
    simp [ofText, toInt_fold]
  rw [whole, toInt_fold, low, Int.add_bmod_bmod, List.length_map]

/-! ## Long words -/

/-- The hash of a 64-bit word is the exclusive or of its halves. -/
theorem toBitVec_ofLong (value : Int64) :
    (ofLong value).toBitVec =
      value.toBitVec.extractLsb' 32 32 ^^^ value.toBitVec.extractLsb' 0 32 := by
  have narrowed : (ofLong value).toBitVec =
      (value.toBitVec ^^^ value.toBitVec >>> 32).setWidth 32 := by
    simp [ofLong, BitVec.signExtend_eq_setWidth_of_le]
  rw [narrowed]
  ext i inside
  simp [Bool.xor_comm]

end Hash

/-! ## Lists of values -/

namespace Dispatch

variable {dispatch : Dispatch} {hash : Value → Int32} {values : List Value}

theorem hashValues_eq_map
    (hashed : ∀ value ∈ values, dispatch.hashValue value = .ok (hash value)) :
    dispatch.hashValues values = .ok (values.map hash) := by
  induction values with
  | nil => rfl
  | cons first rest ih =>
      obtain ⟨here, later⟩ := List.forall_mem_cons.mp hashed
      simp [hashValues, here, ih later, Bind.bind, Except.bind]

/-- Values that can be hashed are hashed one by one, and their hashes are folded from one. -/
theorem hashAll_eq_fold
    (hashed : ∀ value ∈ values, dispatch.hashValue value = .ok (hash value)) :
    dispatch.hashAll values = .ok (Hash.fold 1 (values.map hash)) := by
  simp [hashAll, hashValues_eq_map hashed, Bind.bind, Except.bind]

end Dispatch

/-- Hashes of strings and of lists of values are polynomials in 31 modulo `2 ^ 32`, read as signed
numbers, and the hash of a sequence follows from the hashes of its parts.  The coefficients of a
string are its UTF-16 code units, those of a list are the hashes of its values below a leading one,
whatever calls on objects answer.  The hash of a long is the exclusive or of its halves. -/
theorem hashes_are_polynomials (dispatch : Dispatch) :
    (∀ text, dispatch.hashValue (.text text) = .ok (Hash.ofText text) ∧
      (Hash.ofText text).toInt =
        (Hash.polynomial ((Text.units text).map Int.ofNat)).bmod (2 ^ 32) ∧
      Text.Encodes text.toList (Text.units text) ∧
      (Text.units text).length = text.length + text.toList.countP (0x10000 ≤ ·.toNat)) ∧
    (∀ front back, (Hash.ofText (front ++ back)).toInt =
      ((Hash.ofText front).toInt * 31 ^ (Text.units back).length +
        (Hash.ofText back).toInt).bmod (2 ^ 32)) ∧
    dispatch.hashAll [] = .ok 1 ∧
    (∀ (front back : List Value) (hash : Value → Int32),
      (∀ value ∈ front ++ back, dispatch.hashValue value = .ok (hash value)) →
        ∃ part whole, dispatch.hashAll front = .ok part ∧
          dispatch.hashAll (front ++ back) = .ok whole ∧
          whole.toInt = (part.toInt * 31 ^ back.length +
            Hash.polynomial (back.map fun value => (hash value).toInt)).bmod (2 ^ 32)) ∧
    ∀ value : Int64, ∃ hash, dispatch.hashValue (.long value) = .ok hash ∧
      hash.toInt =
        (value.toBitVec.extractLsb' 32 32 ^^^ value.toBitVec.extractLsb' 0 32).toInt := by
  refine ⟨fun text => ?_, Hash.toInt_ofText_append, rfl, fun front back hash hashed => ?_,
    fun value => ⟨Hash.ofLong value, rfl, ?_⟩⟩
  · have encodes := Text.encodes_units text
    exact ⟨rfl, Hash.toInt_ofText text, encodes, encodes.length_eq⟩
  · have hashedFront := fun value member => hashed value (List.mem_append_left back member)
    refine ⟨_, _, Dispatch.hashAll_eq_fold hashedFront, Dispatch.hashAll_eq_fold hashed, ?_⟩
    rw [List.map_append, Hash.fold_append, Hash.toInt_fold, List.length_map, List.map_map]
    rfl
  · rw [← Hash.toBitVec_ofLong, Int32.toInt_toBitVec]

/-- A string with a supplementary character and an object without methods. -/
def textAndObject : List Value :=
  [.text "a😀", .object (.make 0 0 (-3) [])]

/-- A long word of more than 32 bits, null and a truth value. -/
def longNullAndTruth : List Value :=
  [.long 0x100000005, .null, .bool true]

/-- The hashes of values of both lists. -/
def mixedHash : Value → Int32
  | .text _ => 1866116
  | .object self => self.identity
  | .long _ => 4
  | .bool _ => 1231
  | _ => 0

theorem hashes_are_polynomials_on_mixedValues :
    (∀ value ∈ textAndObject ++ longNullAndTruth,
      (invoke .empty 1).hashValue value = .ok (mixedHash value)) ∧
    (invoke .empty 1).hashAll textAndObject = .ok 57850554 ∧
    ∃ whole, (invoke .empty 1).hashAll (textAndObject ++ longNullAndTruth) = .ok whole ∧
      whole.toInt = Int.bmod (57850554 * 31 ^ 3 + (4 * 31 ^ 2 + 0 * 31 + 1231)) (2 ^ 32) := by
  have hashed : ∀ value ∈ textAndObject ++ longNullAndTruth,
      (invoke .empty 1).hashValue value = .ok (mixedHash value) := by
    simp only [textAndObject, longNullAndTruth, List.cons_append, List.nil_append,
      List.forall_mem_cons, List.not_mem_nil, false_implies, implies_true, and_true]
    exact ⟨rfl, rfl, rfl, rfl, rfl⟩
  obtain ⟨part, whole, hashedFront, hashedWhole, value⟩ :=
    (hashes_are_polynomials (invoke .empty 1)).2.2.2.1 _ _ _ hashed
  have front : (invoke .empty 1).hashAll textAndObject = .ok 57850554 := rfl
  obtain rfl : part = 57850554 := Except.ok.inj (hashedFront.symm.trans front)
  refine ⟨hashed, front, whole, hashedWhole, value.trans ?_⟩
  simp [longNullAndTruth, mixedHash, Hash.polynomial_cons]

end ValueMethods
