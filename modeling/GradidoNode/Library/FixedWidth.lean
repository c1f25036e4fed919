import Mathlib.Data.List.Basic
import Mathlib.Order.Lattice
import Mathlib.Tactic.Common
import Mathlib.Tactic.Ring

/-!
# Fixed-width integers

The linear orders of the machine integers used as keys, and the little-endian
byte strings in which they are stored.
-/

namespace GradidoNode

namespace Library

instance linearOrderUInt64 : LinearOrder UInt64 where
  le_refl := UInt64.le_refl
  le_trans _ _ _ := UInt64.le_trans
  lt_iff_le_not_ge first second := by
    simp only [UInt64.lt_iff_toNat_lt, UInt64.le_iff_toNat_le]
    omega
  le_antisymm _ _ := UInt64.le_antisymm
  le_total := UInt64.le_total
  toDecidableLE := inferInstance
  toDecidableLT := inferInstance
  toDecidableEq := inferInstance

instance linearOrderUInt32 : LinearOrder UInt32 where
  le_refl := UInt32.le_refl
  le_trans _ _ _ := UInt32.le_trans
  lt_iff_le_not_ge first second := by
    simp only [UInt32.lt_iff_toNat_lt, UInt32.le_iff_toNat_le]
    omega
  le_antisymm _ _ := UInt32.le_antisymm
  le_total := UInt32.le_total
  toDecidableLE := inferInstance
  toDecidableLT := inferInstance
  toDecidableEq := inferInstance

instance linearOrderUInt8 : LinearOrder UInt8 where
  le_refl := UInt8.le_refl
  le_trans _ _ _ := UInt8.le_trans
  lt_iff_le_not_ge first second := by
    simp only [UInt8.lt_iff_toNat_lt, UInt8.le_iff_toNat_le]
    omega
  le_antisymm _ _ := UInt8.le_antisymm
  le_total := UInt8.le_total
  toDecidableLE := inferInstance
  toDecidableLT := inferInstance
  toDecidableEq := inferInstance

instance linearOrderInt16 : LinearOrder Int16 where
  le_refl := Int16.le_refl
  le_trans _ _ _ := Int16.le_trans
  lt_iff_le_not_ge first second := by
    simp only [Int16.lt_iff_toInt_lt, Int16.le_iff_toInt_le]
    omega
  le_antisymm _ _ := Int16.le_antisymm
  le_total := Int16.le_total
  toDecidableLE := inferInstance
  toDecidableLT := inferInstance
  toDecidableEq := inferInstance

/-- The low `width` bytes of a number, least significant first. -/
def bytesLE : Nat → Nat → List UInt8
  | 0, _ => []
  | width + 1, value => UInt8.ofNat value :: bytesLE width (value / 256)

/-- The number a little-endian byte string stands for. -/
def ofBytesLE : List UInt8 → Nat
  | [] => 0
  | byte :: rest => byte.toNat + 256 * ofBytesLE rest

@[simp] theorem length_bytesLE (width value : Nat) : (bytesLE width value).length = width := by
  induction width generalizing value with
  | zero => rfl
  | succ width ih => simp [bytesLE, ih]

/-- Reading back a written number keeps what fits into its bytes. -/
theorem ofBytesLE_bytesLE (width value : Nat) :
    ofBytesLE (bytesLE width value) = value % 256 ^ width := by
  induction width generalizing value with
  | zero => simp [bytesLE, ofBytesLE, Nat.mod_one]
  | succ width ih =>
      have low : (UInt8.ofNat value).toNat = value % 256 := UInt8.toNat_ofNat'
      simp only [bytesLE, ofBytesLE, ih, low]
      rw [pow_succ', Nat.mod_mul]

/-- A number that fits its width comes back from its bytes. -/
theorem ofBytesLE_bytesLE_of_lt {width value : Nat} (fits : value < 256 ^ width) :
    ofBytesLE (bytesLE width value) = value := by
  rw [ofBytesLE_bytesLE, Nat.mod_eq_of_lt fits]

/-- Bytes hold a number that fits their count. -/
theorem ofBytesLE_lt (bytes : List UInt8) : ofBytesLE bytes < 256 ^ bytes.length := by
  induction bytes with
  | nil => exact Nat.one_pos
  | cons byte rest ih =>
      have low := byte.toNat_lt
      simp only [ofBytesLE, List.length_cons, pow_succ']
      omega

/-- Writing back a read number gives the bytes it was read from. -/
theorem bytesLE_ofBytesLE (bytes : List UInt8) :
    bytesLE bytes.length (ofBytesLE bytes) = bytes := by
  induction bytes with
  | nil => rfl
  | cons byte rest ih =>
      have low := byte.toNat_lt
      have quotient : (byte.toNat + 256 * ofBytesLE rest) / 256 = ofBytesLE rest := by omega
      have head : UInt8.ofNat (byte.toNat + 256 * ofBytesLE rest) = byte := by
        apply UInt8.toNat_inj.mp
        rw [UInt8.toNat_ofNat']
        omega
      simp only [List.length_cons, ofBytesLE, bytesLE, quotient, head, ih]

/-- Sign extension of a 32-bit number as an unsigned number. -/
theorem toNat_signExtended (value : Int32) :
    value.toInt64.toUInt64.toNat =
      if value.toUInt32.toNat < 2 ^ 31 then value.toUInt32.toNat
      else value.toUInt32.toNat + (2 ^ 64 - 2 ^ 32) := by
  have extended : value.toInt64.toUInt64.toNat = (value.toBitVec.signExtend 64).toNat := rfl
  have unsigned : value.toUInt32.toNat = value.toBitVec.toNat := rfl
  have below := value.toBitVec.isLt
  rw [extended, unsigned, BitVec.toNat_signExtend, BitVec.toNat_setWidth,
    Nat.mod_eq_of_lt (by omega), BitVec.msb_eq_decide]
  by_cases small : value.toBitVec.toNat < 2 ^ 31
  · have notNegative : ¬ 2 ^ (32 - 1) ≤ value.toBitVec.toNat := Nat.not_le.mpr small
    rw [if_pos small, decide_eq_false notNegative, if_neg Bool.false_ne_true, Nat.add_zero]
  · have negative : 2 ^ (32 - 1) ≤ value.toBitVec.toNat := Nat.not_lt.mp small
    rw [if_neg small, decide_eq_true negative, if_pos rfl]

/-- A sign-extended number stays clear of the largest 64-bit numbers by what an unsigned
32-bit number is short of its bound. -/
theorem le_toNat_signExtended (value : Int32) :
    value.toUInt32.toNat ≤ value.toInt64.toUInt64.toNat ∧
      value.toInt64.toUInt64.toNat + 2 ^ 32 ≤ value.toUInt32.toNat + 2 ^ 64 := by
  rw [toNat_signExtended]
  split <;> omega

/-- A position below 2 GiB is the same as a signed 32-bit number. -/
theorem toInt_toInt32_ofNat {value : Nat} (below : value < 2 ^ 31) :
    (UInt32.ofNat value).toInt32.toInt = value := by
  have same : (UInt32.ofNat value).toInt32 = Int32.ofNat value := by
    apply Int32.toBitVec_inj.mp
    rfl
  rw [same, Int32.toInt_ofNat_of_lt below]

/-- A number below 2 ^ 31 is not negative in 32 bits. -/
theorem toInt32_ofNat_nonnegative {value : Nat} (below : value < 2 ^ 31) :
    ¬ (UInt32.ofNat value).toInt32 < 0 := by
  rw [Int32.lt_iff_toInt_lt, toInt_toInt32_ofNat below, Int32.toInt_zero]
  omega

/-- Sign extension leaves a position below 2 GiB as it is. -/
theorem toNat_toUInt64_toInt32_ofNat {value : Nat} (below : value < 2 ^ 31) :
    (UInt32.ofNat value).toInt32.toInt64.toUInt64.toNat = value := by
  have extended : (UInt32.ofNat value).toInt32.toInt64.toInt = value := by
    rw [Int32.toInt_toInt64, toInt_toInt32_ofNat below]
  have nonnegative : 0 ≤ (UInt32.ofNat value).toInt32.toInt64 := by
    rw [Int64.le_iff_toInt_le, extended, Int64.toInt_zero]
    exact Int.natCast_nonneg value
  rw [Int64.toNat_toUInt64_of_le nonnegative, Int64.toNatClampNeg, extended, Int.toNat_natCast]

/-- A machine word as stored in memory. -/
class LittleEndian (Word : Type) where
  width : Nat
  encode : Word → List UInt8
  decode : List UInt8 → Word
  length_encode : ∀ word, (encode word).length = width
  decode_encode : ∀ word, decode (encode word) = word

namespace LittleEndian

instance : LittleEndian UInt8 where
  width := 1
  encode word := [word]
  decode bytes := bytes.headD 0
  length_encode _ := rfl
  decode_encode _ := rfl

instance : LittleEndian UInt16 where
  width := 2
  encode word := bytesLE 2 word.toNat
  decode bytes := UInt16.ofNat (ofBytesLE bytes)
  length_encode word := length_bytesLE 2 word.toNat
  decode_encode word := by
    rw [ofBytesLE_bytesLE_of_lt word.toNat_lt, UInt16.ofNat_toNat]

instance : LittleEndian UInt32 where
  width := 4
  encode word := bytesLE 4 word.toNat
  decode bytes := UInt32.ofNat (ofBytesLE bytes)
  length_encode word := length_bytesLE 4 word.toNat
  decode_encode word := by
    rw [ofBytesLE_bytesLE_of_lt word.toNat_lt, UInt32.ofNat_toNat]

instance : LittleEndian UInt64 where
  width := 8
  encode word := bytesLE 8 word.toNat
  decode bytes := UInt64.ofNat (ofBytesLE bytes)
  length_encode word := length_bytesLE 8 word.toNat
  decode_encode word := by
    rw [ofBytesLE_bytesLE_of_lt word.toNat_lt, UInt64.ofNat_toNat]

instance : LittleEndian Int16 where
  width := 2
  encode word := encode word.toUInt16
  decode bytes := (decode bytes : UInt16).toInt16
  length_encode word := length_encode word.toUInt16
  decode_encode word := by rw [decode_encode, Int16.toInt16_toUInt16]

instance : LittleEndian Int32 where
  width := 4
  encode word := encode word.toUInt32
  decode bytes := (decode bytes : UInt32).toInt32
  length_encode word := length_encode word.toUInt32
  decode_encode word := by rw [decode_encode, Int32.toInt32_toUInt32]

/-- An array of words, one after the other. -/
def encodeArray {Word : Type} [LittleEndian Word] (words : List Word) : List UInt8 :=
  words.flatMap encode

/-- Cut `count` words out of a byte string. -/
def decodeArray (Word : Type) [LittleEndian Word] : Nat → List UInt8 → List Word
  | 0, _ => []
  | count + 1, bytes =>
      decode (bytes.take (width Word)) :: decodeArray Word count (bytes.drop (width Word))

variable {Word : Type} [LittleEndian Word]

@[simp] theorem length_decodeArray (count : Nat) (bytes : List UInt8) :
    (decodeArray Word count bytes).length = count := by
  induction count generalizing bytes with
  | zero => rfl
  | succ count ih => simp [decodeArray, ih]

/-- The words of an array, one behind the other. -/
theorem length_encodeArray (words : List Word) :
    (encodeArray words).length = width Word * words.length := by
  induction words with
  | nil => rfl
  | cons word rest ih =>
      have unfolded : encodeArray (word :: rest) = encode word ++ encodeArray rest := rfl
      rw [unfolded, List.length_append, length_encode, ih, List.length_cons]
      ring

/-- An array comes back from its bytes. -/
theorem decodeArray_encodeArray (words : List Word) :
    decodeArray Word words.length (encodeArray words) = words := by
  induction words with
  | nil => rfl
  | cons word rest ih =>
      have unfolded : encodeArray (word :: rest) = encode word ++ encodeArray rest := rfl
      simp only [List.length_cons, decodeArray, unfolded]
      rw [List.take_left' (length_encode word), List.drop_left' (length_encode word),
        decode_encode, ih]

/-- A two-byte field holds the word that is read from it. -/
theorem encode_decode_UInt16 {bytes : List UInt8} (width : bytes.length = 2) :
    encode (decode bytes : UInt16) = bytes := by
  have fits : (UInt16.ofNat (ofBytesLE bytes)).toNat = ofBytesLE bytes := by
    have bounded := ofBytesLE_lt bytes
    rw [width] at bounded
    exact Nat.mod_eq_of_lt bounded
  change bytesLE 2 (UInt16.ofNat (ofBytesLE bytes)).toNat = bytes
  rw [fits, ← width]
  exact bytesLE_ofBytesLE bytes

/-- A word of fixed width at the head of a byte string is told apart from the rest. -/
theorem encode_append_inj {word other : Word} {rest otherRest : List UInt8}
    (same : encode word ++ rest = encode other ++ otherRest) :
    word = other ∧ rest = otherRest := by
  have widths : (encode word).length = (encode other).length := by
    rw [length_encode, length_encode]
  obtain ⟨encoded, rests⟩ := List.append_inj same widths
  refine ⟨?_, rests⟩
  rw [← decode_encode word, encoded, decode_encode]

/-- Bytes with arrays of one length in front are equal if both parts are. -/
theorem encodeArray_append_inj {words others : List Word} {rest otherRest : List UInt8}
    (lengths : words.length = others.length)
    (same : encodeArray words ++ rest = encodeArray others ++ otherRest) :
    words = others ∧ rest = otherRest := by
  have widths : (encodeArray words).length = (encodeArray others).length := by
    rw [length_encodeArray, length_encodeArray, lengths]
  obtain ⟨encoded, rests⟩ := List.append_inj same widths
  refine ⟨?_, rests⟩
  rw [← decodeArray_encodeArray words, encoded, lengths, decodeArray_encodeArray]

end LittleEndian

end Library

end GradidoNode
