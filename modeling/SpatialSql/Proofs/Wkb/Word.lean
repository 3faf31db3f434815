import Mathlib.Algebra.Group.Nat.Defs
import SpatialSql.Wkb.Format
/-!
# Words and their bytes

A word of a fixed width and its bytes determine each other, in either byte order.  Readers and
writers of the binary format meet only through these facts.
-/

namespace SpatialSql.Wkb

@[simp] theorem length_littleEndianBytes (value width : Nat) :
    (littleEndianBytes value width).length = width := by
  induction width generalizing value with
  | zero => rfl
  | succ width ih => simp [littleEndianBytes, ih]

theorem ofLittleEndian_littleEndianBytes {value width : Nat} (hvalue : value < 256 ^ width) :
    ofLittleEndian (littleEndianBytes value width) = value := by
  induction width generalizing value with
  | zero =>
    have hzero : value = 0 := by simpa using hvalue
    rw [hzero]
    rfl
  | succ width ih =>
    have hhigh : value / 256 < 256 ^ width := by
      rw [Nat.pow_succ] at hvalue
      exact Nat.div_lt_of_lt_mul (by rwa [Nat.mul_comm] at hvalue)
    have hlow : (UInt8.ofNat (value % 256)).toNat = value % 256 := by simp
    rw [littleEndianBytes, ofLittleEndian, ih hhigh, hlow]
    exact Nat.mod_add_div value 256

theorem littleEndianBytes_ofLittleEndian (bytes : List UInt8) :
    littleEndianBytes (ofLittleEndian bytes) bytes.length = bytes := by
  induction bytes with
  | nil => rfl
  | cons b rest ih =>
    have hb : b.toNat < 256 := b.toNat_lt
    have hlow : (b.toNat + 256 * ofLittleEndian rest) % 256 = b.toNat := by omega
    have hhigh : (b.toNat + 256 * ofLittleEndian rest) / 256 = ofLittleEndian rest := by omega
    rw [ofLittleEndian, List.length_cons, littleEndianBytes, hlow, hhigh, ih]
    simp

theorem ofLittleEndian_lt (bytes : List UInt8) :
    ofLittleEndian bytes < 256 ^ bytes.length := by
  induction bytes with
  | nil => simp [ofLittleEndian]
  | cons b rest ih =>
    have hb : b.toNat < 256 := b.toNat_lt
    rw [ofLittleEndian, List.length_cons, Nat.pow_succ]
    omega

namespace ByteOrder

@[simp] theorem length_encode (order : ByteOrder) (value width : Nat) :
    (order.encode value width).length = width := by
  cases order <;> simp [encode]

theorem decode_encode (order : ByteOrder) {value width : Nat} (hvalue : value < 256 ^ width) :
    order.decode (order.encode value width) = value := by
  cases order <;> simp [encode, decode, ofLittleEndian_littleEndianBytes hvalue]

theorem encode_decode (order : ByteOrder) (bytes : List UInt8) :
    order.encode (order.decode bytes) bytes.length = bytes := by
  cases order with
  | littleEndian => exact littleEndianBytes_ofLittleEndian bytes
  | bigEndian =>
    have h := littleEndianBytes_ofLittleEndian bytes.reverse
    rw [List.length_reverse] at h
    rw [encode, decode, h, List.reverse_reverse]

theorem decode_lt (order : ByteOrder) (bytes : List UInt8) :
    order.decode bytes < 256 ^ bytes.length := by
  cases order with
  | littleEndian => exact ofLittleEndian_lt bytes
  | bigEndian => simpa [decode] using ofLittleEndian_lt bytes.reverse

theorem ofMarker?_eq_some_iff {marker : UInt8} {order : ByteOrder} :
    ofMarker? marker = some order ↔ marker = order.marker := by
  constructor
  · intro h
    unfold ofMarker? at h
    split at h <;> cases h <;> rfl
  · rintro rfl
    cases order <;> rfl

end ByteOrder

end SpatialSql.Wkb
