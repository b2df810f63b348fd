import MeshCapture.Word.LittleEndian
import Mathlib.Algebra.Group.Nat.Defs

/-! # Writing and reading numbers

Writing with a fixed width keeps a number modulo `256 ^ width`, and reading
undoes writing. -/

namespace MeshCapture.LittleEndian

theorem decode_lt (bytes : List UInt8) : decode bytes < 256 ^ bytes.length := by
  induction bytes with
  | nil => simp [decode]
  | cons byte rest induction =>
      have := byte.toNat_lt
      simp only [decode, List.length_cons, Nat.pow_succ]
      omega

theorem decode_encode (width value : Nat) :
    decode (encode width value) = value % 256 ^ width := by
  induction width generalizing value with
  | zero => simp [encode, decode, Nat.mod_one]
  | succ width induction =>
      rw [encode, decode, induction, Nat.pow_succ', Nat.mod_mul]
      simp

theorem encode_decode (bytes : List UInt8) :
    encode bytes.length (decode bytes) = bytes := by
  induction bytes with
  | nil => rfl
  | cons byte rest induction =>
      have := byte.toNat_lt
      have low : UInt8.ofNat (byte.toNat + 256 * decode rest) = byte := by
        apply UInt8.toNat_inj.mp
        rw [UInt8.toNat_ofNat']
        omega
      have high : (byte.toNat + 256 * decode rest) / 256 = decode rest := by
        omega
      simp [encode, decode, low, high, induction]

/-! ## Parts of buffers -/

theorem digitsAt_extract (bytes : ByteArray)
    (first last offset : Nat) {width : Nat} (positive : 0 < width) :
    digitsAt (bytes.extract first last) offset width =
      if first + offset + width ≤ last then
        digitsAt bytes (first + offset) width
      else
        none := by
  simp only [digitsAt, ByteArray.size_extract, ByteArray.extract_extract]
  split
  · next inside =>
      rw [if_pos (by omega), if_pos (by omega),
        Nat.min_eq_left (by omega), Nat.add_assoc]
  · next outside =>
      split
      · rw [if_neg (by omega)]
      · rfl

end MeshCapture.LittleEndian
