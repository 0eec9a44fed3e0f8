import CompletionRing.Completion.Image
import Mathlib.Algebra.Order.Ring.Int

namespace CompletionRing

theorem ofLittleEndian_littleEndian (width n : Nat) : ofLittleEndian (littleEndian width n) = n % 256 ^ width := by
  induction width generalizing n with
  | zero => simp [littleEndian, ofLittleEndian, Nat.mod_one]
  | succ width ih =>
      have hbyte : (UInt8.ofNat n).toNat = n % 256 := by simp
      rw [littleEndian, ofLittleEndian, ih, hbyte, Nat.pow_succ', Nat.mod_mul]

theorem littleEndian_ofLittleEndian {bytes : List UInt8} {width : Nat} (h : bytes.length = width) :
    littleEndian width (ofLittleEndian bytes) = bytes := by
  subst h
  induction bytes with
  | nil => rfl
  | cons b bytes ih =>
      have hlt : b.toNat < 256 := b.toNat_lt
      have hfirst : UInt8.ofNat (b.toNat + 256 * ofLittleEndian bytes) = b := by
        apply UInt8.toNat_inj.mp
        rw [UInt8.toNat_ofNat']
        omega
      have hrest : (b.toNat + 256 * ofLittleEndian bytes) / 256 = ofLittleEndian bytes := by omega
      rw [List.length_cons, littleEndian, ofLittleEndian, hfirst, hrest, ih]

theorem ofLittleEndian_lt (bytes : List UInt8) : ofLittleEndian bytes < 256 ^ bytes.length := by
  induction bytes with
  | nil => decide
  | cons b bytes ih =>
      have hlt : b.toNat < 256 := b.toNat_lt
      rw [ofLittleEndian, List.length_cons, Nat.pow_succ]
      omega

-- The bytes of a number are its digits in base 256.
theorem getElem_littleEndian (width n k : Nat) (h : k < (littleEndian width n).length) :
    (littleEndian width n)[k].toNat = n / 256 ^ k % 256 := by
  induction width generalizing n k with
  | zero => simp at h
  | succ width ih =>
      cases k with
      | zero => simp [littleEndian]
      | succ k =>
          simp only [littleEndian, List.getElem_cons_succ]
          rw [ih, Nat.div_div_eq_div_mul, Nat.pow_succ']

namespace Completion

theorem toList_image (c : Completion) :
    c.image.toList = littleEndian 8 c.userData.toNat ++ littleEndian 4 c.result.toUInt32.toNat ++
      littleEndian 4 c.flags.toNat := rfl

-- Which bytes of an image belong to which field.
theorem parts_image (c : Completion) :
    c.image.toList.take 8 = littleEndian 8 c.userData.toNat ∧
      (c.image.toList.drop 8).take 4 = littleEndian 4 c.result.toUInt32.toNat ∧
      c.image.toList.drop 12 = littleEndian 4 c.flags.toNat := by
  simp [toList_image, List.drop_append]

theorem ofImage_image (c : Completion) : ofImage c.image = c := by
  have huserData : c.userData.toNat % 256 ^ 8 = c.userData.toNat := Nat.mod_eq_of_lt c.userData.toNat_lt
  have hresult : c.result.toUInt32.toNat % 256 ^ 4 = c.result.toUInt32.toNat :=
    Nat.mod_eq_of_lt c.result.toUInt32.toNat_lt
  have hflags : c.flags.toNat % 256 ^ 4 = c.flags.toNat := Nat.mod_eq_of_lt c.flags.toNat_lt
  obtain ⟨hfirst, hsecond, hthird⟩ := c.parts_image
  rw [ofImage, hfirst, hsecond, hthird]
  simp only [ofLittleEndian_littleEndian, huserData, hresult, hflags]
  simp

theorem image_ofImage (bytes : Image) : (ofImage bytes).image = bytes := by
  have hfirst : (bytes.toList.take 8).length = 8 := by simp
  have hsecond : ((bytes.toList.drop 8).take 4).length = 4 := by simp
  have hthird : (bytes.toList.drop 12).length = 4 := by simp
  have huserData : (ofImage bytes).userData.toNat = ofLittleEndian (bytes.toList.take 8) := by
    have hlt := ofLittleEndian_lt (bytes.toList.take 8)
    rw [hfirst] at hlt
    exact UInt64.toNat_ofNat_of_lt' hlt
  have hresult : (ofImage bytes).result.toUInt32.toNat = ofLittleEndian ((bytes.toList.drop 8).take 4) := by
    have hlt := ofLittleEndian_lt ((bytes.toList.drop 8).take 4)
    rw [hsecond] at hlt
    exact UInt32.toNat_ofNat_of_lt' hlt
  have hflags : (ofImage bytes).flags.toNat = ofLittleEndian (bytes.toList.drop 12) := by
    have hlt := ofLittleEndian_lt (bytes.toList.drop 12)
    rw [hthird] at hlt
    exact UInt32.toNat_ofNat_of_lt' hlt
  apply Vector.toList_inj.mp
  rw [toList_image, huserData, hresult, hflags, littleEndian_ofLittleEndian hfirst, littleEndian_ofLittleEndian hsecond,
    littleEndian_ofLittleEndian hthird]
  have hrest : (bytes.toList.drop 8).take 4 ++ bytes.toList.drop 12 = bytes.toList.drop 8 := by
    have hsplit := List.take_append_drop 4 (bytes.toList.drop 8)
    rwa [List.drop_drop] at hsplit
  rw [List.append_assoc, hrest, List.take_append_drop]

theorem toNat_toUInt32 (result : Int32) : result.toUInt32.toNat = (result.toInt % 2 ^ 32).toNat := by
  have hword := BitVec.toNat_ofInt (n := 32) result.toInt
  have hself : BitVec.ofInt 32 result.toInt = result.toBitVec := BitVec.ofInt_toInt
  rw [hself] at hword
  exact_mod_cast hword

-- The token stands first, then the result in two's complement, then the flags, and the lowest byte of each comes
-- first.
structure LaidOutIn (c : Completion) (image : Image) : Prop where
  userData (k : Fin 8) : image[k.val].toNat = c.userData.toNat / 256 ^ k.val % 256
  result (k : Fin 4) : image[8 + k.val].toNat = (c.result.toInt % 2 ^ 32).toNat / 256 ^ k.val % 256
  flags (k : Fin 4) : image[12 + k.val].toNat = c.flags.toNat / 256 ^ k.val % 256

theorem laidOutIn_image (c : Completion) : c.LaidOutIn c.image := by
  constructor
  case userData =>
    intro k
    simp [image, getElem_littleEndian]
  case result =>
    intro k
    rw [← toNat_toUInt32]
    simp [image, getElem_littleEndian]
  case flags =>
    intro k
    have hfirst : ¬ 12 + k.val < 8 := by omega
    have hsecond : ¬ 12 + k.val - 8 < 4 := by omega
    have hthird : 12 + k.val - 8 - 4 = k.val := by omega
    simp [image, List.getElem_append, getElem_littleEndian, hfirst, hsecond, hthird]

end Completion

end CompletionRing
