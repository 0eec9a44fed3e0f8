import CompletionRing.Completion

namespace CompletionRing

-- The lowest bytes of a number, least significant first.
def littleEndian : Nat → Nat → List UInt8
  | 0, _ => []
  | width + 1, n => UInt8.ofNat n :: littleEndian width (n / 256)

-- The number whose bytes are given, least significant first.
def ofLittleEndian : List UInt8 → Nat
  | [] => 0
  | b :: rest => b.toNat + 256 * ofLittleEndian rest

@[simp] theorem length_littleEndian (width n : Nat) : (littleEndian width n).length = width := by
  induction width generalizing n with
  | zero => rfl
  | succ width ih => simp [littleEndian, ih]

namespace Completion

abbrev Image := Vector UInt8 16

def image (c : Completion) : Image :=
  ⟨(littleEndian 8 c.userData.toNat ++ littleEndian 4 c.result.toUInt32.toNat ++
    littleEndian 4 c.flags.toNat).toArray, by simp⟩

def ofImage (bytes : Image) : Completion where
  userData := .ofNat (ofLittleEndian (bytes.toList.take 8))
  result := (UInt32.ofNat (ofLittleEndian ((bytes.toList.drop 8).take 4))).toInt32
  flags := .ofNat (ofLittleEndian (bytes.toList.drop 12))

end Completion

end CompletionRing
