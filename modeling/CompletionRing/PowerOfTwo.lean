namespace CompletionRing

-- A power of two has one bit, so taking one away leaves no bit in common.
def isPowerOfTwo (n : UInt32) : Bool :=
  n != 0 && n &&& (n - 1) == 0

end CompletionRing
