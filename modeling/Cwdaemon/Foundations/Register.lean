import Mathlib.Logic.Basic

/-! # Registers

Some bits of a register are written at a time, under a mask.  A write decides the bits of its
mask and leaves all others alone, so functions that are given bits of their own do not
disturb each other.
-/

namespace Register

variable {width : Nat} {mask values other register : BitVec width}

/-- Write the bits of a mask. -/
def frob (mask values register : BitVec width) : BitVec width := (register &&& ~~~mask) ||| values

/-- Some bit of a mask is set. -/
def test (mask register : BitVec width) : Bool := register &&& mask != BitVec.ofNat width 0

/-- What is written can be read. -/
theorem frob_and_mask (within : values &&& mask = values) : frob mask values register &&& mask = values := by
  have cleared : register &&& ~~~mask &&& mask = BitVec.ofNat width 0 := by
    rw [BitVec.and_assoc, BitVec.not_and_self]
    exact BitVec.and_zero
  rw [frob, BitVec.and_or_distrib_right, cleared, BitVec.zero_or, within]

theorem not_and_of_apart (apart : mask &&& other = BitVec.ofNat width 0) : ~~~mask &&& other = other := by
  ext position bound
  have bit := congrArg (fun bits : BitVec width => bits[position]) apart
  simp only [BitVec.getElem_and, BitVec.getElem_zero, BitVec.getElem_not] at bit ⊢
  cases set : other[position] with
  | false => rw [Bool.and_false]
  | true => simpa [set] using bit

/-- The bits of another function are left alone. -/
theorem frob_and_other (within : values &&& mask = values) (apart : mask &&& other = BitVec.ofNat width 0) :
    frob mask values register &&& other = register &&& other := by
  have unwritten : values &&& other = BitVec.ofNat width 0 := by
    rw [← within, BitVec.and_assoc, apart, BitVec.and_zero]
  rw [frob, BitVec.and_or_distrib_right, BitVec.and_assoc, not_and_of_apart apart, unwritten, BitVec.or_zero]

theorem test_frob_set (some : mask ≠ BitVec.ofNat width 0) : test mask (frob mask mask register) = true := by
  simpa [test, frob_and_mask (BitVec.and_self)] using some

theorem test_frob_clear : test mask (frob mask (BitVec.ofNat width 0) register) = false := by
  simp [test, frob_and_mask (BitVec.zero_and)]

theorem test_frob_other (within : values &&& mask = values) (apart : mask &&& other = BitVec.ofNat width 0) :
    test other (frob mask values register) = test other register := by
  rw [test, frob_and_other within apart, test]

end Register
