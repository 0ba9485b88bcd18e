/-!
# Random bytes

An **entropy source** is an endless sequence of bytes together with how many of them have been
drawn. Whoever needs random bytes draws the next ones, so that the bytes of two draws never
overlap. `seeded` is the sequence of a linear congruential generator.
-/

namespace OAuthRedirect

/-- A sequence of random bytes and the number of those already used. -/
structure Entropy where
  /-- The byte at each position of the sequence. -/
  byteAt : Nat → UInt8
  /-- How many bytes have been drawn. -/
  drawn : Nat

namespace Entropy

/-- The block of `count` bytes from position `start` on. -/
def block (source : Entropy) (start count : Nat) : List UInt8 :=
  (List.range count).map fun i => source.byteAt (start + i)

/-- Draws the next `count` bytes. -/
def draw (source : Entropy) (count : Nat) : List UInt8 × Entropy :=
  (source.block source.drawn count, { source with drawn := source.drawn + count })

/-! ### A seeded sequence -/

/-- The map `x ↦ factor * x + offset` on 32-bit words. -/
structure Affine where
  factor : UInt32
  offset : UInt32

/-- One map after another: first `inner`, then `outer`. -/
def Affine.comp (outer inner : Affine) : Affine :=
  ⟨outer.factor * inner.factor, outer.factor * inner.offset + outer.offset⟩

/-- A map repeated `n` times, by repeated squaring. -/
def Affine.iterate (step : Affine) (n : Nat) : Affine :=
  if n = 0 then ⟨1, 0⟩
  else
    let half := iterate (step.comp step) (n / 2)
    if n % 2 = 0 then half else half.comp step
termination_by n

/-- One step of the generator. -/
def generatorStep : Affine := ⟨1664525, 1013904223⟩

/-- The sequence whose byte at position `i` is the high byte of the state after `i + 1` steps
from the seed. -/
def seeded (seed : Int) : Entropy where
  byteAt i :=
    let jump := generatorStep.iterate (i + 1)
    ((jump.factor * UInt32.ofNat (seed % 4294967296).toNat + jump.offset) >>> 24).toUInt8
  drawn := 0

/-! ### Laws -/

@[simp] theorem length_block (source : Entropy) (start count : Nat) :
    (source.block start count).length = count := by
  simp [block]

@[simp] theorem drawn_draw (source : Entropy) (count : Nat) :
    (source.draw count).2.drawn = source.drawn + count := rfl

@[simp] theorem byteAt_draw (source : Entropy) (count : Nat) :
    (source.draw count).2.byteAt = source.byteAt := rfl

end Entropy

end OAuthRedirect
