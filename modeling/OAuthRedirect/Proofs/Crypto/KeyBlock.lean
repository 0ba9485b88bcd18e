import OAuthRedirect.Proofs.Crypto.Reading

/-!
# Keys as blocks of random bytes

A key is the text of a block of a sequence of random bytes, and the key of a block tells its bytes
(`KeyBlock.text_eq_iff`). Generators that draw their keys one after another leave blocks that lie in
the order of the keys (`KeyBlock.InOrder`). Of two such blocks the later one starts when the earlier
one has stopped (`KeyBlock.InOrder.pairwise`), so that no byte goes into two keys.
-/

namespace OAuthRedirect

/-- Random bytes in a row that one key is made of. -/
structure KeyBlock where
  generator : KeyGenerator
  start : Nat

namespace KeyBlock

/-- The position after the last byte. -/
def stop (b : KeyBlock) : Nat :=
  b.start + b.generator.keyLength

/-- The bytes of a block as URL-safe base64. -/
def text (b : KeyBlock) (source : Entropy) : String :=
  String.ofList (Base64Url.encode b.generator.padding (source.block b.start b.generator.keyLength))

/-- The text of a block is the key that its generator makes of the bytes. -/
theorem text_eq_key (b : KeyBlock) (source : Entropy) :
    b.text source = b.generator.key (source.block b.start b.generator.keyLength) := rfl

/-- **The key of a block** is up to the bytes of the block, and no two of them have the same key. -/
theorem text_eq_iff {source source' : Entropy} (b : KeyBlock) :
    b.text source = b.text source' ↔
      ∀ i < b.generator.keyLength, source.byteAt (b.start + i) = source'.byteAt (b.start + i) := by
  rw [text_eq_key, text_eq_key, (KeyGenerator.key_injective _).eq_iff, Entropy.block,
    Entropy.block, List.map_inj_left]
  simp only [List.mem_range]

/-- It is not up to how much of the sequence has been drawn. -/
theorem text_congr {source source' : Entropy} (h : source.byteAt = source'.byteAt)
    (b : KeyBlock) : b.text source = b.text source' :=
  b.text_eq_iff.mpr fun i _ => congrFun h (b.start + i)

/-- Blocks that lie one after another between two positions. -/
inductive InOrder : Nat → List KeyBlock → Nat → Prop
  | nil {first last : Nat} (h : first ≤ last) : InOrder first [] last
  | cons {b : KeyBlock} {rest : List KeyBlock} {first last : Nat} (hstart : first ≤ b.start)
    (h : InOrder b.stop rest last) : InOrder first (b :: rest) last

namespace InOrder

variable {first middle last : Nat} {blocks others : List KeyBlock}

theorem weaken (h : InOrder middle blocks last) (hle : first ≤ middle) :
    InOrder first blocks last := by
  cases h with
  | nil h => exact .nil (hle.trans h)
  | cons hstart h => exact .cons (hle.trans hstart) h

theorem append (h : InOrder first blocks middle) (h' : InOrder middle others last) :
    InOrder first (blocks ++ others) last := by
  induction h with
  | nil hle => exact h'.weaken hle
  | cons hstart _ ih => exact .cons hstart (ih h')

theorem start_le (h : InOrder first blocks last) : ∀ b ∈ blocks, first ≤ b.start := by
  induction h with
  | nil => simp
  | cons hstart _ ih =>
    intro b' hmem
    rcases List.mem_cons.mp hmem with rfl | hmem
    · exact hstart
    · exact (hstart.trans (Nat.le_add_right _ _)).trans (ih b' hmem)

/-- Of two of the blocks, the later one starts when the earlier one has stopped. -/
theorem pairwise (h : InOrder first blocks last) :
    blocks.Pairwise fun b b' => b.stop ≤ b'.start := by
  induction h with
  | nil => exact .nil
  | cons _ hrest ih => exact List.pairwise_cons.mpr ⟨hrest.start_le, ih⟩

end InOrder

end KeyBlock

end OAuthRedirect
