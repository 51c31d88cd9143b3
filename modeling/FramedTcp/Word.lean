import Mathlib.Order.Defs.LinearOrder
import Mathlib.Tactic

/-!
# Big-endian 32-bit words

The order on `UInt32` that sorted maps use, and the shift code which packs a word into four bytes
and reads it back.  Reading promotes each byte to a signed `int` first, as the integral promotions
do, so that a top-bit-set byte is shifted into the sign bit.
-/

namespace FramedTcp

instance linearOrderWord : LinearOrder UInt32 where
  le_refl := UInt32.le_refl
  le_trans _ _ _ := UInt32.le_trans
  le_antisymm _ _ := UInt32.le_antisymm
  le_total := UInt32.le_total
  lt_iff_le_not_ge left right := by
    rw [UInt32.lt_iff_toNat_lt, UInt32.le_iff_toNat_le, UInt32.le_iff_toNat_le]
    omega
  toDecidableLE := inferInstance
  toDecidableEq := inferInstance
  toDecidableLT := inferInstance

/-- The four bytes of a word in network order. -/
def bigEndian (word : UInt32) : List UInt8 :=
  [((word >>> 24) &&& 0xFF).toUInt8, ((word >>> 16) &&& 0xFF).toUInt8,
    ((word >>> 8) &&& 0xFF).toUInt8, (word &&& 0xFF).toUInt8]

/-- Integral promotion of a byte to `int`. -/
def promote (byte : UInt8) : Int32 := byte.toUInt32.toInt32

/-- The word `(b₀ << 24) | (b₁ << 16) | (b₂ << 8) | b₃`, computed on `int` and converted. -/
def ofBigEndian (b₀ b₁ b₂ b₃ : UInt8) : UInt32 :=
  ((promote b₀ <<< 24) ||| (promote b₁ <<< 16) ||| (promote b₂ <<< 8) ||| promote b₃).toUInt32

/-- Read the word at an offset whose four bytes lie inside the data. -/
def readWord (data : List UInt8) (offset : ℕ)
    (inside : offset + 4 ≤ data.length := by omega) : UInt32 :=
  ofBigEndian data[offset] data[offset + 1] data[offset + 2] data[offset + 3]

@[simp]
theorem length_bigEndian (word : UInt32) : (bigEndian word).length = 4 := rfl

private theorem toNat_lowByte (word : UInt32) :
    (word &&& 0xFF).toUInt8.toNat = word.toNat % 2 ^ 8 := by
  rw [UInt32.toNat_toUInt8, UInt32.toNat_and]
  change (word.toNat &&& 2 ^ 8 - 1) % 2 ^ 8 = _
  rw [Nat.and_two_pow_sub_one_eq_mod, Nat.mod_mod]

/-- The numerical values of the four bytes of a word. -/
theorem map_toNat_bigEndian (word : UInt32) :
    (bigEndian word).map UInt8.toNat =
      [word.toNat / 2 ^ 24 % 2 ^ 8, word.toNat / 2 ^ 16 % 2 ^ 8, word.toNat / 2 ^ 8 % 2 ^ 8,
        word.toNat % 2 ^ 8] := by
  simp only [bigEndian, List.map_cons, List.map_nil, toNat_lowByte, UInt32.toNat_shiftRight,
    Nat.shiftRight_eq_div_pow]
  rfl

/-- Disjoint shifted bytes are combined by addition. -/
private theorem shifted_or_eq_add {a b c d : ℕ} (ha : a < 2 ^ 8) (hb : b < 2 ^ 8)
    (hc : c < 2 ^ 8) (hd : d < 2 ^ 8) :
    (a <<< 24 % 2 ^ 32 ||| b <<< 16 % 2 ^ 32 ||| c <<< 8 % 2 ^ 32 ||| d) =
      a * 2 ^ 24 + b * 2 ^ 16 + c * 2 ^ 8 + d := by
  have first : a <<< 24 ||| b <<< 16 = (a * 2 ^ 8 + b) <<< 16 := by
    rw [← Nat.shiftLeft_add_eq_or_of_lt (by rw [Nat.shiftLeft_eq]; omega)]
    simp only [Nat.shiftLeft_eq]
    ring
  have second : (a * 2 ^ 8 + b) <<< 16 ||| c <<< 8 = (a * 2 ^ 16 + b * 2 ^ 8 + c) <<< 8 := by
    rw [← Nat.shiftLeft_add_eq_or_of_lt (by rw [Nat.shiftLeft_eq]; omega)]
    simp only [Nat.shiftLeft_eq]
    ring
  have below_a : a <<< 24 < 2 ^ 32 := by rw [Nat.shiftLeft_eq]; omega
  have below_b : b <<< 16 < 2 ^ 32 := by rw [Nat.shiftLeft_eq]; omega
  have below_c : c <<< 8 < 2 ^ 32 := by rw [Nat.shiftLeft_eq]; omega
  rw [Nat.mod_eq_of_lt below_a, Nat.mod_eq_of_lt below_b, Nat.mod_eq_of_lt below_c, first, second,
    ← Nat.shiftLeft_add_eq_or_of_lt hd]
  simp only [Nat.shiftLeft_eq]
  ring

/-- The signed shift code computes the positional value of the four bytes. -/
theorem toNat_ofBigEndian (b₀ b₁ b₂ b₃ : UInt8) :
    (ofBigEndian b₀ b₁ b₂ b₃).toNat =
      b₀.toNat * 2 ^ 24 + b₁.toNat * 2 ^ 16 + b₂.toNat * 2 ^ 8 + b₃.toNat := by
  have unsigned : ofBigEndian b₀ b₁ b₂ b₃ =
      (b₀.toUInt32 <<< 24) ||| (b₁.toUInt32 <<< 16) ||| (b₂.toUInt32 <<< 8) ||| b₃.toUInt32 := rfl
  rw [unsigned]
  simp only [UInt32.toNat_or, UInt32.toNat_shiftLeft, UInt8.toNat_toUInt32]
  exact shifted_or_eq_add b₀.toNat_lt b₁.toNat_lt b₂.toNat_lt b₃.toNat_lt

/-- A word read at the front of its own bytes is that word. -/
@[simp]
theorem readWord_bigEndian_append (word : UInt32) (rest : List UInt8)
    (inside : 0 + 4 ≤ (bigEndian word ++ rest).length) :
    readWord (bigEndian word ++ rest) 0 inside = word := by
  have values := map_toNat_bigEndian word
  simp only [bigEndian, List.map_cons, List.map_nil, List.cons.injEq, and_true] at values
  obtain ⟨first, second, third, fourth⟩ := values
  have bounded := word.toNat_lt
  apply UInt32.toNat_inj.mp
  simp only [readWord, toNat_ofBigEndian, bigEndian, List.cons_append, List.getElem_cons_zero,
    List.getElem_cons_succ]
  rw [first, second, third, fourth]
  omega

/-- A word is read off the front of the data that remain from its offset on. -/
theorem readWord_drop (data : List UInt8) (offset : ℕ) (inside : offset + 4 ≤ data.length) :
    readWord (data.drop offset) 0 (by rw [List.length_drop]; omega) =
      readWord data offset inside := by
  simp [readWord]

theorem readWord_append (data later : List UInt8) (offset : ℕ)
    (inside : offset + 4 ≤ data.length) :
    readWord (data ++ later) offset (by rw [List.length_append]; omega) =
      readWord data offset inside := by
  simp only [readWord]
  rw [List.getElem_append_left, List.getElem_append_left, List.getElem_append_left,
    List.getElem_append_left]

/-! ## Back to the bytes -/

/-- Packing a word undoes reading it. -/
theorem bigEndian_ofBigEndian (b₀ b₁ b₂ b₃ : UInt8) :
    bigEndian (ofBigEndian b₀ b₁ b₂ b₃) = [b₀, b₁, b₂, b₃] := by
  have injective : Function.Injective UInt8.toNat := fun _ _ => UInt8.toNat_inj.mp
  apply injective.list_map
  rw [map_toNat_bigEndian, toNat_ofBigEndian]
  have first := b₀.toNat_lt
  have second := b₁.toNat_lt
  have third := b₂.toNat_lt
  have fourth := b₃.toNat_lt
  simp only [List.map_cons, List.map_nil, List.cons.injEq, and_true]
  omega

/-- The bytes of a word that is read are the bytes it is read from. -/
theorem bigEndian_readWord (data : List UInt8) (offset : ℕ) (inside : offset + 4 ≤ data.length) :
    bigEndian (readWord data offset inside) = (data.drop offset).take 4 := by
  rw [readWord, bigEndian_ofBigEndian]
  rw [List.drop_eq_getElem_cons (by omega), List.drop_eq_getElem_cons (by omega),
    List.drop_eq_getElem_cons (by omega), List.drop_eq_getElem_cons (by omega)]
  rfl

theorem bigEndian_injective : Function.Injective bigEndian := by
  intro left right same
  have read := readWord_bigEndian_append left [] (by simp)
  simp only [same] at read
  rw [← read, readWord_bigEndian_append]

theorem readWord_set_of_outside (data : List UInt8) (offset position : ℕ) (byte : UInt8)
    (inside : offset + 4 ≤ data.length) (outside : position < offset ∨ offset + 4 ≤ position) :
    readWord (data.set position byte) offset (by rw [List.length_set]; exact inside) =
      readWord data offset inside := by
  simp only [readWord]
  rw [List.getElem_set_ne (by omega), List.getElem_set_ne (by omega),
    List.getElem_set_ne (by omega), List.getElem_set_ne (by omega)]

/-- Replacing one of its bytes changes a word. -/
theorem readWord_set_ne (data : List UInt8) (offset position : ℕ) (byte : UInt8)
    (inside : offset + 4 ≤ data.length) (lower : offset ≤ position) (upper : position < offset + 4)
    (different : byte ≠ data[position]) :
    readWord (data.set position byte) offset (by rw [List.length_set]; exact inside) ≠
      readWord data offset inside := by
  intro same
  have bytes := congrArg bigEndian same
  rw [bigEndian_readWord, bigEndian_readWord] at bytes
  have changed := congrArg (fun front : List UInt8 => front[position - offset]?) bytes
  simp only [List.getElem?_take, List.getElem?_drop] at changed
  rw [if_pos (by omega), if_pos (by omega), Nat.add_sub_cancel' lower,
    List.getElem?_set_self (by omega), List.getElem?_eq_getElem (by omega)] at changed
  exact different (Option.some.inj changed)

end FramedTcp
