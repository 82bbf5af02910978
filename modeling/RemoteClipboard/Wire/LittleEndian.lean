import RemoteClipboard.Bytes

/-! # Little-endian numbers

`le w n` writes the low `w` bytes of `n`, least significant byte first, and `ofLE` reads such bytes
back.  One pair serves every width: `ofLE_le` says that a number survives up to what its width can
spell, and `le_ofLE` that bytes survive always.  The fixed widths of the wire follow from these
two. -/

namespace RemoteClipboard

/-- The low `w` bytes of `n`, least significant first. -/
def le : Nat → Nat → Bytes
  | 0, _ => []
  | w + 1, n => UInt8.ofNat n :: le w (n / 256)

/-- The number that some bytes spell, least significant first. -/
def ofLE : Bytes → Nat
  | [] => 0
  | b :: rest => b.toNat + 256 * ofLE rest

/-- How many numbers `w` bytes can spell. -/
def spellable : Nat → Nat
  | 0 => 1
  | w + 1 => 256 * spellable w

theorem spellable_pos (w : Nat) : 0 < spellable w := by
  induction w with
  | zero => decide
  | succ w ih => simp only [spellable]; omega

@[simp] theorem length_le (w n : Nat) : (le w n).length = w := by
  induction w generalizing n with
  | zero => rfl
  | succ w ih => simp [le, ih]

/-- Reading back gives the number modulo what its width can hold. -/
theorem ofLE_le (w n : Nat) : ofLE (le w n) = n % spellable w := by
  induction w generalizing n with
  | zero => simp [le, ofLE, spellable, Nat.mod_one]
  | succ w ih =>
    have byte : (UInt8.ofNat n).toNat = n % 256 := UInt8.toNat_ofNat'
    rw [le, ofLE, byte, ih, spellable, Nat.mod_mul]

/-- Every byte string is the writing of the number that it spells. -/
theorem le_ofLE (b : Bytes) : le b.length (ofLE b) = b := by
  induction b with
  | nil => rfl
  | cons x rest ih =>
    have hx : x.toNat < 256 := x.toNat_lt
    have hdiv : (x.toNat + 256 * ofLE rest) / 256 = ofLE rest := by omega
    have hmod : UInt8.ofNat (x.toNat + 256 * ofLE rest) = x := by
      apply UInt8.toNat_inj.mp
      rw [UInt8.toNat_ofNat']
      omega
    simp [le, ofLE, hdiv, hmod, ih]

/-- Bytes spell a number below what their count can hold. -/
theorem ofLE_lt (b : Bytes) : ofLE b < spellable b.length := by
  have back := ofLE_le b.length (ofLE b)
  rw [le_ofLE] at back
  rw [back]
  exact Nat.mod_lt _ (spellable_pos _)

def le16 (n : UInt16) : Bytes := le 2 n.toNat

def le32 (n : UInt32) : Bytes := le 4 n.toNat

def le64 (n : UInt64) : Bytes := le 8 n.toNat

/-- A signed 32-bit number in four bytes, two's complement. -/
def leInt32 (n : Int32) : Bytes := le32 n.toUInt32

@[simp] theorem length_le16 (n : UInt16) : (le16 n).length = 2 := length_le ..
@[simp] theorem length_le32 (n : UInt32) : (le32 n).length = 4 := length_le ..
@[simp] theorem length_le64 (n : UInt64) : (le64 n).length = 8 := length_le ..
@[simp] theorem length_leInt32 (n : Int32) : (leInt32 n).length = 4 := length_le ..

@[simp] theorem ofLE_le16 (n : UInt16) : ofLE (le16 n) = n.toNat := by
  rw [le16, ofLE_le]
  exact Nat.mod_eq_of_lt n.toNat_lt_size

@[simp] theorem ofLE_le32 (n : UInt32) : ofLE (le32 n) = n.toNat := by
  rw [le32, ofLE_le]
  exact Nat.mod_eq_of_lt n.toNat_lt_size

@[simp] theorem ofLE_le64 (n : UInt64) : ofLE (le64 n) = n.toNat := by
  rw [le64, ofLE_le]
  exact Nat.mod_eq_of_lt n.toNat_lt_size

/-- Two bytes are the writing of the word that they spell. -/
theorem le16_ofLE {b : Bytes} (two : b.length = 2) : le16 (UInt16.ofNat (ofLE b)) = b := by
  have small : ofLE b < UInt16.size := by
    have spelled := ofLE_lt b
    rwa [two] at spelled
  rw [le16, UInt16.toNat_ofNat_of_lt' small, ← two, le_ofLE]

/-- Four bytes are the writing of the word that they spell. -/
theorem le32_ofLE {b : Bytes} (four : b.length = 4) : le32 (UInt32.ofNat (ofLE b)) = b := by
  have small : ofLE b < UInt32.size := by
    have spelled := ofLE_lt b
    rwa [four] at spelled
  rw [le32, UInt32.toNat_ofNat_of_lt' small, ← four, le_ofLE]

end RemoteClipboard
