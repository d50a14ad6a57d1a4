import Mathlib.Data.Nat.ModEq
import XdpNatd.Data.ByteBuffer

namespace XdpNatd.Data

/-! The Internet checksum of RFC 1071, computed from scratch.

`onesSum` adds the big-endian 16-bit words of a byte string with end-around
carry, word after word.  The plain sum `wordSum` of the same words determines it
(`onesSum_eq_canonical`), so reasoning about carries is reasoning modulo 65535
plus the two representations of zero: the end-around sum is 0 only for words
that are all zero, and 65535 otherwise.
-/

def addCarry (left right : Nat) : Nat :=
  if left + right < 65536 then left + right else left + right - 65535

/-- The big-endian words of a byte string; an odd last byte is padded with zero. -/
def words : List UInt8 → List Nat
  | [] => []
  | [last] => [256 * last.toNat]
  | high :: low :: rest => (256 * high.toNat + low.toNat) :: words rest

def wordSum (bytes : List UInt8) : Nat := (words bytes).sum

def onesSum (bytes : List UInt8) : Nat := (words bytes).foldl addCarry 0

/-- The checksum to put into a checksum field that `bytes` holds as zero. -/
def checksum (bytes : List UInt8) : Nat := 65535 - onesSum bytes

/-- The receiver's test over bytes that include the checksum field. -/
def Verifies (bytes : List UInt8) : Prop := onesSum bytes = 65535

/-- The representative of a sum that end-around carries lead to. -/
def canonical (sum : Nat) : Nat := if sum = 0 then 0 else (sum - 1) % 65535 + 1

theorem addCarry_canonical (sum word : Nat) (bound : word < 65536) :
    addCarry (canonical sum) word = canonical (sum + word) := by
  unfold addCarry canonical
  split <;> split <;> split <;> omega

theorem words_bound (bytes : List UInt8) : ∀ word ∈ words bytes, word < 65536 := by
  fun_induction words bytes with
  | case1 => simp
  | case2 last =>
      have bound := last.toNat_lt
      simp only [List.mem_singleton, forall_eq]
      omega
  | case3 high low rest ih =>
      have highBound := high.toNat_lt
      have lowBound := low.toNat_lt
      intro word member
      rcases List.mem_cons.mp member with rfl | member
      · omega
      · exact ih word member

private theorem foldl_addCarry (sum : Nat) (summands : List Nat)
    (bounded : ∀ word ∈ summands, word < 65536) :
    summands.foldl addCarry (canonical sum) = canonical (sum + summands.sum) := by
  induction summands generalizing sum with
  | nil => rfl
  | cons word rest ih =>
      rw [List.foldl_cons, addCarry_canonical sum word (bounded word (by simp)),
        ih _ (fun next member => bounded next (by simp [member])), List.sum_cons, Nat.add_assoc]

theorem onesSum_eq_canonical (bytes : List UInt8) : onesSum bytes = canonical (wordSum bytes) := by
  have folded := foldl_addCarry 0 (words bytes) (words_bound bytes)
  rw [Nat.zero_add] at folded
  exact folded

theorem verifies_iff (bytes : List UInt8) :
    Verifies bytes ↔ 0 < wordSum bytes ∧ wordSum bytes % 65535 = 0 := by
  rw [Verifies, onesSum_eq_canonical, canonical]
  split <;> omega

theorem verifies_congr {left right : List UInt8} (leftPositive : 0 < wordSum left)
    (rightPositive : 0 < wordSum right) (congruent : wordSum left ≡ wordSum right [MOD 65535]) :
    Verifies left ↔ Verifies right := by
  rw [verifies_iff, verifies_iff, congruent]
  simp [leftPositive, rightPositive]

/-- The checksum is the only word short of 65535 that completes a nonzero sum. -/
theorem eq_checksum {bytes : List UInt8} {word : Nat} (positive : 0 < wordSum bytes)
    (short : word < 65535) (completes : (wordSum bytes + word) % 65535 = 0) :
    word = checksum bytes := by
  rw [checksum, onesSum_eq_canonical, canonical]
  split <;> omega

theorem wordSum_append {front back : List UInt8} (even : front.length % 2 = 0) :
    wordSum (front ++ back) = wordSum front + wordSum back := by
  unfold wordSum
  fun_induction words front with
  | case1 => simp
  | case2 last => simp at even
  | case3 high low rest ih =>
      have restEven : rest.length % 2 = 0 := by simp only [List.length_cons] at even; omega
      simp only [List.cons_append, words, List.sum_cons, ih restEven, Nat.add_assoc]

theorem wordSum_window_two (data : List UInt8) (offset : Nat) :
    wordSum (window data offset 2) = (swap16 (loadU16 data offset)).toNat := by
  simp only [loadU16, swap16_le16, le16_toNat]
  simp [window, wordSum, words, List.range_succ]
  omega

theorem swap16_modEq (word : UInt16) : (swap16 word).toNat ≡ 256 * word.toNat [MOD 65535] := by
  have split (low high : UInt8) :
      (swap16 (le16 low high)).toNat ≡ 256 * (le16 low high).toNat [MOD 65535] := by
    simp only [swap16_le16, le16_toNat, Nat.ModEq]
    omega
  simpa only [le16_bytes] using split (.ofNat word.toNat) (.ofNat (word.toNat / 256))

theorem swap16_short {word : UInt16} (short : word.toNat < 65535) :
    (swap16 word).toNat < 65535 := by
  have bound := word.toNat_lt
  simp only [swap16, le16_toNat, UInt8.toNat_ofNat']
  omega

/-- Summing the two halves of a native word as big-endian words only scales it. -/
theorem wordSum_window_four (data : List UInt8) (offset : Nat) :
    wordSum (window data offset 4) ≡ 256 * (loadU32 data offset).toNat [MOD 65535] := by
  simp only [loadU32, le32_toNat, Nat.ModEq]
  simp [window, wordSum, words, List.range_succ]
  omega

end XdpNatd.Data
