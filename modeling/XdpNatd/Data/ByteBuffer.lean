import Mathlib.Data.List.Basic

namespace XdpNatd.Data

/-! A byte buffer with words in little-endian order.

Buffers are plain lists of bytes and offsets are natural numbers.  A store never
changes the length of the buffer, and what it does to a later load is decided by
the two windows alone: a load inside the stored window sees the stored bytes, a
load outside of it sees the old ones.
-/

/-- The byte at an offset. Callers stay inside the buffer; past its end the
byte reads as zero. -/
def byteAt (data : List UInt8) (offset : Nat) : UInt8 := data.getD offset 0

def storeBytes (data : List UInt8) (offset : Nat) : List UInt8 → List UInt8
  | [] => data
  | byte :: bytes => storeBytes (data.set offset byte) (offset + 1) bytes

def window (data : List UInt8) (offset count : Nat) : List UInt8 :=
  (List.range count).map fun lane => byteAt data (offset + lane)

def le16 (byte0 byte1 : UInt8) : UInt16 := .ofNat (byte0.toNat + 256 * byte1.toNat)

def le32 (byte0 byte1 byte2 byte3 : UInt8) : UInt32 :=
  .ofNat (byte0.toNat + 256 * byte1.toNat + 65536 * byte2.toNat + 16777216 * byte3.toNat)

def bytes16 (word : UInt16) : List UInt8 := [.ofNat word.toNat, .ofNat (word.toNat / 256)]

def bytes32 (word : UInt32) : List UInt8 :=
  [.ofNat word.toNat, .ofNat (word.toNat / 256), .ofNat (word.toNat / 65536),
    .ofNat (word.toNat / 16777216)]

def swap16 (word : UInt16) : UInt16 := le16 (.ofNat (word.toNat / 256)) (.ofNat word.toNat)

def swap32 (word : UInt32) : UInt32 :=
  le32 (.ofNat (word.toNat / 16777216)) (.ofNat (word.toNat / 65536)) (.ofNat (word.toNat / 256))
    (.ofNat word.toNat)

def loadU16 (data : List UInt8) (offset : Nat) : UInt16 :=
  le16 (byteAt data offset) (byteAt data (offset + 1))

def loadU32 (data : List UInt8) (offset : Nat) : UInt32 :=
  le32 (byteAt data offset) (byteAt data (offset + 1)) (byteAt data (offset + 2))
    (byteAt data (offset + 3))

def storeU16 (data : List UInt8) (offset : Nat) (word : UInt16) : List UInt8 :=
  storeBytes data offset (bytes16 word)

def storeU32 (data : List UInt8) (offset : Nat) (word : UInt32) : List UInt8 :=
  storeBytes data offset (bytes32 word)

def loadArray (count : Nat) (data : List UInt8) (offset : Nat) : Vector UInt8 count :=
  Vector.ofFn fun lane => byteAt data (offset + lane)

def storeArray {count : Nat} (data : List UInt8) (offset : Nat) (bytes : Vector UInt8 count) :
    List UInt8 :=
  storeBytes data offset bytes.toList

variable {data after bytes : List UInt8} {offset other lane count : Nat}

@[simp] theorem le16_toNat (byte0 byte1 : UInt8) :
    (le16 byte0 byte1).toNat = byte0.toNat + 256 * byte1.toNat := by
  have low := byte0.toNat_lt
  have high := byte1.toNat_lt
  simp only [le16, UInt16.toNat_ofNat']
  omega

@[simp] theorem le32_toNat (byte0 byte1 byte2 byte3 : UInt8) :
    (le32 byte0 byte1 byte2 byte3).toNat =
      byte0.toNat + 256 * byte1.toNat + 65536 * byte2.toNat + 16777216 * byte3.toNat := by
  have bound0 := byte0.toNat_lt
  have bound1 := byte1.toNat_lt
  have bound2 := byte2.toNat_lt
  have bound3 := byte3.toNat_lt
  simp only [le32, UInt32.toNat_ofNat']
  omega

theorem le16_bytes (word : UInt16) :
    le16 (.ofNat word.toNat) (.ofNat (word.toNat / 256)) = word := by
  apply UInt16.toNat_inj.mp
  have bound := word.toNat_lt
  simp only [le16_toNat, UInt8.toNat_ofNat']
  omega

theorem le32_bytes (word : UInt32) :
    le32 (.ofNat word.toNat) (.ofNat (word.toNat / 256)) (.ofNat (word.toNat / 65536))
      (.ofNat (word.toNat / 16777216)) = word := by
  apply UInt32.toNat_inj.mp
  have bound := word.toNat_lt
  simp only [le32_toNat, UInt8.toNat_ofNat']
  omega

private theorem ofNat_digit {value : Nat} (byte : UInt8) (same : value % 256 = byte.toNat) :
    UInt8.ofNat value = byte := by
  apply UInt8.toNat_inj.mp
  simpa only [UInt8.toNat_ofNat'] using same

theorem swap16_le16 (byte0 byte1 : UInt8) : swap16 (le16 byte0 byte1) = le16 byte1 byte0 := by
  have bound0 := byte0.toNat_lt
  have bound1 := byte1.toNat_lt
  simp only [swap16, le16_toNat]
  rw [ofNat_digit byte1 (by omega), ofNat_digit byte0 (by omega)]

theorem swap32_le32 (byte0 byte1 byte2 byte3 : UInt8) :
    swap32 (le32 byte0 byte1 byte2 byte3) = le32 byte3 byte2 byte1 byte0 := by
  have bound0 := byte0.toNat_lt
  have bound1 := byte1.toNat_lt
  have bound2 := byte2.toNat_lt
  have bound3 := byte3.toNat_lt
  simp only [swap32, le32_toNat]
  rw [ofNat_digit byte3 (by omega), ofNat_digit byte2 (by omega),
    ofNat_digit byte1 (by omega), ofNat_digit byte0 (by omega)]

@[simp] theorem swap16_swap16 (word : UInt16) : swap16 (swap16 word) = word := by
  rw [← le16_bytes word, swap16_le16, swap16_le16]

@[simp] theorem swap32_swap32 (word : UInt32) : swap32 (swap32 word) = word := by
  rw [← le32_bytes word, swap32_le32, swap32_le32]

theorem swap16_inj {left right : UInt16} : swap16 left = swap16 right ↔ left = right :=
  ⟨fun same => by simpa using congrArg swap16 same, fun same => same ▸ rfl⟩

theorem byteAt_congr (same : after[offset]? = data[offset]?) : byteAt after offset = byteAt data offset := by
  simp only [byteAt, List.getD_eq_getElem?_getD, same]

theorem loadU16_congr (same : ∀ lane < 2, after[offset + lane]? = data[offset + lane]?) :
    loadU16 after offset = loadU16 data offset :=
  congrArg₂ le16 (byteAt_congr (same 0 (by decide))) (byteAt_congr (same 1 (by decide)))

theorem loadU32_congr (same : ∀ lane < 4, after[offset + lane]? = data[offset + lane]?) :
    loadU32 after offset = loadU32 data offset := by
  have byte (lane : Nat) (inside : lane < 4) :
      byteAt after (offset + lane) = byteAt data (offset + lane) := byteAt_congr (same lane inside)
  have first : byteAt after offset = byteAt data offset := byte 0 (by decide)
  rw [loadU32, loadU32, first, byte 1 (by decide), byte 2 (by decide), byte 3 (by decide)]

theorem loadArray_congr (same : ∀ lane < count, after[offset + lane]? = data[offset + lane]?) :
    loadArray count after offset = loadArray count data offset := by
  simp only [loadArray]
  congr 1
  funext lane
  exact byteAt_congr (same lane lane.isLt)

theorem window_congr (same : ∀ lane < count, after[offset + lane]? = data[offset + lane]?) :
    window after offset count = window data offset count := by
  simp only [window]
  apply List.map_congr_left
  intro lane member
  exact byteAt_congr (same lane (List.mem_range.mp member))

@[simp] theorem storeBytes_length : (storeBytes data offset bytes).length = data.length := by
  induction bytes generalizing data offset with
  | nil => rfl
  | cons byte rest ih => simp only [storeBytes, ih, List.length_set]

@[simp] theorem storeU16_length (word : UInt16) :
    (storeU16 data offset word).length = data.length := storeBytes_length

@[simp] theorem storeU32_length (word : UInt32) :
    (storeU32 data offset word).length = data.length := storeBytes_length

@[simp] theorem storeArray_length (array : Vector UInt8 count) :
    (storeArray data offset array).length = data.length := storeBytes_length

theorem storeBytes_getElem?_outside (outside : other < offset ∨ offset + bytes.length ≤ other) :
    (storeBytes data offset bytes)[other]? = data[other]? := by
  induction bytes generalizing data offset with
  | nil => rfl
  | cons byte rest ih =>
      simp only [List.length_cons] at outside
      rw [storeBytes, ih (by omega)]
      exact List.getElem?_set_ne (by omega)

theorem byteAt_storeBytes_outside (outside : other < offset ∨ offset + bytes.length ≤ other) :
    byteAt (storeBytes data offset bytes) other = byteAt data other :=
  byteAt_congr (storeBytes_getElem?_outside outside)

theorem byteAt_storeBytes_inside (room : offset + bytes.length ≤ data.length)
    (inside : lane < bytes.length) :
    byteAt (storeBytes data offset bytes) (offset + lane) = bytes[lane] := by
  induction bytes generalizing data offset lane with
  | nil => simp at inside
  | cons byte rest ih =>
      simp only [List.length_cons] at room inside
      cases lane with
      | zero =>
          change byteAt (storeBytes (data.set offset byte) (offset + 1) rest) offset = byte
          rw [byteAt_storeBytes_outside (Or.inl (Nat.lt_add_one _))]
          simp [byteAt, List.getD_eq_getElem?_getD,
            List.getElem?_set_self (show offset < data.length by omega)]
      | succ lane =>
          have shifted := @ih (data.set offset byte) (offset + 1) lane
            (by simp only [List.length_set]; omega) (by omega)
          simpa only [storeBytes, Nat.add_assoc, Nat.add_comm 1 lane, List.getElem_cons_succ]
            using shifted

theorem loadU16_storeBytes_outside (outside : other + 2 ≤ offset ∨ offset + bytes.length ≤ other) :
    loadU16 (storeBytes data offset bytes) other = loadU16 data other :=
  loadU16_congr fun lane inside => storeBytes_getElem?_outside (by omega)

theorem loadU32_storeBytes_outside (outside : other + 4 ≤ offset ∨ offset + bytes.length ≤ other) :
    loadU32 (storeBytes data offset bytes) other = loadU32 data other :=
  loadU32_congr fun lane inside => storeBytes_getElem?_outside (by omega)

theorem loadArray_storeBytes_outside
    (outside : other + count ≤ offset ∨ offset + bytes.length ≤ other) :
    loadArray count (storeBytes data offset bytes) other = loadArray count data other :=
  loadArray_congr fun lane inside => storeBytes_getElem?_outside (by omega)

theorem loadU16_storeU16 {word : UInt16} (room : offset + 2 ≤ data.length) :
    loadU16 (storeU16 data offset word) offset = word := by
  have stored (lane : Nat) (inside : lane < 2) :
      byteAt (storeU16 data offset word) (offset + lane) = (bytes16 word)[lane] :=
    byteAt_storeBytes_inside room inside
  have first := stored 0 (by omega)
  rw [Nat.add_zero] at first
  simp only [loadU16, first, stored 1 (by omega)]
  exact le16_bytes word

theorem loadU32_storeU32 {word : UInt32} (room : offset + 4 ≤ data.length) :
    loadU32 (storeU32 data offset word) offset = word := by
  have stored (lane : Nat) (inside : lane < 4) :
      byteAt (storeU32 data offset word) (offset + lane) = (bytes32 word)[lane] :=
    byteAt_storeBytes_inside room inside
  have first := stored 0 (by omega)
  rw [Nat.add_zero] at first
  simp only [loadU32, first, stored 1 (by omega), stored 2 (by omega),
    stored 3 (by omega)]
  exact le32_bytes word

theorem loadArray_storeArray {array : Vector UInt8 count} (room : offset + count ≤ data.length) :
    loadArray count (storeArray data offset array) offset = array := by
  apply Vector.ext
  intro lane inside
  simp only [loadArray, Vector.getElem_ofFn, storeArray]
  rw [byteAt_storeBytes_inside (by simpa using room) (by simpa using inside)]
  simp

@[simp] theorem window_length : (window data offset count).length = count := by
  simp [window]

theorem window_add (first second : Nat) :
    window data offset (first + second) =
      window data offset first ++ window data (offset + first) second := by
  simp [window, List.range_add, Function.comp_def, Nat.add_assoc]

theorem window_storeBytes_outside
    (outside : other + count ≤ offset ∨ offset + bytes.length ≤ other) :
    window (storeBytes data offset bytes) other count = window data other count :=
  window_congr fun lane inside => storeBytes_getElem?_outside (by omega)

section Bytes

variable {byte0 byte1 byte2 byte3 byte0' byte1' byte2' byte3' : UInt8}

theorem le16_inj (same : le16 byte0 byte1 = le16 byte0' byte1') : byte0 = byte0' ∧ byte1 = byte1' := by
  have bound0 := byte0.toNat_lt
  have bound0' := byte0'.toNat_lt
  have numbers := congrArg UInt16.toNat same
  rw [le16_toNat, le16_toNat] at numbers
  exact ⟨UInt8.toNat_inj.mp (by omega), UInt8.toNat_inj.mp (by omega)⟩

theorem le32_inj (same : le32 byte0 byte1 byte2 byte3 = le32 byte0' byte1' byte2' byte3') :
    byte0 = byte0' ∧ byte1 = byte1' ∧ byte2 = byte2' ∧ byte3 = byte3' := by
  have bound0 := byte0.toNat_lt
  have bound0' := byte0'.toNat_lt
  have bound1 := byte1.toNat_lt
  have bound1' := byte1'.toNat_lt
  have bound2 := byte2.toNat_lt
  have bound2' := byte2'.toNat_lt
  have numbers := congrArg UInt32.toNat same
  rw [le32_toNat, le32_toNat] at numbers
  exact ⟨UInt8.toNat_inj.mp (by omega), UInt8.toNat_inj.mp (by omega),
    UInt8.toNat_inj.mp (by omega), UInt8.toNat_inj.mp (by omega)⟩

end Bytes

theorem byteAt_of_loadU16 (same : loadU16 after offset = loadU16 data offset) (inside : lane < 2) :
    byteAt after (offset + lane) = byteAt data (offset + lane) := by
  obtain ⟨first, second⟩ := le16_inj same
  match lane, inside with
  | 0, _ => exact first
  | 1, _ => exact second

theorem byteAt_of_loadU32 (same : loadU32 after offset = loadU32 data offset) (inside : lane < 4) :
    byteAt after (offset + lane) = byteAt data (offset + lane) := by
  obtain ⟨first, second, third, fourth⟩ := le32_inj same
  match lane, inside with
  | 0, _ => exact first
  | 1, _ => exact second
  | 2, _ => exact third
  | 3, _ => exact fourth

theorem byteAt_of_loadArray (same : loadArray count after offset = loadArray count data offset)
    (inside : lane < count) : byteAt after (offset + lane) = byteAt data (offset + lane) := by
  have lanes := congrArg (fun array => array[lane]) same
  simpa only [loadArray, Vector.getElem_ofFn] using lanes

/-- Buffers of one length with the same bytes are equal. -/
theorem eq_of_byteAt (size : after.length = data.length)
    (same : ∀ offset, byteAt after offset = byteAt data offset) : after = data := by
  apply List.ext_getElem size
  intro offset afterBound bound
  have bytes := same offset
  simpa [byteAt, List.getD_eq_getElem?_getD, afterBound, bound] using bytes

end XdpNatd.Data
