/-
Integers in network byte order.

* `bigEndian16`, `bigEndian32` — the bytes of an integer, the high one first;
* `readBigEndian16`, `readBigEndian32` — the integer at the start of a buffer;
* `read_bigEndian16`, `read_bigEndian32` — reading what was written;
* `bigEndian16_read`, `bigEndian32_read` — writing what was read;
* `readWords` — several integers in a row.

Design notes: a buffer that is too short reads as if it went on with zeros.
-/
import Mathlib.Algebra.GroupWithZero.Nat
import Mathlib.Data.List.Basic
import Mathlib.Data.Nat.Notation

namespace BigEndian

def bigEndian16 (data : UInt16) : List UInt8 :=
  [((data &&& 0xFF00) >>> 8).toUInt8, (data &&& 0x00FF).toUInt8]

def bigEndian32 (data : UInt32) : List UInt8 :=
  [((data &&& 0xFF000000) >>> 24).toUInt8, ((data &&& 0x00FF0000) >>> 16).toUInt8,
    ((data &&& 0x0000FF00) >>> 8).toUInt8, (data &&& 0x000000FF).toUInt8]

def readBigEndian16 (buffer : List UInt8) : UInt16 :=
  ((buffer.getD 0 0).toUInt16 <<< 8) ||| (buffer.getD 1 0).toUInt16

def readBigEndian32 (buffer : List UInt8) : UInt32 :=
  ((buffer.getD 0 0).toUInt32 <<< 24) ||| ((buffer.getD 1 0).toUInt32 <<< 16) |||
    ((buffer.getD 2 0).toUInt32 <<< 8) ||| (buffer.getD 3 0).toUInt32

@[simp] theorem bigEndian16_length (data : UInt16) : (bigEndian16 data).length = 2 := rfl

@[simp] theorem bigEndian32_length (data : UInt32) : (bigEndian32 data).length = 4 := rfl

/-! ### Bytes as digits -/

/-- One byte of a number that is masked and shifted. -/
theorem and_shiftRight (n k : ℕ) : (n &&& (255 <<< k)) >>> k = n / 2 ^ k % 256 := by
  rw [Nat.shiftRight_and_distrib, Nat.shiftLeft_shiftRight, Nat.shiftRight_eq_div_pow]
  exact Nat.and_two_pow_sub_one_eq_mod _ 8

/-- A byte above `k` bits that are taken. -/
theorem shiftLeft_or {b n k : ℕ} (h : n < 2 ^ k) : (b <<< k) ||| n = b * 2 ^ k + n := by
  rw [← Nat.shiftLeft_add_eq_or_of_lt h, Nat.shiftLeft_eq]

theorem toNat_readBigEndian16 (buffer : List UInt8) :
    (readBigEndian16 buffer).toNat =
      (buffer.getD 0 0).toNat * 256 + (buffer.getD 1 0).toNat := by
  have hlow := (buffer.getD 1 0).toNat_lt
  have hhigh := (buffer.getD 0 0).toNat_lt
  rw [readBigEndian16, UInt16.toNat_or, UInt16.toNat_shiftLeft, UInt8.toNat_toUInt16,
    UInt8.toNat_toUInt16]
  change (buffer.getD 0 0).toNat <<< 8 % 2 ^ 16 ||| _ = _
  rw [Nat.mod_eq_of_lt (by rw [Nat.shiftLeft_eq]; omega), shiftLeft_or (k := 8) hlow]
  omega

theorem toNat_readBigEndian32 (buffer : List UInt8) :
    (readBigEndian32 buffer).toNat =
      (buffer.getD 0 0).toNat * 2 ^ 24 + (buffer.getD 1 0).toNat * 2 ^ 16 +
        (buffer.getD 2 0).toNat * 2 ^ 8 + (buffer.getD 3 0).toNat := by
  have h₀ := (buffer.getD 0 0).toNat_lt
  have h₁ := (buffer.getD 1 0).toNat_lt
  have h₂ := (buffer.getD 2 0).toNat_lt
  have h₃ := (buffer.getD 3 0).toNat_lt
  rw [readBigEndian32, UInt32.toNat_or, UInt32.toNat_or, UInt32.toNat_or, UInt32.toNat_shiftLeft,
    UInt32.toNat_shiftLeft, UInt32.toNat_shiftLeft, UInt8.toNat_toUInt32, UInt8.toNat_toUInt32,
    UInt8.toNat_toUInt32, UInt8.toNat_toUInt32]
  change (buffer.getD 0 0).toNat <<< 24 % 2 ^ 32 ||| (buffer.getD 1 0).toNat <<< 16 % 2 ^ 32 |||
    (buffer.getD 2 0).toNat <<< 8 % 2 ^ 32 ||| _ = _
  rw [Nat.mod_eq_of_lt (by rw [Nat.shiftLeft_eq]; omega),
    Nat.mod_eq_of_lt (by rw [Nat.shiftLeft_eq]; omega),
    Nat.mod_eq_of_lt (by rw [Nat.shiftLeft_eq]; omega), Nat.or_assoc, Nat.or_assoc,
    shiftLeft_or (k := 8) h₃, shiftLeft_or (k := 16) (by omega), shiftLeft_or (k := 24) (by omega)]
  omega

theorem bigEndian16_toNat (data : UInt16) :
    (bigEndian16 data).map UInt8.toNat = [data.toNat / 256, data.toNat % 256] := by
  have hlt := data.toNat_lt
  have hlow := and_shiftRight data.toNat 0
  have hhigh := and_shiftRight data.toNat 8
  simp only [bigEndian16, List.map_cons, List.map_nil, UInt16.toNat_toUInt8, UInt16.toNat_shiftRight,
    UInt16.toNat_and, List.cons.injEq, and_true]
  refine ⟨?_, ?_⟩
  · change (data.toNat &&& (255 <<< 8)) >>> 8 % 2 ^ 8 = _
    rw [hhigh]
    omega
  · change (data.toNat &&& (255 <<< 0)) >>> 0 % 2 ^ 8 = _
    rw [hlow]
    omega

theorem bigEndian32_toNat (data : UInt32) :
    (bigEndian32 data).map UInt8.toNat =
      [data.toNat / 2 ^ 24, data.toNat / 2 ^ 16 % 256, data.toNat / 2 ^ 8 % 256,
        data.toNat % 256] := by
  have hlt := data.toNat_lt
  simp only [bigEndian32, List.map_cons, List.map_nil, UInt32.toNat_toUInt8, UInt32.toNat_shiftRight,
    UInt32.toNat_and, List.cons.injEq, and_true]
  refine ⟨?_, ?_, ?_, ?_⟩
  · change (data.toNat &&& (255 <<< 24)) >>> 24 % 2 ^ 8 = _
    rw [and_shiftRight]
    omega
  · change (data.toNat &&& (255 <<< 16)) >>> 16 % 2 ^ 8 = _
    rw [and_shiftRight]
    omega
  · change (data.toNat &&& (255 <<< 8)) >>> 8 % 2 ^ 8 = _
    rw [and_shiftRight]
    omega
  · change (data.toNat &&& (255 <<< 0)) >>> 0 % 2 ^ 8 = _
    rw [and_shiftRight]
    omega

/-! ### Round trips -/

@[simp] theorem read_bigEndian16 (data : UInt16) (rest : List UInt8) :
    readBigEndian16 (bigEndian16 data ++ rest) = data := by
  have hbytes := bigEndian16_toNat data
  rw [← UInt16.toNat_inj, toNat_readBigEndian16]
  simp only [bigEndian16, List.map_cons, List.map_nil, List.cons.injEq, and_true] at hbytes
  simp only [bigEndian16, List.cons_append, List.getD_cons_zero, List.getD_cons_succ, hbytes]
  omega

@[simp] theorem read_bigEndian32 (data : UInt32) (rest : List UInt8) :
    readBigEndian32 (bigEndian32 data ++ rest) = data := by
  have hbytes := bigEndian32_toNat data
  have hlt := data.toNat_lt
  rw [← UInt32.toNat_inj, toNat_readBigEndian32]
  simp only [bigEndian32, List.map_cons, List.map_nil, List.cons.injEq, and_true] at hbytes
  simp only [bigEndian32, List.cons_append, List.getD_cons_zero, List.getD_cons_succ, hbytes]
  omega

theorem bytes_ext {l l' : List UInt8} (h : l.map UInt8.toNat = l'.map UInt8.toNat) : l = l' :=
  List.map_injective_iff.mpr (fun _ _ hab => UInt8.toNat_inj.mp hab) h

/-- What is read is what the first bytes say. -/
theorem bigEndian16_read (buffer : List UInt8) (h : 2 ≤ buffer.length) :
    bigEndian16 (readBigEndian16 buffer) = buffer.take 2 := by
  obtain ⟨a, b, rest, rfl⟩ : ∃ a b rest, buffer = a :: b :: rest := by
    rcases buffer with _ | ⟨a, _ | ⟨b, rest⟩⟩
    · simp at h
    · simp at h
    · exact ⟨a, b, rest, rfl⟩
  refine bytes_ext ?_
  have ha := a.toNat_lt
  have hb := b.toNat_lt
  rw [bigEndian16_toNat, toNat_readBigEndian16]
  simp only [List.getD_cons_zero, List.getD_cons_succ, List.take_succ_cons, List.take_zero,
    List.map_cons, List.map_nil, List.cons.injEq, and_true]
  omega

theorem bigEndian32_read (buffer : List UInt8) (h : 4 ≤ buffer.length) :
    bigEndian32 (readBigEndian32 buffer) = buffer.take 4 := by
  obtain ⟨a, b, c, d, rest, rfl⟩ : ∃ a b c d rest, buffer = a :: b :: c :: d :: rest := by
    rcases buffer with _ | ⟨a, _ | ⟨b, _ | ⟨c, _ | ⟨d, rest⟩⟩⟩⟩
    · simp at h
    · simp at h
    · simp at h
    · simp at h
    · exact ⟨a, b, c, d, rest, rfl⟩
  refine bytes_ext ?_
  have ha := a.toNat_lt
  have hb := b.toNat_lt
  have hc := c.toNat_lt
  have hd := d.toNat_lt
  rw [bigEndian32_toNat, toNat_readBigEndian32]
  simp only [List.getD_cons_zero, List.getD_cons_succ, List.take_succ_cons, List.take_zero,
    List.map_cons, List.map_nil, List.cons.injEq, and_true]
  omega

/-! ### Several integers -/

/-- The first `n` integers of a buffer. -/
def readWords : ℕ → List UInt8 → List UInt32
  | 0, _ => []
  | n + 1, buffer => readBigEndian32 buffer :: readWords n (buffer.drop 4)

@[simp] theorem readWords_length (n : ℕ) (buffer : List UInt8) :
    (readWords n buffer).length = n := by
  induction n generalizing buffer with
  | zero => rfl
  | succ n ih => rw [readWords, List.length_cons, ih]

theorem length_words (words : List UInt32) :
    (words.flatMap bigEndian32).length = 4 * words.length := by
  induction words with
  | nil => rfl
  | cons word words ih =>
    rw [List.flatMap_cons, List.length_append, ih, bigEndian32_length, List.length_cons]
    omega

theorem readWords_words (words : List UInt32) (rest : List UInt8) :
    readWords words.length (words.flatMap bigEndian32 ++ rest) = words := by
  induction words with
  | nil => rfl
  | cons word words ih =>
    rw [List.length_cons, readWords, List.flatMap_cons, List.append_assoc, read_bigEndian32,
      List.drop_left' (bigEndian32_length word), ih]

theorem words_readWords {n : ℕ} (buffer : List UInt8) (h : 4 * n ≤ buffer.length) :
    (readWords n buffer).flatMap bigEndian32 = buffer.take (4 * n) := by
  induction n generalizing buffer with
  | zero => rfl
  | succ n ih =>
    rw [readWords, List.flatMap_cons, bigEndian32_read _ (by omega), ih _ (by rw [List.length_drop]; omega),
      Nat.mul_succ, Nat.add_comm (4 * n) 4, List.take_add]

end BigEndian
