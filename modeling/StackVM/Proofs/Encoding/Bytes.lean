import StackVM.Builtin.Codec
import StackVM.Proofs.Number.Exact
import StackVM.Proofs.Sequence.Position

/-! # An integer and its bytes

Bytes are digits in base 256, the most significant first. Splitting keeps the residue modulo a power
of 256 and joining the bytes of a list loses nothing but what does not fit into 64 bits, so the two
are inverse. Both are the same in 64-bit words, where the shift is arithmetic and sums and products
wrap around.
-/

namespace StackVM.Radix

variable {n : ℤ} {k : ℕ} {items : List ℤ}

section Digits

/-- The number is a byte. -/
def IsByte (b : ℤ) : Prop := 0 ≤ b ∧ b ≤ 255

/-- The value of bytes in positional notation. -/
def bytesValue : List ℤ → ℤ
  | [] => 0
  | b :: rest => b * 256 ^ rest.length + bytesValue rest

private theorem two_pow_eight_mul (k : ℕ) : (2 : ℤ) ^ (8 * k) = 256 ^ k := by
  rw [pow_mul]
  norm_num

private theorem shiftRight_eq_div (n : ℤ) (k : ℕ) : n.shiftRight (8 * k) = n / 256 ^ k := by
  rw [← two_pow_eight_mul]
  exact Int.shiftRight_eq_div_pow n (8 * k)

private theorem bytes_succ (n : ℤ) (k : ℕ) : bytes n (k + 1) = n / 256 ^ k % 256 :: bytes n k := by
  rw [bytes, List.range_succ, List.reverse_append, ← shiftRight_eq_div]
  rfl

@[simp]
private theorem length_bytes (n : ℤ) (k : ℕ) : (bytes n k).length = k := by simp [bytes]

private theorem isByte_of_mem_bytes : ∀ b ∈ bytes n k, IsByte b := by
  intro b member
  obtain ⟨i, _, rfl⟩ := List.mem_map.mp member
  constructor
  · omega
  · omega

/-- The bytes that are split off have the value that the integer leaves modulo a power of 256. -/
theorem bytesValue_bytes (n : ℤ) (k : ℕ) : bytesValue (bytes n k) = n % 256 ^ k := by
  induction k with
  | zero => simp [bytes, bytesValue]
  | succ k ih =>
    have unit : (0 : ℤ) < 256 ^ k := by positivity
    have low := Int.emod_nonneg n unit.ne'
    have high := Int.emod_lt_of_pos n unit
    rw [bytes_succ, bytesValue, ih, length_bytes, pow_succ]
    refine ((Int.ediv_emod_unique (q := n / 256 ^ k / 256) (by positivity)).mpr ⟨?_, ?_, ?_⟩).2.symm
    · have outer := Int.ediv_mul_add_emod n (256 ^ k)
      have inner := Int.ediv_mul_add_emod (n / 256 ^ k) 256
      linear_combination outer + inner * 256 ^ k
    · have digit := Int.emod_nonneg (n / 256 ^ k) (by decide : (256 : ℤ) ≠ 0)
      positivity
    · have digit := Int.emod_lt_of_pos (n / 256 ^ k) (by decide : (0 : ℤ) < 256)
      nlinarith

/-- What lies above the bytes that are split off does not matter. -/
theorem bytes_add_mul (n m : ℤ) (k : ℕ) : bytes (n + m * 256 ^ k) k = bytes n k := by
  refine List.map_congr_left fun i member => ?_
  have less : i < k := by simpa using member
  have split : m * 256 ^ k = m * 256 ^ (k - 1 - i) * 256 * 256 ^ i := by
    rw [mul_assoc, mul_assoc, ← pow_succ', ← pow_add]
    congr 2
    omega
  rw [shiftRight_eq_div, shiftRight_eq_div, split, Int.add_mul_ediv_right _ _ (by positivity),
    Int.add_mul_emod_self_right]

theorem bytesValue_bounds (each : ∀ b ∈ items, IsByte b) :
    0 ≤ bytesValue items ∧ bytesValue items < 256 ^ items.length := by
  induction items with
  | nil => simp [bytesValue]
  | cons b rest ih =>
    obtain ⟨low, high⟩ := each b List.mem_cons_self
    obtain ⟨least, most⟩ := ih fun c member => each c (List.mem_cons_of_mem b member)
    rw [bytesValue, List.length_cons, pow_succ]
    constructor
    · positivity
    · nlinarith

/-- A list of bytes is split off again from its value. -/
theorem bytes_bytesValue (each : ∀ b ∈ items, IsByte b) :
    bytes (bytesValue items) items.length = items := by
  induction items with
  | nil => rfl
  | cons b rest ih =>
    have tail : ∀ c ∈ rest, IsByte c := fun c member => each c (List.mem_cons_of_mem b member)
    obtain ⟨low, high⟩ := each b List.mem_cons_self
    obtain ⟨least, most⟩ := bytesValue_bounds tail
    have first : bytesValue (b :: rest) / 256 ^ rest.length % 256 = b := by
      rw [bytesValue, add_comm, Int.add_mul_ediv_right _ _ (by positivity),
        Int.ediv_eq_zero_of_lt least most]
      omega
    rw [List.length_cons, bytes_succ, first, bytesValue, add_comm, bytes_add_mul, ih tail]

end Digits

section Wrapping

private theorem wrap_of_fits (fits : Sequence.FitsWord n) : wrap n = n := by
  obtain ⟨low, high⟩ := fits
  unfold Number.minInt64 at low
  unfold Number.maxInt64 at high
  exact Int.bmod_eq_of_le (by omega) (by omega)

/-- Joining bytes wraps their value around, once at the end. -/
theorem foldl_wrap (each : ∀ b ∈ items, IsByte b) (value : ℤ) :
    items.foldl (fun value b => wrap (wrap (value * 256) + Int.tmod b 256)) (wrap value) =
      wrap (value * 256 ^ items.length + bytesValue items) := by
  induction items generalizing value with
  | nil => simp [bytesValue]
  | cons b rest ih =>
    obtain ⟨low, high⟩ := each b List.mem_cons_self
    have step : wrap (wrap (wrap value * 256) + Int.tmod b 256) = wrap (value * 256 + b) := by
      rw [Int.tmod_eq_of_lt low (by omega)]
      simp only [wrap, Int.bmod_mul_bmod, Int.bmod_add_bmod]
    have total : (value * 256 + b) * 256 ^ rest.length + bytesValue rest =
        value * 256 ^ (b :: rest).length + bytesValue (b :: rest) := by
      rw [bytesValue, List.length_cons, pow_succ]
      ring
    rw [List.foldl_cons, step, ih fun c member => each c (List.mem_cons_of_mem b member), total]

private theorem ofBytes_eq_wrap (each : ∀ b ∈ items, IsByte b) :
    ofBytes items = wrap (bytesValue items) := by
  have joined := foldl_wrap each 0
  rwa [zero_mul, zero_add] at joined

/-- Joining the low bytes of a word gives its residue, and all eight bytes give the word back. -/
theorem ofBytes_bytes (fits : Sequence.FitsWord n) (count : k ≤ 8) :
    ofBytes (bytes n k) = if k < 8 then n % 2 ^ (8 * k) else n := by
  rw [ofBytes_eq_wrap isByte_of_mem_bytes, bytesValue_bytes, two_pow_eight_mul]
  split_ifs with short
  · have low := Int.emod_nonneg n (by positivity : (256 : ℤ) ^ k ≠ 0)
    have high : n % 256 ^ k < 256 ^ 7 :=
      (Int.emod_lt_of_pos n (by positivity)).trans_le (pow_le_pow_right₀ (by norm_num) (by omega))
    refine wrap_of_fits ⟨?_, ?_⟩
    · exact le_trans (by decide) low
    · exact high.le.trans (by decide)
  · obtain rfl : k = 8 := by omega
    have word : (256 : ℤ) ^ 8 = (0x10000000000000000 : ℕ) := by norm_num
    rw [word, wrap, Int.emod_bmod]
    exact wrap_of_fits fits

/-- Up to seven bytes are joined without wrapping around. -/
theorem ofBytes_eq_bytesValue (each : ∀ b ∈ items, IsByte b) (short : items.length ≤ 7) :
    ofBytes items = bytesValue items := by
  obtain ⟨low, high⟩ := bytesValue_bounds each
  have bound : (256 : ℤ) ^ items.length ≤ 256 ^ 7 := pow_le_pow_right₀ (by norm_num) short
  rw [ofBytes_eq_wrap each]
  refine wrap_of_fits ⟨?_, ?_⟩
  · exact le_trans (by decide) low
  · exact high.le.trans (bound.trans (by decide))

end Wrapping

section Words

/-- The low bytes of a word, cut out by an arithmetic shift and a mask. -/
def wordBytes (n : Int64) (count : ℕ) : List Int64 :=
  (List.range count).reverse.map fun i => (n >>> Int64.ofNat (8 * i)) &&& 0xff

/-- Bytes joined in a word. -/
def ofWordBytes (items : List Int64) : Int64 := items.foldl (fun value b => value * 256 + b % 256) 0

private theorem toInt_and_byte (n : Int64) : (n &&& 0xff).toInt = n.toInt % 256 := by
  have masked : (n &&& 0xff).toBitVec.toNat = n.toBitVec.toNat % 256 := by
    rw [Int64.toBitVec_and, BitVec.toNat_and]
    exact Nat.and_two_pow_sub_one_eq_mod n.toBitVec.toNat 8
  change (n &&& 0xff).toBitVec.toInt = n.toBitVec.toInt % 256
  rw [BitVec.toInt_eq_toNat_cond, masked, BitVec.toInt_eq_toNat_cond]
  split_ifs <;> omega

private theorem toInt_shiftRight_bytes (n : Int64) {i : ℕ} (small : i < 8) :
    (n >>> Int64.ofNat (8 * i)).toInt = n.toInt.shiftRight (8 * i) := by
  have amount : ((Int64.ofNat (8 * i)).toBitVec.smod 64).toNat = 8 * i := by
    interval_cases i <;> rfl
  change (n.toBitVec.sshiftRight' ((Int64.ofNat (8 * i)).toBitVec.smod 64)).toInt = _
  rw [BitVec.toInt_sshiftRight', amount]
  rfl

private theorem toInt_wordBytes (n : Int64) (count : k ≤ 8) :
    (wordBytes n k).map Int64.toInt = bytes n.toInt k := by
  rw [wordBytes, List.map_map]
  refine List.map_congr_left fun i member => ?_
  have less : i < k := by simpa using member
  rw [Function.comp_apply, toInt_and_byte, toInt_shiftRight_bytes n (by omega)]

private theorem toInt_ofWordBytes (items : List Int64) :
    (ofWordBytes items).toInt = ofBytes (items.map Int64.toInt) := by
  rw [ofBytes, List.foldl_map]
  refine (List.foldl_hom Int64.toInt fun value b => ?_).symm
  rw [Int64.toInt_add, Int64.toInt_mul, Int64.toInt_mod]
  rfl

end Words

end StackVM.Radix

namespace StackVM.Codecs

open Sequence (FitsWord)

variable {k : ℕ} {items : List ℤ}

private theorem byteCount_ofNat (count : k ≤ 8) : byteCount (Number.ofNat k) = k := by
  rw [byteCount, (Number.isInt_ofNat (by omega)).toNat]
  omega

private theorem bytes_apply (v : Value) (count : k ≤ 8) :
    Codec.bytes.apply [v, .ofNat k] = { value := .arr ((Radix.bytes v.toInt k).map .ofInt) } := by
  change Reply.mk (.arr ((Radix.bytes v.toInt (byteCount (Number.ofNat k))).map .ofInt)) [] = _
  rw [byteCount_ofNat count]

private theorem map_toInt_map_ofInt (each : ∀ b ∈ items, Radix.IsByte b) :
    (items.map Value.ofInt).map Value.toInt = items := by
  rw [List.map_map]
  refine (List.map_congr_left fun b member => ?_).trans (List.map_id items)
  obtain ⟨low, high⟩ := each b member
  exact Value.toInt_ofInt (by omega)

private theorem fromBytes_apply (each : ∀ b ∈ items, Radix.IsByte b) :
    Codec.fromBytes.apply [.arr (items.map .ofInt)] = { value := .ofInt (Radix.ofBytes items) } := by
  change Reply.mk (.ofInt (Radix.ofBytes ((items.map Value.ofInt).map Value.toInt))) [] = _
  rw [map_toInt_map_ofInt each]

/-- Splitting an integer into bytes and joining bytes are inverse. Up to eight bytes of a 64-bit
integer are split off, each from 0 to 255; joined again they give the integer modulo a power of 256,
and all eight give the integer itself, negative ones included. So it is for the number of any value.
Conversely the bytes of a list of up to six, joined and split again, come back; they may also be given
as parameters of their own. Nothing of this changes if all is computed in 64-bit words. -/
theorem bytes_and_fromBytes_inverse :
    (∀ (n : ℤ) (k : ℕ), FitsWord n → k ≤ 8 →
      (Radix.bytes n k).length = k ∧ (∀ b ∈ Radix.bytes n k, 0 ≤ b ∧ b ≤ 255) ∧
      Radix.ofBytes (Radix.bytes n k) = if k < 8 then n % 2 ^ (8 * k) else n) ∧
    (∀ (v : Value) (k : ℕ), k ≤ 8 →
      Codec.bytes.apply [v, .ofNat k] = { value := .arr ((Radix.bytes v.toInt k).map .ofInt) } ∧
      Codec.fromBytes.apply [(Codec.bytes.apply [v, .ofNat k]).value] =
        { value := .ofInt (if k < 8 then v.toInt % 2 ^ (8 * k) else v.toInt) }) ∧
    (∀ items : List ℤ, items.length ≤ 6 → (∀ b ∈ items, 0 ≤ b ∧ b ≤ 255) →
      Codec.bytes.apply [(Codec.fromBytes.apply [.arr (items.map .ofInt)]).value, .ofNat items.length] =
        { value := .arr (items.map .ofInt) } ∧
      Codec.fromBytes.apply (items.map .ofInt) = Codec.fromBytes.apply [.arr (items.map .ofInt)]) ∧
    (∀ (n : Int64) (k : ℕ), k ≤ 8 → (Radix.wordBytes n k).map Int64.toInt = Radix.bytes n.toInt k) ∧
    (∀ items : List Int64,
      (Radix.ofWordBytes items).toInt = Radix.ofBytes (items.map Int64.toInt)) := by
  refine ⟨fun n k fits count => ?_, fun v k count => ⟨bytes_apply v count, ?_⟩,
    fun items short each => ⟨?_, ?_⟩, fun n k => Radix.toInt_wordBytes n, Radix.toInt_ofWordBytes⟩
  · exact ⟨Radix.length_bytes n k, Radix.isByte_of_mem_bytes, Radix.ofBytes_bytes fits count⟩
  · have fits : FitsWord v.toInt := Sequence.fitsWord_toInt v.toNumber
    rw [bytes_apply v count, fromBytes_apply Radix.isByte_of_mem_bytes, Radix.ofBytes_bytes fits count]
  · obtain ⟨low, high⟩ := Radix.bytesValue_bounds each
    have bound : (256 : ℤ) ^ items.length ≤ 256 ^ 6 := pow_le_pow_right₀ (by norm_num) short
    have small : (Radix.bytesValue items).natAbs < 0x20000000000000 := by omega
    rw [fromBytes_apply each, Radix.ofBytes_eq_bytesValue each (by omega), bytes_apply _ (by omega),
      Value.toInt_ofInt small, Radix.bytes_bytesValue each]
  · cases items with
    | nil => rfl
    | cons b rest => rfl

theorem bytes_and_fromBytes_inverse_negative :
    FitsWord (-2) ∧ Radix.ofBytes (Radix.bytes (-2) 3) = 0xfffffe ∧
    Radix.ofBytes (Radix.bytes (-2) 8) = -2 ∧
    Codec.bytes.apply
        [(Codec.fromBytes.apply [.arr ([0, 255, 128, 0, 1, 254].map .ofInt)]).value, .ofNat 6] =
      { value := .arr ([0, 255, 128, 0, 1, 254].map .ofInt) } := by
  have fits : FitsWord (-2) := by decide
  have each : ∀ b ∈ ([0, 255, 128, 0, 1, 254] : List ℤ), 0 ≤ b ∧ b ≤ 255 := by decide
  obtain ⟨words, -, lists, -, -⟩ := bytes_and_fromBytes_inverse
  exact ⟨fits, (words (-2) 3 fits (by decide)).2.2, (words (-2) 8 fits (by decide)).2.2,
    (lists _ (by decide) each).1⟩

end StackVM.Codecs
