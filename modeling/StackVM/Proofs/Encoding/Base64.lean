import Mathlib.Data.List.Basic
import StackVM.Builtin.Codec
import StackVM.Proofs.Structural
import StackVM.Proofs.Text.Utf8

/-! # Base 64 read back

Reading accepts exactly what writing produces, so bytes have one text each. Between the two builtins
stand the bytes of texts: those that spell no text are read with replacement characters.
-/

namespace StackVM.Base64

variable {b : UInt8} {n w x y z offset : Nat} {bytes text last : List UInt8}

section Symbols

/-- The byte of the symbol of a six-bit number. -/
def mark (n : Nat) : UInt8 := UInt8.ofNat (symbol n).toNat

theorem mark_spec : ∀ n < 64, (symbol n).toNat < 128 ∧ value? (mark n) = some n ∧ mark n ≠ pad := by
  decide

private theorem value?_mark (small : n < 64) : value? (mark n) = some n := (mark_spec n small).2.1

private theorem mark_ne_pad (small : n < 64) : mark n ≠ pad := (mark_spec n small).2.2

/-- Only the byte of its symbol has a number. -/
theorem eq_mark_of_value? (valued : value? b = some n) : n < 64 ∧ b = mark n := by
  have table : ∀ k < 256, (value? (UInt8.ofNat k)).all
      (fun n => decide (n < 64 ∧ UInt8.ofNat k = mark n)) = true := by decide +kernel
  have entry := table b.toNat b.toNat_lt
  rw [UInt8.ofNat_toNat, valued, Option.all_some, decide_eq_true_eq] at entry
  exact entry

end Symbols

section Groups

/-- The bytes of what is written. -/
def wire (bytes : List UInt8) : List UInt8 := (encode bytes).map fun c => UInt8.ofNat c.toNat

theorem wire_three (a b c : UInt8) (rest : List UInt8) :
    wire (a :: b :: c :: rest) = mark (a.toNat / 4) :: mark (a.toNat % 4 * 16 + b.toNat / 16) ::
      mark (b.toNat % 16 * 4 + c.toNat / 64) :: mark (c.toNat % 64) :: wire rest := rfl

private theorem wire_two (a b : UInt8) :
    wire [a, b] = [mark (a.toNat / 4), mark (a.toNat % 4 * 16 + b.toNat / 16),
      mark (b.toNat % 16 * 4), pad] := rfl

private theorem wire_one (a : UInt8) :
    wire [a] = [mark (a.toNat / 4), mark (a.toNat % 4 * 16), pad, pad] := rfl

/-- The six-bit numbers of one to three bytes. -/
def sextets : List UInt8 → List Nat
  | [a] => [a.toNat / 4, a.toNat % 4 * 16]
  | [a, b] => [a.toNat / 4, a.toNat % 4 * 16 + b.toNat / 16, b.toNat % 16 * 4]
  | [a, b, c] =>
    [a.toNat / 4, a.toNat % 4 * 16 + b.toNat / 16, b.toNat % 16 * 4 + c.toNat / 64, c.toNat % 64]
  | _ => []

private theorem sextets_lt (bytes : List UInt8) : ∀ n ∈ sextets bytes, n < 64 := by
  have bound (b : UInt8) : b.toNat < 256 := b.toNat_lt
  fun_cases sextets bytes with
  | case1 a =>
    have := bound a
    simp only [List.mem_cons, List.not_mem_nil, or_false, forall_eq_or_imp, forall_eq]
    omega
  | case2 a b =>
    have := bound a
    have := bound b
    simp only [List.mem_cons, List.not_mem_nil, or_false, forall_eq_or_imp, forall_eq]
    omega
  | case3 a b c =>
    have := bound a
    have := bound b
    have := bound c
    simp only [List.mem_cons, List.not_mem_nil, or_false, forall_eq_or_imp, forall_eq]
    omega
  | case4 => simp

private theorem unusedBits_sextets (bytes : List UInt8) : unusedBits (sextets bytes) = 0 := by
  fun_cases sextets bytes with
  | case1 a => exact Nat.mul_mod_left _ 16
  | case2 a b => exact Nat.mul_mod_left _ 4
  | case3 a b c => rfl
  | case4 => rfl

/-- One to three bytes are written as one number more, filled up to four, and put together again. -/
theorem sextets_spec (nonempty : bytes ≠ []) (short : bytes.length ≤ 3) :
    (sextets bytes).length = bytes.length + 1 ∧
    wire bytes = (sextets bytes).map mark ++ List.replicate (3 - bytes.length) pad ∧
    unpack (sextets bytes) = bytes := by
  rcases bytes with _ | ⟨a, _ | ⟨b, _ | ⟨c, _ | ⟨d, bytes⟩⟩⟩⟩
  · exact absurd rfl nonempty
  · have isA : a.toNat / 4 * 4 + a.toNat % 4 * 16 / 16 = a.toNat := by omega
    refine ⟨rfl, rfl, ?_⟩
    rw [sextets, unpack, isA]
    simp
  · have boundB := b.toNat_lt
    have isA : a.toNat / 4 * 4 + (a.toNat % 4 * 16 + b.toNat / 16) / 16 = a.toNat := by omega
    have isB : (a.toNat % 4 * 16 + b.toNat / 16) % 16 * 16 + b.toNat % 16 * 4 / 4 = b.toNat := by
      omega
    refine ⟨rfl, rfl, ?_⟩
    rw [sextets, unpack, isA, isB]
    simp
  · have boundB := b.toNat_lt
    have boundC := c.toNat_lt
    have isA : a.toNat / 4 * 4 + (a.toNat % 4 * 16 + b.toNat / 16) / 16 = a.toNat := by omega
    have isB : (a.toNat % 4 * 16 + b.toNat / 16) % 16 * 16 + (b.toNat % 16 * 4 + c.toNat / 64) / 4 =
        b.toNat := by omega
    have isC : (b.toNat % 16 * 4 + c.toNat / 64) % 4 * 64 + c.toNat % 64 = c.toNat := by omega
    refine ⟨rfl, rfl, ?_⟩
    rw [sextets, unpack, isA, isB, isC]
    simp
  · simp only [List.length_cons] at short
    omega

theorem toNat_toUInt8 (small : n < 256) : n.toUInt8.toNat = n := UInt8.toNat_ofNat_of_lt small

private theorem wire_unpack_four (smallW : w < 64) (smallX : x < 64) (smallY : y < 64)
    (smallZ : z < 64)
    (rest : List UInt8) :
    wire (unpack [w, x, y, z] ++ rest) = mark w :: mark x :: mark y :: mark z :: wire rest := by
  have first := toNat_toUInt8 (n := w * 4 + x / 16) (by omega)
  have second := toNat_toUInt8 (n := x % 16 * 16 + y / 4) (by omega)
  have third := toNat_toUInt8 (n := y % 4 * 64 + z) (by omega)
  have isW : (w * 4 + x / 16) / 4 = w := by omega
  have isX : (w * 4 + x / 16) % 4 * 16 + (x % 16 * 16 + y / 4) / 16 = x := by omega
  have isY : (x % 16 * 16 + y / 4) % 16 * 4 + (y % 4 * 64 + z) / 64 = y := by omega
  have isZ : (y % 4 * 64 + z) % 64 = z := by omega
  rw [unpack, List.cons_append, List.cons_append, List.cons_append, List.nil_append, wire_three,
    first, second, third, isW, isX, isY, isZ]

private theorem wire_unpack_three (smallW : w < 64) (smallX : x < 64) (smallY : y < 64)
    (unused : y % 4 = 0) :
    wire (unpack [w, x, y]) = [mark w, mark x, mark y, pad] := by
  have first := toNat_toUInt8 (n := w * 4 + x / 16) (by omega)
  have second := toNat_toUInt8 (n := x % 16 * 16 + y / 4) (by omega)
  have isW : (w * 4 + x / 16) / 4 = w := by omega
  have isX : (w * 4 + x / 16) % 4 * 16 + (x % 16 * 16 + y / 4) / 16 = x := by omega
  have isY : (x % 16 * 16 + y / 4) % 16 * 4 = y := by omega
  rw [unpack, wire_two, first, second, isW, isX, isY]

private theorem wire_unpack_two (smallW : w < 64) (smallX : x < 64) (unused : x % 16 = 0) :
    wire (unpack [w, x]) = [mark w, mark x, pad, pad] := by
  have first := toNat_toUInt8 (n := w * 4 + x / 16) (by omega)
  have isW : (w * 4 + x / 16) / 4 = w := by omega
  have isX : (w * 4 + x / 16) % 4 * 16 = x := by omega
  rw [unpack, wire_one, first, isW, isX]

end Groups

section Reading

private theorem decodeSymbol_eq_ok (decoded : decodeSymbol offset b = .ok n) :
    n < 64 ∧ b = mark n := by
  unfold decodeSymbol at decoded
  split at decoded
  · rename_i valued
    cases decoded
    exact eq_mark_of_value? valued
  · cases decoded

private theorem decodeSymbol_mark (small : n < 64) : decodeSymbol offset (mark n) = .ok n := by
  rw [decodeSymbol, value?_mark small]

/-- The last group holds symbols and then padding bytes only. -/
theorem readLast_eq_ok {group result : LastGroup} (read : readLast offset group last = .ok result) :
    ∃ numbers pads, (∀ n ∈ numbers, n < 64) ∧ (group.pads ≠ 0 → numbers = []) ∧
      last = numbers.map mark ++ List.replicate pads pad ∧
      result = ⟨group.symbols ++ numbers.map fun n => (mark n, n), group.pads + pads⟩ := by
  fun_induction readLast offset group last with
  | case1 group =>
    cases read
    exact ⟨[], 0, by simp, by simp, rfl, by simp⟩
  | case2 => cases read
  | case3 group rest place padded ih =>
    -- Behind a padding byte no symbol follows, so the rest is padding.
    obtain ⟨numbers, pads, -, none, rfl, rfl⟩ := ih read
    obtain rfl := none (Nat.succ_ne_zero _)
    refine ⟨[], pads + 1, by simp, by simp, rfl, ?_⟩
    dsimp only
    rw [Nat.add_right_comm, Nat.add_assoc]
  | case4 => cases read
  | case5 => cases read
  | case6 group b rest other unpadded n valued ih =>
    obtain ⟨small, rfl⟩ := eq_mark_of_value? valued
    obtain ⟨numbers, pads, smaller, -, rfl, rfl⟩ := ih read
    refine ⟨n :: numbers, pads, List.forall_mem_cons.mpr ⟨small, smaller⟩,
      fun padded => absurd padded unpadded, rfl, ?_⟩
    simp only [List.map_cons, List.append_assoc, List.singleton_append]

private theorem readLast_pads (group : LastGroup) (long : 2 ≤ group.symbols.length + group.pads)
    (k : Nat) :
    readLast offset group (List.replicate k pad) = .ok { group with pads := group.pads + k } := by
  induction k generalizing group with
  | zero => rfl
  | succ k ih =>
    have next := ih { group with pads := group.pads + 1 } (Nat.le_succ_of_le long)
    rw [List.replicate_succ, readLast, if_pos rfl, if_neg (Nat.not_lt.mpr long), next]
    dsimp only
    rw [Nat.add_right_comm, Nat.add_assoc]

private theorem readLast_marks (numbers : List Nat) (small : ∀ n ∈ numbers, n < 64)
    (group : LastGroup)
    (unpadded : group.pads = 0) (rest : List UInt8) :
    readLast offset group (numbers.map mark ++ rest) =
      readLast offset { group with symbols := group.symbols ++ numbers.map fun n => (mark n, n) }
        rest := by
  induction numbers generalizing group with
  | nil => simp
  | cons n numbers ih =>
    obtain ⟨first, others⟩ := List.forall_mem_cons.mp small
    have next := ih others { group with symbols := group.symbols ++ [(mark n, n)] } unpadded
    rw [List.map_cons, List.cons_append, readLast, if_neg (mark_ne_pad first),
      if_neg (not_not.mpr unpadded), value?_mark first]
    dsimp only
    rw [next]
    simp only [List.map_cons, List.append_assoc, List.singleton_append]

/-- The last group with its symbols and padding. -/
theorem readLast_eq (numbers : List Nat) (small : ∀ n ∈ numbers, n < 64) (long : 2 ≤ numbers.length)
    (pads : Nat) :
    readLast offset {} (numbers.map mark ++ List.replicate pads pad) =
      .ok ⟨numbers.map fun n => (mark n, n), pads⟩ := by
  rw [readLast_marks numbers small {} rfl, readLast_pads _ (by simpa using long)]
  simp

/-- Once read, the last group is decoded if it is complete and leaves no bit unused. -/
theorem decodeLast_eq_ok_iff {numbers : List Nat} {pads : Nat}
    (read : readLast offset {} last = .ok ⟨numbers.map fun n => (mark n, n), pads⟩) :
    decodeLast offset last = .ok bytes ↔ 2 ≤ numbers.length ∧ (numbers.length + pads) % 4 = 0 ∧
      unusedBits numbers = 0 ∧ unpack numbers = bytes := by
  have numbered : (numbers.map fun n => (mark n, n)).map (fun s => s.2) = numbers := by
    simp [Function.comp_def]
  rw [decodeLast, read]
  simp only [bind, Except.bind, numbered]
  split_ifs with few incomplete spare
  · simp [Nat.not_le.mpr few]
  · simp [incomplete]
  · simp [spare]
  · simp [Nat.not_lt.mp few, not_not.mp incomplete, not_not.mp spare]

private theorem eq_wire_of_decodeLast (short : last.length ≤ 4)
    (decoded : decodeLast offset last = .ok bytes) :
    last = wire bytes := by
  obtain ⟨group, read, -⟩ := exists_of_bind_eq_ok decoded
  obtain ⟨numbers, pads, small, -, rfl, rfl⟩ := readLast_eq_ok read
  simp only [List.nil_append, Nat.zero_add] at read
  obtain ⟨long, complete, unused, rfl⟩ := (decodeLast_eq_ok_iff read).mp decoded
  rw [List.length_append, List.length_map, List.length_replicate] at short
  -- Two to four symbols, and padding up to four.
  rcases numbers with _ | ⟨w, _ | ⟨x, _ | ⟨y, _ | ⟨z, _ | ⟨v, numbers⟩⟩⟩⟩⟩ <;>
    simp only [List.length_cons, List.length_nil] at long complete short
  · omega
  · omega
  · obtain rfl : pads = 2 := by omega
    simp only [List.forall_mem_cons] at small
    exact (wire_unpack_two small.1 small.2.1 unused).symm
  · obtain rfl : pads = 1 := by omega
    simp only [List.forall_mem_cons] at small
    exact (wire_unpack_three small.1 small.2.1 small.2.2.1 unused).symm
  · obtain rfl : pads = 0 := by omega
    simp only [List.forall_mem_cons] at small
    exact (wire_unpack_four small.1 small.2.1 small.2.2.1 small.2.2.2.1 []).symm
  · omega

private theorem decodeLast_wire (offset : Nat) (nonempty : bytes ≠ []) (short : bytes.length ≤ 3) :
    decodeLast offset (wire bytes) = .ok bytes := by
  obtain ⟨count, written, unpacked⟩ := sextets_spec nonempty short
  have positive := List.length_pos_of_ne_nil nonempty
  have long : 2 ≤ (sextets bytes).length := by omega
  have complete : ((sextets bytes).length + (3 - bytes.length)) % 4 = 0 := by omega
  rw [written]
  exact (decodeLast_eq_ok_iff (readLast_eq (sextets bytes) (sextets_lt bytes) long _)).mpr
    ⟨long, complete, unusedBits_sextets bytes, unpacked⟩

end Reading

section Decoding

private theorem wire_ne_nil (nonempty : bytes ≠ []) : wire bytes ≠ [] := by
  rcases bytes with _ | ⟨a, _ | ⟨b, _ | ⟨c, bytes⟩⟩⟩
  · exact absurd rfl nonempty
  · exact List.cons_ne_nil _ _
  · exact List.cons_ne_nil _ _
  · exact List.cons_ne_nil _ _

private theorem eq_wire_of_decodeGroups (decoded : decodeGroups offset text = .ok bytes) :
    text = wire bytes := by
  fun_induction decodeGroups offset text generalizing bytes with
  | case1 =>
    cases decoded
    rfl
  | case2 offset a b c d e rest ih =>
    obtain ⟨w, isW, decoded⟩ := exists_of_bind_eq_ok decoded
    obtain ⟨x, isX, decoded⟩ := exists_of_bind_eq_ok decoded
    obtain ⟨y, isY, decoded⟩ := exists_of_bind_eq_ok decoded
    obtain ⟨z, isZ, decoded⟩ := exists_of_bind_eq_ok decoded
    obtain ⟨more, others, decoded⟩ := exists_of_bind_eq_ok decoded
    cases decoded
    obtain ⟨smallW, rfl⟩ := decodeSymbol_eq_ok isW
    obtain ⟨smallX, rfl⟩ := decodeSymbol_eq_ok isX
    obtain ⟨smallY, rfl⟩ := decodeSymbol_eq_ok isY
    obtain ⟨smallZ, rfl⟩ := decodeSymbol_eq_ok isZ
    rw [wire_unpack_four smallW smallX smallY smallZ, ← ih others]
  | case3 offset last nonempty unfinished =>
    refine eq_wire_of_decodeLast ?_ decoded
    rcases last with _ | ⟨a, _ | ⟨b, _ | ⟨c, _ | ⟨d, _ | ⟨e, rest⟩⟩⟩⟩⟩
    · simp
    · simp
    · simp
    · simp
    · simp
    · exact absurd rfl (unfinished a b c d e rest)

private theorem decodeGroups_wire (offset : Nat) (bytes : List UInt8) :
    decodeGroups offset (wire bytes) = .ok bytes := by
  fun_induction encode bytes generalizing offset with
  | case1 => rfl
  | case2 a => exact @decodeLast_wire [a] offset (List.cons_ne_nil _ _) (by simp)
  | case3 a b => exact @decodeLast_wire [a, b] offset (List.cons_ne_nil _ _) (by simp)
  | case4 a b c rest ih =>
    by_cases final : rest = []
    · rw [final]
      exact @decodeLast_wire [a, b, c] offset (List.cons_ne_nil _ _) (by simp)
    · obtain ⟨e, more, following⟩ := List.exists_cons_of_ne_nil (wire_ne_nil final)
      obtain ⟨-, -, unpacked⟩ := @sextets_spec [a, b, c] (List.cons_ne_nil _ _) (by simp)
      have small := sextets_lt [a, b, c]
      simp only [sextets, List.forall_mem_cons] at small
      rw [wire_three, following, decodeGroups, ← following, ih, decodeSymbol_mark small.1,
        decodeSymbol_mark small.2.1, decodeSymbol_mark small.2.2.1, decodeSymbol_mark small.2.2.2.1]
      change Except.ok (unpack (sextets [a, b, c]) ++ rest) = _
      rw [unpacked]
      rfl

private theorem length_wire_mod (bytes : List UInt8) : (wire bytes).length % 4 = 0 := by
  fun_induction encode bytes with
  | case1 => rfl
  | case2 a => simp [wire_one]
  | case3 a b => simp [wire_two]
  | case4 a b c rest ih =>
    rw [wire_three]
    simp only [List.length_cons]
    omega

/-- Reading accepts exactly what writing produces. -/
theorem decode_eq_ok_iff : decode text = .ok bytes ↔ text = wire bytes := by
  constructor
  · intro decoded
    unfold decode at decoded
    dsimp only at decoded
    split at decoded
    · cases decoded
    · exact eq_wire_of_decodeGroups decoded
  · rintro rfl
    have full : ((wire bytes).length % 4 == 1) = false := by simp [length_wire_mod]
    have noStray : (wire bytes).getLast?.filter (fun _ => false) = none := by
      cases (wire bytes).getLast?
      · rfl
      · rfl
    simp only [decode, full, Bool.false_and, noStray]
    exact decodeGroups_wire 0 bytes

end Decoding

section Texts

private theorem symbol_lt (n : Nat) : (symbol n).toNat < 128 := by
  by_cases small : n < 64
  · exact (mark_spec n small).1
  · have slash : symbol n = '/' := by
      rw [symbol, if_neg (by omega), if_neg (by omega), if_neg (by omega), if_neg (by omega)]
    rw [slash]
    decide

private theorem lt_of_mem_encode (bytes : List UInt8) : ∀ c ∈ encode bytes, c.toNat < 128 := by
  fun_induction encode bytes with
  | case1 => simp
  | case2 a => simp [symbol_lt]
  | case3 a b => simp [symbol_lt]
  | case4 a b c rest ih => simpa [symbol_lt] using ih

/-- The symbols are written as one byte each. -/
theorem utf8_encode (bytes : List UInt8) : Text.utf8 (String.ofList (encode bytes)) = wire bytes := by
  rw [Text.utf8, String.toList_ofList, wire, List.map_eq_flatMap]
  refine List.flatMap_congr fun c member => ?_
  have small := lt_of_mem_encode bytes c member
  rw [String.utf8EncodeChar, if_pos (by rw [Char.toNat_val]; omega), Char.toNat_val]

/-- Bytes have one text each: the one that they are written as. -/
theorem decode_utf8_eq_ok_iff {t : String} :
    decode (Text.utf8 t) = .ok bytes ↔ t = String.ofList (encode bytes) := by
  rw [decode_eq_ok_iff, ← utf8_encode, Text.utf8_injective.eq_iff]

end Texts

end StackVM.Base64

namespace StackVM.Codecs

variable {t : String} {bytes : List UInt8}

private theorem b64Decode_of_decode (decoded : Base64.decode (Text.utf8 t) = .ok bytes) :
    Codec.b64Decode.apply [.str t] = { value := .str (Text.fromUtf8Lossy bytes) } := by
  change b64Decode t = _
  rw [b64Decode, decoded]

private theorem b64Decode_of_refused (refused : ∀ bytes, Base64.decode (Text.utf8 t) ≠ .ok bytes) :
    ∃ warning, Codec.b64Decode.apply [.str t] = { value := .str "", warnings := [warning] } := by
  change ∃ warning, b64Decode t = _
  cases decoded : Base64.decode (Text.utf8 t) with
  | ok bytes => exact absurd decoded (refused bytes)
  | error e =>
    rw [b64Decode, decoded]
    exact ⟨_, rfl⟩

/-- Encoding and decoding in base 64 undo each other. Every text is read back from its code without a
warning. A text is accepted, which is without a warning, for the bytes that are written as it and for
no others, so bytes have one code. If they are the bytes of a text, encoding that text gives the code
again; otherwise it is decoded all the same, with a replacement character in place of every ill-formed
stretch. Any other text gives the empty text and one warning. -/
theorem base64_round_trips :
    (∀ s : String,
      Codec.b64Decode.apply [(Codec.b64Encode.apply [.str s]).value] = { value := .str s }) ∧
    (∀ t : String, (Codec.b64Decode.apply [.str t]).warnings = [] ↔
      ∃ bytes, Base64.decode (Text.utf8 t) = .ok bytes) ∧
    (∀ (t : String) (bytes : List UInt8),
      Base64.decode (Text.utf8 t) = .ok bytes ↔ t = String.ofList (Base64.encode bytes)) ∧
    (∀ (t : String) (bytes : List UInt8), Base64.decode (Text.utf8 t) = .ok bytes →
      bytes.toByteArray.IsValidUTF8 →
        Codec.b64Encode.apply [(Codec.b64Decode.apply [.str t]).value] = { value := .str t }) ∧
    (∀ (t : String) (bytes : List UInt8), Base64.decode (Text.utf8 t) = .ok bytes →
      ¬ bytes.toByteArray.IsValidUTF8 →
        Codec.b64Decode.apply [.str t] = { value := .str (Text.fromUtf8Lossy bytes) } ∧
        '�' ∈ (Text.fromUtf8Lossy bytes).toList) ∧
    (∀ t : String, (∀ bytes, t ≠ String.ofList (Base64.encode bytes)) →
      ∃ warning, Codec.b64Decode.apply [.str t] = { value := .str "", warnings := [warning] }) := by
  have refuses {t : String} (other : ∀ bytes, t ≠ String.ofList (Base64.encode bytes)) :=
    b64Decode_of_refused fun bytes decoded => other bytes (Base64.decode_utf8_eq_ok_iff.mp decoded)
  refine ⟨fun s => ?_, fun t => ⟨fun silent => ?_, ?_⟩, fun t bytes => Base64.decode_utf8_eq_ok_iff,
    fun t bytes decoded valid => ?_, fun t bytes decoded invalid => ?_, fun t => refuses⟩
  · have decoded := (@Base64.decode_utf8_eq_ok_iff (Text.utf8 s) _).mpr rfl
    exact (b64Decode_of_decode decoded).trans (by rw [Text.fromUtf8Lossy_utf8])
  · by_contra refused
    obtain ⟨warning, warned⟩ := b64Decode_of_refused (not_exists.mp refused)
    rw [warned] at silent
    cases silent
  · rintro ⟨bytes, decoded⟩
    rw [b64Decode_of_decode decoded]
  · obtain ⟨s, rfl⟩ := Text.isValidUTF8_iff.mp valid
    rw [b64Decode_of_decode decoded, Text.fromUtf8Lossy_utf8, Base64.decode_utf8_eq_ok_iff.mp decoded]
    rfl
  · exact ⟨b64Decode_of_decode decoded, Text.replacement_mem_fromUtf8Lossy invalid⟩

theorem base64_round_trips_accented :
    Base64.decode (Text.utf8 "w6k=") = .ok (Text.utf8 "é") ∧
    (Text.utf8 "é").toByteArray.IsValidUTF8 ∧
    Codec.b64Encode.apply [(Codec.b64Decode.apply [.str "w6k="]).value] = { value := .str "w6k=" } ∧
    (∀ bytes, "w6l=" ≠ String.ofList (Base64.encode bytes)) ∧
    ∃ warning, Codec.b64Decode.apply [.str "w6l="] = { value := .str "", warnings := [warning] } := by
  have decoded : Base64.decode (Text.utf8 "w6k=") = .ok (Text.utf8 "é") := rfl
  have valid : (Text.utf8 "é").toByteArray.IsValidUTF8 := Text.isValidUTF8_iff.mpr ⟨"é", rfl⟩
  have spare : Base64.decode (Text.utf8 "w6l=") = .error (.invalidLastSymbol 108 2) := rfl
  obtain ⟨-, -, canonical, again, -, refuses⟩ := base64_round_trips
  have other : ∀ bytes, "w6l=" ≠ String.ofList (Base64.encode bytes) := by
    intro bytes same
    have accepted := (canonical _ bytes).mpr same
    rw [spare] at accepted
    cases accepted
  exact ⟨decoded, valid, again _ _ decoded valid, other, refuses _ other⟩

/-- A byte that begins no character is accepted without a warning. -/
theorem illFormed_bytes_accepted :
    Base64.decode (Text.utf8 "/w==") = .ok [0xff] ∧
    ¬ ([0xff] : List UInt8).toByteArray.IsValidUTF8 ∧
    Codec.b64Decode.apply [.str "/w=="] = { value := .str "�" } ∧
    ¬ ∃ warning, Codec.b64Decode.apply [.str "/w=="] = { value := .str "", warnings := [warning] } := by
  have accepted : Codec.b64Decode.apply [.str "/w=="] = { value := .str "�" } := rfl
  refine ⟨rfl, fun valid => ?_, accepted, fun ⟨warning, warned⟩ => ?_⟩
  · obtain ⟨s, same⟩ := Text.isValidUTF8_iff.mp valid
    have read : s = Text.fromUtf8Lossy [0xff] := by rw [← same, Text.fromUtf8Lossy_utf8]
    rw [read] at same
    exact absurd same (by decide)
  · cases congrArg Reply.warnings (accepted.symm.trans warned)

end StackVM.Codecs
