import Mathlib.Algebra.Group.Nat.Defs
import Mathlib.Tactic.ByContra
import Mathlib.Tactic.SplitIfs
import StackVM.Text.Utf8

/-! # Texts read back from their bytes

`Spells` lists the byte sequences of single characters. The reader accepts exactly these, and each is
what its character is written as; so a text is read back from its bytes, and bytes that no text has
leave a replacement character.
-/

namespace StackVM.Text

variable {lead b : UInt8} {tail rest : List UInt8} {n : Nat}

section Characters

/-- The byte sequences of single characters, each with the code point it spells. -/
inductive Spells : UInt8 → List UInt8 → Nat → Prop where
  | one {lead : UInt8} (low : lead.toNat < 0x80) : Spells lead [] lead.toNat
  | two {lead b : UInt8} (least : 0xc2 ≤ lead.toNat) (most : lead.toNat ≤ 0xdf)
    (second : isContinuation b = true) : Spells lead [b] (lead.toNat % 32 * 64 + payload b)
  | three {lead b c : UInt8} (least : 0xe0 ≤ lead.toNat) (most : lead.toNat ≤ 0xef)
    (second : (secondRange lead).1 ≤ b ∧ b ≤ (secondRange lead).2) (third : isContinuation c = true) :
    Spells lead [b, c] (lead.toNat % 16 * 4096 + payload b * 64 + payload c)
  | four {lead b c d : UInt8} (least : 0xf0 ≤ lead.toNat) (most : lead.toNat ≤ 0xf4)
    (second : (secondRange lead).1 ≤ b ∧ b ≤ (secondRange lead).2) (third : isContinuation c = true)
    (fourth : isContinuation d = true) :
    Spells lead [b, c, d]
      (lead.toNat % 8 * 262144 + payload b * 4096 + payload c * 64 + payload d)

private theorem isContinuation_iff : isContinuation b = true ↔ 0x80 ≤ b.toNat ∧ b.toNat ≤ 0xbf := by
  simp [isContinuation, UInt8.le_iff_toNat_le]

private theorem secondRange_iff :
    (secondRange lead).1 ≤ b ∧ b ≤ (secondRange lead).2 ↔
      (if lead.toNat = 0xe0 then 0xa0 else if lead.toNat = 0xf0 then 0x90 else 0x80) ≤ b.toNat ∧
      b.toNat ≤ (if lead.toNat = 0xed then 0x9f else if lead.toNat = 0xf4 then 0x8f else 0xbf) := by
  simp only [secondRange, beq_iff_eq, ← UInt8.toNat_inj, UInt8.le_iff_toNat_le, UInt8.reduceToNat]
  split_ifs <;> simp <;> omega

private theorem decodeNext_of_spells (spells : Spells lead tail n) (rest : List UInt8) :
    decodeNext lead (tail ++ rest) = (some (Char.ofNat n), tail.length) := by
  cases spells with
  | one low => simp [decodeNext, UInt8.lt_iff_toNat_lt, low]
  | two least most second =>
    have high : ¬ lead.toNat < 0x80 := by omega
    simp [decodeNext, UInt8.lt_iff_toNat_lt, UInt8.le_iff_toNat_le, high, least, most, second]
  | three least most second third =>
    have high : ¬ lead.toNat < 0x80 := by omega
    have wide : ¬ lead.toNat ≤ 0xdf := by omega
    have most' : lead.toNat ≤ 0xf4 := by omega
    have short : lead.toNat < 0xf0 := by omega
    simp [decodeNext, UInt8.lt_iff_toNat_lt, UInt8.le_iff_toNat_le, high, wide, least, most', short,
      second.1, second.2, third]
  | four least most second third fourth =>
    have high : ¬ lead.toNat < 0x80 := by omega
    have wide : ¬ lead.toNat ≤ 0xdf := by omega
    have least' : 0xe0 ≤ lead.toNat := by omega
    have long : ¬ lead.toNat < 0xf0 := by omega
    simp [decodeNext, UInt8.lt_iff_toNat_lt, UInt8.le_iff_toNat_le, high, wide, least', most, long,
      second.1, second.2, third, fourth]

/-- What the reader takes for a character spells one. -/
theorem spells_of_decodeNext {c : Char} {taken : Nat}
    (decoded : decodeNext lead rest = (some c, taken)) :
    ∃ tail behind n, rest = tail ++ behind ∧ taken = tail.length ∧ Spells lead tail n ∧
      c = Char.ofNat n := by
  -- One goal for each branch of the reader; those that return no character contradict `decoded`.
  unfold decodeNext at decoded
  simp only [UInt8.lt_iff_toNat_lt, UInt8.le_iff_toNat_le, Bool.and_eq_true, decide_eq_true_eq,
    UInt8.reduceToNat] at decoded
  split_ifs at decoded with low double multiple short
  · obtain ⟨rfl, rfl⟩ : Char.ofNat lead.toNat = c ∧ 0 = taken := by simpa using decoded
    exact ⟨[], rest, _, rfl, rfl, .one low, rfl⟩
  · rcases rest with _ | ⟨b, behind⟩
    · simp at decoded
    · dsimp only at decoded
      split_ifs at decoded with second
      · obtain ⟨rfl, rfl⟩ : Char.ofNat (lead.toNat % 32 * 64 + payload b) = c ∧ 1 = taken := by
          simpa using decoded
        exact ⟨[b], behind, _, rfl, rfl, .two double.1 double.2 second, rfl⟩
      · simp at decoded
  · rcases rest with _ | ⟨b, _ | ⟨d, behind⟩⟩
    · simp at decoded
    · dsimp only at decoded
      split_ifs at decoded <;> simp at decoded
    · dsimp only at decoded
      split_ifs at decoded with second third
      · obtain ⟨rfl, rfl⟩ : Char.ofNat (lead.toNat % 16 * 4096 + payload b * 64 + payload d) = c ∧
            2 = taken := by
          simpa using decoded
        exact ⟨[b, d], behind, _, rfl, rfl, .three multiple.1 (by omega) second third, rfl⟩
      · simp at decoded
      · simp at decoded
  · rcases rest with _ | ⟨b, _ | ⟨d, _ | ⟨e, behind⟩⟩⟩
    · simp at decoded
    · dsimp only at decoded
      split_ifs at decoded <;> simp at decoded
    · dsimp only at decoded
      split_ifs at decoded <;> simp at decoded
    · dsimp only at decoded
      split_ifs at decoded with second third fourth
      · obtain ⟨rfl, rfl⟩ : Char.ofNat (lead.toNat % 8 * 262144 + payload b * 4096 + payload d * 64 +
            payload e) = c ∧ 3 = taken := by
          simpa using decoded
        exact ⟨[b, d, e], behind, _, rfl, rfl, .four (by omega) multiple.2 second third fourth, rfl⟩
      · simp at decoded
      · simp at decoded
      · simp at decoded
  · simp at decoded

private theorem toNat_ofNat (valid : n.isValidChar) : (Char.ofNat n).toNat = n := by
  rw [Char.ofNat, dif_pos valid]
  rfl

private theorem utf8EncodeChar_of_spells (spells : Spells lead tail n) :
    String.utf8EncodeChar (Char.ofNat n) = lead :: tail := by
  have byte {b : UInt8} {n : Nat} (same : n = b.toNat) : UInt8.ofNat n = b := by
    rw [same, UInt8.ofNat_toNat]
  cases spells with
  | one low =>
    have valid : lead.toNat.isValidChar := .inl (by omega)
    simp only [String.utf8EncodeChar, Char.toNat_val, toNat_ofNat valid]
    rw [if_pos (by omega), byte rfl]
  | @two b least most second =>
    rw [isContinuation_iff] at second
    simp only [payload]
    have valid : (lead.toNat % 32 * 64 + b.toNat % 64).isValidChar := .inl (by omega)
    simp only [String.utf8EncodeChar, Char.toNat_val, toNat_ofNat valid]
    rw [if_neg (by omega), if_pos (by omega), byte (b := lead) (by omega), byte (b := b) (by omega)]
  | @three b c least most second third =>
    rw [isContinuation_iff] at third
    rw [secondRange_iff] at second
    simp only [payload]
    have valid : (lead.toNat % 16 * 4096 + b.toNat % 64 * 64 + c.toNat % 64).isValidChar := by
      unfold Nat.isValidChar
      split_ifs at second <;> omega
    -- The narrower second range behind the lead 0xe0 leaves out what two bytes can spell.
    have wide : ¬ lead.toNat % 16 * 4096 + b.toNat % 64 * 64 + c.toNat % 64 ≤ 2047 := by
      split_ifs at second <;> omega
    have continued : 0x80 ≤ b.toNat ∧ b.toNat ≤ 0xbf := by
      split_ifs at second <;> omega
    simp only [String.utf8EncodeChar, Char.toNat_val, toNat_ofNat valid]
    rw [if_neg (by omega), if_neg wide, if_pos (by omega), byte (b := lead) (by omega),
      byte (b := b) (by omega), byte (b := c) (by omega)]
  | @four b c d least most second third fourth =>
    rw [isContinuation_iff] at third fourth
    rw [secondRange_iff] at second
    simp only [payload]
    have continued : 0x80 ≤ b.toNat ∧ b.toNat ≤ 0xbf := by
      split_ifs at second <;> omega
    have wide : 65535 < lead.toNat % 8 * 262144 + b.toNat % 64 * 4096 + c.toNat % 64 * 64 +
        d.toNat % 64 := by
      split_ifs at second <;> omega
    have valid : (lead.toNat % 8 * 262144 + b.toNat % 64 * 4096 + c.toNat % 64 * 64 +
        d.toNat % 64).isValidChar := by
      refine .inr ⟨by omega, ?_⟩
      split_ifs at second <;> omega
    simp only [String.utf8EncodeChar, Char.toNat_val, toNat_ofNat valid]
    rw [if_neg (by omega), if_neg (by omega), if_neg (by omega), byte (b := lead) (by omega),
      byte (b := b) (by omega), byte (b := c) (by omega), byte (b := d) (by omega)]

private theorem exists_byte (small : n < 256) : ∃ b : UInt8, b.toNat = n :=
  ⟨UInt8.ofNat n, UInt8.toNat_ofNat_of_lt small⟩

private theorem exists_spells (c : Char) : ∃ lead tail, Spells lead tail c.toNat := by
  have valid : c.toNat < 0xd800 ∨ 0xdfff < c.toNat ∧ c.toNat < 0x110000 := c.valid
  generalize c.toNat = v at valid
  rcases Nat.lt_or_ge v 0x80 with one | above
  · obtain ⟨lead, rfl⟩ := exists_byte (n := v) (by omega)
    exact ⟨lead, [], .one one⟩
  obtain ⟨last, isLast⟩ := exists_byte (n := v % 64 + 0x80) (by omega)
  have lastContinues : isContinuation last = true := isContinuation_iff.mpr (by omega)
  rcases Nat.lt_or_ge v 0x800 with two | above
  · obtain ⟨lead, isLead⟩ := exists_byte (n := v / 64 + 0xc0) (by omega)
    have spelled : lead.toNat % 32 * 64 + payload last = v := by
      rw [payload]
      omega
    exact ⟨lead, [last], spelled ▸ .two (by omega) (by omega) lastContinues⟩
  obtain ⟨third, isThird⟩ := exists_byte (n := v / 64 % 64 + 0x80) (by omega)
  have thirdContinues : isContinuation third = true := isContinuation_iff.mpr (by omega)
  rcases Nat.lt_or_ge v 0x10000 with three | above
  · obtain ⟨lead, isLead⟩ := exists_byte (n := v / 4096 + 0xe0) (by omega)
    have spelled : lead.toNat % 16 * 4096 + payload third * 64 + payload last = v := by
      rw [payload, payload]
      omega
    have allowed : (secondRange lead).1 ≤ third ∧ third ≤ (secondRange lead).2 := by
      rw [secondRange_iff]
      split_ifs <;> omega
    exact ⟨lead, [third, last], spelled ▸ .three (by omega) (by omega) allowed lastContinues⟩
  · obtain ⟨second, isSecond⟩ := exists_byte (n := v / 4096 % 64 + 0x80) (by omega)
    obtain ⟨lead, isLead⟩ := exists_byte (n := v / 262144 + 0xf0) (by omega)
    have spelled : lead.toNat % 8 * 262144 + payload second * 4096 + payload third * 64 +
        payload last = v := by
      rw [payload, payload, payload]
      omega
    have allowed : (secondRange lead).1 ≤ second ∧ second ≤ (secondRange lead).2 := by
      rw [secondRange_iff]
      split_ifs <;> omega
    exact ⟨lead, [second, third, last],
      spelled ▸ .four (by omega) (by omega) allowed thirdContinues lastContinues⟩

end Characters

section Texts

variable {bytes : List UInt8}

private theorem decodeFrom_eq_drop (skip : Nat) (bytes : List UInt8) :
    decodeFrom skip bytes = decodeFrom 0 (bytes.drop skip) := by
  induction bytes generalizing skip with
  | nil => rw [List.drop_nil, decodeFrom, decodeFrom]
  | cons b bytes ih =>
    cases skip with
    | zero => rfl
    | succ skip => exact ih skip

private theorem decodeFrom_cons (b : UInt8) (rest : List UInt8) :
    decodeFrom 0 (b :: rest) = (decodeNext b rest).1 :: decodeFrom (decodeNext b rest).2 rest := rfl

private theorem decodeFrom_utf8EncodeChar (c : Char) (rest : List UInt8) :
    decodeFrom 0 (String.utf8EncodeChar c ++ rest) = some c :: decodeFrom 0 rest := by
  obtain ⟨lead, tail, spells⟩ := exists_spells c
  have written := utf8EncodeChar_of_spells spells
  rw [Char.ofNat_toNat] at written
  rw [written, List.cons_append, decodeFrom_cons, decodeNext_of_spells spells, Char.ofNat_toNat,
    decodeFrom_eq_drop, List.drop_left]

private theorem decodeFrom_utf8 (cs : List Char) :
    decodeFrom 0 (cs.flatMap String.utf8EncodeChar) = cs.map some := by
  induction cs with
  | nil => rfl
  | cons c cs ih => rw [List.flatMap_cons, decodeFrom_utf8EncodeChar, ih, List.map_cons]

/-- Bytes that are read as characters only are what these characters are written as. -/
theorem eq_utf8_of_decodeFrom {cs : List Char} (decoded : decodeFrom 0 bytes = cs.map some) :
    bytes = cs.flatMap String.utf8EncodeChar := by
  induction cs generalizing bytes with
  | nil =>
    cases bytes with
    | nil => rfl
    | cons b bytes => cases decoded
  | cons c cs ih =>
    cases bytes with
    | nil => cases decoded
    | cons b bytes =>
      rw [decodeFrom_cons] at decoded
      obtain ⟨first, others⟩ := List.cons.inj decoded
      obtain ⟨tail, behind, n, rfl, -, spells, rfl⟩ := spells_of_decodeNext (Prod.ext first rfl)
      rw [decodeNext_of_spells spells, decodeFrom_eq_drop, List.drop_left] at others
      rw [List.flatMap_cons, utf8EncodeChar_of_spells spells, ← ih others, List.cons_append]

theorem fromUtf8Lossy_utf8 (s : String) : fromUtf8Lossy (utf8 s) = s := by
  rw [fromUtf8Lossy, utf8, decodeFrom_utf8, List.map_map]
  simp [Function.comp_def]

theorem utf8_injective : Function.Injective utf8 :=
  Function.LeftInverse.injective fromUtf8Lossy_utf8

/-- The library's validity of bytes: some text is written as them. -/
theorem isValidUTF8_iff : bytes.toByteArray.IsValidUTF8 ↔ ∃ s, utf8 s = bytes := by
  constructor
  · rintro ⟨cs, same⟩
    refine ⟨String.ofList cs, ?_⟩
    have data := congrArg (fun array => array.data.toList) same
    rw [List.utf8Encode, List.toList_data_toByteArray, List.toList_data_toByteArray] at data
    rw [utf8, String.toList_ofList, data]
  · rintro ⟨s, rfl⟩
    exact ⟨s.toList, rfl⟩

/-- Bytes that no text has are read with a replacement character. -/
theorem replacement_mem_fromUtf8Lossy (invalid : ¬ bytes.toByteArray.IsValidUTF8) :
    '�' ∈ (fromUtf8Lossy bytes).toList := by
  have illFormed : none ∈ decodeFrom 0 bytes := by
    by_contra wellFormed
    have read : decodeFrom 0 bytes = (fromUtf8Lossy bytes).toList.map some := by
      rw [fromUtf8Lossy, String.toList_ofList, List.map_map]
      refine (List.map_id _).symm.trans (List.map_congr_left fun c member => ?_)
      obtain ⟨c, rfl⟩ := Option.ne_none_iff_exists'.mp (ne_of_mem_of_not_mem member wellFormed)
      rfl
    exact invalid (isValidUTF8_iff.mpr ⟨_, (eq_utf8_of_decodeFrom read).symm⟩)
  rw [fromUtf8Lossy, String.toList_ofList]
  exact List.mem_map.mpr ⟨none, illFormed, rfl⟩

end Texts

end StackVM.Text
