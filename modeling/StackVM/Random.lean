import StackVM.Number.Binary

/-! # The random number generator

A generator with 64 bits of state. Draws below a bound reject some numbers and try again. The
increment is odd, so the state comes to every word, and the word drawn where all bits of the state
are set is never rejected: every draw ends. Draws of fractions are tried a bounded number of times.
-/

namespace StackVM

/-- The state of the generator. -/
structure Random where
  state : UInt64
deriving DecidableEq, Repr, Inhabited

namespace Random

def ofSeed (seed : UInt64) : Random := ⟨seed⟩

def increment : UInt64 := 0x2d358dccaa6c78a5

/-- The mask that is multiplied in. -/
def mask : UInt64 := 0x8bb84b93962eacc9

def next (r : Random) : UInt64 × Random :=
  let state := r.state + increment
  let product := state.toNat * (state ^^^ mask).toNat
  ((product % 0x10000000000000000).toUInt64 ^^^ (product / 0x10000000000000000).toUInt64, ⟨state⟩)

/-- The high half of the product of two words. -/
def highProduct (x n : UInt64) : UInt64 := (x.toNat * n.toNat / 0x10000000000000000).toUInt64

/-- The word with all bits set. -/
def ones : UInt64 := 0xffffffffffffffff

def incrementInverse : UInt64 := 0x32e25c49d2beaf2d

/-- How many numbers are drawn before the state has all bits set, the last one left out. -/
def drawsToOnes (r : Random) : Nat := ((ones - increment - r.state) * incrementInverse).toNat

theorem increment_mul_inverse : increment * incrementInverse = 1 := by decide

/-- Where all bits of the state are set, so are all bits of the drawn number. -/
theorem next_to_ones : next ⟨ones - increment⟩ = (ones, ⟨ones⟩) := by decide

/-- The last number is never rejected. -/
theorem ones_mul_not_lt (n : UInt64) : ¬ ones * n < (0 - n) % n := by
  have product : ones * n = 0 - n := by
    have : ones = 0 - 1 := by decide
    grind
  rw [product, UInt64.not_lt, UInt64.le_iff_toNat_le, UInt64.toNat_mod]
  exact Nat.mod_le _ _

/-- A rejected draw brings the state with all bits set nearer. -/
theorem drawsToOnes_lt {r : Random} {n : UInt64} (rejected : r.next.1 * n < (0 - n) % n) :
    r.next.2.drawsToOnes < r.drawsToOnes := by
  have inverse := increment_mul_inverse
  have nearer : (ones - increment - (r.state + increment)) * incrementInverse =
      (ones - increment - r.state) * incrementInverse - 1 := by grind
  have positive : (ones - increment - r.state) * incrementInverse ≠ 0 := by
    intro zero
    have last : r = ⟨ones - increment⟩ := congrArg Random.mk (show r.state = _ by grind)
    rw [last, next_to_ones] at rejected
    exact ones_mul_not_lt n rejected
  have least : 0 < ((ones - increment - r.state) * incrementInverse).toNat :=
    UInt64.lt_iff_toNat_lt.mp (UInt64.pos_iff_ne_zero.mpr positive)
  change ((ones - increment - (r.state + increment)) * incrementInverse).toNat < _
  have one : 1 ≤ (ones - increment - r.state) * incrementInverse := UInt64.le_iff_toNat_le.mpr least
  rw [nearer, UInt64.toNat_sub_of_le _ _ one]
  exact Nat.sub_lt least Nat.one_pos

/-- Draws a number below a positive bound: the high half of its product with a drawn word. The
product is rejected where its low half falls into the biased part. -/
def below (r : Random) (n : UInt64) : UInt64 × Random :=
  let drawn := r.next
  if drawn.1 * n < n ∧ drawn.1 * n < (0 - n) % n then drawn.2.below n
  else (highProduct drawn.1 n, drawn.2)
termination_by r.drawsToOnes
decreasing_by exact drawsToOnes_lt (And.right (by assumption))

/-- Draws an integer from a closed range. All integers together are one more than a word counts. -/
def between (r : Random) (lo hi : Int64) : Int64 × Random :=
  if lo = Int64.minValue ∧ hi = Int64.maxValue then
    let drawn := r.next
    (drawn.1.toInt64, drawn.2)
  else
    let drawn := r.below (hi - lo + 1).toUInt64
    ((lo.toUInt64 + drawn.1).toInt64, drawn.2)

/-- How often a fraction is tried. -/
def attempts : Nat := 1000

/-- Draws until the fraction is below one. -/
def fractionWithin : Nat → Random → Float × Random
  | 0, r => (0.0, r)
  | fuel + 1, r =>
    let (x, r) := r.next
    let fraction := (x >>> 1).toFloat * Number.pow2 (-63)
    if fraction < 1 then (fraction, r) else fractionWithin fuel r

def fraction (r : Random) : Float × Random := fractionWithin attempts r

def bytes : Nat → Random → List UInt8 × Random
  | 0, r => ([], r)
  | count + 1, r =>
    let (x, r) := r.next
    let (more, r) := bytes count r
    (x.toUInt8 :: more, r)

/-- Draws `count` items without putting them back. -/
def take {α : Type} : Nat → List α → Random → List α × Random
  | 0, _, r => ([], r)
  | count + 1, pool, r =>
    let drawn := r.below pool.length.toUInt64
    match pool[drawn.1.toNat]? with
    | none => ([], drawn.2)
    | some item =>
      let (more, r) := take count (pool.eraseIdx drawn.1.toNat) drawn.2
      (item :: more, r)

end Random

end StackVM
