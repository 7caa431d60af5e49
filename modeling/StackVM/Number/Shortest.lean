import StackVM.Number.Binary

/-! # The fewest digits that read back

A finite number `m · 2 ^ q` is the only one in an interval of reals around it: those that round to
it. `shortest` walks the decimal grids of one, two, … digits and stops at the first grid with a
point inside that interval, taking the nearer of the value's two neighbours when both lie inside.
Two equally near neighbours are told apart by the writer's rule `Tie`. All tests are exact
comparisons of natural numbers.
-/

namespace StackVM.Number

/-- The number `digits · 10 ^ exponent`. -/
structure Decimal where
  digits : Nat
  exponent : Int
deriving DecidableEq, Repr

/-- Which of two equally near decimals a writer takes: the upper one, or the one whose last digit
is even. -/
inductive Tie where
  | up
  | even
deriving DecidableEq, Repr

/-- A positive rational together with the interval around it, over one denominator. -/
structure Interval where
  low : Nat
  value : Nat
  high : Nat
  denominator : Nat
  closed : Bool
deriving Repr

namespace Interval

/-- The interval of reals that round to a finite non-zero number. Below a power of two the
neighbour is half as far as above it, except among the subnormal numbers. The ends round to the
number itself exactly when its significand is even. -/
def ofParts (p : Parts) : Interval :=
  let narrow := p.significand == 0x10000000000000 && p.exponent != -1074
  let scale := fun n => if p.exponent < 0 then n else n <<< p.exponent.toNat
  { low := scale (4 * p.significand - if narrow then 1 else 2)
    value := scale (4 * p.significand)
    high := scale (4 * p.significand + 2)
    denominator := if p.exponent < 0 then 4 <<< (-p.exponent).toNat else 4
    closed := p.significand % 2 == 0 }

/-- Multiplies the interval by `10 ^ -e`. -/
def shift (i : Interval) (e : Int) : Interval :=
  if e < 0 then
    let f := Nat.pow 10 (-e).toNat
    { i with low := i.low * f, value := i.value * f, high := i.high * f }
  else { i with denominator := i.denominator * Nat.pow 10 e.toNat }

/-- The integer `n` lies in the interval. -/
def contains (i : Interval) (n : Nat) : Bool :=
  let x := n * i.denominator
  if i.closed then i.low ≤ x && x ≤ i.high else i.low < x && x < i.high

/-- Rounds the value to an integer by the rule for ties. -/
def nearest (i : Interval) (tie : Tie) : Nat :=
  let below := i.value / i.denominator
  let rest := i.value % i.denominator
  if i.denominator < 2 * rest then below + 1
  else if 2 * rest < i.denominator then below
  else match tie with
    | .up => below + 1
    | .even => if below % 2 == 0 then below else below + 1

/-- The integer of the interval nearest to its value among the value's two neighbours. -/
def pick (i : Interval) (tie : Tie) : Option Nat :=
  let below := i.value / i.denominator
  match i.contains below, i.contains (below + 1) with
  | true, true => some (i.nearest tie)
  | true, false => some below
  | false, true => some (below + 1)
  | false, false => none

end Interval

/-- Raises `e` while `10 ^ (e + 1)` does not exceed the value, at most `fuel` times. -/
def raiseExponent (i : Interval) : Nat → Int → Int
  | 0, e => e
  | fuel + 1, e =>
    let next := i.shift (e + 1)
    if next.denominator ≤ next.value then raiseExponent i fuel (e + 1) else e

/-- The exponent of the leading decimal digit. Its binary counterpart gives a lower bound that is
off by at most a few. -/
def leadingExponent (i : Interval) : Int :=
  let binary : Int := (i.value.log2 : Int) - (i.denominator.log2 : Int)
  raiseExponent i 4 ((binary - 1) * 30103 / 100000 - 1)

/-- Tries the grids `10 ^ e, 10 ^ (e - 1), …` in turn. -/
def searchGrid (tie : Tie) (i : Interval) : Nat → Int → Option Decimal
  | 0, _ => none
  | fuel + 1, e =>
    match (i.shift e).pick tie with
    | some digits => some ⟨digits, e⟩
    | none => searchGrid tie i fuel (e - 1)

/-- Drops trailing zero digits, at most `fuel` of them. -/
def Decimal.strip : Nat → Decimal → Decimal
  | 0, d => d
  | fuel + 1, d =>
    if d.digits % 10 == 0 then Decimal.strip fuel ⟨d.digits / 10, d.exponent + 1⟩ else d

/-- The shortest decimal that reads back as the given finite magnitude. Seventeen digits always
suffice; the exact value stands in for the case that never arises. -/
def shortest (tie : Tie) (p : Parts) : Decimal :=
  if p.significand == 0 then ⟨0, 0⟩
  else
    let i := Interval.ofParts p
    ((searchGrid tie i 17 (leadingExponent i)).getD ⟨p.significand, 0⟩).strip 17

end StackVM.Number
