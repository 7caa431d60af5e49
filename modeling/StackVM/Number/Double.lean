import StackVM.Number.Binary

/-! # Numbers that carry the sign of NaN

`Float` has one NaN, the positive one. A number of the machine is a `Float` or the negative NaN. The
two NaNs differ in their sign bit only: it is what the sign function answers by, and the total order
has one of them before and the other behind all other numbers.

An operation on a NaN gives that NaN, the first one if there are two. An operation that has no
result for numbers that are not NaN, such as the division of zero by zero, gives the negative NaN.
-/

namespace StackVM

/-- A double-precision number. -/
inductive Double where
  | float (x : Float)
  | negativeNaN
deriving Inhabited

namespace Double

instance : Coe Float Double := ⟨float⟩

instance (n : Nat) [OfNat Float n] : OfNat Double n := ⟨float (OfNat.ofNat n)⟩

instance : OfScientific Double := ⟨fun m s e => float (OfScientific.ofScientific m s e)⟩

/-- The number without the sign of a NaN. -/
def toFloat : Double → Float
  | float x => x
  | negativeNaN => Number.nan

def isNaN (x : Double) : Bool := Number.isNaN x.toFloat

def isNegative : Double → Bool
  | float x => Number.isNegative x
  | negativeNaN => true

/-- The sign bit, the exponent and the fraction. -/
def bits : Double → Nat
  | float x => x.toBits.toNat
  | negativeNaN => 0xfff8000000000000

/-- Position in the total order: the negative NaN, negative numbers from the greatest magnitude
down, `-0`, `0`, positive numbers and the positive NaN. -/
def rank (x : Double) : Int :=
  if x.bits < 0x8000000000000000 then x.bits
  else -1 - ((x.bits - 0x8000000000000000 : Nat) : Int)

/-- Comparison in the total order, defined for NaN and telling the zeros apart. -/
def totalCompare (x y : Double) : Ordering := compare x.rank y.rank

instance : Neg Double where
  neg
    | float x => if Number.isNaN x then negativeNaN else float (-x)
    | negativeNaN => float Number.nan

def abs : Double → Double
  | float x => float (Number.abs x)
  | negativeNaN => float Number.nan

/-- What an operation on the operands gives if `x` is its result up to the sign of a NaN. -/
def result (operands : List Double) (x : Float) : Double :=
  if Number.isNaN x then (operands.find? isNaN).getD negativeNaN else float x

def map (f : Float → Float) (x : Double) : Double := result [x] (f x.toFloat)

def map₂ (f : Float → Float → Float) (x y : Double) : Double := result [x, y] (f x.toFloat y.toFloat)

instance : Add Double := ⟨map₂ (· + ·)⟩

instance : Sub Double := ⟨map₂ (· - ·)⟩

instance : Mul Double := ⟨map₂ (· * ·)⟩

instance : Div Double := ⟨map₂ (· / ·)⟩

/-- The smaller number, ignoring a NaN; the first of two equal ones. -/
def minimum (x y : Double) : Double :=
  if x.isNaN then y else if y.toFloat < x.toFloat then y else x

/-- The greater number, ignoring a NaN; the first of two equal ones. -/
def maximum (x y : Double) : Double :=
  if x.isNaN then y else if x.toFloat < y.toFloat then y else x

end Double

end StackVM
