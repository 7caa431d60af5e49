import StackVM.Builtin.Params

/-! # Builtins on numbers -/

namespace StackVM

inductive NumberFunction where
  | dist
  | sin
  | cos
  | tan
  | asin
  | acos
  | atan
  | atan2
  | sqrt
  | sum
  | mult
  | pow
  | minimum
  | maximum
  | floor
  | ceil
  | round
  | abs
  | lerp
  | smoothstep
  | sinh
  | cosh
  | tanh
  | sign
  | fmod
  | modf
  | log
  | normalize
deriving DecidableEq, Repr

namespace NumberFunction

/-- The numbers of the parameters, arrays replaced by their items. -/
def numbers (p : Params) : List Double :=
  p.flatMap fun
    | .arr items => items.map (·.toDouble)
    | v => [v.toDouble]

/-- The best of several numbers; null if there are none. -/
def best (pick : Double → Double → Double) : List Double → Value
  | [] => .null
  | x :: rest => .num (rest.foldl pick x)

/-- The sum of squares. The empty sum is negative zero. -/
def sumOfSquares (xs : List Double) : Double := xs.foldl (fun total x => total + x * x) (-0.0)

/-- The distance of two points in their common dimensions. -/
def distance (a b : List Value) : Double :=
  (sumOfSquares (List.zipWith (fun x y => x.toDouble - y.toDouble) a b)).map Float.sqrt

/-- A point between two numbers. -/
def mix (ratio start stop : Double) : Double := start + ratio * (stop - start)

def isArray : Value → Bool
  | .arr _ => true
  | _ => false

/-- Mixes two numbers, or two lists item by item if one of them is an array. -/
def interpolate (ratio : Double) (a b : Value) : Value :=
  if isArray a || isArray b then
    .arr (List.zipWith (fun x y => .num (mix ratio x.toDouble y.toDouble)) a.toList b.toList)
  else .num (mix ratio a.toDouble b.toDouble)

/-- A smooth step from one number to another. -/
def smooth (x lo hi : Double) : Double :=
  let range := hi - lo
  let t := ((x.maximum lo).minimum hi - lo) / range
  t * t * (3.0 - 2.0 * t) * range + lo

/-- The natural logarithm, or the logarithm to a base. -/
def logarithm (p : Params) : Double :=
  if (p.get 1).isNull then (p.double 0).map Float.log
  else (p.double 0).map Float.log / (p.double 1).map Float.log

/-- The vector of length one in the same direction. -/
def unitVector (items : List Value) : List Value :=
  let xs := items.map (·.toDouble)
  let length := (sumOfSquares xs).map Float.sqrt
  xs.map fun x => .num (x / length)

def apply (f : NumberFunction) (p : Params) : Value :=
  let x := p.double 0
  match f with
  | .dist => .num (distance (p.list 0) (p.list 1))
  | .sin => .num (x.map Float.sin)
  | .cos => .num (x.map Float.cos)
  | .tan => .num (x.map Float.tan)
  | .asin => .num (x.map Float.asin)
  | .acos => .num (x.map Float.acos)
  | .atan => .num (x.map Float.atan)
  | .atan2 => .num (x.map₂ Float.atan2 (p.double 1))
  | .sqrt => .num (x.map Float.sqrt)
  | .sum => .num ((numbers p).foldl (· + ·) 0.0)
  | .mult => .num ((numbers p).foldl (· * ·) 1.0)
  | .pow => .num (x.map₂ Float.pow (p.double 1))
  | .minimum => best Double.minimum (numbers p)
  | .maximum => best Double.maximum (numbers p)
  | .floor => .num (x.map Number.floor)
  | .ceil => .num (x.map Number.ceil)
  | .round => .num (x.map Number.round)
  | .abs => .num x.abs
  | .lerp => interpolate x (p.get 1) (p.get 2)
  | .smoothstep => .num (smooth x (p.double 1) (p.double 2))
  | .sinh => .num (x.map Float.sinh)
  | .cosh => .num (x.map Float.cosh)
  | .tanh => .num (x.map Float.tanh)
  | .sign => .num (if x.isNegative then -1.0 else 1.0)
  | .fmod => .num (x.map₂ Number.rem (p.double 1))
  | .modf => .arr [.num (x.map Number.trunc), .num (x.map Number.fract)]
  | .log => .num (logarithm p)
  | .normalize => .arr (unitVector (p.list 0))

end NumberFunction

end StackVM
