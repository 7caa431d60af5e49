import StackVM.Builtin.Params
import StackVM.Calendar

/-! # Builtins on times and dates -/

namespace StackVM

inductive TimeFunction where
  | clockTime
  | time
  | date
  | timestamp
  | fromEpoch
  | toEpoch
deriving DecidableEq, Repr

namespace Times

/-- An integer filled up with zeros behind its sign. -/
def zeroPadded (width : Nat) (n : Int) : String :=
  let digits := Number.integerText n.natAbs
  let sign := if n < 0 then "-" else ""
  sign ++ String.ofList (List.replicate (width - sign.length - digits.length) '0') ++ digits

/-- Seconds since midnight as hours, minutes, seconds and milliseconds. -/
def clockTime (t : Double) : List Value :=
  let seconds := Number.toInt t.toFloat
  [.ofInt (seconds.tdiv 3600), .ofInt ((seconds.tdiv 60).tmod 60), .ofInt (seconds.tmod 60),
    .num ((t - t.map Number.floor) * 1000.0)]

/-- The digits of a fraction in millionths, without its leading zeros before the point. -/
def fractionText (fraction : Float) : String :=
  let digits := (Number.text (Number.round (fraction * 1e6) / 1e6)).toList
  String.ofList ((digits.dropWhile (· == '0')).dropWhile (· == '.'))

/-- A time of day; a fraction of a second is written if it is not negligible. -/
def timeText (hour minute : Int) (second : Float) : String :=
  let whole := zeroPadded 2 hour ++ ":" ++ zeroPadded 2 minute ++ ":" ++
    zeroPadded 2 (Number.toInt second)
  let fraction := Number.fract second
  if 1e-6 < fraction then whole ++ "." ++ fractionText fraction else whole

/-- The time of a number of seconds since midnight. -/
def secondsText (t : Float) : String :=
  let hour := Number.toInt (t / 3600.0)
  let rest := t - Number.ofInt hour * 3600.0
  let minute := Number.toInt (rest / 60.0)
  timeText hour minute (rest - Number.ofInt minute * 60.0)

def time (v : Value) : Reply :=
  match v with
  | .arr (hour :: minute :: second :: rest) =>
    let milli := (rest.head?.map fun m => m.toNumber / 1000.0).getD 0.0
    Value.str (timeText hour.toInt minute.toInt (second.toNumber + milli))
  | .arr _ =>
    .warn "Time array must have 4 elements: [hour, min, sec, milli]." (.str "00:00:00")
  | other => Value.str (secondsText other.toNumber)

def date (v : Value) : Reply :=
  match v with
  | .arr (day :: month :: year :: _) =>
    Value.str (zeroPadded 4 year.toInt ++ "-" ++ zeroPadded 2 month.toInt ++ "-" ++
      zeroPadded 2 day.toInt)
  | .arr _ => .warn "Date array must have 3 elements: [day, month, year]." (.str "0000-00-00")
  | _ => .warn "Date requires an array [day, month, year]." (.str "0000-00-00")

/-- The seconds since midnight of hours, minutes, seconds and milliseconds. -/
def timestamp : Value → Double
  | .arr parts =>
    let part := fun i => (parts[i]?.map Value.toDouble).getD 0.0
    part 0 * 3600.0 + part 1 * 60.0 + part 2 + part 3 / 1000.0
  | _ => 0.0

/-- Date and time of a number of seconds since 1970. -/
def fromEpoch (epoch : Int) : Value :=
  match Calendar.moment? epoch with
  | none => .null
  | some (d, t) =>
    .obj [("date", .arr [.ofNat d.day, .ofNat d.month, .ofInt d.year]),
      ("time", .arr [.ofNat t.hour, .ofNat t.minute, .ofNat t.second])]

/-- A part of a date or a time, or its default. -/
def part (parts : List Value) (i : Nat) (default : Float) : Float :=
  (parts[i]?.map Value.toNumber).getD default

/-- The seconds since 1970 of a date and a time; what is missing is taken from the start of 1970. -/
def toEpoch (v : Value) : Value :=
  let fields := v.toRecord
  let date := ((fields.get? "date").map Value.toList).getD []
  let time := ((fields.get? "time").map Value.toList).getD []
  let year := Number.clampToInt (-0x80000000) 0x7fffffff (part date 2 1970.0)
  let word := fun x => min (Number.toNat x) 0xffffffff
  let moment := Calendar.epoch? ⟨year, word (part date 1 1.0), word (part date 0 1.0)⟩
    ⟨word (part time 0 0.0), word (part time 1 0.0), word (part time 2 0.0)⟩
  (moment.map Value.ofInt).getD .null

end Times

def TimeFunction.apply (f : TimeFunction) (p : Params) : Reply :=
  match f with
  | .clockTime => Value.arr (Times.clockTime (p.double 0))
  | .time => Times.time (p.get 0)
  | .date => Times.date (p.get 0)
  | .timestamp => Value.num (Times.timestamp (p.get 0))
  | .fromEpoch => Times.fromEpoch (p.int 0)
  | .toEpoch => Times.toEpoch (p.get 0)

end StackVM
