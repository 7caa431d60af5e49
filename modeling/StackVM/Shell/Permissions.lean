import StackVM.Host.Files
import StackVM.Shell.Numeral

/-! # Permissions

Permissions are written as octal numbers or by letters for users and for what they may do.
-/

namespace StackVM.Shell.Permissions

/-- Permissions from symbols such as `u=rwx`, as a change of some permissions. `fuel` bounds the
number of clauses. -/
def symbolicMode (directory : Bool) (mask : Nat) : Nat → List (List Char) → Nat → Option Nat
  | 0, _, mode => some mode
  | _, [], mode => some mode
  | fuel + 1, clause :: rest, mode => do
    let who := clause.takeWhile fun c => ['u', 'g', 'o', 'a'].contains c
    let mode ← if clause.length == who.length then none
      else actions fuel who (clause.drop who.length) mode
    symbolicMode directory mask fuel rest mode
where
  /-- The bits that are meant by letters for users. -/
  whoMask (who : List Char) : Nat :=
    if who.isEmpty || who.contains 'a' then 0o777
    else (if who.contains 'u' then 0o700 else 0) ||| (if who.contains 'g' then 0o070 else 0) |||
      (if who.contains 'o' then 0o007 else 0)
  /-- The bits that are meant by letters for permissions. -/
  bitsOf (mode : Nat) (letters : List Char) : Nat :=
    letters.foldl (fun bits c => bits ||| (match c with
      | 'r' => 0o444
      | 'w' => 0o222
      | 'x' => 0o111
      | 'X' => if directory || mode &&& 0o111 != 0 then 0o111 else 0
      | 'u' => (mode >>> 6 &&& 7) * 0o111
      | 'g' => (mode >>> 3 &&& 7) * 0o111
      | 'o' => (mode &&& 7) * 0o111
      | _ => 0)) 0
  /-- Sets, adds or removes permissions. -/
  actions : Nat → List Char → List Char → Nat → Option Nat
    | _, _, [], mode => some mode
    | 0, _, _, _ => none
    | fuel + 1, who, operator :: rest, mode =>
      let letters := rest.takeWhile fun c => !(['+', '-', '='].contains c)
      if !(['+', '-', '='].contains operator) ||
          letters.any fun c => !(['r', 'w', 'x', 'X', 's', 't', 'u', 'g', 'o'].contains c) then none
      else
        let limit := if who.isEmpty then 0o777 - mask else 0o777
        let bits := bitsOf mode letters &&& whoMask who &&& limit
        let special := (if letters.contains 's' then
            (if who.isEmpty || who.contains 'u' || who.contains 'a' then 0o4000 else 0) |||
              (if who.isEmpty || who.contains 'g' || who.contains 'a' then 0o2000 else 0) else 0) |||
          (if letters.contains 't' then 0o1000 else 0)
        let mode := match operator with
          | '+' => mode ||| bits ||| special
          | '-' => mode - (mode &&& (bits ||| special))
          | _ => (mode - (mode &&& whoMask who)) ||| bits ||| special
        actions fuel who (rest.drop letters.length) mode

/-- Permissions as they are written for `chmod`. -/
def ofText? (text : String) (directory : Bool) (mask mode : Nat) : Option Nat :=
  if !text.isEmpty && text.toList.all fun c => '0' ≤ c && c ≤ '7' then
    some ((readNatural 8 0 text.toList).1 % 0o10000)
  else symbolicMode directory mask (text.length + 1) (text.toList.splitOn ',') mode

/-- The letters of three permissions. -/
def letters (bits : Nat) : String :=
  (if bits.testBit 2 then "r" else "") ++ (if bits.testBit 1 then "w" else "") ++
    (if bits.testBit 0 then "x" else "")

def octal (width n : Nat) : String :=
  let digits := Nat.toDigits 8 n
  String.ofList (List.replicate (width - digits.length) '0' ++ digits)

/-- The letter for the kind of an entry. -/
def kindLetter : Entry → Char
  | .file _ => '-'
  | .directory _ _ => 'd'
  | .link _ => 'l'
  | .pipe _ => 'p'
  | .device _ => 'c'

/-- Permissions as nine letters. -/
def text (mode : Nat) : String :=
  String.ofList ((List.range 9).map fun i =>
    let bit := 8 - i
    let on := mode.testBit bit
    let special := mode.testBit (9 + bit / 3)
    match bit % 3 with
    | 2 => if on then 'r' else '-'
    | 1 => if on then 'w' else '-'
    | _ =>
      if special then
        if bit == 0 then if on then 't' else 'T' else if on then 's' else 'S'
      else if on then 'x' else '-')

end StackVM.Shell.Permissions
