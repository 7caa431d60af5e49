import StackVM.Encoding.Base64
import StackVM.Encoding.Sha256
import StackVM.Shell.Utility.Lines
import StackVM.Shell.Utility.Paths

/-! # Utilities on bytes -/

namespace StackVM.Shell.Dump

open Paths (quoted withHint)

/-- A text cut into lines of a width. -/
def wrapped (width : Nat) (text : String) : String :=
  if text.isEmpty then ""
  else if width == 0 then text
  else String.ofList (Lines.foldLine width false text.length text.toList) ++ "\n"

def base64 (c : Call) : Report :=
  let shape : Arguments.Shape :=
    { plain := "di", valued := "w"
      long := [("decode", 'd'), ("wrap", 'w'), ("ignore-garbage", 'i')] }
  c.withArguments shape 1 fun a =>
    let (text, r) := c.gather [a.operands.headD "-"]
    if r.status != 0 then r
    else if a.has 'd' then
      let bytes := (toBytes text).filter (· != 10)
      match Base64.decode bytes with
      | .ok bytes => r.print (ofBytes bytes)
      | .error _ =>
        let whole := bytes.take (bytes.length / 4 * 4)
        (r.print (ofBytes ((Base64.decode whole).toOption.getD []))).warn c.label "invalid input" 1
    else
      let width := ((a.value? 'w').bind fun t => Lines.count? t.toList).getD 76
      r.print (wrapped width (String.ofList (Base64.encode (toBytes text))))

def rotate (x n : UInt32) : UInt32 := (x <<< n) ||| (x >>> (32 - n))

def littleEndian (count n : Nat) : List UInt8 :=
  (List.range count).map fun i => (n >>> (8 * i)).toUInt8

def littleWords : List UInt8 → List UInt32
  | a :: b :: c :: d :: rest =>
    (a.toUInt32 ||| (b.toUInt32 <<< 8) ||| (c.toUInt32 <<< 16) ||| (d.toUInt32 <<< 24)) ::
      littleWords rest
  | _ => []

/-- A message with a one bit, zeros and its length in bits. -/
def padded (size : List UInt8) (message : List UInt8) : List UInt8 :=
  message ++ 0x80 :: List.replicate ((119 - message.length % 64) % 64) 0 ++ size

/-- The amounts by which MD5 rotates. -/
def md5Shifts : Array UInt32 :=
  #[7, 12, 17, 22, 5, 9, 14, 20, 4, 11, 16, 23, 6, 10, 15, 21]

def md5Constants : Array UInt32 :=
  #[0xd76aa478, 0xe8c7b756, 0x242070db, 0xc1bdceee, 0xf57c0faf, 0x4787c62a, 0xa8304613, 0xfd469501,
    0x698098d8, 0x8b44f7af, 0xffff5bb1, 0x895cd7be, 0x6b901122, 0xfd987193, 0xa679438e, 0x49b40821,
    0xf61e2562, 0xc040b340, 0x265e5a51, 0xe9b6c7aa, 0xd62f105d, 0x02441453, 0xd8a1e681, 0xe7d3fbc8,
    0x21e1cde6, 0xc33707d6, 0xf4d50d87, 0x455a14ed, 0xa9e3e905, 0xfcefa3f8, 0x676f02d9, 0x8d2a4c8a,
    0xfffa3942, 0x8771f681, 0x6d9d6122, 0xfde5380c, 0xa4beea44, 0x4bdecfa9, 0xf6bb4b60, 0xbebfbc70,
    0x289b7ec6, 0xeaa127fa, 0xd4ef3085, 0x04881d05, 0xd9d4d039, 0xe6db99e5, 0x1fa27cf8, 0xc4ac5665,
    0xf4292244, 0x432aff97, 0xab9423a7, 0xfc93a039, 0x655b59c3, 0x8f0ccc92, 0xffeff47d, 0x85845dd1,
    0x6fa87e4f, 0xfe2ce6e0, 0xa3014314, 0x4e0811a1, 0xf7537e82, 0xbd3af235, 0x2ad7d2bb, 0xeb86d391]

/-- Four words at work. -/
abbrev Quad := UInt32 × UInt32 × UInt32 × UInt32

/-- One of the 64 steps of MD5. -/
def md5Step (block : Array UInt32) (s : Quad) (i : Nat) : Quad :=
  let (a, b, c, d) := s
  let (f, g) := match i / 16 with
    | 0 => ((b &&& c) ||| ((b ^^^ 0xffffffff) &&& d), i)
    | 1 => ((d &&& b) ||| ((d ^^^ 0xffffffff) &&& c), (5 * i + 1) % 16)
    | 2 => (b ^^^ c ^^^ d, (3 * i + 5) % 16)
    | _ => (c ^^^ (b ||| (d ^^^ 0xffffffff)), (7 * i) % 16)
  let turned := rotate (a + f + md5Constants.getD i 0 + block.getD g 0)
    (md5Shifts.getD (i / 16 * 4 + i % 4) 0)
  (d, b + turned, b, c)

/-- Adds a block to a state of MD5. -/
def md5Block (s : Quad) (block : Array UInt32) : Quad :=
  let (a, b, c, d) := (List.range 64).foldl (md5Step block) s
  (s.1 + a, s.2.1 + b, s.2.2.1 + c, s.2.2.2 + d)

/-- Groups of sixteen words; `fuel` bounds their number. -/
def blocksOf : Nat → List UInt32 → List (Array UInt32)
  | 0, _ => []
  | _, [] => []
  | fuel + 1, words => (words.take 16).toArray :: blocksOf fuel (words.drop 16)

def hexText (bytes : List UInt8) : String := String.ofList (bytes.flatMap Sha256.hexByte)

def md5 (message : List UInt8) : String :=
  let words := littleWords (padded (littleEndian 8 (8 * message.length)) message)
  let (a, b, c, d) := (blocksOf words.length words).foldl md5Block
    (0x67452301, 0xefcdab89, 0x98badcfe, 0x10325476)
  hexText ([a, b, c, d].flatMap fun w => littleEndian 4 w.toNat)

/-- The words of a block of SHA-1, made from the sixteen of the message. -/
def sha1Words (block : Array UInt32) : Array UInt32 :=
  (List.range 64).foldl (fun w i =>
    w.push (rotate (w.getD (i + 13) 0 ^^^ w.getD (i + 8) 0 ^^^ w.getD (i + 2) 0 ^^^ w.getD i 0) 1))
    block

/-- Adds a block to a state of SHA-1. -/
def sha1Block (s : UInt32 × Quad) (block : Array UInt32) : UInt32 × Quad :=
  let words := sha1Words block
  let (a, b, c, d, e) := (List.range 80).foldl (fun (a, b, c, d, e) i =>
    let (f, k) := match i / 20 with
      | 0 => ((b &&& c) ||| ((b ^^^ 0xffffffff) &&& d), (0x5a827999 : UInt32))
      | 1 => (b ^^^ c ^^^ d, 0x6ed9eba1)
      | 2 => ((b &&& c) ||| (b &&& d) ||| (c &&& d), 0x8f1bbcdc)
      | _ => (b ^^^ c ^^^ d, 0xca62c1d6)
    (rotate a 5 + f + e + k + words.getD i 0, a, rotate b 30, c, d)) (s.1, s.2.1, s.2.2.1, s.2.2.2)
  (s.1 + a, s.2.1 + b, s.2.2.1 + c, s.2.2.2.1 + d, s.2.2.2.2 + e)

def sha1 (message : List UInt8) : String :=
  let words := Sha256.words (padded (Sha256.bigEndian 8 (8 * message.length)) message)
  let (a, b, c, d, e) := (blocksOf words.length words).foldl sha1Block
    (0x67452301, 0xefcdab89, 0x98badcfe, 0x10325476, 0xc3d2e1f0)
  hexText ([a, b, c, d, e].flatMap fun w => Sha256.bigEndian 4 w.toNat)

/-- Writes or checks digests. -/
def digests (digest : List UInt8 → String) (c : Call) : Report :=
  c.withArguments { plain := "bct", long := [("check", 'c'), ("status", 't')] } 1 fun a =>
    if a.has 'c' then
      c.eachSource a.sources c.quiet fun r _ text =>
        (linesOf text).foldl (fun r line =>
          let sum := line.toList.takeWhile (· != ' ')
          let path := String.ofList (line.toList.drop (sum.length + 2))
          match c.read path with
          | .ok content =>
            if digest (toBytes content) == String.ofList sum then
              if a.has 't' then r else r.print (path ++ ": OK\n")
            else { (if a.has 't' then r else r.print (path ++ ": FAILED\n")) with status := 1 }
          | .error _ => { r.print (path ++ ": FAILED open or read\n") with status := 1 }) r
    else c.eachSource a.sources c.quiet fun r path text =>
      r.print (digest (toBytes text) ++ "  " ++ path ++ "\n")

/-- A step of the checksum of `cksum`. -/
def checksumStep (sum : Nat) (byte : Nat) : Nat :=
  (List.range 8).foldl (fun sum i =>
    let bit := (sum >>> 31) != (byte >>> (7 - i)) % 2
    let shifted := (sum <<< 1) % 0x100000000
    if bit then shifted ^^^ 0x04c11db7 else shifted) sum

def cksum (c : Call) : Report :=
  c.withArguments {} 1 fun a =>
    c.eachSource a.sources c.quiet fun r path text =>
      let bytes := (toBytes text).map UInt8.toNat
      let size := (Nat.toDigits 256 bytes.length).length
      let sizeBytes := if bytes.isEmpty then [] else
        (List.range size).map fun i => bytes.length >>> (8 * i) % 256
      let sum := 0xffffffff - (bytes ++ sizeBytes).foldl checksumStep 0
      r.print (numeral sum ++ " " ++ numeral bytes.length ++
        (if a.operands.isEmpty then "" else " " ++ path) ++ "\n")

/-- How `od` writes bytes. -/
structure Style where
  letter : Char
  size : Nat
  /-- The characters are shown after the numbers. -/
  shown : Bool := false
deriving DecidableEq

def Style.width (s : Style) : Nat :=
  match s.letter, s.size with
  | 'x', n => 2 * n
  | 'o', 1 => 3
  | 'o', 2 => 6
  | 'o', 4 => 11
  | 'o', _ => 22
  | 'd', 1 => 4
  | 'd', 2 => 6
  | 'd', 4 => 11
  | 'd', _ => 20
  | 'u', 1 => 3
  | 'u', 2 => 5
  | 'u', 4 => 10
  | 'u', _ => 20
  | _, _ => 3

def byteName (b : Nat) : String :=
  let names := ["nul", "soh", "stx", "etx", "eot", "enq", "ack", "bel", "bs", "ht", "nl", "vt", "ff",
    "cr", "so", "si", "dle", "dc1", "dc2", "dc3", "dc4", "nak", "syn", "etb", "can", "em", "sub",
    "esc", "fs", "gs", "rs", "us", "sp"]
  let n := b % 128
  if n == 127 then "del" else names.getD n (String.ofList [Char.ofNat n])

/-- A byte as a character, an escape or an octal number. -/
def byteChar (b : Nat) : String :=
  match b with
  | 0 => "\\0"
  | 7 => "\\a"
  | 8 => "\\b"
  | 9 => "\\t"
  | 10 => "\\n"
  | 11 => "\\v"
  | 12 => "\\f"
  | 13 => "\\r"
  | b =>
    if 32 ≤ b && b < 127 then String.ofList [Char.ofNat b]
    else
      let digits := Nat.toDigits 8 b
      String.ofList (List.replicate (3 - digits.length) '0' ++ digits)

/-- A group of bytes in a column. -/
def Style.text (s : Style) (bytes : List Nat) : String :=
  let n := bytes.foldr (fun b n => n * 256 + b) 0
  let zeros := fun (digits : List Char) =>
    String.ofList (List.replicate (s.width - digits.length) '0' ++ digits)
  match s.letter with
  | 'x' => zeros (Nat.toDigits 16 n)
  | 'o' => zeros (Nat.toDigits 8 n)
  | 'd' =>
    let limit := Nat.pow 256 s.size
    numeral (if limit ≤ 2 * n then (n : Int) - limit else n)
  | 'u' => numeral n
  | 'a' => byteName n
  | _ => byteChar n

/-- The bytes as characters, with a dot for one that cannot be shown. -/
def shownBytes (bytes : List Nat) : String :=
  let chars := bytes.map fun b => if 32 ≤ b && b < 127 then Char.ofNat b else '.'
  "  >" ++ String.ofList chars ++ "<"

/-- A line of bytes; `width` is the number of bytes of a full line, and `columns` its number of
characters, among which the columns are spread evenly. -/
def Style.line (s : Style) (width columns : Nat) (bytes : List Nat) : String :=
  let fields := width / s.size
  let spare := columns - s.width * fields
  let count := (bytes.length + s.size - 1) / s.size
  let texts := (List.range count).map fun i =>
    let room := spare * (fields - i) / fields - spare * (fields - i - 1) / fields
    Lines.padLeft (s.width + room) (s.text ((bytes.drop (i * s.size)).take s.size))
  let blank := (fields - count) * s.width + spare * (fields - count) / fields
  String.join texts ++ if s.shown then
    String.ofList (List.replicate blank ' ') ++ shownBytes bytes else ""

/-- The number of characters of a full line in all styles. -/
def fullColumns (styles : List Style) (width : Nat) : Nat :=
  styles.foldl (fun n s => max n ((s.width + 1) * (width / s.size))) 0

/-- The styles of an option such as `x1` or `o2`; `fuel` bounds their number. -/
def stylesOf : Nat → List Char → List Style
  | 0, _ => []
  | _, [] => []
  | fuel + 1, letter :: rest =>
    let digits := rest.takeWhile Char.isDigit
    let (size, rest) := if digits.isEmpty then
        match rest with
        | 'C' :: rest => (1, rest)
        | 'S' :: rest => (2, rest)
        | 'I' :: rest => (4, rest)
        | 'L' :: rest => (8, rest)
        | rest => (4, rest)
      else ((readNatural 10 0 digits).1, rest.drop digits.length)
    let size := if letter == 'c' || letter == 'a' then 1 else max size 1
    let (shown, rest) := match rest with
      | 'z' :: rest => (true, rest)
      | rest => (false, rest)
    ⟨letter, size, shown⟩ :: stylesOf fuel rest

/-- An offset at the start of a line. -/
def addressText (radix : String) (n : Nat) : String :=
  let digits := fun (base width : Nat) =>
    let ds := Nat.toDigits base n
    String.ofList (List.replicate (width - ds.length) '0' ++ ds)
  match radix with
  | "n" => ""
  | "d" => digits 10 7
  | "x" => digits 16 6
  | _ => digits 8 7

/-- Shows bytes; `fuel` bounds the number of lines. -/
def dumpLines (styles : List Style) (radix : String) (width : Nat) (all : Bool) :
    Nat → Nat → List Nat → Option (List Nat) → Bool → List String
  | 0, _, _, _, _ => []
  | fuel + 1, offset, bytes, previous, starred =>
    if bytes.isEmpty then if radix == "n" then [] else [addressText radix offset]
    else
      let line := bytes.take width
      let rest := bytes.drop width
      if !all && previous == some line && line.length == width then
        (if starred then [] else ["*"]) ++
          dumpLines styles radix width all fuel (offset + line.length) rest previous true
      else
        let address := addressText radix offset
        let blank := String.ofList (List.replicate address.length ' ')
        (styles.mapIdx fun i s => (if i == 0 then address else blank) ++
            s.line width (fullColumns styles width) line) ++
          dumpLines styles radix width all fuel (offset + line.length) rest (some line) false

def od (c : Call) : Report :=
  let shape : Arguments.Shape :=
    { plain := "abcdfiloxsv", valued := "AjNtwS"
      long := [("address-radix", 'A'), ("skip-bytes", 'j'), ("read-bytes", 'N'), ("format", 't'),
        ("width", 'w'), ("output-duplicates", 'v')] }
  c.withArguments shape 1 fun a =>
    let (text, r) := c.gather a.sources
    let number := fun (letter : Char) => (a.value? letter).bind fun t => Lines.count? t.toList
    let bytes := ((toBytes text).map UInt8.toNat).drop ((number 'j').getD 0)
    let bytes := match number 'N' with
      | some n => bytes.take n
      | none => bytes
    let styles := a.options.flatMap fun o => match o.1 with
      | 'a' => [⟨'a', 1, false⟩]
      | 'b' => [⟨'o', 1, false⟩]
      | 'c' => [⟨'c', 1, false⟩]
      | 'd' => [⟨'u', 2, false⟩]
      | 'o' => [⟨'o', 2, false⟩]
      | 's' => [⟨'d', 2, false⟩]
      | 'x' => [⟨'x', 2, false⟩]
      | 'i' => [⟨'d', 4, false⟩]
      | 'l' => [⟨'d', 8, false⟩]
      | 't' => stylesOf (o.2.length + 1) o.2.toList
      | _ => []
    let styles := if styles.isEmpty then [⟨'o', 2, false⟩] else styles
    let unit := styles.foldl (fun n s => max n s.size) 1
    let width := match number 'w' with
      | some n => if n != 0 && n % unit == 0 then n else unit
      | none => 16
    r.print (unlines (dumpLines styles ((a.value? 'A').getD "o") width (a.has 'v')
      (bytes.length + 2) ((number 'j').getD 0) bytes none false))

end StackVM.Shell.Dump
