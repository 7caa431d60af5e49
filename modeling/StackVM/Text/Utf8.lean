/-! # Text as bytes

`utf8` writes a text as UTF-8 bytes. Reading bytes back splits them into well-formed characters and
ill-formed stretches, each stretch being the longest beginning of a character that is cut short or a
single byte that begins none. `fromUtf8?` refuses ill-formed input, `fromUtf8Lossy` puts a
replacement character in place of each stretch.
-/

namespace StackVM.Text

def utf8 (text : String) : List UInt8 := text.toList.flatMap String.utf8EncodeChar

def utf8Size (text : List Char) : Nat := text.foldr (fun c n => c.utf8Size + n) 0

def isContinuation (b : UInt8) : Bool := 0x80 ≤ b && b ≤ 0xbf

/-- The second bytes that may follow a leading byte of a character of three or four bytes. -/
def secondRange (lead : UInt8) : UInt8 × UInt8 :=
  if lead == 0xe0 then (0xa0, 0xbf)
  else if lead == 0xed then (0x80, 0x9f)
  else if lead == 0xf0 then (0x90, 0xbf)
  else if lead == 0xf4 then (0x80, 0x8f)
  else (0x80, 0xbf)

def payload (b : UInt8) : Nat := b.toNat % 64

/-- The character that starts with `lead`, if it is well-formed, and how many further bytes it or
the ill-formed stretch takes. -/
def decodeNext (lead : UInt8) (rest : List UInt8) : Option Char × Nat :=
  if lead < 0x80 then (some (Char.ofNat lead.toNat), 0)
  else if 0xc2 ≤ lead && lead ≤ 0xdf then
    match rest with
    | b :: _ =>
      if isContinuation b then (some (Char.ofNat (lead.toNat % 32 * 64 + payload b)), 1)
      else (none, 0)
    | [] => (none, 0)
  else if 0xe0 ≤ lead && lead ≤ 0xf4 then
    let (lo, hi) := secondRange lead
    match rest with
    | b :: rest =>
      if lo ≤ b && b ≤ hi then
        match rest with
        | c :: rest =>
          if isContinuation c then
            if lead < 0xf0 then
              (some (Char.ofNat (lead.toNat % 16 * 4096 + payload b * 64 + payload c)), 2)
            else
              match rest with
              | d :: _ =>
                if isContinuation d then
                  (some (Char.ofNat
                    (lead.toNat % 8 * 262144 + payload b * 4096 + payload c * 64 + payload d)), 3)
                else (none, 2)
              | [] => (none, 2)
          else (none, 1)
        | [] => (none, 1)
      else (none, 0)
    | [] => (none, 0)
  else (none, 0)

/-- Splits bytes into characters, `none` standing for an ill-formed stretch. The first `skip` bytes
belong to what was read before. -/
def decodeFrom (skip : Nat) : List UInt8 → List (Option Char)
  | [] => []
  | b :: rest =>
    match skip with
    | skip + 1 => decodeFrom skip rest
    | 0 =>
      let (c, taken) := decodeNext b rest
      c :: decodeFrom taken rest

/-- The text that the bytes spell, if they are well-formed. -/
def fromUtf8? (bytes : List UInt8) : Option String :=
  ((decodeFrom 0 bytes).mapM id).map String.ofList

/-- The text that the bytes spell, with a replacement character for each ill-formed stretch. -/
def fromUtf8Lossy (bytes : List UInt8) : String :=
  String.ofList ((decodeFrom 0 bytes).map (·.getD '�'))

end StackVM.Text
