import StackVM.Builtin.Params
import StackVM.Encoding.Base64
import StackVM.Encoding.Radix
import StackVM.Encoding.Sha256
import StackVM.Json.Reader
import StackVM.Json.Writer
import StackVM.Text.Utf8
import StackVM.Value.Json

/-! # Builtins that encode and decode -/

namespace StackVM

/-- Encodings that cannot fail. -/
inductive Codec where
  | jsonEncode
  | jsonValid
  | b64Encode
  | b64Decode
  | hex
  | bytes
  | fromBytes
  | hash
  | toBase
  | fromBase
deriving DecidableEq, Repr

namespace Codecs

/-- The value that a text in JSON denotes, or why there is none. -/
def jsonDecode (v : Value) (line : Int) : Except String Value :=
  match v with
  | .str text =>
    match Json.read text with
    | .ok j => .ok (Value.ofJson j)
    | .error e => .error ("JSON parse error at line " ++ Number.integerText line ++ ": " ++ e)
  | _ => .error "Input to json_decode is not a string"

def jsonValid : Value → Bool
  | .str text => (Json.read text).isOk
  | _ => false

def jsonEncode (v : Value) (pretty : Bool) : String :=
  if pretty then v.toJson.pretty else v.toJson.compact

/-- The text whose bytes a text denotes in base 64. -/
def b64Decode (text : String) : Reply :=
  match Base64.decode (Text.utf8 text) with
  | .ok bytes => Value.str (Text.fromUtf8Lossy bytes)
  | .error e =>
    .warn ("Invalid base64 input (" ++ e.message ++ "). Returning an empty string.") (.str "")

/-- The bases in which numbers are written. -/
def isBase (base : Int) : Bool := 2 ≤ base && base ≤ 36

/-- A number in a base, filled up with zeros. -/
def toBase (x : Float) (base : Int) (width : Float) : Reply :=
  if !isBase base then .warn "Base must be between 2 and 36." (.str "")
  else
    let (width, warnings) := clampWidth "to_base" width
    let digits := if base = 10 then (Number.text x).toList else Radix.text base.toNat x
    ⟨.str (String.ofList (Radix.zeroPad width digits)), warnings⟩

def fromBase (text : String) (base : Int) : Reply :=
  if !isBase base then .warn "In from_base(), base must be between 2 and 36." (.num 0.0)
  else Value.num (Radix.read base.toNat text)

/-- An integer in hexadecimal notation, filled up with zeros. -/
def hex (n : Int) (width : Float) : Reply :=
  let (width, warnings) := clampWidth "hex" width
  ⟨.str (Radix.hex n width), warnings⟩

/-- How many bytes are asked for, at most eight. -/
def byteCount (raw : Float) : Nat := min (Number.toNat raw) 8

/-- The bytes that the parameters hold: one array or the parameters themselves. -/
def byteList (p : Params) : List Value :=
  match p.get 0 with
  | .arr items => items
  | _ => p

end Codecs

def Codec.apply (c : Codec) (p : Params) : Reply :=
  match c with
  | .jsonEncode => Value.str (Codecs.jsonEncode (p.get 0) (p.flag 1))
  | .jsonValid => Value.bool (Codecs.jsonValid (p.get 0))
  | .b64Encode => Value.str (String.ofList (Base64.encode (Text.utf8 (p.text 0))))
  | .b64Decode => Codecs.b64Decode (p.text 0)
  | .hex => Codecs.hex (p.int 0) (p.num 1)
  | .bytes => Value.arr ((Radix.bytes (p.int 0) (Codecs.byteCount (p.num 1))).map Value.ofInt)
  | .fromBytes => Value.ofInt (Radix.ofBytes ((Codecs.byteList p).map Value.toInt))
  | .hash => Value.str (Sha256.hexDigest (Text.utf8 (p.text 0)))
  | .toBase => Codecs.toBase (p.num 0) (p.int 1) (p.num 2)
  | .fromBase => Codecs.fromBase (p.text 0) (p.int 1)

end StackVM
