import StackVM.Text.Utf8

/-! # Bytes as characters

A shell works on bytes. They are kept as characters below 256, so that the functions on texts apply
to them; names of files are texts again.
-/

namespace StackVM.Shell

/-- The text with one character for each byte. -/
def ofBytes (bytes : List UInt8) : String :=
  String.ofList (bytes.map fun b => Char.ofNat b.toNat)

def toBytes (text : String) : List UInt8 := text.toList.map fun c => c.toNat.toUInt8

/-- A text as the shell keeps it. -/
def encode (text : String) : String := ofBytes (Text.utf8 text)

/-- The text of bytes that the shell keeps. -/
def decode (text : String) : String := Text.fromUtf8Lossy (toBytes text)

end StackVM.Shell
