import StackVM.Value.Basic
import StackVM.Text.Quoted

/-! # Fingerprints

A text that tells values apart up to the text of their numbers. Results of calls are remembered
under the fingerprint of the call's parameters.
-/

namespace StackVM.Value

mutual

def fingerprint : Value → String
  | .null => "null"
  | .bool b => if b then "true" else "false"
  | .num x => Number.text x.toFloat
  | .str s => Text.quote s
  | .arr items => "[" ++ ", ".intercalate (fingerprintItems items) ++ "]"
  | .obj fields => "\x7b" ++ ", ".intercalate (fingerprintFields fields) ++ "\x7d"

def fingerprintItems : List Value → List String
  | [] => []
  | v :: rest => fingerprint v :: fingerprintItems rest

def fingerprintFields : List (String × Value) → List String
  | [] => []
  | (k, v) :: rest => (Text.quote k ++ ": " ++ fingerprint v) :: fingerprintFields rest

end

end StackVM.Value
