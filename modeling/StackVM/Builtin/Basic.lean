import StackVM.Builtin.Codec
import StackVM.Builtin.Conversion
import StackVM.Builtin.Draw
import StackVM.Builtin.NumberFunction
import StackVM.Builtin.Operator
import StackVM.Builtin.SetFunction
import StackVM.Builtin.SystemCall
import StackVM.Builtin.TextFunction
import StackVM.Builtin.TimeFunction

/-! # The catalog of builtins

A program names a builtin by its place in the catalog.
-/

namespace StackVM

/-- A builtin. Operators work on the stack, all others take a list of parameters from it. -/
inductive Builtin where
  | operator (op : Operator)
  | conversion (f : Conversion)
  | text (f : TextFunction)
  | number (f : NumberFunction)
  | list (f : ListFunction)
  | set (f : SetFunction)
  | codec (f : Codec)
  /-- Reads a text in JSON, which may fail. -/
  | jsonDecode
  | time (f : TimeFunction)
  /-- Reads the clock. -/
  | epochNow
  | draw (d : Draw)
  | system (call : SystemCall)
deriving DecidableEq, Repr

namespace Builtin

/-- All builtins with their names, in the order of their numbers. -/
def catalog : Array (String × Builtin) := #[
  ("jump", .operator .jump),
  ("jumpifnil", .operator .jumpIfNil),
  ("jumpiffalse", .operator .jumpIfFalse),
  ("explode", .operator .explode),
  ("implode", .operator .implode),
  ("superimplode", .operator .superImplode),
  ("add", .operator (.binary .add)),
  ("sub", .operator (.binary .sub)),
  ("mul", .operator (.binary .mul)),
  ("div", .operator (.binary .div)),
  ("rem", .operator (.binary .rem)),
  ("length", .operator (.unary .length)),
  ("arrayindex", .operator (.binary .arrayIndex)),
  ("arrayslice", .operator (.binary .arraySlice)),
  ("concat", .operator (.binary .concat)),
  ("booland", .operator (.binary .boolAnd)),
  ("boolor", .operator (.binary .boolOr)),
  ("boolxor", .operator (.binary .boolXor)),
  ("inarray", .operator (.binary .inArray)),
  ("strlike", .operator (.binary .strLike)),
  ("equal", .operator (.binary .equal)),
  ("notequal", .operator (.binary .notEqual)),
  ("greater", .operator (.binary .greater)),
  ("greaterequal", .operator (.binary .greaterEqual)),
  ("less", .operator (.binary .less)),
  ("lessequal", .operator (.binary .lessEqual)),
  ("boolnot", .operator (.unary .boolNot)),
  ("varexists", .operator (.unary .varExists)),
  ("random_int", .draw .int),
  ("random_float", .draw .float),
  ("word_diff", .text .wordDiff),
  ("dist", .number .dist),
  ("sin", .number .sin),
  ("cos", .number .cos),
  ("tan", .number .tan),
  ("asin", .number .asin),
  ("acos", .number .acos),
  ("atan", .number .atan),
  ("atan2", .number .atan2),
  ("sqrt", .number .sqrt),
  ("sum", .number .sum),
  ("mult", .number .mult),
  ("pow", .number .pow),
  ("min", .number .minimum),
  ("max", .number .maximum),
  ("split", .text .split),
  ("join", .text .join),
  ("type", .conversion .typeName),
  ("bool", .conversion .bool),
  ("num", .conversion .num),
  ("str", .conversion .str),
  ("floor", .number .floor),
  ("ceil", .number .ceil),
  ("round", .number .round),
  ("abs", .number .abs),
  ("append", .list .append),
  ("index", .list .index),
  ("lower", .text .lower),
  ("upper", .text .upper),
  ("camel", .text .camel),
  ("replace", .text .replace),
  ("json_encode", .codec .jsonEncode),
  ("json_decode", .jsonDecode),
  ("json_valid", .codec .jsonValid),
  ("b64_encode", .codec .b64Encode),
  ("b64_decode", .codec .b64Decode),
  ("lpad", .text .lpad),
  ("rpad", .text .rpad),
  ("hex", .codec .hex),
  ("filter", .text .filter),
  ("matches", .text .matches),
  ("clocktime", .time .clockTime),
  ("reverse", .list .reverse),
  ("sort", .list .sort),
  ("bytes", .codec .bytes),
  ("frombytes", .codec .fromBytes),
  ("merge", .list .merge),
  ("update", .list .update),
  ("insert", .list .insert),
  ("delete", .list .delete),
  ("lerp", .number .lerp),
  ("random_element", .draw .element),
  ("hash", .codec .hash),
  ("object", .list .object),
  ("array", .list .array),
  ("keys", .list .keys),
  ("values", .list .values),
  ("pairs", .list .pairs),
  ("interleave", .list .interleave),
  ("unique", .list .unique),
  ("union", .set .union),
  ("intersection", .set .intersection),
  ("difference", .set .difference),
  ("symmetric_difference", .set .symmetricDifference),
  ("is_disjoint", .set .isDisjoint),
  ("is_subset", .set .isSubset),
  ("is_superset", .set .isSuperset),
  ("count", .list .count),
  ("find", .list .find),
  ("flatten", .list .flatten),
  ("smoothstep", .number .smoothstep),
  ("sinh", .number .sinh),
  ("cosh", .number .cosh),
  ("tanh", .number .tanh),
  ("sign", .number .sign),
  ("ascii", .text .ascii),
  ("char", .text .char),
  ("beginswith", .text .beginsWith),
  ("endswith", .text .endsWith),
  ("numeric_string", .text .numericString),
  ("time", .time .time),
  ("date", .time .date),
  ("random_elements", .draw .elements),
  ("match", .text .firstMatch),
  ("splice", .list .splice),
  ("uuid", .draw .uuid),
  ("bitwise_and", .operator (.binary .bitwiseAnd)),
  ("bitwise_or", .operator (.binary .bitwiseOr)),
  ("bitwise_xor", .operator (.binary .bitwiseXor)),
  ("bitwise_not", .operator (.unary .bitwiseNot)),
  ("trim", .text .trim),
  ("chunk", .list .chunk),
  ("fmod", .number .fmod),
  ("modf", .number .modf),
  ("log", .number .log),
  ("normalize", .number .normalize),
  ("to_base", .codec .toBase),
  ("from_base", .codec .fromBase),
  ("timestamp", .time .timestamp),
  ("epochnow", .epochNow),
  ("fromepoch", .time .fromEpoch),
  ("toepoch", .time .toEpoch),
  ("sorted", .list .sorted),
  ("random_weighted", .draw .weighted),
  ("glob", .text .glob),
  ("env_get", .system .envGet),
  ("file_exists", .system .fileExists),
  ("file_read", .system .fileRead),
  ("file_write", .system .fileWrite),
  ("file_append", .system .fileAppend),
  ("file_delete", .system .fileDelete),
  ("file_copy", .system .fileCopy),
  ("file_move", .system .fileMove),
  ("file_type", .system .fileType),
  ("file_stat", .system .fileStat),
  ("file_glob", .system .fileGlob),
  ("dir_create", .system .dirCreate),
  ("dir_delete", .system .dirDelete),
  ("dir_list", .system .dirList)]

/-- The entry of the catalog with a number. -/
def entry? (number : Int) : Option (String × Builtin) :=
  if number < 0 then none else catalog[number.toNat]?

/-- The builtin reaches the host, so that a sandboxed run refuses it. -/
def isSandboxed : Builtin → Bool
  | .system _ => true
  | _ => false

end Builtin

end StackVM
