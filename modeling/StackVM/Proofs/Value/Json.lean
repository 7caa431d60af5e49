import StackVM.Builtin.Codec
import StackVM.Proofs.Json.Document
import StackVM.Proofs.Number.Integer
import StackVM.Proofs.Record

/-! # Values read back from their JSON texts

Writing a value and reading its document changes nothing but the sign of zero and the numbers that
are not finite, which become null. Fields keep their places because a record is sorted already.
Together with the texts of documents this gives the round trip of encoding and decoding.
-/

namespace StackVM

namespace Value

/-- Induction over a value, its items and its fields. -/
@[elab_as_elim]
theorem nested_induction {motive : Value → Prop} (null : motive .null)
    (bool : ∀ b, motive (.bool b)) (num : ∀ x, motive (.num x)) (str : ∀ s, motive (.str s))
    (arr : ∀ items, (∀ v ∈ items, motive v) → motive (.arr items))
    (obj : ∀ fields, (∀ f ∈ fields, motive f.2) → motive (.obj fields)) (v : Value) : motive v :=
  @Value.rec motive (fun items => ∀ w ∈ items, motive w) (fun fields => ∀ f ∈ fields, motive f.2)
    (fun f => motive f.2) null bool num str arr obj
    (fun _ member => nomatch member)
    (fun _ _ head tail => List.forall_mem_cons.mpr ⟨head, tail⟩)
    (fun _ member => nomatch member)
    (fun _ _ head tail => List.forall_mem_cons.mpr ⟨head, tail⟩)
    (fun _ _ value => value) v

mutual

/-- How deeply lists and records are nested. -/
def depth : Value → Nat
  | .arr items => depthItems items + 1
  | .obj fields => depthFields fields + 1
  | _ => 0

/-- The greatest depth of the items. -/
def depthItems : List Value → Nat
  | [] => 0
  | v :: rest => max (depth v) (depthItems rest)

/-- The greatest depth of the fields. -/
def depthFields : List (String × Value) → Nat
  | [] => 0
  | (_, v) :: rest => max (depth v) (depthFields rest)

end

mutual

/-- Every number within the value is finite. -/
def Finite : Value → Prop
  | .num x => Number.isFinite x.toFloat = true
  | .arr items => FiniteItems items
  | .obj fields => FiniteFields fields
  | _ => True

/-- Every item is finite. -/
def FiniteItems : List Value → Prop
  | [] => True
  | v :: rest => Finite v ∧ FiniteItems rest

/-- Every field is finite. -/
def FiniteFields : List (String × Value) → Prop
  | [] => True
  | (_, v) :: rest => Finite v ∧ FiniteFields rest

end

section Parts

variable {items : List Value} {fields : List (String × Value)}

theorem finiteItems_iff : FiniteItems items ↔ ∀ v ∈ items, v.Finite :=
  forall_mem_iff_of_cons FiniteItems trivial (fun _ _ => Iff.rfl) items

theorem finiteFields_iff : FiniteFields fields ↔ ∀ f ∈ fields, f.2.Finite :=
  forall_mem_iff_of_cons FiniteFields trivial (fun _ _ => Iff.rfl) fields

theorem sortedItems_iff : SortedItems items ↔ ∀ v ∈ items, v.Sorted :=
  forall_mem_iff_of_cons SortedItems trivial (fun _ _ => Iff.rfl) items

theorem sortedFields_iff : SortedFields fields ↔ ∀ f ∈ fields, f.2.Sorted :=
  forall_mem_iff_of_cons SortedFields trivial (fun _ _ => Iff.rfl) fields

theorem depthItems_le_iff {n : Nat} : depthItems items ≤ n ↔ ∀ v ∈ items, v.depth ≤ n :=
  forall_mem_iff_of_cons (depthItems · ≤ n) (Nat.zero_le n) (fun _ _ => Nat.max_le) items

theorem depthFields_le_iff {n : Nat} : depthFields fields ≤ n ↔ ∀ f ∈ fields, f.2.depth ≤ n :=
  forall_mem_iff_of_cons (depthFields · ≤ n) (Nat.zero_le n) (fun _ _ => Nat.max_le) fields

private theorem toJsonItems_eq (items : List Value) : toJsonItems items = items.map toJson :=
  eq_map_of_cons rfl (fun _ _ => rfl) items

private theorem toJsonFields_eq (fields : List (String × Value)) :
    toJsonFields fields = fields.map fun f => (f.1, toJson f.2) :=
  eq_map_of_cons rfl (fun _ _ => rfl) fields

theorem toJson_arr (items : List Value) : toJson (.arr items) = .arr (items.map toJson) :=
  congrArg Json.arr (toJsonItems_eq items)

theorem toJson_obj (fields : List (String × Value)) :
    toJson (.obj fields) = .obj (fields.map fun f => (f.1, toJson f.2)) :=
  congrArg Json.obj (toJsonFields_eq fields)

private theorem ofJsonItems_eq (items : List Json) : ofJsonItems items = items.map ofJson :=
  eq_map_of_cons rfl (fun _ _ => rfl) items

private theorem ofJsonMembers_eq (members : List (String × Json)) :
    ofJsonMembers members = members.map fun m => (m.1, ofJson m.2) :=
  eq_map_of_cons rfl (fun _ _ => rfl) members

theorem ofJson_arr (items : List Json) : ofJson (.arr items) = .arr (items.map ofJson) :=
  congrArg Value.arr (ofJsonItems_eq items)

theorem ofJson_obj (members : List (String × Json)) :
    ofJson (.obj members) = .obj (Record.ofList (members.map fun m => (m.1, ofJson m.2))) :=
  congrArg (fun fields => Value.obj (Record.ofList fields)) (ofJsonMembers_eq members)

private theorem beqItems_map {f : Value → Value} (equal : ∀ v ∈ items, beq (f v) v = true) :
    beqItems (items.map f) items = true := by
  induction items with
  | nil => rfl
  | cons v items ih =>
    obtain ⟨head, tail⟩ := List.forall_mem_cons.mp equal
    rw [List.map_cons, beqItems, head, ih tail]
    rfl

private theorem beqFields_map {f : Value → Value} (equal : ∀ g ∈ fields, beq (f g.2) g.2 = true) :
    beqFields (fields.map fun g => (g.1, f g.2)) fields = true := by
  induction fields with
  | nil => rfl
  | cons g fields ih =>
    obtain ⟨head, tail⟩ := List.forall_mem_cons.mp equal
    rw [List.map_cons, beqFields, head, ih tail]
    simp

end Parts

section Numbers

variable {x y : Float}

private theorem plain_bounds (plain : Number.isPlainInteger x = true) :
    Number.isInteger x = true ∧ (Number.parts x).whole < Number.exactLimit := by
  simpa [Number.isPlainInteger] using plain

private theorem writable_number (x : Float) : (Json.number x).Writable := by
  unfold Json.number
  split_ifs with plain finite
  · obtain ⟨-, small⟩ := plain_bounds plain
    rw [Number.exactLimit] at small
    rw [Json.Writable, Json.FitsInt, Number.Parts.truncated]
    split_ifs <;> omega
  · exact finite
  · trivial

private theorem depth_number (x : Float) : (Json.number x).depth = 0 := by
  unfold Json.number
  split_ifs <;> rfl

/-- Numbers that compare equal have one document: the zeros are written alike. -/
theorem number_eq_of_beq (equal : (x == y) = true) : Json.number x = Json.number y := by
  obtain ⟨-, -, rfl | ⟨rfl, rfl⟩ | ⟨rfl, rfl⟩⟩ := Float.beq_iff_ne_nan_and_eq.mp equal
  · rfl
  · rfl
  · rfl

/-- A finite number is read back from its document as an equal number. -/
theorem ofJson_number (finite : Number.isFinite x = true) :
    ∃ y : Float, ofJson (Json.number x) = .num y ∧ (y == x) = true := by
  unfold Json.number
  split_ifs with plain
  · exact ⟨_, rfl, Number.ofInt_truncated (plain_bounds plain).1⟩
  · exact ⟨x, rfl, Number.beq_self_of_isFinite finite⟩

private theorem toJson_ofJson_number (x : Float) :
    toJson (ofJson (Json.number x)) = Json.number x := by
  by_cases finite : Number.isFinite x = true
  · obtain ⟨y, read, equal⟩ := ofJson_number finite
    rw [read]
    exact number_eq_of_beq equal
  · have none : Json.number x = .null := by
      simp [Json.number, Number.isPlainInteger, Number.isInteger, finite]
    rw [none]
    rfl

end Numbers

section RoundTrip

private theorem depth_toJson (v : Value) : (toJson v).depth ≤ v.depth := by
  induction v using nested_induction with
  | null => exact Nat.le_refl 0
  | bool b => exact Nat.le_refl 0
  | num x => exact (depth_number x.toFloat).le
  | str s => exact Nat.le_refl 0
  | arr items ih =>
    rw [toJson_arr]
    have deepest := depthItems_le_iff.mp (Nat.le_refl (depthItems items))
    exact Nat.succ_le_succ (Json.depthItems_le_iff.mpr (List.forall_mem_map.mpr fun v member =>
      (ih v member).trans (deepest v member)))
  | obj fields ih =>
    rw [toJson_obj]
    have deepest := depthFields_le_iff.mp (Nat.le_refl (depthFields fields))
    exact Nat.succ_le_succ (Json.depthMembers_le_iff.mpr (List.forall_mem_map.mpr fun f member =>
      (ih f member).trans (deepest f member)))

private theorem writable_toJson (v : Value) : (toJson v).Writable := by
  induction v using nested_induction with
  | null => trivial
  | bool b => trivial
  | num x => exact writable_number x.toFloat
  | str s => trivial
  | arr items ih =>
    rw [toJson_arr]
    exact Json.writableItems_iff.mpr (List.forall_mem_map.mpr ih)
  | obj fields ih =>
    rw [toJson_obj]
    exact Json.writableMembers_iff.mpr (List.forall_mem_map.mpr ih)

private theorem ofJson_toJson_arr (items : List Value) :
    ofJson (toJson (.arr items)) = .arr (items.map fun v => ofJson (toJson v)) := by
  rw [toJson_arr, ofJson_arr, List.map_map]
  rfl

/-- The fields of a sorted record keep their places when the record is written and read. -/
theorem ofJson_toJson_obj {fields : List (String × Value)} (sorted : Record.Sorted fields) :
    ofJson (toJson (.obj fields)) = .obj (fields.map fun f => (f.1, ofJson (toJson f.2))) := by
  have kept : Record.Sorted (fields.map fun f => (f.1, ofJson (toJson f.2))) :=
    List.pairwise_map.mpr sorted
  rw [toJson_obj, ofJson_obj, List.map_map]
  exact congrArg obj (Record.ofList_of_sorted kept)

/-- A value of finite numbers equals the value of its document. -/
theorem beq_ofJson_toJson (v : Value) (sorted : v.Sorted) (finite : v.Finite) :
    beq (ofJson (toJson v)) v = true := by
  induction v using nested_induction with
  | null => rfl
  | bool b => exact beq_self_eq_true b
  | num x =>
    obtain ⟨y, read, equal⟩ := ofJson_number finite
    exact (congrArg (beq · (.num x)) read).trans equal
  | str s => exact beq_self_eq_true s
  | arr items ih =>
    rw [ofJson_toJson_arr]
    exact beqItems_map fun v member => ih v member (sortedItems_iff.mp sorted v member)
      (finiteItems_iff.mp finite v member)
  | obj fields ih =>
    rw [ofJson_toJson_obj sorted.1]
    exact beqFields_map (f := fun v => ofJson (toJson v)) fun f member =>
      ih f member (sortedFields_iff.mp sorted.2 f member) (finiteFields_iff.mp finite f member)

/-- A value and the value of its document have the same document. -/
theorem toJson_ofJson_toJson (v : Value) (sorted : v.Sorted) :
    toJson (ofJson (toJson v)) = toJson v := by
  induction v using nested_induction with
  | null => rfl
  | bool b => rfl
  | num x => exact toJson_ofJson_number x.toFloat
  | str s => rfl
  | arr items ih =>
    rw [ofJson_toJson_arr, toJson_arr, toJson_arr, List.map_map]
    exact congrArg Json.arr (List.map_congr_left fun v member =>
      ih v member (sortedItems_iff.mp sorted v member))
  | obj fields ih =>
    rw [ofJson_toJson_obj sorted.1, toJson_obj, toJson_obj, List.map_map]
    exact congrArg Json.obj (List.map_congr_left fun f member =>
      congrArg (f.1, ·) (ih f member (sortedFields_iff.mp sorted.2 f member)))

end RoundTrip

end Value

namespace Codecs

/-- A value's text is read as the value's document, in either layout. -/
theorem jsonDecode_jsonEncode {v : Value} (shallow : v.depth ≤ Json.maxDepth) (pretty : Bool)
    (line : Int) :
    jsonDecode (.str (jsonEncode v pretty)) line = .ok (Value.ofJson v.toJson) := by
  have depth := (Value.depth_toJson v).trans shallow
  have read : Json.read (jsonEncode v pretty) = .ok v.toJson := by
    cases pretty with
    | false =>
      have spelled := Json.spells_compactChars v.toJson (Value.writable_toJson v)
      simp [Json.read, jsonEncode, Json.compact, Json.readChars_of_spells depth spelled]
    | true =>
      have spelled := Json.spells_prettyChars 0 v.toJson (Value.writable_toJson v)
      simp [Json.read, jsonEncode, Json.pretty, Json.readChars_of_spells depth spelled]
  rw [jsonDecode, read]

/-- A value with marks, a control character, a fraction and the negative zero. -/
def knotted : Value :=
  .obj [("", .arr [.num (-0.0), .num 0.1, .num 1e300]),
    ("\"\\", .obj [("\n\x01é", .str "a\"b\\c\x7f"), ("k", .null)]), ("z", .arr [])]

/-- A value that is nested no deeper than the reader allows is read back from its text, in either
layout. The value read equals the one written when all its numbers are finite, and it has the same
texts in any case. -/
theorem json_round_trip (v : Value) (sorted : v.Sorted) (shallow : v.depth ≤ 127) (pretty : Bool)
    (line : Int) :
    ∃ w, jsonDecode (.str (jsonEncode v pretty)) line = .ok w ∧
      (v.Finite → (w == v) = true) ∧ ∀ layout, jsonEncode w layout = jsonEncode v layout := by
  refine ⟨Value.ofJson v.toJson, jsonDecode_jsonEncode shallow pretty line,
    Value.beq_ofJson_toJson v sorted, fun layout => ?_⟩
  rw [jsonEncode, Value.toJson_ofJson_toJson v sorted]
  rfl

theorem json_round_trip_knotted :
    knotted.Sorted ∧ knotted.depth ≤ 127 ∧ knotted.Finite ∧
      ∃ w, jsonDecode (.str (jsonEncode knotted true)) 3 = .ok w ∧ (w == knotted) = true ∧
        jsonEncode w false = jsonEncode knotted false := by
  have sorted : knotted.Sorted := by
    simp only [knotted, Value.Sorted, Value.SortedItems, Value.SortedFields, Record.Sorted]
    decide
  have shallow : knotted.depth ≤ 127 := by decide
  have finite : knotted.Finite := by
    simp only [knotted, Value.Finite, Value.FiniteItems, Value.FiniteFields]
    decide +kernel
  obtain ⟨w, read, equal, texts⟩ := json_round_trip knotted sorted shallow true 3
  exact ⟨sorted, shallow, finite, w, read, equal finite, texts false⟩

end Codecs

end StackVM
