import StackVM.Builtin.Operator
import StackVM.Proofs.Record

/-! # Taking objects apart and building them

The fields of an object, written as a flat list, as names beside values or as pairs, are the same in
the same order, and from the flat list the object is built again. Any list is read two by two: every
first item of a pair gives a name, and the last pair of a name gives the value.
-/

namespace StackVM

namespace Sequence

variable {α : Type}

private theorem getElem?_pairUp (items : List α) (i : Nat) :
    (pairUp items)[i]? = items[2 * i]?.map fun a => (a, items[2 * i + 1]?) := by
  induction items using pairUp.induct generalizing i with
  | case1 => rfl
  | case2 a => cases i <;> simp [pairUp, Nat.mul_add]
  | case3 a b rest ih =>
    cases i with
    | zero => rfl
    | succ i => simpa [pairUp, Nat.mul_add] using ih i

end Sequence

namespace Lists

section Apart

variable (fields : Record Value)

private theorem interleave_names_values :
    Sequence.interleave ((Record.names fields).map .str) (Record.values fields) =
      Value.unfold fields := by
  induction fields with
  | nil => rfl
  | cons f fields ih => exact congrArg (fun rest => .str f.1 :: f.2 :: rest) ih

private theorem pairs_obj : pairs (.obj fields) = fields.map fun f => .arr [.str f.1, f.2] := by
  induction fields with
  | nil => rfl
  | cons f fields ih => exact congrArg _ ih

private theorem couples_unfold : couples (Value.unfold fields) = fields := by
  induction fields with
  | nil => rfl
  | cons f fields ih =>
    have first : (Value.text (.str f.1), f.2) = f := by rw [Value.text]
    exact congrArg₂ List.cons first ih

/-- The flat list of a sorted record is read as its fields, which are collected in their order. -/
theorem object_unfold {fields : Record Value} (sorted : fields.Sorted) :
    object (.arr (Value.unfold fields)) = fields := by
  rw [object, couples_unfold, Record.ofList_of_sorted sorted]

end Apart

section Building

variable {items : List Value} {name : String} {i : Nat} {k : Value}

private theorem getElem?_couples (items : List Value) (i : Nat) :
    (couples items)[i]? = items[2 * i]?.map fun k => (k.text, items[2 * i + 1]?.getD .null) := by
  rw [couples, List.getElem?_map, Sequence.getElem?_pairUp, Option.map_map]
  rfl

private theorem mem_names_object :
    name ∈ Record.names (object (.arr items)) ↔ ∃ i k, items[2 * i]? = some k ∧ k.text = name := by
  rw [object, Record.mem_names_ofList]
  constructor
  · rintro ⟨f, member, rfl⟩
    obtain ⟨i, present⟩ := List.mem_iff_getElem?.mp member
    rw [getElem?_couples] at present
    obtain ⟨k, found, rfl⟩ := Option.map_eq_some_iff.mp present
    exact ⟨i, k, found, rfl⟩
  · rintro ⟨i, k, found, rfl⟩
    refine ⟨(k.text, items[2 * i + 1]?.getD .null), List.mem_of_getElem? (i := i) ?_, rfl⟩
    rw [getElem?_couples, found, Option.map_some]

/-- The last pair of a name gives its value. -/
theorem get?_object_of_last (found : items[2 * i]? = some k) (named : k.text = name)
    (last : ∀ j l, i < j → items[2 * j]? = some l → l.text ≠ name) :
    Record.get? (object (.arr items)) name = some (items[2 * i + 1]?.getD .null) := by
  rw [object]
  apply Record.get?_ofList_of_last (i := i)
  · rw [getElem?_couples, found, Option.map_some, named]
  · intro j f later present
    rw [getElem?_couples] at present
    obtain ⟨l, behind, rfl⟩ := Option.map_eq_some_iff.mp present
    exact last j l later behind

end Building

/-- Objects can be taken apart and rebuilt. From its flat list an object, its names ascending, is
built again; its names and values interleaved are the flat list, and its pairs are the flat list two
by two. The object of any array has the texts of the items at odd positions, counted from one, as
its names, and under each of them the item behind the last such position, null if there is none. -/
theorem object_taken_apart_and_rebuilt :
    (∀ fields : Record Value, fields.Sorted →
      ListFunction.object.apply [(ListFunction.array.apply [.obj fields]).value] =
        { value := .obj fields }) ∧
    (∀ fields : Record Value,
      ListFunction.interleave.apply [(ListFunction.keys.apply [.obj fields]).value,
          (ListFunction.values.apply [.obj fields]).value] =
        ListFunction.array.apply [.obj fields] ∧
      ∃ pairs : List (Value × Value),
        ListFunction.pairs.apply [.obj fields] =
          { value := .arr (pairs.map fun p => .arr [p.1, p.2]) } ∧
        ListFunction.array.apply [.obj fields] =
          { value := .arr (pairs.flatMap fun p => [p.1, p.2]) }) ∧
    ∀ items : List Value, ∃ fields : Record Value,
      ListFunction.object.apply [.arr items] = { value := .obj fields } ∧
      fields.Sorted ∧
      (∀ name, name ∈ fields.names ↔ ∃ i k, items[2 * i]? = some k ∧ k.text = name) ∧
      ∀ name i k, items[2 * i]? = some k → k.text = name →
        (∀ j l, i < j → items[2 * j]? = some l → l.text ≠ name) →
        BinaryOperator.arrayIndex.apply (.obj fields) (.str name) =
          { value := items[2 * i + 1]?.getD .null } := by
  refine ⟨fun fields sorted => ?_, fun fields => ⟨?_, ?_⟩, fun items => ?_⟩
  · exact congrArg (fun fields => ({ value := .obj fields } : Reply)) (object_unfold sorted)
  · exact congrArg (fun items => ({ value := .arr items } : Reply)) (interleave_names_values fields)
  · refine ⟨fields.map fun f => (.str f.1, f.2), ?_, ?_⟩
    · rw [List.map_map]
      exact congrArg (fun items => ({ value := .arr items } : Reply)) (pairs_obj fields)
    · rw [List.flatMap_map]
      rfl
  · refine ⟨object (.arr items), rfl, Record.sorted_ofList _, fun name => mem_names_object, ?_⟩
    intro name i k found named last
    change (⟨(Record.get? (object (.arr items)) (Value.text (.str name))).getD .null, []⟩ : Reply) = _
    rw [Value.text, get?_object_of_last found named last, Option.getD_some]

/-- Nested values on the one hand, a name given three times and the last time without a value on the
other. -/
theorem object_taken_apart_and_rebuilt_dangling :
    Record.Sorted [("a", Value.obj [("x", .null)]), ("b", .arr [.null])] ∧
    ListFunction.object.apply
        [(ListFunction.array.apply [.obj [("a", .obj [("x", .null)]), ("b", .arr [.null])]]).value] =
      { value := .obj [("a", .obj [("x", .null)]), ("b", .arr [.null])] } ∧
    ∃ fields, ListFunction.object.apply [.arr [.bool true, .str "x", .str "1", .str "y", .bool true]] =
        { value := .obj fields } ∧
      "1" ∈ Record.names fields ∧
      BinaryOperator.arrayIndex.apply (.obj fields) (.str "1") = { value := .null } := by
  have sorted : Record.Sorted [("a", Value.obj [("x", .null)]), ("b", .arr [.null])] :=
    List.pairwise_pair.mpr (by decide)
  obtain ⟨rebuilt, -, building⟩ := object_taken_apart_and_rebuilt
  obtain ⟨fields, built, -, names, index⟩ :=
    building [.bool true, .str "x", .str "1", .str "y", .bool true]
  refine ⟨sorted, rebuilt _ sorted, fields, built, (names "1").mpr ⟨0, _, rfl, rfl⟩, ?_⟩
  refine index "1" 2 (.bool true) rfl rfl fun j l later present => ?_
  have within := (List.getElem?_eq_some_iff.mp present).1
  simp only [List.length_cons, List.length_nil] at within
  omega

end Lists

end StackVM
