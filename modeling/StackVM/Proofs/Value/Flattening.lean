import StackVM.Builtin.ListFunction
import StackVM.Machine.Command
import StackVM.Proofs.Shell.Quoting

/-! # Flattening values

The words of a value and its flattening come from two recursions: one treats records as it meets
them, the other replaces them by lists of names and values first. Both visit the same scalars and
names in the same order, so what a command writes or hands to a shell is the text of the flattened
arguments.
-/

namespace StackVM

namespace Value

variable {s v : Value} {items more : List Value} {fields : List (String × Value)}

section Scalars

/-- A truth value, a number or a text. -/
def IsScalar : Value → Prop
  | .bool _ | .num _ | .str _ => True
  | _ => False

/-- A scalar or a name that stands somewhere in a value. -/
inductive Within : Value → Value → Prop
  | scalar {s : Value} (scalar : s.IsScalar) : Within s s
  | item {s v : Value} {items : List Value} (member : v ∈ items) (within : Within s v) :
    Within s (.arr items)
  | name {f : String × Value} {fields : List (String × Value)} (member : f ∈ fields) :
    Within (.str f.1) (.obj fields)
  | field {s : Value} {f : String × Value} {fields : List (String × Value)} (member : f ∈ fields)
    (within : Within s f.2) : Within s (.obj fields)

private theorem isScalar_of_other (null : v ≠ .null) (arr : ∀ items, v ≠ .arr items)
    (obj : ∀ fields, v ≠ .obj fields) : v.IsScalar := by
  cases v with
  | null => exact absurd rfl null
  | arr items => exact absurd rfl (arr items)
  | obj fields => exact absurd rfl (obj fields)
  | bool b => trivial
  | num x => trivial
  | str s => trivial

private theorem within_iff_eq (scalar : v.IsScalar) : Within s v ↔ s = v := by
  constructor
  · rintro (_ | _ | _ | _)
    · rfl
    all_goals exact scalar.elim
  · rintro rfl
    exact .scalar scalar

private theorem not_within_null : ¬ Within s .null := by
  rintro (scalar | _)
  exact scalar.elim

private theorem within_arr_iff : Within s (.arr items) ↔ ∃ v ∈ items, Within s v := by
  constructor
  · rintro (scalar | ⟨member, within⟩ | _ | _)
    · exact scalar.elim
    · exact ⟨_, member, within⟩
  · rintro ⟨v, member, within⟩
    exact .item member within

private theorem Within.isScalar (within : Within s v) : s.IsScalar := by
  induction within with
  | scalar scalar => exact scalar
  | item _ _ ih => exact ih
  | name => trivial
  | field _ _ ih => exact ih

/-- A record holds what the list of its names and values holds. -/
theorem within_obj_iff : Within s (.obj fields) ↔ ∃ v ∈ unfold fields, Within s v := by
  simp only [unfold, List.mem_flatMap, List.mem_cons, List.not_mem_nil, or_false]
  constructor
  · rintro (scalar | _ | member | ⟨member, within⟩)
    · exact scalar.elim
    · exact ⟨_, ⟨_, member, .inl rfl⟩, .scalar trivial⟩
    · exact ⟨_, ⟨_, member, .inr rfl⟩, within⟩
  · rintro ⟨v, ⟨f, member, rfl | rfl⟩, within⟩
    · obtain rfl := (within_iff_eq (v := .str f.1) trivial).mp within
      exact .name member
    · exact .field member within

end Scalars

section Flattened

private theorem mem_flattenItems : s ∈ flattenItems items ↔ ∃ v ∈ items, Within s v := by
  fun_induction flattenItems items with
  | case1 => simp
  | case2 rest ih => simp [ih, not_within_null]
  | case3 inner rest ihInner ihRest =>
    rw [List.mem_append, ihInner, ihRest, List.exists_mem_cons_iff, within_arr_iff]
  | case4 fields rest ihFields ihRest =>
    rw [List.mem_append, ihFields, ihRest, List.exists_mem_cons_iff, within_obj_iff]
  | case5 scalar rest null arr obj ih =>
    rw [List.mem_cons, ih, List.exists_mem_cons_iff, within_iff_eq (isScalar_of_other null arr obj)]

private theorem isScalar_of_mem_flattenItems (member : s ∈ flattenItems items) : s.IsScalar := by
  obtain ⟨v, -, within⟩ := mem_flattenItems.mp member
  exact within.isScalar

private theorem mem_flatten : s ∈ v.flatten ↔ Within s v := by
  rw [flatten, mem_flattenItems]
  cases v with
  | null => simpa [toList] using not_within_null
  | arr items => exact within_arr_iff.symm
  | obj fields => exact within_obj_iff.symm
  | bool b => simp [toList]
  | num x => simp [toList]
  | str s => simp [toList]

private theorem flattenItems_of_scalars (scalars : ∀ s ∈ items, s.IsScalar) :
    flattenItems items = items := by
  fun_induction flattenItems items with
  | case1 => rfl
  | case2 rest ih => exact (scalars _ List.mem_cons_self).elim
  | case3 inner rest _ _ => exact (scalars _ List.mem_cons_self).elim
  | case4 fields rest _ _ => exact (scalars _ List.mem_cons_self).elim
  | case5 scalar rest _ _ _ ih =>
    rw [ih fun s member => scalars s (List.mem_cons_of_mem _ member)]

private theorem flatten_flatten (v : Value) : flatten (.arr v.flatten) = v.flatten :=
  flattenItems_of_scalars fun _ member => isScalar_of_mem_flattenItems member

end Flattened

section Words

private theorem words_of_isScalar (scalar : v.IsScalar) : v.words = [v.text] := by
  cases v with
  | null => exact scalar.elim
  | arr items => exact scalar.elim
  | obj fields => exact scalar.elim
  | bool b => simp [words]
  | num x => simp [words]
  | str s => simp [words]

private theorem wordsItems_unfold (fields : List (String × Value)) :
    wordsItems (unfold fields) = wordsFields fields := by
  induction fields with
  | nil => rfl
  | cons f rest ih =>
    change words (.str f.1) ++ (words f.2 ++ wordsItems (unfold rest)) = _
    rw [ih, words_of_isScalar (v := .str f.1) trivial, text]
    rfl

/-- The words of a value are those of the list that it stands for. -/
theorem words_eq_wordsItems (v : Value) : v.words = wordsItems v.toList := by
  cases v with
  | null => rfl
  | arr items => rw [words, toList]
  | obj fields => rw [words, toList, wordsItems_unfold]
  | bool b => simp [toList, wordsItems]
  | num x => simp [toList, wordsItems]
  | str s => simp [toList, wordsItems]

private theorem wordsItems_eq_flatMap (items : List Value) :
    wordsItems items = items.flatMap words := by
  induction items with
  | nil => rfl
  | cons v rest ih => rw [wordsItems, ih, List.flatMap_cons]

/-- The two recursions meet the same scalars and names in the same order. -/
theorem wordsItems_eq_map_text (items : List Value) :
    wordsItems items = (flattenItems items).map text := by
  -- A record is visited by one recursion as it is and by the other one as a list.
  fun_induction flattenItems items with
  | case1 => rfl
  | case2 rest ih => rw [wordsItems, words, ih, List.nil_append]
  | case3 inner rest ihInner ihRest => rw [wordsItems, words, ihInner, ihRest, List.map_append]
  | case4 fields rest ihFields ihRest =>
    rw [wordsItems, words, ← wordsItems_unfold, ihFields, ihRest, List.map_append]
  | case5 scalar rest null arr obj ih =>
    rw [wordsItems, words_of_isScalar (isScalar_of_other null arr obj), ih, List.map_cons,
      List.singleton_append]

private theorem words_eq_map_text (v : Value) : v.words = v.flatten.map text := by
  rw [words_eq_wordsItems, wordsItems_eq_map_text, flatten]

private theorem flatMap_words (arguments : List Value) :
    arguments.flatMap words = (flatten (.arr arguments)).map text := by
  rw [← wordsItems_eq_flatMap, wordsItems_eq_map_text, flatten, toList]

end Words

section Commands

variable {arguments : List Value}

private theorem argumentText_eq (arguments : List Value) :
    argumentText arguments = " ".intercalate ((flatten (.arr arguments)).map text) := by
  rw [argumentText, flatMap_words]

private theorem commandLine_eq (cooked : ∀ v ∈ arguments, ¬ Shell.IsRaw v) :
    Shell.commandLine arguments = String.ofList (Text.join [' ']
      ((flatten (.arr arguments)).map fun s => Shell.quote s.text.toList)) := by
  have quoted : arguments.flatMap Shell.argumentWords =
      arguments.flatMap fun v => v.words.map fun word => Shell.quote word.toList :=
    List.flatMap_congr fun v member => Shell.argumentWords_of_cooked (cooked v member)
  rw [Shell.commandLine, quoted, ← List.map_flatMap, flatMap_words, List.map_map]
  rfl

/-- The two flattenings agree. The words of a value are the texts of its flattening, which holds
exactly the scalars and names within the value, no nulls and no containers, and is its own
flattening. Hence a command writes the texts of its flattened arguments with blanks between, and a
shell is given the same texts in quotes, unless an argument is raw. -/
theorem flattenings_agree (v : Value) (arguments : List Value) :
    v.words = v.flatten.map text ∧
    (∀ s, s ∈ v.flatten ↔ Within s v) ∧
    (∀ s ∈ v.flatten, s.IsScalar) ∧
    ListFunction.flatten.apply [v] = Value.arr v.flatten ∧
    ListFunction.flatten.apply [.arr v.flatten] = ListFunction.flatten.apply [v] ∧
    argumentText arguments = " ".intercalate ((flatten (.arr arguments)).map text) ∧
    ((∀ a ∈ arguments, ¬ Shell.IsRaw a) →
      Shell.commandLine arguments = String.ofList (Text.join [' ']
        ((flatten (.arr arguments)).map fun s => Shell.quote s.text.toList))) := by
  refine ⟨words_eq_map_text v, fun s => mem_flatten,
    fun s member => (mem_flatten.mp member).isScalar, rfl,
    ?_, argumentText_eq arguments, commandLine_eq⟩
  exact congrArg (fun items => (Value.arr items : Reply)) (flatten_flatten v)

/-- A list that nests a record, nulls and the words of a command. -/
def nestedArguments : List Value :=
  [.str "a", .obj [("k", .arr [.null, .bool true]), ("n", .null)], .arr [.arr [.str "b c"]]]

theorem flattenings_agree_nested :
    (Value.arr nestedArguments).words = ["a", "k", "1", "n", "b c"] ∧
    Shell.commandLine nestedArguments = "'a' 'k' '1' 'n' 'b c'" := by
  have flat : (Value.arr nestedArguments).flatten =
      [.str "a", .str "k", .bool true, .str "n", .str "b c"] := by
    simp [flatten, toList, nestedArguments, flattenItems, unfold]
  have cooked : ∀ a ∈ nestedArguments, ¬ Shell.IsRaw a := by
    rintro a member ⟨x, rfl⟩
    simp [nestedArguments] at member
  obtain ⟨words, -, -, -, -, -, line⟩ :=
    flattenings_agree (.arr nestedArguments) nestedArguments
  rw [words, line cooked, flat]
  simp [text, Shell.quote, Text.join]

end Commands

end Value

end StackVM
