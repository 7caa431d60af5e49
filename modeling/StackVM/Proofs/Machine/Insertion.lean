import StackVM.Proofs.Machine.Segment
import StackVM.Proofs.Value.Place

/-! # Inserting into a variable

An insertion is refused or done as a whole. `Accepts` says when it is done: the variable is there and
can hold something, and the path leads through existing items and fields to a container that takes a
value at its last step. A refusal leaves the variables as they are, and an insertion changes the
value of one variable only.
-/

namespace StackVM

namespace Value

variable {v w step last : Value} {init : List Value}

/-- The steps lead through existing items and fields from one value to another. -/
inductive Leads : Value → List Value → Value → Prop
  | here (v : Value) : Leads v [] v
  | item {items : List Value} {step v w : Value} {rest : List Value} {i : Nat}
    (points : step.PointsTo items.length i) (found : items[i]? = some v)
    (onwards : Leads v rest w) : Leads (.arr items) (step :: rest) w
  | field {fields : List (String × Value)} {step v w : Value} {rest : List Value}
    (found : Record.get? fields step.text = some v) (onwards : Leads v rest w) :
    Leads (.obj fields) (step :: rest) w

/-- The container takes a value at a step: an array at an item or behind the last one, a record
anywhere and a text at a character. -/
def Takes : Value → Value → Prop
  | .arr items, step => ∃ i, i ≤ items.length ∧ step.PointsTo items.length i
  | .obj _, _ => True
  | .str s, step => ∃ i, i < s.length ∧ step.PointsTo s.length i
  | _, _ => False

theorem Takes.resolves (takes : v.Takes last) : ∃ cursor, Resolves v [last] cursor := by
  cases v with
  | arr items =>
    obtain ⟨i, within, points⟩ := takes
    rcases Nat.lt_or_eq_of_le within with inside | rfl
    · exact ⟨_, .item points (List.getElem?_eq_getElem inside) (.here _)⟩
    · exact ⟨_, .behind points⟩
  | obj fields => exact ⟨_, .lastField fields last⟩
  | str s =>
    obtain ⟨i, within, points⟩ := takes
    exact ⟨_, .char points within⟩
  | _ => exact takes.elim

theorem Resolves.takes {cursor : Cursor} (resolves : Resolves v [last] cursor) : v.Takes last := by
  cases resolves with
  | item points found inside =>
    exact ⟨_, Nat.le_of_lt (List.getElem?_eq_some_iff.mp found).1, points⟩
  | behind points => exact ⟨_, Nat.le_refl _, points⟩
  | field found more inside => exact absurd rfl more
  | lastField fields step => trivial
  | char points within => exact ⟨_, within, points⟩

/-- A path has a cursor if all steps but the last lead to a container that takes the last one. -/
theorem exists_resolves_iff :
    (∃ cursor, Resolves v (init ++ [last]) cursor) ↔ ∃ w, v.Leads init w ∧ w.Takes last := by
  constructor
  · rintro ⟨cursor, resolves⟩
    induction init generalizing v cursor with
    | nil => exact ⟨v, .here v, resolves.takes⟩
    | cons step init ih =>
      have more : init ++ [last] ≠ [] := List.append_ne_nil_of_right_ne_nil init (List.cons_ne_nil last [])
      rw [List.cons_append] at resolves
      generalize tail : init ++ [last] = rest at resolves more
      cases resolves with
      | item points found inside =>
        obtain ⟨w, leads, takes⟩ := ih _ (tail ▸ inside)
        exact ⟨w, .item points found leads, takes⟩
      | field found _ inside =>
        obtain ⟨w, leads, takes⟩ := ih _ (tail ▸ inside)
        exact ⟨w, .field found leads, takes⟩
      | behind points => exact absurd rfl more
      | lastField fields step => exact absurd rfl more
      | char points within => exact absurd rfl more
  · rintro ⟨w, leads, takes⟩
    induction leads with
    | here v => exact takes.resolves
    | item points found onwards ih =>
      obtain ⟨cursor, inside⟩ := ih takes
      exact ⟨_, .item points found inside⟩
    | field found onwards ih =>
      obtain ⟨cursor, inside⟩ := ih takes
      exact ⟨_, .field found (List.append_ne_nil_of_right_ne_nil _ (List.cons_ne_nil last [])) inside⟩

end Value

namespace Variables

variable {vars done : Variables} {name : String} {path new target : Value}

/-- The path leads to a place of the value: null appends to an array or a text, an empty path leads
to the value itself, and any other path leads to a container that takes its last step. -/
def Reaches (target path : Value) : Prop :=
  path = .null ∧ (∀ fields, target ≠ .obj fields) ∨
  (path = .arr [] ∨ path = .obj []) ∨
  ∃ init last container, path.toList = init ++ [last] ∧
    target.Leads init container ∧ container.Takes last

/-- The variable exists, can hold something, and the path leads to a place of its value. -/
def Accepts (vars : Variables) (name : String) (path : Value) : Prop :=
  ∃ target, vars.store.get? name = some target ∧ isIterable target = true ∧ Reaches target path

theorem toList_eq_nil_iff : path.toList = [] ↔ path = .null ∨ path = .arr [] ∨ path = .obj [] := by
  cases path with
  | obj fields => cases fields <;> simp [Value.toList, Value.unfold]
  | _ => simp [Value.toList]

private theorem exists_append_iff (iterable : isIterable target = true) :
    (∃ v, append target new = .ok v) ↔ ∀ fields, target ≠ .obj fields := by
  cases target with
  | arr items => simp [append]
  | obj fields => simp [append]
  | str s => simp [append]
  | _ => cases iterable

private theorem inserted_of_empty (empty : path = .arr [] ∨ path = .obj []) :
    inserted target path new = .ok target := by
  rcases empty with rfl | rfl
  · rfl
  · rfl

theorem inserted_of_steps (steps : path.toList ≠ []) :
    inserted target path new =
      match target.resolve path.toList with
      | .ok cursor => .ok (target.rebuild cursor new)
      | .error .zeroIndex => .error .zeroIndex
      | .error .unresolved => .error .outOfRange := by
  have visible : path.isNull = false := by
    cases path with
    | null => exact absurd rfl steps
    | _ => rfl
  obtain ⟨step, rest, written⟩ := List.exists_cons_of_ne_nil steps
  simp only [inserted, visible, written]
  rfl

private theorem exists_inserted_iff_resolves (steps : path.toList ≠ []) :
    (∃ v, inserted target path new = .ok v) ↔ ∃ cursor, target.Resolves path.toList cursor := by
  simp only [inserted_of_steps steps, ← Value.resolve_eq_ok_iff]
  cases target.resolve path.toList with
  | ok cursor => simp
  | error miss => cases miss <;> simp

private theorem exists_inserted_iff (iterable : isIterable target = true) :
    (∃ v, inserted target path new = .ok v) ↔ Reaches target path := by
  by_cases steps : path.toList = []
  · rcases toList_eq_nil_iff.mp steps with rfl | empty
    · refine (exists_append_iff iterable).trans ⟨fun takes => .inl ⟨rfl, takes⟩, ?_⟩
      rintro (⟨-, takes⟩ | (empty | empty) | ⟨init, last, container, written, -⟩)
      · exact takes
      · cases empty
      · cases empty
      · exact absurd written.symm (List.append_ne_nil_of_right_ne_nil init (List.cons_ne_nil last []))
    · exact iff_of_true ⟨target, inserted_of_empty empty⟩ (.inr (.inl empty))
  · obtain ⟨init, last, written⟩ : ∃ init last, path.toList = init ++ [last] :=
      ⟨_, _, (List.dropLast_append_getLast steps).symm⟩
    rw [exists_inserted_iff_resolves steps, written, Value.exists_resolves_iff]
    constructor
    · rintro ⟨container, leads, takes⟩
      exact .inr (.inr ⟨init, last, container, written, leads, takes⟩)
    · rintro (⟨rfl, -⟩ | empty | ⟨init', last', container, same, leads, takes⟩)
      · exact absurd rfl steps
      · exact absurd (toList_eq_nil_iff.mpr (.inr empty)) steps
      · obtain ⟨rfl, ends⟩ := List.append_inj' (written.symm.trans same) rfl
        cases ends
        exact ⟨container, leads, takes⟩

theorem insertInto_eq (found : vars.store.get? name = some target) (iterable : isIterable target = true) :
    vars.insertInto name path new = (inserted target path new).map (vars.set name) := by
  simp only [insertInto, found, iterable]
  cases inserted target path new with
  | error e => rfl
  | ok v => rfl

/-- An insertion that succeeds sets the variable, which existed, to the value it has inserted into. -/
theorem insertInto_eq_ok (inserts : vars.insertInto name path new = .ok done) :
    ∃ target v, vars.store.get? name = some target ∧ isIterable target = true ∧
      inserted target path new = .ok v ∧ done = vars.set name v := by
  cases found : vars.store.get? name with
  | none =>
    simp only [insertInto, found] at inserts
    cases inserts
  | some target =>
    cases iterable : isIterable target with
    | false =>
      simp only [insertInto, found, iterable] at inserts
      cases inserts
    | true =>
      rw [insertInto_eq found iterable] at inserts
      cases written : inserted target path new with
      | error e =>
        rw [written] at inserts
        cases inserts
      | ok v =>
        rw [written] at inserts
        cases inserts
        exact ⟨target, v, rfl, iterable, written, rfl⟩

/-- An insertion succeeds exactly if the variable accepts the path. -/
theorem exists_insertInto_iff :
    (∃ done, vars.insertInto name path new = .ok done) ↔ vars.Accepts name path := by
  constructor
  · rintro ⟨done, inserts⟩
    obtain ⟨target, v, found, iterable, written, -⟩ := insertInto_eq_ok inserts
    exact ⟨target, found, iterable, (exists_inserted_iff iterable).mp ⟨v, written⟩⟩
  · rintro ⟨target, found, iterable, reaches⟩
    obtain ⟨v, written⟩ := (exists_inserted_iff iterable).mpr reaches
    exact ⟨_, (insertInto_eq found iterable).trans (by rw [written]; rfl)⟩

end Variables

namespace Machine

variable {vars : Variables} {name : String} {path new : Value}

/-- The variables after the instruction are those of the insertion, or the same if it is refused. -/
theorem execute_variableInsert_vars {m : Machine} {rest : Stack} (s : Settings) (i : Instruction)
    (stacked : m.stack = new :: path :: .str name :: rest) :
    (m.execute s .variableInsert i).machine.vars =
      match m.vars.insertInto name path new with
      | .ok done => done
      | .error _ => m.vars := by
  simp only [execute, insertVariable, stacked, Stack.peek, Stack.below, List.headD_cons, List.tail_cons,
    Value.text]
  cases m.vars.insertInto name path new with
  | ok done => rfl
  | error e =>
    obtain ⟨world, warnings, warned⟩ := warn_changes s { m with stack := rest } i.line (e.message name)
    change (warn s { m with stack := rest } i.line (e.message name)).vars = m.vars
    rw [warned]

/-- Inserting into a variable is atomic and local. If it is refused, the variables stay as they are.
If it is done, the same variables exist and all others keep their values; an empty path changes none.
It is done exactly if the variable exists and holds an array, a record or a text, and the path is
null and the variable no record, or the path is empty, or all its steps but the last lead to existing
items and fields and the last to an item or behind the last one, to any field, or to a character. -/
theorem insertion_atomic_local (vars : Variables) (name : String) (path new : Value) (s : Settings)
    (i : Instruction) (m : Machine) :
    let before : Machine := { m with vars, stack := new :: path :: .str name :: m.stack }
    let after := (before.execute s .variableInsert i).machine.vars
    (∀ e, vars.insertInto name path new = .error e → after = vars) ∧
    (∀ done, vars.insertInto name path new = .ok done →
      after = done ∧ done.version = vars.version ∧ done.arguments = vars.arguments ∧
      (∀ other, done.has other = vars.has other) ∧
      (∀ other, other ≠ name → done.store.get? other = vars.store.get? other) ∧
      (path = .arr [] ∨ path = .obj [] → ∀ other, done.store.get? other = vars.store.get? other)) ∧
    ((∃ done, vars.insertInto name path new = .ok done) ↔ vars.Accepts name path) := by
  intro before after
  have stacked : before.stack = new :: path :: .str name :: m.stack := rfl
  have result := execute_variableInsert_vars s i stacked
  refine ⟨fun e refused => ?_, fun done inserts => ?_, Variables.exists_insertInto_iff⟩
  · change before.vars.insertInto name path new = .error e at refused
    rwa [refused] at result
  · obtain ⟨target, v, found, iterable, written, rfl⟩ := Variables.insertInto_eq_ok inserts
    have others (other : String) (differs : other ≠ name) :
        (vars.set name v).store.get? other = vars.store.get? other := by
      rw [Variables.set, Record.get?_insert, if_neg differs.symm]
    have self : (vars.set name v).store.get? name = some v := by
      rw [Variables.set, Record.get?_insert, if_pos rfl]
    refine ⟨?_, rfl, rfl, fun other => ?_, others, fun empty other => ?_⟩
    · change before.vars.insertInto name path new = .ok _ at inserts
      rwa [inserts] at result
    · rw [Variables.has, Variables.has, Record.has, Record.has]
      by_cases same : other = name
      · rw [same, self, found]
        rfl
      · rw [others other same]
    · by_cases same : other = name
      · rw [Variables.inserted_of_empty empty] at written
        cases written
        rw [same, self, found]
      · exact others other same

/-- A list inside a record, a number and a text. -/
def cupboard : Variables where
  store := [("box", .obj [("list", .arr [.num 1, .str "ab"])]), ("n", .num 3), ("word", .str "cat")]

/-- The last character of a text deep inside is there to write; a number takes nothing. -/
theorem insertion_atomic_local_cupboard :
    cupboard.Accepts "box" (.arr [.str "list", .num 2, .num (-1)]) ∧
      (execute { program := {} } .variableInsert ⟨18, 0, 0, 1⟩
        { idle with vars := cupboard, stack := [.bool true, .num 1, .str "n"] }).machine.vars =
        cupboard := by
  obtain ⟨-, -, accepted⟩ := insertion_atomic_local cupboard "box"
    (.arr [.str "list", .num 2, .num (-1)]) (.str "c") { program := {} } ⟨18, 0, 0, 1⟩ idle
  obtain ⟨refused, -⟩ := insertion_atomic_local cupboard "n" (.num 1) (.bool true)
    { program := {} } ⟨18, 0, 0, 1⟩ idle
  exact ⟨accepted.mp ⟨_, rfl⟩, refused .notIterable rfl⟩

end Machine

end StackVM
