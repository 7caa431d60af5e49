import StackVM.Builtin.Operator
import StackVM.Proofs.Machine.Insertion
import StackVM.Proofs.Sequence.Position

/-! # One index, one item

Reading an item, replacing it, deleting it and inserting at a path of one step look for the item in
four ways. They agree: a number addresses at most one item, all of them work on that one, and each
of them refuses a number that addresses none.
-/

namespace StackVM.Lists

open Sequence (Addresses)

variable {items : List Value} {n : Double} {v path : Value} {i : Nat}

section Changing

variable {action : String} {position : Int} {limit : Nat} {change : Nat → List Value}

theorem changeAt_of_index (found : Sequence.index? position items.length = some i) (within : i < limit) :
    changeAt action position items limit change = { value := .arr (change i) } := by
  have nonzero : position ≠ 0 := by
    rintro rfl
    rcases Sequence.index?_eq_some_iff.mp found with counted | counted <;> omega
  simp only [changeAt, if_neg nonzero, found, Option.filter_some, decide_eq_true within]
  rfl

private theorem changeAt_outside
    (outside : ∀ i, Sequence.index? position items.length = some i → limit ≤ i) :
    ∃ warning, changeAt action position items limit change =
      { value := .arr items, warnings := [warning] } := by
  unfold changeAt
  split_ifs with zero
  · exact ⟨_, rfl⟩
  · cases found : (Sequence.index? position items.length).filter (· < limit) with
    | none => exact ⟨_, rfl⟩
    | some i =>
      obtain ⟨indexed, within⟩ := Option.filter_eq_some_iff.mp found
      exact absurd (of_decide_eq_true within) (Nat.not_lt.mpr (outside i indexed))

end Changing

section Builtins

private theorem index?_of_addresses {position : Int}
    (addresses : Addresses position items.length i) :
    Sequence.index? position items.length = some i := by
  unfold Sequence.Addresses at addresses
  rw [Sequence.index?_eq_some_iff]
  omega

private theorem le_of_not_addressed {position : Int}
    (missing : ¬ ∃ i, Addresses position items.length i)
    (found : Sequence.index? position items.length = some i) : items.length ≤ i := by
  rw [Sequence.index?_eq_some_iff] at found
  rw [← Nat.not_lt]
  intro within
  exact missing ⟨i, within, found.imp_right And.left⟩

private theorem arrayIndex_of_addresses
    (addresses : Addresses (Number.toInt n.toFloat) items.length i)
    (found : items[i]? = some v) :
    BinaryOperator.arrayIndex.apply (.arr items) (.num n) = { value := v } := by
  have occupied := Sequence.occupied?_eq_some_iff.mpr addresses
  -- unfolding by `delta` leaves the truncation of the number alone
  have indexed : Operators.indexIn (.num n) items.length true = (some i, []) := by
    delta Operators.indexIn
    dsimp only
    rw [occupied]
  change Operators.element (.arr items) (.num n) = _
  simp only [Operators.element, indexed, Option.bind_some, found, Option.getD_some]

private theorem arrayIndex_outside
    (missing : ¬ ∃ i, Addresses (Number.toInt n.toFloat) items.length i) :
    ∃ warning, BinaryOperator.arrayIndex.apply (.arr items) (.num n) =
      { value := .null, warnings := [warning] } := by
  have free : Sequence.occupied? (Number.toInt n.toFloat) items.length = none := by
    rw [Option.eq_none_iff_forall_ne_some]
    intro i found
    exact missing ⟨i, Sequence.occupied?_eq_some_iff.mp found⟩
  have warned : ∃ warning, Operators.indexIn (.num n) items.length true = (none, [warning]) := by
    delta Operators.indexIn
    dsimp only
    rw [free]
    dsimp only
    rw [if_pos rfl]
    split_ifs
    · exact ⟨_, rfl⟩
    · exact ⟨_, rfl⟩
  obtain ⟨warning, indexed⟩ := warned
  refine ⟨warning, ?_⟩
  change Operators.element (.arr items) (.num n) = _
  simp only [Operators.element, indexed, Option.bind_none, Option.getD_none]

private theorem update_outside (missing : ¬ ∃ i, Addresses (Number.toInt n.toFloat) items.length i)
    (v : Value) :
    ∃ warning, ListFunction.update.apply [.arr items, .num n, v] =
      { value := .arr items, warnings := [warning] } :=
  changeAt_outside fun _ => le_of_not_addressed missing

private theorem delete_outside
    (missing : ¬ ∃ i, Addresses (Number.toInt n.toFloat) items.length i) :
    ∃ warning, ListFunction.delete.apply [.arr items, .num n] =
      { value := .arr items, warnings := [warning] } :=
  changeAt_outside fun _ => le_of_not_addressed missing

end Builtins

section Variables

/-- A path of one step ends at an item that the step addresses, or behind the last one. -/
theorem resolves_single {step : Value} {cursor : Value.Cursor}
    (resolves : Value.Resolves (.arr items) [step] cursor) :
    (∃ i, Addresses step.toInt items.length i ∧ cursor = [.item i]) ∨ cursor = [.behind] := by
  cases resolves with
  | @item _ _ _ _ i _ points found inside =>
    cases inside
    have within : i < items.length := (List.getElem?_eq_some_iff.mp found).1
    exact .inl ⟨i, ⟨within, points.imp_right And.left⟩, rfl⟩
  | behind points => exact .inr rfl

private theorem inserted_of_addresses (single : path.toList = [.num n])
    (addresses : Addresses (Number.toInt n.toFloat) items.length i) :
    Variables.inserted (.arr items) path v = .ok (.arr (items.set i v)) := by
  have points : (Value.num n).PointsTo items.length i := by
    rcases addresses.2 with counted | counted
    · exact .inl counted
    · exact .inr ⟨counted, addresses.1⟩
  have found := List.getElem?_eq_getElem addresses.1
  have resolved := Value.resolve_of_resolves (.item points found (.here _))
  rw [Variables.inserted_of_steps (by simp [single]), single, resolved]
  simp only [Value.rebuild_item found, Value.rebuild_nil]

private theorem inserted_outside (single : path.toList = [.num n])
    (missing : ¬ ∃ i, Addresses (Number.toInt n.toFloat) items.length i) {now : Value}
    (done : Variables.inserted (.arr items) path v = .ok now) : now = .arr (items ++ [v]) := by
  rw [Variables.inserted_of_steps (by simp [single]), single] at done
  cases resolved : Value.resolve (.arr items) [.num n] with
  | error miss =>
    rw [resolved] at done
    cases miss <;> cases done
  | ok cursor =>
    rw [resolved] at done
    rcases resolves_single (Value.resolve_eq_ok_iff.mp resolved) with ⟨i, addresses, -⟩ | rfl
    · exact absurd ⟨i, addresses⟩ missing
    · cases done
      rfl

/-- The insertion puts the value in place of an item of the array that the variable holds. -/
def Overwrites (vars : Variables) (name : String) (path v : Value) (items : List Value) : Prop :=
  ∃ i, i < items.length ∧ vars.insertInto name path v = .ok (vars.set name (.arr (items.set i v)))

private theorem insertInto_of_addresses {vars : Variables} {name : String}
    (holds : Record.get? vars.store name = some (.arr items)) (single : path.toList = [.num n])
    (addresses : Addresses (Number.toInt n.toFloat) items.length i) :
    vars.insertInto name path v = .ok (vars.set name (.arr (items.set i v))) := by
  rw [Variables.insertInto_eq holds rfl, inserted_of_addresses single addresses]
  rfl

private theorem overwrites_iff {vars : Variables} {name : String}
    (holds : Record.get? vars.store name = some (.arr items)) (single : path.toList = [.num n]) :
    Overwrites vars name path v items ↔ ∃ i, Addresses (Number.toInt n.toFloat) items.length i := by
  constructor
  · rintro ⟨i, -, overwritten⟩
    by_contra missing
    obtain ⟨target, now, held, -, written, same⟩ := Variables.insertInto_eq_ok overwritten
    cases holds.symm.trans held
    have stored := congrArg (fun vars => Record.get? vars.store name) same
    simp only [Variables.set, Record.get?_insert, if_true] at stored
    -- the insertion has appended, so the array has become longer
    rw [inserted_outside single missing written] at stored
    have lengths := congrArg (fun v => v.map fun w => w.toList.length) stored
    simp [Value.toList] at lengths
  · rintro ⟨i, addresses⟩
    exact ⟨i, addresses.1, insertInto_of_addresses holds single addresses⟩

end Variables

/-- Reading, replacing, deleting and inserting with a number all work on the item `i`. -/
structure ActsAt (items : List Value) (n : Double) (i : Nat) : Prop where
  within : i < items.length
  finds : BinaryOperator.arrayIndex.apply (.arr items) (.num n) = { value := items[i] }
  updates : ∀ v, ListFunction.update.apply [.arr items, .num n, v] =
    { value := .arr (items.set i v) }
  deletes : ListFunction.delete.apply [.arr items, .num n] = { value := .arr (items.eraseIdx i) }
  overwrites : ∀ vars name path v, Record.get? vars.store name = some (.arr items) →
    path.toList = [.num n] →
    Variables.insertInto vars name path v = .ok (vars.set name (.arr (items.set i v)))
  readsBack : ∀ v, BinaryOperator.arrayIndex.apply (.arr (items.set i v)) (.num n) = { value := v }
  keepsOthers : ∀ v j, j ≠ i → (items.set i v)[j]? = items[j]?

theorem actsAt_of_addresses (addresses : Addresses (Number.toInt n.toFloat) items.length i) :
    ActsAt items n i where
  within := addresses.1
  finds := arrayIndex_of_addresses addresses (List.getElem?_eq_getElem addresses.1)
  updates v := changeAt_of_index (index?_of_addresses addresses) addresses.1
  deletes := changeAt_of_index (index?_of_addresses addresses) addresses.1
  overwrites vars name path v holds single := insertInto_of_addresses holds single addresses
  readsBack v := by
    have same : Addresses (Number.toInt n.toFloat) (items.set i v).length i := by
      rwa [List.length_set]
    exact arrayIndex_of_addresses same (List.getElem?_set_self addresses.1)
  keepsOthers v j apart := List.getElem?_set_ne apart.symm

/-- A builtin that acts in silence or refuses with a warning is silent exactly when it acts. -/
theorem silent_iff {reply : Reply} {acts : Prop} (silent : acts → ∃ w, reply = { value := w })
    (warns : ¬ acts → ∃ warning w, reply = { value := w, warnings := [warning] }) :
    reply.warnings = [] ↔ acts := by
  by_cases acting : acts
  · obtain ⟨w, rfl⟩ := silent acting
    exact iff_of_true rfl acting
  · obtain ⟨warning, w, rfl⟩ := warns acting
    exact iff_of_false (List.cons_ne_nil warning []) acting

/-- All index resolvers agree. Reading an item, replacing it and deleting it give no warning, and
inserting at a path of one step overwrites an item, exactly if the number addresses an item, and then
they all work on this one. Otherwise replacing and deleting leave the array as it is, with one
warning. Computed in words, the two searches for the item never overflow. -/
theorem index_resolvers_agree (items : List Value) (n : Double) :
    let addressed := ∃ i, Addresses (Number.toInt n.toFloat) items.length i
    ((BinaryOperator.arrayIndex.apply (.arr items) (.num n)).warnings = [] ↔ addressed) ∧
    (∀ v, (ListFunction.update.apply [.arr items, .num n, v]).warnings = [] ↔ addressed) ∧
    ((ListFunction.delete.apply [.arr items, .num n]).warnings = [] ↔ addressed) ∧
    (∀ vars name path v, Record.get? vars.store name = some (.arr items) → path.toList = [.num n] →
      (Overwrites vars name path v items ↔ addressed)) ∧
    (∀ i, Addresses (Number.toInt n.toFloat) items.length i → ActsAt items n i) ∧
    (¬ addressed →
      (∀ v, ∃ warning, ListFunction.update.apply [.arr items, .num n, v] =
        { value := .arr items, warnings := [warning] }) ∧
      ∃ warning, ListFunction.delete.apply [.arr items, .num n] =
        { value := .arr items, warnings := [warning] }) ∧
    (Sequence.FitsWord items.length → ∃ occupied index,
      Sequence.wordOccupied? (Number.toInt n.toFloat) items.length = some occupied ∧
      Sequence.wordIndex? (Number.toInt n.toFloat) items.length = some index ∧
      ∀ i, (occupied = some i ↔ Addresses (Number.toInt n.toFloat) items.length i) ∧
        (index = some i ∧ i < items.length ↔ Addresses (Number.toInt n.toFloat) items.length i)) := by
  intro addressed
  refine ⟨silent_iff ?_ ?_, fun v => silent_iff ?_ ?_, silent_iff ?_ ?_, ?_, fun i => actsAt_of_addresses,
    fun missing => ⟨update_outside missing, delete_outside missing⟩, fun small => ?_⟩
  · rintro ⟨i, addresses⟩
    exact ⟨_, (actsAt_of_addresses addresses).finds⟩
  · intro missing
    exact (arrayIndex_outside missing).imp fun warning refused => ⟨_, refused⟩
  · rintro ⟨i, addresses⟩
    exact ⟨_, (actsAt_of_addresses addresses).updates v⟩
  · intro missing
    exact (update_outside missing v).imp fun warning refused => ⟨_, refused⟩
  · rintro ⟨i, addresses⟩
    exact ⟨_, (actsAt_of_addresses addresses).deletes⟩
  · intro missing
    exact (delete_outside missing).imp fun warning refused => ⟨_, refused⟩
  · exact fun vars name path v holds single => overwrites_iff holds single
  · refine ⟨_, _, Sequence.wordOccupied?_eq (Sequence.fitsWord_toInt n.toFloat) small,
      Sequence.wordIndex?_eq (Sequence.fitsWord_toInt n.toFloat) small, fun i => ⟨?_, ?_⟩⟩
    · exact Sequence.occupied?_eq_some_iff
    · rw [Sequence.index?_eq_some_iff, Sequence.Addresses]
      omega

/-- Three texts, held by a variable. -/
def letters : List Value := [.str "a", .str "b", .str "c"]

theorem index_resolvers_agree_letters :
    Addresses (Number.toInt (-2.5)) letters.length 1 ∧
    ListFunction.update.apply [.arr letters, .num (-2.5 : Float), .null] =
      { value := .arr [.str "a", .null, .str "c"] } ∧
    Variables.insertInto { store := [("x", .arr letters)] } "x" (.arr [.num (-2.5 : Float)]) .null =
      .ok { store := [("x", .arr [.str "a", .null, .str "c"])] } ∧
    Overwrites { store := [("x", .arr letters)] } "x" (.num (-2.5 : Float)) .null letters ∧
    (¬ ∃ i, Addresses (Number.toInt Number.nan) letters.length i) ∧
    (∃ warning, ListFunction.delete.apply [.arr letters, .num Number.nan] =
      { value := .arr letters, warnings := [warning] }) ∧
    ∃ index, Sequence.wordIndex? (Number.toInt (-2.5)) 3 = some index := by
  have second : Addresses (Number.toInt (-2.5)) letters.length 1 := by
    have truncated : Number.toInt (-2.5) = -2 := rfl
    rw [truncated]
    decide
  have missing : ¬ ∃ i, Addresses (Number.toInt Number.nan) letters.length i := by
    have truncated : Number.toInt Number.nan = 0 := rfl
    rintro ⟨i, addresses⟩
    exact addresses.position_ne_zero truncated
  obtain ⟨-, -, -, overwrites, acts, -, words⟩ := index_resolvers_agree letters (-2.5 : Float)
  obtain ⟨-, -, -, -, -, refuses, -⟩ := index_resolvers_agree letters Number.nan
  obtain ⟨occupied, index, -, found, -⟩ := words (by decide)
  exact ⟨second, (acts 1 second).updates .null, (acts 1 second).overwrites _ _ _ _ rfl rfl,
    (overwrites _ _ _ _ rfl rfl).mpr ⟨1, second⟩, missing, (refuses missing).2, index, found⟩

end StackVM.Lists
