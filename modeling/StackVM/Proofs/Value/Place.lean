import StackVM.Proofs.Record
import StackVM.Proofs.Value.Json
import StackVM.Value.Place

/-! # A path update writes one place

`Resolves` says which cursor a path has, and `Fits` that a cursor leads through a value slot by slot.
A resolved cursor fits, so rebuilding along it never meets a slot that is not there. What it changes
is compared with `at?`, the value at a place: at the end of the cursor stands the new value, places
off the cursor keep theirs, and the containers on the way keep their slots.
-/

namespace StackVM.Value

variable {v w new root step : Value} {items steps rest : List Value}
variable {fields : List (String × Value)} {s : String} {slot : Slot} {cursor place : Cursor} {i : Nat}

section Resolving

/-- The step denotes an index of a list: it counts from one, or back from the end. -/
def PointsTo (step : Value) (length index : Nat) : Prop :=
  step.toInt = index + 1 ∨ step.toInt = (index : Int) - length ∧ index < length

private theorem stepIndex_eq_ok_iff {length : Nat} :
    step.stepIndex length = .ok i ↔ step.PointsTo length i := by
  unfold stepIndex Sequence.index? PointsTo
  generalize step.toInt = position
  by_cases zero : position = 0
  · simp only [if_pos zero, reduceCtorEq, false_iff]
    omega
  · rw [if_neg zero]
    dsimp only
    split
    · next index found =>
      split_ifs at found <;> simp only [Option.some.injEq, Except.ok.injEq] at found ⊢ <;> omega
    · next missing =>
      split_ifs at missing <;> simp only [reduceCtorEq, false_iff] <;> omega

/-- The cursor of a path. -/
inductive Resolves : Value → List Value → Cursor → Prop
  | here (v : Value) : Resolves v [] []
  | item {items : List Value} {step v : Value} {rest : List Value} {i : Nat} {cursor : Cursor}
    (points : step.PointsTo items.length i) (found : items[i]? = some v)
    (inside : Resolves v rest cursor) : Resolves (.arr items) (step :: rest) (.item i :: cursor)
  | behind {items : List Value} {step : Value} (points : step.PointsTo items.length items.length) :
    Resolves (.arr items) [step] [.behind]
  | field {fields : List (String × Value)} {step v : Value} {rest : List Value} {cursor : Cursor}
    (found : Record.get? fields step.text = some v) (more : rest ≠ [])
    (inside : Resolves v rest cursor) :
    Resolves (.obj fields) (step :: rest) (.field step.text :: cursor)
  | lastField (fields : List (String × Value)) (step : Value) :
    Resolves (.obj fields) [step] [.field step.text]
  | char {s : String} {step : Value} {i : Nat} (points : step.PointsTo s.length i)
    (within : i < s.length) : Resolves (.str s) [step] [.char i]

theorem resolve_of_resolves (resolves : Resolves v steps cursor) : v.resolve steps = .ok cursor := by
  induction resolves with
  | here v => cases v <;> rfl
  | item points found inside ih =>
    simp only [resolve, stepIndex_eq_ok_iff.mpr points, found, ih, bind, Except.bind]
    rfl
  | behind points =>
    simp [resolve, stepIndex_eq_ok_iff.mpr points, bind, Except.bind, pure, Except.pure]
  | field found more inside ih =>
    obtain ⟨next, rest, rfl⟩ := List.exists_cons_of_ne_nil more
    simp only [resolve, found, ih, bind, Except.bind]
    rfl
  | lastField fields step => rfl
  | char points within =>
    simp [resolve, stepIndex_eq_ok_iff.mpr points, within, bind, Except.bind, pure, Except.pure]

private theorem resolves_of_resolve (resolved : v.resolve steps = .ok cursor) :
    Resolves v steps cursor := by
  induction steps generalizing v cursor with
  | nil =>
    have none : v.resolve [] = .ok [] := by cases v <;> rfl
    cases none.symm.trans resolved
    exact .here v
  | cons step rest ih =>
    cases v with
    | arr items =>
      obtain ⟨i, pointed, chosen⟩ := exists_of_bind_eq_ok resolved
      have points := stepIndex_eq_ok_iff.mp pointed
      split at chosen
      · next item found =>
        obtain ⟨inner, inside, built⟩ := exists_of_bind_eq_ok chosen
        cases built
        exact .item points found (ih inside)
      · split_ifs at chosen with last
        cases chosen
        obtain ⟨rfl, rfl⟩ : rest = [] ∧ i = items.length := by simpa using last
        exact .behind points
    | obj fields =>
      simp only [resolve] at resolved
      split at resolved
      · cases resolved
        exact .lastField fields step
      · next item more found =>
        obtain ⟨inner, inside, built⟩ := exists_of_bind_eq_ok resolved
        cases built
        exact .field found more (ih inside)
      · cases resolved
    | str s =>
      cases rest with
      | nil =>
        obtain ⟨i, pointed, chosen⟩ := exists_of_bind_eq_ok resolved
        split_ifs at chosen with within
        cases chosen
        exact .char (stepIndex_eq_ok_iff.mp pointed) within
      | cons next rest => cases resolved
    | _ => cases rest <;> cases resolved

/-- Resolving a path succeeds with the cursor that the path has. -/
theorem resolve_eq_ok_iff : v.resolve steps = .ok cursor ↔ Resolves v steps cursor :=
  ⟨resolves_of_resolve, resolve_of_resolves⟩

end Resolving

section Fitting

/-- The cursor leads through the value: each slot meets a container of its kind, every index is within
it, and nothing but a last field or the slot behind the last item may be new. Rebuilding along such a
cursor finds a rule for every slot. -/
inductive Fits : Value → Cursor → Prop
  | here (v : Value) : Fits v []
  | item {items : List Value} {i : Nat} {v : Value} {cursor : Cursor} (found : items[i]? = some v)
    (inside : Fits v cursor) : Fits (.arr items) (.item i :: cursor)
  | behind (items : List Value) : Fits (.arr items) [.behind]
  | field {fields : List (String × Value)} {name : String} {cursor : Cursor}
    (inside : Fits ((Record.get? fields name).getD .null) cursor) :
    Fits (.obj fields) (.field name :: cursor)
  | char {s : String} {i : Nat} (within : i < s.length) : Fits (.str s) [.char i]

/-- A resolved cursor fits. -/
theorem Resolves.fits (resolves : Resolves v steps cursor) : v.Fits cursor := by
  induction resolves with
  | here v => exact .here v
  | item points found inside ih => exact .item found ih
  | behind points => exact .behind _
  | field found more inside ih => exact .field (by rwa [found])
  | lastField fields step => exact .field (.here _)
  | char points within => exact .char within

theorem Resolves.ne_nil (resolves : Resolves v steps cursor) (given : steps ≠ []) : cursor ≠ [] := by
  cases resolves with
  | here v => exact absurd rfl given
  | _ => exact List.cons_ne_nil _ _

/-- Nothing but the empty cursor fits null. -/
theorem Fits.eq_nil_of_null (fits : Fits .null cursor) : cursor = [] := by
  cases fits
  rfl

theorem rebuild_nil : v.rebuild [] new = new := by
  cases v <;> rfl

theorem rebuild_item (found : items[i]? = some v) :
    (arr items).rebuild (.item i :: cursor) new = .arr (items.set i (v.rebuild cursor new)) := by
  simp only [rebuild, found]

private theorem sorted_field (sorted : Sorted (.obj fields)) (name : String) :
    Sorted ((Record.get? fields name).getD .null) := by
  cases found : Record.get? fields name with
  | none => trivial
  | some v => exact sortedFields_iff.mp sorted.2 _ (Record.mem_of_get? found)

private theorem sorted_rebuild (fits : root.Fits cursor) (sorted : root.Sorted)
    (sortedNew : new.Sorted) :
    (root.rebuild cursor new).Sorted := by
  induction fits with
  | here v => exact rebuild_nil ▸ sortedNew
  | item found inside ih =>
    rw [rebuild_item found]
    have inner := ih (sortedItems_iff.mp sorted _ (List.mem_of_getElem? found))
    refine sortedItems_iff.mpr fun v member => ?_
    rcases List.mem_or_eq_of_mem_set member with old | rfl
    · exact sortedItems_iff.mp sorted v old
    · exact inner
  | behind items =>
    refine sortedItems_iff.mpr fun v member => ?_
    rcases List.mem_append.mp member with old | last
    · exact sortedItems_iff.mp sorted v old
    · exact List.mem_singleton.mp last ▸ sortedNew
  | field inside ih =>
    refine ⟨Record.sorted_insert sorted.1 _ _, sortedFields_iff.mpr fun f member => ?_⟩
    rcases Record.mem_insert member with rfl | old
    · exact ih (sorted_field sorted _)
    · exact sortedFields_iff.mp sorted.2 f old
  | char within => trivial

end Fitting

section Places

/-- The value at a place: an item, a field or a character of a container, and so on inwards. -/
def at? : Value → Cursor → Option Value
  | v, [] => some v
  | .arr items, .item i :: rest => items[i]?.bind (at? · rest)
  | .obj fields, .field name :: rest => (Record.get? fields name).bind (at? · rest)
  | .str s, [.char i] => s.toList[i]?.map fun c => .str (String.singleton c)
  | _, _ => none

private theorem at?_nil : v.at? [] = some v := by
  cases v <;> rfl

theorem at?_item (found : items[i]? = some v) : (arr items).at? (.item i :: place) = v.at? place := by
  rw [at?, found, Option.bind_some]

theorem at?_field {name : String} (found : Record.get? fields name = some v) :
    (obj fields).at? (.field name :: place) = v.at? place := by
  rw [at?, found, Option.bind_some]

theorem getElem?_set_of_found (found : items[i]? = some v) : (items.set i w)[i]? = some w := by
  rw [List.getElem?_set_self (List.getElem?_eq_some_iff.mp found).1]

theorem get?_insert_self (name : String) : Record.get? (Record.insert fields name v) name = some v := by
  rw [Record.get?_insert, if_pos rfl]

private theorem sorted_at? (sorted : root.Sorted) (held : root.at? place = some v) : v.Sorted := by
  fun_induction at? root place with
  | case1 w => exact Option.some.inj held ▸ sorted
  | case2 items i rest ih =>
    obtain ⟨item, found, inside⟩ := Option.bind_eq_some_iff.mp held
    exact ih item (sortedItems_iff.mp sorted item (List.mem_of_getElem? found)) inside
  | case3 fields name rest ih =>
    obtain ⟨item, found, inside⟩ := Option.bind_eq_some_iff.mp held
    exact ih item (sortedFields_iff.mp sorted.2 _ (Record.mem_of_get? found)) inside
  | case4 s i =>
    obtain ⟨c, -, rfl⟩ := Option.map_eq_some_iff.mp held
    trivial
  | case5 => cases held

/-- Rebuilding works on the container at a place as on the whole: above the end of the cursor the
container is still there, rebuilt along the rest of the cursor. -/
theorem at?_rebuild_above {above below : Cursor} (fits : root.Fits (above ++ below))
    (inner : below ≠ []) :
    ∃ node, root.at? above = some node ∧ node.Fits below ∧
      (root.rebuild (above ++ below) new).at? above = some (node.rebuild below new) := by
  induction above generalizing root with
  | nil => exact ⟨root, at?_nil, fits, at?_nil⟩
  | cons slot above ih =>
    have more : above ++ below ≠ [] := List.append_ne_nil_of_right_ne_nil above inner
    rw [List.cons_append] at fits ⊢
    generalize whole : above ++ below = tail at fits more ⊢
    cases fits with
    | item found inside =>
      obtain ⟨node, old, fitting, now⟩ := ih (whole ▸ inside)
      refine ⟨node, (at?_item found).trans old, fitting, ?_⟩
      rw [rebuild_item found, at?_item (getElem?_set_of_found found), ← whole, now]
    | field inside =>
      cases found : Record.get? _ _ with
      | none =>
        rw [found] at inside
        exact absurd inside.eq_nil_of_null more
      | some v =>
        rw [found, Option.getD_some] at inside
        obtain ⟨node, old, fitting, now⟩ := ih (whole ▸ inside)
        refine ⟨node, (at?_field found).trans old, fitting, ?_⟩
        rw [rebuild, at?_field (get?_insert_self _), found, Option.getD_some, ← whole, now]
    | behind items => exact absurd rfl more
    | char within => exact absurd rfl more

private theorem length_setChar (cs : List Char) (i : Nat) (text : String) :
    (setChar cs i text).length = cs.length := by
  unfold setChar
  split
  · exact List.length_set
  · rfl

private theorem getElem?_setChar_ne {j : Nat} (cs : List Char) (text : String) (apart : j ≠ i) :
    (setChar cs i text)[j]? = cs[j]? := by
  unfold setChar
  split
  · exact List.getElem?_set_ne apart.symm
  · rfl

private theorem getElem?_setChar_self {cs : List Char} (text : String) (within : i < cs.length) :
    (setChar cs i text)[i]? = some (text.toList.head?.getD cs[i]) := by
  unfold setChar
  split
  · next c rest written => rw [written, List.getElem?_set_self within, List.head?_cons, Option.getD_some]
  · next empty => rw [empty, List.getElem?_eq_getElem within, List.head?_nil, Option.getD_none]

/-- The other slots of a container keep their values. -/
theorem at?_rebuild_beside {other : Slot} (fits : root.Fits (slot :: cursor)) (differs : other ≠ slot)
    (held : root.at? (other :: place) = some v) :
    (root.rebuild (slot :: cursor) new).at? (other :: place) = some v := by
  cases fits with
  | item found inside =>
    rw [rebuild_item found]
    cases other with
    | item j =>
      have apart : j ≠ _ := fun same => differs (congrArg Slot.item same)
      rwa [at?, List.getElem?_set_ne apart.symm]
    | _ => cases place <;> cases held
  | behind items =>
    cases other with
    | item j =>
      obtain ⟨item, found, inside⟩ := Option.bind_eq_some_iff.mp held
      have within := (List.getElem?_eq_some_iff.mp found).1
      rwa [rebuild, at?, List.getElem?_append_left within]
    | _ => cases place <;> cases held
  | field inside =>
    cases other with
    | field name =>
      have apart : _ ≠ name := fun same => differs (congrArg Slot.field same.symm)
      rwa [rebuild, at?, Record.get?_insert, if_neg apart]
    | _ => cases place <;> cases held
  | char within =>
    cases other with
    | char j =>
      have apart : j ≠ _ := fun same => differs (congrArg Slot.char same)
      cases place with
      | nil => rwa [rebuild, at?, String.toList_ofList, getElem?_setChar_ne _ _ apart]
      | cons slot place => cases held
    | _ => cases place <;> cases held

/-- A place off the cursor keeps its value. -/
theorem at?_rebuild_off (fits : root.Fits cursor) (above : ¬ place <+: cursor)
    (below : ¬ cursor <+: place) (held : root.at? place = some v) :
    (root.rebuild cursor new).at? place = some v := by
  induction cursor generalizing root place with
  | nil => exact absurd List.nil_prefix below
  | cons slot cursor ih =>
    obtain _ | ⟨other, place⟩ := place
    · exact absurd List.nil_prefix above
    by_cases same : other = slot
    · subst same
      have above' : ¬ place <+: cursor := fun inside =>
        above (List.cons_prefix_cons.mpr ⟨rfl, inside⟩)
      have below' : ¬ cursor <+: place := fun inside =>
        below (List.cons_prefix_cons.mpr ⟨rfl, inside⟩)
      cases fits with
      | item found inside =>
        rw [at?_item found] at held
        rw [rebuild_item found, at?_item (getElem?_set_of_found found)]
        exact ih inside above' below' held
      | field inside =>
        obtain ⟨item, found, kept⟩ := Option.bind_eq_some_iff.mp held
        rw [found, Option.getD_some] at inside
        rw [rebuild, at?_field (get?_insert_self _), found]
        exact ih inside above' below' kept
      | behind items => exact absurd List.nil_prefix below'
      | char within => exact absurd List.nil_prefix below'
    · exact at?_rebuild_beside fits same held

/-- Unless the path ends in a text, it leads to the new value after the update. -/
theorem Resolves.again (new : Value) (resolves : Resolves root steps cursor)
    (outside : ∀ i, cursor.getLast? ≠ some (.char i)) :
    ∃ again, Resolves (root.rebuild cursor new) steps again ∧
      (root.rebuild cursor new).at? again = some new := by
  induction resolves with
  | here v => exact ⟨[], .here _, at?_nil.trans (congrArg some rebuild_nil)⟩
  | @item items step v rest i cursor points found inside ih =>
    obtain ⟨again, resolves, written⟩ := ih fun j last =>
      outside j (by rw [List.getLast?_cons, last, Option.getD_some])
    have there : (items.set i (v.rebuild cursor new))[i]? = some (v.rebuild cursor new) :=
      getElem?_set_of_found found
    rw [rebuild_item found]
    exact ⟨_, .item (by rwa [List.length_set]) there resolves, (at?_item there).trans written⟩
  | @behind items step points =>
    -- Behind the end of the old array is the last item of the new one.
    have last : (items ++ [new])[items.length]? = some new := by simp
    have points' : step.PointsTo (items ++ [new]).length items.length := by
      simp only [PointsTo, List.length_append, List.length_singleton] at points ⊢
      omega
    exact ⟨_, .item points' last (.here new), (at?_item last).trans at?_nil⟩
  | field found more inside ih =>
    obtain ⟨again, resolves, written⟩ := ih fun j last =>
      outside j (by rw [List.getLast?_cons, last, Option.getD_some])
    rw [rebuild, found, Option.getD_some]
    exact ⟨_, .field (get?_insert_self _) more resolves, (at?_field (get?_insert_self _)).trans written⟩
  | lastField fields step =>
    refine ⟨_, .lastField _ step, ?_⟩
    rw [rebuild, at?_field (get?_insert_self _), at?_nil, rebuild_nil]
  | char points within => exact absurd rfl (outside _)

end Places

section Slots

/-- The slots of a container, in order. -/
def slots : Value → List Slot
  | .arr items => (List.range items.length).map .item
  | .obj fields => (Record.names fields).map .field
  | .str s => (List.range s.length).map .char
  | _ => []

/-- The container is of the same kind and has the same slots in the same order, and one more where
the written slot was not among them. -/
structure KeepsSlots (slot : Slot) (old now : Value) : Prop where
  kind : now.typeName = old.typeName
  kept : slot ∈ old.slots → now.slots = old.slots
  grown : slot ∉ old.slots → ∃ before added after,
    old.slots = before ++ after ∧ now.slots = before ++ added :: after

private theorem keepsSlots_rebuild (fits : root.Fits (slot :: cursor)) (sorted : root.Sorted) :
    KeepsSlots slot root (root.rebuild (slot :: cursor) new) := by
  cases fits with
  | item found inside =>
    have within := (List.getElem?_eq_some_iff.mp found).1
    rw [rebuild_item found]
    refine ⟨rfl, fun _ => ?_, fun missing => ?_⟩
    · rw [slots, slots, List.length_set]
    · exact absurd (List.mem_map_of_mem (List.mem_range.mpr within)) missing
  | behind items =>
    refine ⟨rfl, fun present => ?_, fun _ => ⟨slots (.arr items), .item items.length, [], ?_, ?_⟩⟩
    · obtain ⟨j, -, same⟩ := List.mem_map.mp present
      cases same
    · rw [List.append_nil]
    · rw [rebuild, slots, List.length_append, List.length_singleton, List.range_succ, List.map_append]
      rfl
  | @field fields name cursor inside =>
    refine ⟨rfl, fun present => ?_, fun missing => ?_⟩
    · obtain ⟨name, member, same⟩ := List.mem_map.mp present
      cases same
      rw [rebuild, slots, slots, Record.names_insert_of_mem sorted.1 member]
    · obtain ⟨before, after, old, now⟩ := Record.names_insert_of_not_mem
        (((Record.get? fields name).getD .null).rebuild cursor new) fun member =>
          missing (List.mem_map_of_mem member)
      refine ⟨before.map .field, .field name, after.map .field, ?_, ?_⟩
      · rw [slots, old, List.map_append]
      · rw [rebuild, slots, now, List.map_append, List.map_cons]
  | char within =>
    refine ⟨rfl, fun _ => ?_, fun missing => ?_⟩
    · rw [rebuild, slots, slots, String.length_ofList, length_setChar, String.length_toList]
    · exact absurd (List.mem_map_of_mem (List.mem_range.mpr within)) missing

end Slots

/-- A path update writes one place. The cursor of a path fits the value, so rebuilding finds every
slot it takes. If the path ends in an array or a record, the same path leads to the new value
afterwards. If it ends in a text, the text keeps its length and all characters but the addressed
one, which becomes the first character of the new value's text if there is one. A place that is
neither above nor below the end of the cursor keeps its value, and every container above it keeps
its slots in their order, with one more if the written one is new. -/
theorem rebuild_writes_one_place (root new : Value) (steps : List Value) (cursor : Cursor)
    (sorted : root.Sorted) (given : steps ≠ []) (resolved : root.resolve steps = .ok cursor) :
    let tree := root.rebuild cursor new
    root.Fits cursor ∧
    (∃ above slot container, cursor = above ++ [slot] ∧ root.at? above = some container ∧
      match container with
      | .arr _ | .obj _ => ∃ again, tree.resolve steps = .ok again ∧ tree.at? again = some new
      | .str s => ∃ i c text, slot = .char i ∧ s.toList[i]? = some c ∧
        tree.at? above = some (.str text) ∧ text.length = s.length ∧
        text.toList[i]? = some (new.text.toList.head?.getD c) ∧
        ∀ j, j ≠ i → text.toList[j]? = s.toList[j]?
      | _ => False) ∧
    (∀ place v, ¬ place <+: cursor → ¬ cursor <+: place → root.at? place = some v →
      tree.at? place = some v) ∧
    (∀ above slot below, cursor = above ++ slot :: below → ∃ old now,
      root.at? above = some old ∧ tree.at? above = some now ∧ KeepsSlots slot old now) ∧
    (new.Sorted → tree.Sorted) := by
  intro tree
  have resolves := resolve_eq_ok_iff.mp resolved
  have fits := resolves.fits
  refine ⟨fits, ?_, fun place v => at?_rebuild_off fits, ?_, sorted_rebuild fits sorted⟩
  · obtain ⟨above, slot, rfl⟩ : ∃ above slot, cursor = above ++ [slot] :=
      ⟨_, _, (List.dropLast_append_getLast (resolves.ne_nil given)).symm⟩
    have led (outside : ∀ i, slot ≠ .char i) :
        ∃ again, tree.resolve steps = .ok again ∧ tree.at? again = some new := by
      obtain ⟨again, found, written⟩ := resolves.again new fun i last =>
        outside i (Option.some.inj (List.getLast?_concat.symm.trans last))
      exact ⟨again, resolve_eq_ok_iff.mpr found, written⟩
    obtain ⟨container, held, fitting, now⟩ := at?_rebuild_above fits (List.cons_ne_nil slot [])
    refine ⟨above, slot, container, rfl, held, ?_⟩
    cases fitting with
    | item found inside => exact led fun i => by simp
    | behind items => exact led fun i => by simp
    | field inside => exact led fun i => by simp
    | @char s i within =>
      rw [← String.length_toList] at within
      refine ⟨i, s.toList[i], _, rfl, List.getElem?_eq_getElem within, now, ?_, ?_, ?_⟩
      · rw [String.length_ofList, length_setChar, String.length_toList]
      · rw [String.toList_ofList, getElem?_setChar_self _ within]
      · intro j apart
        rw [String.toList_ofList, getElem?_setChar_ne _ _ apart]
  · rintro above slot below rfl
    obtain ⟨old, held, fitting, now⟩ := at?_rebuild_above fits (List.cons_ne_nil slot below)
    exact ⟨old, _, held, now, keepsSlots_rebuild fitting (sorted_at? sorted held)⟩

/-- A record with a text and a list inside an array. -/
def nested : Value :=
  .arr [.obj [("a", .str "cat"), ("k", .arr [.num 1, .num 2, .num 3])], .bool true]

theorem rebuild_writes_one_place_nested :
    nested.Sorted ∧ nested.resolve [.num 1, .str "k", .num (-1)] = .ok [.item 0, .field "k", .item 2] ∧
      (nested.rebuild [.item 0, .field "k", .item 2] (.str "new")).at? [.item 0, .field "k", .item 1] =
        some (.num 2) ∧
      (nested.rebuild [.item 0, .field "k", .item 2] (.str "new")).at? [.item 0, .field "a", .char 1] =
        some (.str "a") := by
  have sorted : nested.Sorted := by
    simp only [nested, Sorted, SortedItems, SortedFields, Record.Sorted]
    decide
  have resolved : nested.resolve [.num 1, .str "k", .num (-1)] =
      .ok [.item 0, .field "k", .item 2] := by
    rfl
  obtain ⟨-, -, beside, -⟩ := rebuild_writes_one_place nested (.str "new") [.num 1, .str "k", .num (-1)]
    [.item 0, .field "k", .item 2] sorted (by simp) resolved
  exact ⟨sorted, resolved, beside _ _ (by decide) (by decide) rfl,
    beside _ _ (by decide) (by decide) rfl⟩

end StackVM.Value
