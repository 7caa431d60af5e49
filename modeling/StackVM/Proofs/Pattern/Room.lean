import StackVM.Pattern.Basic
import StackVM.Text.Utf8

/-! # Bounds for the room of a pattern

Parts that match fixed bytes add exactly one state for each byte (`Part.Adds`). How much a set of
byte sequences adds depends on what the tables remember, but what they remember only saves room:
reading forwards, the bytes of what has been built and of what is still pending grow by at most 40
for each byte range (`Forward.cost_insert_le`), and building never adds to them.
-/

namespace StackVM.Pattern

namespace Footprint

/-- The bytes that count. -/
def bytes (f : Footprint) : Nat := 32 * f.states + f.extra

theorem fits_iff {f : Footprint} : f.fits = true ↔ f.bytes ≤ maxBytes := decide_eq_true_iff

theorem bytes_add (n : Nat) (f : Footprint) : (add n f).bytes = f.bytes + 32 * n := by
  simp only [bytes, add]
  omega

private theorem bytes_choice (f : Footprint) : (choice f).bytes = f.bytes + 40 := by
  simp only [bytes, choice]
  omega

section Forwards

/-- The bytes that a state takes when it is built. -/
def OpenState.cost (s : OpenState) : Nat := 32 + 8 * (s.arcs.length + s.last.toList.length)

private theorem OpenState.cost_close (s : OpenState) (target : Nat) :
    (s.close target).cost = s.cost := by
  unfold close
  split
  · rename_i r last
    simp [cost, last]
  · rfl

private theorem OpenState.cost_reopen_le (s : OpenState) (r : ByteRange) :
    ({ s with last := some r } : OpenState).cost ≤ s.cost + 8 := by
  simp only [cost, Option.toList_some, List.length_singleton]
  omega

private theorem OpenState.le_cost (s : OpenState) : 32 + 8 * s.arcs.reverse.length ≤ s.cost := by
  rw [cost, List.length_reverse]
  omega

/-- The bytes that the pending states take when they are built. -/
def pendingCost : List OpenState → Nat
  | [] => 0
  | s :: pending => s.cost + pendingCost pending

private theorem pendingCost_append (pending pending' : List OpenState) :
    pendingCost (pending ++ pending') = pendingCost pending + pendingCost pending' := by
  induction pending with
  | nil => exact (Nat.zero_add _).symm
  | cons s pending ih => rw [List.cons_append, pendingCost, pendingCost, ih, Nat.add_assoc]

private theorem pendingCost_open (ranges : List ByteRange) :
    pendingCost (ranges.map fun r => { last := some r }).reverse = 40 * ranges.length := by
  induction ranges with
  | nil => rfl
  | cons r ranges ih =>
    rw [List.map_cons, List.reverse_cons, pendingCost_append, ih]
    simp only [pendingCost, OpenState.cost, Option.toList_some, List.length_cons, List.length_nil]
    omega

namespace Forward

/-- The bytes of what has been built and of what is pending. -/
def cost (b : Forward) : Nat := b.footprint.bytes + pendingCost b.pending

private theorem bytes_build_le (b : Forward) (arcs : List Arc) :
    (b.build arcs).2.footprint.bytes ≤ b.footprint.bytes + (32 + 8 * arcs.length) := by
  unfold build
  dsimp only
  split <;> simp only [bytes] <;> omega

private theorem cost_reduce_le (keep target : Nat) (b : Forward) (pending : List OpenState)
    (same : pending = [] → b.pending = []) :
    (b.reduce keep target pending).cost ≤ b.footprint.bytes + pendingCost pending := by
  fun_induction reduce keep b target pending with
  | case1 b => exact Nat.le_of_eq (by rw [cost, same rfl])
  | case2 b target state outer more number built stepped ih =>
    have nonempty : outer = [] → built.pending = [] := by
      rintro rfl
      cases (Bool.and_eq_true_iff.mp more).2
    have others := ih nonempty
    have first := b.bytes_build_le (state.close target).arcs.reverse
    rw [stepped] at first
    dsimp only at first
    have state := (state.close target).le_cost
    rw [OpenState.cost_close] at state
    rw [pendingCost]
    omega
  | case3 b target state outer none =>
    exact Nat.le_of_eq (by rw [cost, pendingCost, OpenState.cost_close, pendingCost])

/-- A sequence adds at most 40 bytes for each of its ranges. -/
theorem cost_insert_le (b : Forward) (target : Nat) (sequence : List ByteRange) :
    (b.insert target sequence).cost ≤ b.cost + 40 * sequence.length := by
  unfold insert
  dsimp only
  have reduced := cost_reduce_le (sharedLength sequence b.pending.reverse + 1) target b b.pending id
  generalize b.reduce _ target b.pending = b' at reduced ⊢
  split
  · rename_i r rest top outer dropped pending
    have shorter : (r :: rest).length ≤ sequence.length := by
      rw [← dropped, List.length_drop]
      omega
    have top := top.cost_reopen_le r
    simp only [cost, pending, pendingCost_append, pendingCost, pendingCost_open] at reduced ⊢
    rw [List.length_cons] at shorter
    omega
  · exact Nat.le_add_right_of_le reduced

private theorem cost_foldl_insert_le (target : Nat) (sequences : List (List ByteRange))
    (b : Forward) :
    (sequences.foldl (fun b s => b.insert target s) b).cost ≤
      b.cost + 40 * sequences.flatten.length := by
  induction sequences generalizing b with
  | nil => exact Nat.le_refl _
  | cons s sequences ih =>
    have first := b.cost_insert_le target s
    have others := ih (b.insert target s)
    rw [List.foldl_cons, List.flatten_cons, List.length_append]
    omega

end Forward

private theorem bytes_forwardSet_le (sequences : List (List ByteRange)) (f : Footprint) :
    (forwardSet sequences f).bytes ≤ f.bytes + 96 + 40 * sequences.flatten.length := by
  unfold forwardSet
  dsimp only
  generalize started : (Forward.mk (add 1 f) (Array.replicate 10000 none) [{}]) = start
  have begin : start.cost = f.bytes + 64 := by
    rw [← started, Forward.cost, bytes_add]
    rfl
  have inserted := Forward.cost_foldl_insert_le f.states sequences start
  generalize sequences.foldl (fun b s => b.insert f.states s) start = b at inserted ⊢
  have reduced := b.cost_reduce_le 1 f.states b.pending id
  generalize b.reduce 1 f.states b.pending = b' at reduced ⊢
  have built := b'.bytes_build_le (b'.pending.headD {}).arcs.reverse
  have root : 32 + 8 * (b'.pending.headD {}).arcs.reverse.length ≤ pendingCost b'.pending + 32 := by
    cases b'.pending with
    | nil => exact Nat.le_refl _
    | cons top outer =>
      have top := top.le_cost
      rw [pendingCost, List.headD_cons]
      omega
  simp only [Forward.cost] at inserted reduced begin
  omega

end Forwards

section Backwards

private theorem Backward.bytes_build_le (b : Backward) (slot : Nat) (arc : Arc) :
    (b.build slot arc).2.footprint.bytes ≤ b.footprint.bytes + 32 := by
  unfold build
  split <;> simp only [bytes, add] <;> omega

private theorem Backward.bytes_steps_le (sequence : List ByteRange) (start : Nat × Backward) :
    (sequence.foldl (fun (number, b) r => b.step number r) start).2.footprint.bytes ≤
      start.2.footprint.bytes + 32 * sequence.length := by
  induction sequence generalizing start with
  | nil => exact Nat.le_refl _
  | cons r sequence ih =>
    obtain ⟨number, b⟩ := start
    have first : (b.step number r).2.footprint.bytes ≤ b.footprint.bytes + 32 :=
      b.bytes_build_le _ _
    calc
      _ ≤ (b.step number r).2.footprint.bytes + 32 * sequence.length := ih (b.step number r)
      _ ≤ b.footprint.bytes + 32 * (sequence.length + 1) := by omega

private theorem Backward.bytes_insert_le (b : Backward) (target : Nat) (sequence : List ByteRange) :
    (b.insert target sequence).footprint.bytes ≤ b.footprint.bytes + 32 * sequence.length + 4 := by
  have steps := Backward.bytes_steps_le sequence (target, b)
  unfold insert
  simp only [bytes] at steps ⊢
  omega

private theorem bytes_backwardSet_le (sequences : List (List ByteRange)) (f : Footprint) :
    (backwardSet sequences f).bytes ≤
      f.bytes + 64 + 32 * sequences.flatten.length + 4 * sequences.length := by
  have inserted (target : Nat) (b : Backward) :
      (sequences.foldl (fun b s => b.insert target s) b).footprint.bytes ≤
        b.footprint.bytes + 32 * sequences.flatten.length + 4 * sequences.length := by
    induction sequences generalizing b with
    | nil => exact Nat.le_refl _
    | cons s sequences ih =>
      have first := b.bytes_insert_le target s
      have others := ih (b.insert target s)
      rw [List.foldl_cons, List.flatten_cons, List.length_append, List.length_cons]
      omega
  have inserted := inserted (f.states + 1) ⟨add 2 f, Array.replicate 1000 none⟩
  rw [bytes_add] at inserted
  exact inserted

end Backwards

end Footprint

open Footprint

namespace Part

variable {part : Part} {parts : List Part} {n : Nat}

/-- The part adds so many states and nothing else. -/
def Adds (part : Part) (n : Nat) : Prop :=
  ∀ (forwards : Bool) (f : Footprint), part.growth forwards f = add n f

/-- The part adds at most so many bytes. -/
def AtMost (part : Part) (n : Nat) : Prop :=
  ∀ (forwards : Bool) (f : Footprint), (part.growth forwards f).bytes ≤ f.bytes + n

theorem adds_anchor : anchor.Adds 1 := fun _ _ => rfl

theorem adds_row (n : Nat) : (row n).Adds n := fun _ _ => rfl

theorem Adds.atMost (adds : part.Adds n) : part.AtMost (32 * n) := by
  intro forwards f
  exact Nat.le_of_eq (by rw [adds, bytes_add])

theorem AtMost.mono {m : Nat} (atMost : part.AtMost n) (le : n ≤ m) : part.AtMost m :=
  fun forwards f => Nat.le_trans (atMost forwards f) (Nat.add_le_add_left le _)

theorem atMost_sequences {list : List (List ByteRange)}
    (few : list.length ≤ list.flatten.length) :
    (sequences list).AtMost (96 + 40 * list.flatten.length) := by
  intro forwards f
  rw [growth]
  cases forwards with
  | true =>
    have forwards := bytes_forwardSet_le list f
    rw [if_pos rfl]
    omega
  | false =>
    have backwards := bytes_backwardSet_le list f
    rw [if_neg Bool.false_ne_true]
    omega

theorem AtMost.many (atMost : part.AtMost n) (consumes : part.consumes = true) :
    (repeated part 0 none).AtMost (n + 40) := by
  intro forwards f
  have body := atMost forwards (choice f)
  rw [bytes_choice] at body
  rw [growth, consumes, turns, if_pos rfl]
  omega

private theorem atMost_seq (atMost : ∀ part ∈ parts, part.AtMost n) :
    (seq parts).AtMost (n * parts.length) := by
  intro forwards f
  rw [growth]
  induction parts generalizing f with
  | nil => exact Nat.le_refl _
  | cons part parts ih =>
    obtain ⟨first, others⟩ := List.forall_mem_cons.mp atMost
    rw [growthAll, List.length_cons, Nat.mul_succ]
    dsimp only
    cases forwards with
    | true =>
      have first := first true f
      have others := ih others (part.growth true f)
      rw [if_pos rfl]
      omega
    | false =>
      have others := ih others f
      have first := first false (growthAll false parts f)
      rw [if_neg Bool.false_ne_true]
      omega

/-- There is room besides the states at which the automata start and accept. -/
theorem fits_of_atMost (atMost : part.AtMost n) (room : n + 128 ≤ maxBytes) : part.fits = true := by
  have forwards := atMost true (add 2 {})
  have backwards := atMost false (add 1 {})
  rw [bytes_add] at forwards backwards
  have start : bytes {} = 0 := rfl
  rw [fits, Bool.and_eq_true, fits_iff, fits_iff, bytes_add, bytes_add]
  omega

theorem ofList_eq (several : 2 ≤ parts.length) (present : ∀ part ∈ parts, part ≠ .empty) :
    ofList parts = .seq parts := by
  dsimp only [ofList]
  rw [List.filter_eq_self.mpr]
  · match parts, several with
    | first :: second :: rest, _ => rfl
  · intro part member
    cases part with
    | empty => exact absurd rfl (present _ member)
    | _ => rfl

end Part

private theorem length_codeBytes (c : Char) : (codeBytes c.toNat).length = c.utf8Size := by
  have bound (n : UInt32) : c.val ≤ n ↔ c.toNat ≤ n.toNat := UInt32.le_iff_toNat_le
  simp only [codeBytes, Char.utf8Size, bound]
  grind

theorem toPart_single (c : Char) (depth : Nat) :
    (Node.one (.single c) depth).toPart = .row c.utf8Size := by
  rw [← length_codeBytes]
  simp [Node.toPart, Part.ofSet, CharClass.single, CharClass.toRanges]

theorem toParts_eq_map (items : List Node) : Node.toParts items = items.map Node.toPart := by
  induction items with
  | nil => rfl
  | cons item items ih => rw [Node.toParts, ih, List.map_cons]

theorem fits_seq {items : List Node} {n : Nat} (several : 2 ≤ items.length)
    (each : ∀ item ∈ items, item.toPart ≠ .empty ∧ item.toPart.AtMost n)
    (room : n * items.length + 128 ≤ maxBytes) : (Node.seq items).fits = true := by
  have present : ∀ part ∈ items.map Node.toPart, part ≠ .empty :=
    List.forall_mem_map.mpr fun item member => (each item member).1
  have small : ∀ part ∈ items.map Node.toPart, part.AtMost n :=
    List.forall_mem_map.mpr fun item member => (each item member).2
  rw [← List.length_map Node.toPart] at several room
  rw [Node.fits, Node.toPart, toParts_eq_map, Part.ofList_eq several present]
  exact Part.fits_of_atMost (Part.atMost_seq small) room

end StackVM.Pattern
