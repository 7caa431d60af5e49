import StackVM.Pattern.Automaton

/-! # The states of a pattern's automaton

A part is written behind the states that are there and leaves them as they are. It takes as many
states as its size says, so the targets of its choices and jumps, which are computed from sizes, lie
within the part or at the place behind it.
-/

namespace StackVM.Pattern

/-- The states that a state names. -/
def State.targets : State → List Nat
  | .choice first second => [first, second]
  | .jump target => [target]
  | _ => []

/-- No state names one beyond `top`. -/
def Automaton.Bounded (a : Automaton) (top : Nat) : Prop :=
  ∀ (i : Nat) (s : State), a[i]? = some s → ∀ target ∈ s.targets, target ≤ top

/-- So many states have been added behind those of an automaton, none of which names one beyond
`top`. -/
structure Automaton.Extends (a b : Automaton) (size top : Nat) : Prop where
  size_eq : b.size = a.size + size
  keeps {i : Nat} (within : i < a.size) : b[i]? = a[i]?
  bounded (bounded : a.Bounded top) : b.Bounded top

variable {a b c : Automaton} {size more top : Nat}

section Extensions

theorem Automaton.extends_refl (a : Automaton) (top : Nat) : a.Extends a 0 top :=
  ⟨rfl, fun _ => rfl, id⟩

theorem Automaton.Extends.trans (first : a.Extends b size top) (second : b.Extends c more top) :
    a.Extends c (size + more) top where
  size_eq := by rw [second.size_eq, first.size_eq, Nat.add_assoc]
  keeps within := by
    have inside : _ < b.size := first.size_eq ▸ Nat.lt_add_right size within
    rw [second.keeps inside, first.keeps within]
  bounded bounded := second.bounded (first.bounded bounded)

theorem Automaton.extends_push (a : Automaton) {s : State}
    (named : ∀ target ∈ s.targets, target ≤ top) :
    a.Extends (a.push s) 1 top where
  size_eq := a.size_push s
  keeps within := Array.getElem?_push_lt within |>.trans (Array.getElem?_eq_getElem within).symm
  bounded bounded := by
    intro i t found
    rw [Array.getElem?_push] at found
    split at found
    · cases found
      exact named
    · exact bounded i t found

private theorem Automaton.extends_plain (a : Automaton) (top : Nat) {s : State}
    (plain : s.targets = []) :
    a.Extends (a.push s) 1 top :=
  a.extends_push fun _ member => absurd member (plain ▸ List.not_mem_nil)

theorem Automaton.Extends.push (written : a.Extends b size top) {s : State}
    (named : ∀ target ∈ s.targets, target ≤ top) : a.Extends (b.push s) (size + 1) top :=
  written.trans (b.extends_push named)

end Extensions

namespace Writer

variable {body : Writer} {greedy : Bool}

/-- A writer of `size` states. -/
def Writes (body : Writer) (size : Nat) : Prop :=
  ∀ (a : Automaton) (top : Nat), a.size + size ≤ top → a.Extends (body a) size top

theorem choose_targets_le {enter leave : Nat} (inside : enter ≤ top) (outside : leave ≤ top) :
    ∀ target ∈ (choose greedy enter leave).targets, target ≤ top := by
  cases greedy <;> simp [choose, State.targets, inside, outside]

theorem writes_copies (writes : Writes body size) (k : Nat) :
    Writes (copies body k) (k * size) := by
  induction k with
  | zero =>
    intro a top _
    rw [Nat.zero_mul]
    exact a.extends_refl top
  | succ k ih =>
    intro a top fits
    rw [Nat.succ_mul] at fits ⊢
    have first := writes a top (by omega)
    have others := ih (body a) top (by rw [first.size_eq]; omega)
    exact Nat.add_comm size (k * size) ▸ first.trans others

theorem extends_optional (greedy : Bool) (writes : Writes body size) {stop : Nat}
    (inside : stop ≤ top) (k : Nat) (a : Automaton) (fits : a.size + k * (size + 1) ≤ top) :
    a.Extends (optional greedy body stop k a) (k * (size + 1)) top := by
  induction k generalizing a with
  | zero =>
    rw [Nat.zero_mul]
    exact a.extends_refl top
  | succ k ih =>
    rw [Nat.succ_mul] at fits ⊢
    have named : ∀ target ∈ (choose greedy (a.size + 1) stop).targets, target ≤ top :=
      choose_targets_le (by omega) inside
    have choice := a.extends_push named
    have first := choice.trans (writes _ top (by rw [choice.size_eq]; omega))
    have others := ih _ (by rw [first.size_eq]; omega)
    have whole := first.trans others
    rwa [show 1 + size + k * (size + 1) = k * (size + 1) + (size + 1) by omega] at whole

theorem writes_plus (greedy : Bool) (writes : Writes body size) :
    Writes (plus greedy body) (size + 1) := by
  intro a top fits
  have turn := writes a top (by omega)
  refine turn.push (choose_targets_le (by omega) ?_)
  rw [turn.size_eq]
  omega

theorem writes_loop (greedy : Bool) (writes : Writes body size) :
    Writes (loop greedy size body) (size + 2) := by
  intro a top fits
  have named : ∀ target ∈ (choose greedy (a.size + 1) (a.size + size + 2)).targets, target ≤ top :=
    choose_targets_le (by omega) (by omega)
  have choice := a.extends_push named
  have turn := choice.trans (writes _ top (by rw [choice.size_eq]; omega))
  have back : ∀ target ∈ (State.jump a.size).targets, target ≤ top := by
    simp only [State.targets, List.mem_singleton]
    omega
  have whole := turn.push back
  rwa [show 1 + size + 1 = size + 2 by omega] at whole

theorem writes_turns (greedy consumes : Bool) (writes : Writes body size) (least : Nat)
    (most : Option Nat) :
    Writes (turns greedy consumes size body least most) (Node.turnsSize size least most) := by
  intro a top fits
  cases most with
  | none =>
    cases least with
    | zero =>
      cases consumes with
      | true => exact writes_loop greedy writes a top fits
      | false =>
        have room : a.size + (size + 2) ≤ top := fits
        have once := extends_optional greedy (writes_plus greedy writes) room 1 a (by omega)
        rwa [Nat.one_mul] at once
    | succ k =>
      have room : a.size + (k * size + size + 1) ≤ top := fits
      have first := writes_copies writes k a top (by omega)
      exact first.trans (writes_plus greedy writes _ top (by rw [first.size_eq]; omega))
  | some most =>
    have room : a.size + (least * size + (most - least) * (size + 1)) ≤ top := by
      cases least <;> exact fits
    have first := writes_copies writes least a top (by omega)
    have stays : a.size + least * size + (most - least) * (size + 1) ≤ top := by omega
    have whole := first.trans (extends_optional greedy writes stays (most - least) _
      (by rw [first.size_eq]; omega))
    cases least <;> exact whole

end Writer

namespace Node

mutual

/-- A part takes as many states as its size says. -/
theorem writes : (n : Node) → Writer.Writes n.write n.size
  | .empty => fun a top _ => a.extends_refl top
  | .one set _ => fun a top _ => a.extends_plain top rfl
  | .anchor c => fun a top _ => a.extends_plain top rfl
  | .seq items => writesAll items
  | .group none body => writes body
  | .group (some index) body => fun a top fits => by
    rw [size] at fits ⊢
    have opened := a.extends_plain top (s := .mark (2 * index)) rfl
    have inside := opened.trans (writes body _ top (by rw [opened.size_eq]; omega))
    have whole := inside.trans (Automaton.extends_plain _ top (s := .mark (2 * index + 1)) rfl)
    rwa [show 1 + body.size + 1 = body.size + 2 by omega] at whole
  | .repeated body least most greedy => Writer.writes_turns greedy body.consumes (writes body) _ _

/-- Parts one after the other take as many states as all of them. -/
theorem writesAll : (items : List Node) → Writer.Writes (writeAll items) (sizeAll items)
  | [] => fun a top _ => a.extends_refl top
  | item :: rest => fun a top fits => by
    rw [sizeAll] at fits ⊢
    have first := writes item a top (by omega)
    exact first.trans (writesAll rest _ top (by rw [first.size_eq]; omega))

end

theorem writeAll_append (items more : List Node) (a : Automaton) :
    writeAll (items ++ more) a = writeAll more (writeAll items a) := by
  induction items generalizing a with
  | nil => rfl
  | cons item items ih => exact ih (item.write a)

/-- Parts that are written from the beginning lead at most to the place behind them. -/
theorem bounded_writeAll (items : List Node) :
    (writeAll items #[]).Bounded (writeAll items #[]).size := by
  have written := writesAll items #[] (sizeAll items) (by simp)
  have same : (writeAll items #[]).size = sizeAll items := by
    rw [written.size_eq, Array.size_empty, Nat.zero_add]
  rw [same]
  exact written.bounded fun i s found => absurd found (by simp)

end Node

end StackVM.Pattern
