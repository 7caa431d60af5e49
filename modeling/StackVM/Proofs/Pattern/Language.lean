import StackVM.Pattern.Basic
import StackVM.Proofs.Pattern.Completeness

/-! # What a pattern matches

`Node.Spans` says between which positions of a text a part of a pattern matches. The states that a
part is written as are passed by a run exactly where the part matches: for each way to write states,
`Passes` is derived from that of what it is made of. In a loop the number of steps that are left
decreases, also where a turn takes no character. With the matcher finding every run, a pattern
accepts a text exactly if its structure matches between two positions.
-/

namespace StackVM.Pattern

/-- So many turns of what leads from a position to another. -/
def Turns (R : Nat → Nat → Prop) : Nat → Nat → Nat → Prop
  | 0, p, q => p = q
  | k + 1, p, q => ∃ r, R p r ∧ Turns R k r q

section Turns

variable {R : Nat → Nat → Prop} {p q : Nat}

private theorem turns_add (j k : Nat) :
    Turns R (j + k) p q ↔ ∃ r, Turns R j p r ∧ Turns R k r q := by
  induction j generalizing p with
  | zero => simp [Turns]
  | succ j ih =>
    rw [Nat.succ_add]
    simp only [Turns, ih]
    grind

/-- Turns that stay at their position are all the same. -/
theorem turns_succ_iff_of_eq (stays : ∀ p q, R p q → p = q) (k : Nat) :
    Turns R (k + 1) p q ↔ R p p ∧ p = q := by
  induction k generalizing p with
  | zero =>
    simp only [Turns]
    grind
  | succ k ih =>
    rw [Turns]
    simp only [ih]
    grind

/-- No turn, or one of one turn or more: that is any number of turns. -/
theorem optional_turns_iff :
    (∃ j ≤ 1, Turns (fun p q => ∃ k, Turns R (k + 1) p q) j p q) ↔ ∃ k, Turns R k p q := by
  constructor
  · rintro ⟨j, few, turns⟩
    match j, few with
    | 0, _ => exact ⟨0, turns⟩
    | 1, _ =>
      obtain ⟨r, ⟨k, turns⟩, rfl⟩ := turns
      exact ⟨k + 1, turns⟩
  · rintro ⟨k, turns⟩
    cases k with
    | zero => exact ⟨0, Nat.zero_le 1, turns⟩
    | succ k => exact ⟨1, Nat.le_refl 1, q, ⟨k, turns⟩, rfl⟩

end Turns

/-- A run of the automaton from the state `s` goes through the state `e` where the relation leads;
the steps up to there are saved. -/
structure Passes (d : Automaton) (text : Array Char) (s e : Nat) (R : Nat → Nat → Prop) : Prop where
  enters {p q n : Nat} (through : R p q) (ends : Ends d text n e q) : ∃ m, Ends d text m s p
  leaves {p n : Nat} (ends : Ends d text n s p) : ∃ q m, m ≤ n ∧ R p q ∧ Ends d text m e q

section Passing

variable {d : Automaton} {text : Array Char} {s e e' : Nat} {R R' : Nat → Nat → Prop}

theorem Passes.congr (passes : Passes d text s e R) (same : ∀ p q, R p q ↔ R' p q) :
    Passes d text s e R' where
  enters through ends := passes.enters ((same _ _).mpr through) ends
  leaves ends := by
    obtain ⟨q, m, le, through, ends⟩ := passes.leaves ends
    exact ⟨q, m, le, (same _ _).mp through, ends⟩

theorem passes_refl (s : Nat) : Passes d text s s (· = ·) where
  enters same ends := ⟨_, same ▸ ends⟩
  leaves ends := ⟨_, _, Nat.le_refl _, rfl, ends⟩

theorem Passes.trans (first : Passes d text s e R) (second : Passes d text e e' R') :
    Passes d text s e' (fun p q => ∃ r, R p r ∧ R' r q) where
  enters := by
    rintro p q n ⟨r, before, after⟩ ends
    obtain ⟨m, ends⟩ := second.enters after ends
    exact first.enters before ends
  leaves ends := by
    obtain ⟨r, m, le, before, ends⟩ := first.leaves ends
    obtain ⟨q, m', le', after, ends⟩ := second.leaves ends
    exact ⟨q, m', Nat.le_trans le' le, ⟨r, before, after⟩, ends⟩

/-- A state with one successor. -/
theorem passes_state {q : State} (here : d[s]? = some q)
    (leads : ∀ p s' p', q.Leads text s p s' p' ↔ s' = e ∧ R p p') : Passes d text s e R where
  enters {p p' n} through ends := ⟨n + 1, .step here ((leads p e p').mpr ⟨rfl, through⟩) ends⟩
  leaves {p n} ends := by
    obtain ⟨m, s', p', rfl, led, ends⟩ := ends.exists_step here
    obtain ⟨rfl, through⟩ := (leads p s' p').mp led
    exact ⟨p', m, Nat.le_succ m, through, ends⟩

theorem choose_leads {greedy : Bool} {enter leave p s' p' : Nat} :
    (Writer.choose greedy enter leave).Leads text s p s' p' ↔
      (s' = enter ∨ s' = leave) ∧ p' = p := by
  cases greedy
  · simp [Writer.choose, State.Leads, or_comm]
  · simp [Writer.choose, State.Leads]

/-- A choice leads where either of its states does. -/
theorem passes_choice {greedy : Bool} {enter leave : Nat}
    (here : d[s]? = some (Writer.choose greedy enter leave)) (first : Passes d text enter e R)
    (second : Passes d text leave e R') : Passes d text s e (fun p q => R p q ∨ R' p q) where
  enters := by
    rintro p q n (through | through) ends
    · obtain ⟨m, ends⟩ := first.enters through ends
      exact ⟨m + 1, .step here (choose_leads.mpr ⟨.inl rfl, rfl⟩) ends⟩
    · obtain ⟨m, ends⟩ := second.enters through ends
      exact ⟨m + 1, .step here (choose_leads.mpr ⟨.inr rfl, rfl⟩) ends⟩
  leaves ends := by
    obtain ⟨m, s', p', rfl, led, onward⟩ := ends.exists_step here
    obtain ⟨rfl | rfl, rfl⟩ := choose_leads.mp led
    · obtain ⟨q, m', le, through, ends⟩ := first.leaves onward
      exact ⟨q, m', Nat.le_succ_of_le le, .inl through, ends⟩
    · obtain ⟨q, m', le, through, ends⟩ := second.leaves onward
      exact ⟨q, m', Nat.le_succ_of_le le, .inr through, ends⟩

/-- A choice behind a body, which leads back to it or on. -/
theorem passes_plus {greedy : Bool} (body : Passes d text s e R)
    (here : d[e]? = some (Writer.choose greedy s (e + 1))) :
    Passes d text s (e + 1) (fun p q => ∃ k, Turns R (k + 1) p q) where
  enters := by
    rintro p q n ⟨k, through⟩ ends
    have leave {p n : Nat} (ends : Ends d text n (e + 1) p) : ∃ m, Ends d text m e p :=
      ⟨n + 1, .step here (choose_leads.mpr ⟨.inr rfl, rfl⟩) ends⟩
    induction k generalizing p with
    | zero =>
      obtain ⟨r, turn, rfl⟩ := through
      obtain ⟨m, ends⟩ := leave ends
      exact body.enters turn ends
    | succ k ih =>
      obtain ⟨r, turn, more⟩ := through
      obtain ⟨m, ends⟩ := ih more
      exact body.enters turn (.step here (choose_leads.mpr ⟨.inl rfl, rfl⟩) ends)
  leaves {p n} ends := by
    induction n using Nat.strongRecOn generalizing p with
    | ind n ih =>
      obtain ⟨r, m, le, turn, behind⟩ := body.leaves ends
      obtain ⟨m, s', p', rfl, led, onward⟩ := behind.exists_step here
      obtain ⟨rfl | rfl, rfl⟩ := choose_leads.mp led
      · obtain ⟨q, m', le', ⟨k, more⟩, ends⟩ := ih m (by omega) onward
        exact ⟨q, m', by omega, ⟨k + 1, p', turn, more⟩, ends⟩
      · exact ⟨p', m, by omega, ⟨0, p', turn, rfl⟩, onward⟩

/-- A choice in front of a body, behind which a jump leads back to the choice. -/
theorem passes_loop {greedy : Bool} {j : Nat}
    (here : d[s]? = some (Writer.choose greedy (s + 1) e)) (body : Passes d text (s + 1) j R)
    (back : d[j]? = some (.jump s)) : Passes d text s e (fun p q => ∃ k, Turns R k p q) where
  enters := by
    rintro p q n ⟨k, through⟩ ends
    induction k generalizing p with
    | zero =>
      cases through
      exact ⟨n + 1, .step here (choose_leads.mpr ⟨.inr rfl, rfl⟩) ends⟩
    | succ k ih =>
      obtain ⟨r, turn, more⟩ := through
      obtain ⟨m, ends⟩ := ih more
      obtain ⟨m, ends⟩ := body.enters turn (.step back ⟨rfl, rfl⟩ ends)
      exact ⟨m + 1, .step here (choose_leads.mpr ⟨.inl rfl, rfl⟩) ends⟩
  leaves {p n} ends := by
    induction n using Nat.strongRecOn generalizing p with
    | ind n ih =>
      obtain ⟨m, s', p', rfl, led, onward⟩ := ends.exists_step here
      obtain ⟨rfl | rfl, rfl⟩ := choose_leads.mp led
      · obtain ⟨r, m', le, turn, behind⟩ := body.leaves onward
        obtain ⟨m', s', r', rfl, ⟨rfl, rfl⟩, again⟩ := behind.exists_step back
        obtain ⟨q, m'', le', ⟨k, more⟩, ends⟩ := ih m' (by omega) again
        exact ⟨q, m'', by omega, ⟨k + 1, _, turn, more⟩, ends⟩
      · exact ⟨p', m, Nat.le_succ m, ⟨0, rfl⟩, onward⟩

end Passing

/-- The states of an automaton stand at the beginning of another. -/
def Automaton.Begins (b d : Automaton) : Prop := ∀ i < b.size, d[i]? = b[i]?

section Beginnings

variable {a b d : Automaton} {size top : Nat} {s : State}

theorem Automaton.Extends.begins (written : a.Extends b size top) (begins : b.Begins d) :
    a.Begins d := by
  intro i within
  rw [begins i (by rw [written.size_eq]; omega), written.keeps within]

theorem Automaton.Begins.pushed (begins : Automaton.Begins (a.push s) d) :
    d[a.size]? = some s ∧ a.Begins d := by
  refine ⟨?_, fun i within => ?_⟩
  · rw [begins a.size (by simp), Array.getElem?_push_size]
  · rw [begins i (by simp; omega), Array.getElem?_push_lt within, Array.getElem?_eq_getElem within]

end Beginnings

namespace Writer

variable {text : Array Char} {body : Writer} {size : Nat} {R : Nat → Nat → Prop}

/-- A run gets through what is written as the relation says. -/
def Realizes (text : Array Char) (body : Writer) (R : Nat → Nat → Prop) : Prop :=
  ∀ (a d : Automaton), (body a).Begins d → Passes d text a.size (body a).size R

theorem Writes.size_eq (writes : Writes body size) (a : Automaton) :
    (body a).size = a.size + size :=
  (writes a _ (Nat.le_refl _)).size_eq

theorem Writes.begins (writes : Writes body size) {a d : Automaton} (begins : (body a).Begins d) :
    a.Begins d :=
  (writes a _ (Nat.le_refl _)).begins begins

/-- A single state that leads to the one behind it. -/
theorem realizes_push {s : State}
    (leads : ∀ i p s' p', s.Leads text i p s' p' ↔ s' = i + 1 ∧ R p p') :
    Realizes text (·.push s) R := by
  intro a d begins
  rw [Array.size_push]
  exact passes_state begins.pushed.1 (leads a.size)

private theorem realizes_copies (writes : Writes body size) (realizes : Realizes text body R)
    (k : Nat) :
    Realizes text (copies body k) (Turns R k) := by
  induction k with
  | zero => exact fun a d _ => passes_refl a.size
  | succ k ih =>
    intro a d begins
    have first := realizes a d ((writes_copies writes k).begins begins)
    exact first.trans (ih (body a) d begins)

/-- At most so many turns, if they are left to the place behind the last one. -/
theorem passes_optional (greedy : Bool) (writes : Writes body size)
    (realizes : Realizes text body R) {stop : Nat} (k : Nat) {a d : Automaton}
    (behind : stop = a.size + k * (size + 1)) (begins : (optional greedy body stop k a).Begins d) :
    Passes d text a.size stop (fun p q => ∃ j ≤ k, Turns R j p q) := by
  induction k generalizing a with
  | zero =>
    rw [Nat.zero_mul, Nat.add_zero] at behind
    subst behind
    exact (passes_refl a.size).congr fun p q => by simp [Turns]
  | succ k ih =>
    rw [Nat.succ_mul] at behind
    have size_eq := writes.size_eq (a.push (choose greedy (a.size + 1) stop))
    rw [Array.size_push] at size_eq
    have others := ih (by omega) begins
    have turned := (extends_optional greedy writes (Nat.le_refl stop) k _ (by omega)).begins begins
    have chosen := (writes.begins turned).pushed.1
    have turn := realizes _ d turned
    rw [Array.size_push] at turn
    refine (passes_choice chosen (turn.trans others) (passes_refl stop)).congr fun p q => ?_
    constructor
    · rintro (⟨r, turn, j, few, more⟩ | rfl)
      · exact ⟨j + 1, Nat.succ_le_succ few, r, turn, more⟩
      · exact ⟨0, Nat.zero_le _, rfl⟩
    · rintro ⟨j, few, turns⟩
      cases j with
      | zero => exact .inr turns
      | succ j =>
        obtain ⟨r, turn, more⟩ := turns
        exact .inl ⟨r, turn, j, Nat.le_of_succ_le_succ few, more⟩

private theorem realizes_plus (greedy : Bool) (realizes : Realizes text body R) :
    Realizes text (plus greedy body) (fun p q => ∃ k, Turns R (k + 1) p q) := by
  intro a d begins
  obtain ⟨chosen, turned⟩ := Automaton.Begins.pushed begins
  have whole := passes_plus (realizes a d turned) chosen
  rwa [plus, Array.size_push]

private theorem realizes_loop (greedy : Bool) (writes : Writes body size)
    (realizes : Realizes text body R) :
    Realizes text (loop greedy size body) (fun p q => ∃ k, Turns R k p q) := by
  intro a d begins
  obtain ⟨back, turned⟩ := Automaton.Begins.pushed begins
  have chosen := (writes.begins turned).pushed.1
  have turn := realizes _ d turned
  rw [Array.size_push] at turn
  have whole := passes_loop chosen turn back
  have size_eq := (writes_loop greedy writes).size_eq a
  rwa [size_eq, ← Nat.add_assoc]

/-- Any number of turns, the body being one that may match nothing. -/
theorem passes_any (greedy : Bool) (writes : Writes body size) (realizes : Realizes text body R)
    {a d : Automaton}
    (begins : (optional greedy (plus greedy body) (a.size + size + 2) 1 a).Begins d) :
    Passes d text a.size (a.size + size + 2) (fun p q => ∃ k, Turns R k p q) := by
  have whole := passes_optional greedy (writes_plus greedy writes)
    (realizes_plus greedy realizes) 1 (by omega) begins
  exact whole.congr fun p q => optional_turns_iff

/-- More than `k` turns. -/
theorem realizes_more (greedy : Bool) (writes : Writes body size) (realizes : Realizes text body R)
    (k : Nat) :
    Realizes text (fun a => plus greedy body (copies body k a))
      (fun p q => ∃ n, k + 1 ≤ n ∧ Turns R n p q) := by
  intro a d begins
  have first := realizes_copies writes realizes k a d ((writes_plus greedy writes).begins begins)
  refine (first.trans (realizes_plus greedy realizes _ d begins)).congr fun p q => ?_
  constructor
  · rintro ⟨r, before, j, after⟩
    exact ⟨k + (j + 1), by omega, (turns_add k (j + 1)).mpr ⟨r, before, after⟩⟩
  · rintro ⟨n, enough, turns⟩
    obtain ⟨j, rfl⟩ := Nat.exists_eq_add_of_le enough
    rw [Nat.add_assoc, Nat.add_comm 1 j, turns_add] at turns
    obtain ⟨r, before, after⟩ := turns
    exact ⟨r, before, j, after⟩

/-- From `least` to `most` turns. -/
theorem passes_between (greedy : Bool) (writes : Writes body size)
    (realizes : Realizes text body R) {least most : Nat} (ordered : least ≤ most)
    {a d : Automaton}
    (begins : (optional greedy body (a.size + least * size + (most - least) * (size + 1))
      (most - least) (copies body least a)).Begins d) :
    Passes d text a.size (a.size + least * size + (most - least) * (size + 1))
      (fun p q => ∃ n, (least ≤ n ∧ n ≤ most) ∧ Turns R n p q) := by
  have size_copies := (writes_copies writes least).size_eq a
  have others := passes_optional greedy writes realizes (most - least) (by omega) begins
  have copied := (extends_optional greedy writes (Nat.le_refl _) (most - least) _
    (by omega)).begins begins
  refine ((realizes_copies writes realizes least a d copied).trans others).congr fun p q => ?_
  constructor
  · rintro ⟨r, before, j, few, after⟩
    exact ⟨least + j, by omega, (turns_add least j).mpr ⟨r, before, after⟩⟩
  · rintro ⟨n, ⟨enough, few⟩, turns⟩
    obtain ⟨j, rfl⟩ := Nat.exists_eq_add_of_le enough
    obtain ⟨r, before, after⟩ := (turns_add least j).mp turns
    exact ⟨r, before, j, by omega, after⟩

/-- As many turns as the bounds allow. -/
theorem realizes_turns (greedy consumes : Bool) (writes : Writes body size)
    (realizes : Realizes text body R) (least : Nat) (most : Option Nat)
    (ordered : ∀ m ∈ most, least ≤ m) :
    Realizes text (turns greedy consumes size body least most)
      (fun p q => ∃ k, (least ≤ k ∧ ∀ m ∈ most, k ≤ m) ∧ Turns R k p q) := by
  intro a d begins
  have size_eq := (writes_turns greedy consumes writes least most).size_eq a
  match least, most with
  | 0, none =>
    cases consumes with
    | true => exact (realizes_loop greedy writes realizes a d begins).congr fun p q => by simp
    | false =>
      rw [size_eq]
      exact (passes_any greedy writes realizes begins).congr fun p q => by simp
  | k + 1, none =>
    exact (realizes_more greedy writes realizes k a d begins).congr fun p q => by simp
  | least, some most =>
    have same : turns greedy consumes size body least (some most) a =
        optional greedy body (a.size + least * size + (most - least) * (size + 1)) (most - least)
          (copies body least a) := by cases least <;> rfl
    have stop : Node.turnsSize size least (some most) =
        least * size + (most - least) * (size + 1) := by cases least <;> rfl
    rw [size_eq, stop, ← Nat.add_assoc]
    rw [same] at begins
    exact (passes_between greedy writes realizes (ordered most rfl) begins).congr
      fun p q => by simp

end Writer

namespace Node

mutual

/-- The part matches the text between two positions. -/
def Spans (text : Array Char) : Node → Nat → Nat → Prop
  | .empty, p, q => p = q
  | .one set _, p, q => (text[p]?).any set.mem = true ∧ q = p + 1
  | .anchor d, p, q => d.holds text p = true ∧ q = p
  | .seq items, p, q => SpansAll text items p q
  | .group _ body, p, q => Spans text body p q
  | .repeated body least most _, p, q =>
    ∃ k, (least ≤ k ∧ ∀ m ∈ most, k ≤ m) ∧ Turns (fun p q => Spans text body p q) k p q

/-- The items match the text between two positions one after the other. -/
def SpansAll (text : Array Char) : List Node → Nat → Nat → Prop
  | [], p, q => p = q
  | item :: rest, p, q => ∃ r, Spans text item p r ∧ SpansAll text rest r q

end

mutual

/-- The bounds of every repetition are in ascending order. -/
def Ordered : Node → Prop
  | .empty | .one _ _ | .anchor _ => True
  | .seq items => OrderedAll items
  | .group _ body => Ordered body
  | .repeated body least most _ => (∀ m ∈ most, least ≤ m) ∧ Ordered body

/-- The bounds of every repetition in the items are in ascending order. -/
def OrderedAll : List Node → Prop
  | [] => True
  | item :: rest => Ordered item ∧ OrderedAll rest

end

variable {text : Array Char} {body : Node} {least : Nat} {most : Option Nat} {p q : Nat}

private theorem eq_of_turns {R : Nat → Nat → Prop} (stays : ∀ p q, R p q → p = q) {k : Nat}
    (turns : Turns R k p q) : p = q := by
  cases k with
  | zero => exact turns
  | succ k => exact ((turns_succ_iff_of_eq stays k).mp turns).2

mutual

/-- What matches only the empty text stays where it is. -/
theorem eq_of_onlyEmpty : (n : Node) → n.Ordered → n.onlyEmpty = true →
    ∀ p q, n.Spans text p q → p = q
  | .empty, _, _, p, q, spans => by
    rw [Spans] at spans
    exact spans
  | .one set _, _, only, p, q, _ => by cases only
  | .anchor d, _, _, p, q, spans => by
    rw [Spans] at spans
    exact spans.2.symm
  | .seq items, ordered, only, p, q, spans => by
    rw [Ordered] at ordered
    rw [Spans] at spans
    exact eq_of_onlyEmptyAll items ordered only p q spans
  | .group _ body, ordered, only, p, q, spans => by
    rw [Ordered] at ordered
    rw [Spans] at spans
    exact eq_of_onlyEmpty body ordered only p q spans
  | .repeated body least most _, ordered, only, p, q, spans => by
    rw [Ordered] at ordered
    rw [Spans] at spans
    obtain ⟨k, ⟨_, few⟩, turns⟩ := spans
    rw [onlyEmpty, Bool.or_eq_true] at only
    rcases only with empty | never
    · exact eq_of_turns (eq_of_onlyEmpty body ordered.2 empty) turns
    · have none := few 0 (beq_iff_eq.mp never)
      obtain rfl : k = 0 := Nat.le_zero.mp none
      exact turns

private theorem eq_of_onlyEmptyAll :
    (items : List Node) → OrderedAll items → onlyEmptyAll items = true →
    ∀ p q, SpansAll text items p q → p = q
  | [], _, _, p, q, spans => by
    rw [SpansAll] at spans
    exact spans
  | item :: rest, ordered, only, p, q, spans => by
    rw [OrderedAll] at ordered
    rw [SpansAll] at spans
    obtain ⟨r, first, others⟩ := spans
    rw [onlyEmptyAll, Bool.and_eq_true] at only
    obtain rfl := eq_of_onlyEmpty item ordered.1 only.1 p r first
    exact eq_of_onlyEmptyAll rest ordered.2 only.2 p q others

end

private theorem ordered_bounds (body : Node) (ordered : ∀ m ∈ most, least ≤ m) :
    ∀ m ∈ (bounds body least most).2, (bounds body least most).1 ≤ m := by
  unfold bounds
  split
  · cases most with
    | none =>
      simp only [Option.map_none, Option.getD_none, Option.mem_some_iff]
      omega
    | some most =>
      have le := ordered most rfl
      simp only [Option.map_some, Option.getD_some, Option.mem_some_iff]
      omega
  · exact ordered

/-- Trying only once what matches only the empty text changes nothing. -/
theorem bounds_iff {R : Nat → Nat → Prop} (ordered : ∀ m ∈ most, least ≤ m)
    (stays : body.onlyEmpty = true → ∀ p q, R p q → p = q) :
    (∃ k, ((bounds body least most).1 ≤ k ∧ ∀ m ∈ (bounds body least most).2, k ≤ m) ∧
      Turns R k p q) ↔ ∃ k, (least ≤ k ∧ ∀ m ∈ most, k ≤ m) ∧ Turns R k p q := by
  -- Only whether there is a turn at all makes a difference.
  have once {low : Nat} {high : Option Nat} (ordered : ∀ m ∈ high, low ≤ m)
      (stays : ∀ p q, R p q → p = q) :
      (∃ k, (low ≤ k ∧ ∀ m ∈ high, k ≤ m) ∧ Turns R k p q) ↔ (low = 0 ∨ R p p) ∧ p = q := by
    constructor
    · rintro ⟨k, ⟨enough, -⟩, turns⟩
      cases k with
      | zero => exact ⟨.inl (by omega), turns⟩
      | succ k =>
        obtain ⟨turn, same⟩ := (turns_succ_iff_of_eq stays k).mp turns
        exact ⟨.inr turn, same⟩
    · rintro ⟨turn, rfl⟩
      refine ⟨low, ⟨Nat.le_refl low, ordered⟩, ?_⟩
      cases low with
      | zero => rfl
      | succ k => exact (turns_succ_iff_of_eq stays k).mpr ⟨turn.resolve_left (by simp), rfl⟩
  by_cases only : body.onlyEmpty = true
  · have low : (bounds body least most).1 = 0 ↔ least = 0 := by
      simp only [bounds, only, if_true]
      omega
    rw [once (ordered_bounds body ordered) (stays only), once ordered (stays only), low]
  · simp [bounds, only]

mutual

/-- A part is written as states that a run passes where the part matches. -/
theorem realizes : (n : Node) → n.Ordered → Writer.Realizes text n.write (n.Spans text)
  | .empty, _ => fun a d _ => (passes_refl a.size).congr fun p q => by rw [Spans]
  | .one set _, _ => Writer.realizes_push fun i p s' p' => by
    rw [Spans]
    simp only [State.Leads]
    grind
  | .anchor d, _ => Writer.realizes_push fun i p s' p' => by
    rw [Spans]
    simp only [State.Leads]
    grind
  | .seq items, ordered => fun a d begins => by
    rw [Ordered] at ordered
    exact (realizesAll items ordered a d begins).congr fun p q => by rw [Spans]
  | .group none body, ordered => fun a d begins => by
    rw [Ordered] at ordered
    exact (realizes body ordered a d begins).congr fun p q => by rw [Spans]
  | .group (some index) body, ordered => fun a d begins => by
    rw [Ordered] at ordered
    have mark (i : Nat) : Writer.Realizes text (·.push (.mark i)) (fun p q => q = p) :=
      Writer.realizes_push fun _ _ _ _ => Iff.rfl
    obtain ⟨_, closed⟩ := Automaton.Begins.pushed begins
    have opened := (writes body).begins closed
    have whole := ((mark _ a d opened).trans (realizes body ordered _ d closed)).trans
      (mark _ _ d begins)
    exact whole.congr fun p q => by rw [Spans]; simp
  | .repeated body least most greedy, ordered => fun a d begins => by
    rw [Ordered] at ordered
    have whole := Writer.realizes_turns greedy body.consumes (writes body)
      (realizes body ordered.2) _ _ (ordered_bounds body ordered.1) a d begins
    refine whole.congr fun p q => ?_
    rw [Spans]
    exact bounds_iff ordered.1 (eq_of_onlyEmpty body ordered.2)

/-- Items are written one after the other. -/
theorem realizesAll : (items : List Node) → OrderedAll items →
    Writer.Realizes text (writeAll items) (SpansAll text items)
  | [], _ => fun a d _ => (passes_refl a.size).congr fun p q => by rw [SpansAll]
  | item :: rest, ordered => fun a d begins => by
    rw [OrderedAll] at ordered
    have first := realizes item ordered.1 a d ((writesAll rest).begins begins)
    have whole := first.trans (realizesAll rest ordered.2 _ d begins)
    exact whole.congr fun p q => by rw [SpansAll]

end

private theorem bounded_automaton (n : Node) : n.automaton.Bounded n.automaton.size := by
  have bounded := bounded_writeAll [n]
  rwa [writeAll, writeAll] at bounded

/-- The automaton of a part finds a match if the part matches the text between two positions. -/
theorem accepts_ofNode_iff (n : Node) (ordered : n.Ordered) (text : String) :
    (ofNode n).accepts text = true ↔
      ∃ p q, p ≤ text.length ∧ n.Spans text.toList.toArray p q := by
  have passes : Passes n.automaton text.toList.toArray 0 n.automaton.size
      (n.Spans text.toList.toArray) := n.realizes ordered #[] n.automaton fun _ _ => rfl
  refine (isSome_firstMatch?_iff n.bounded_automaton).trans ?_
  have size : text.toList.toArray.size = text.length := by
    rw [List.size_toArray, String.length_toList]
  rw [size]
  constructor
  · rintro ⟨start, within, steps, ends⟩
    obtain ⟨q, _, _, spans, _⟩ := passes.leaves ends
    exact ⟨start, q, within, spans⟩
  · rintro ⟨p, q, within, spans⟩
    exact ⟨p, within, passes.enters spans (.done (Array.getElem?_eq_none (Nat.le_refl _)))⟩

end Node

end StackVM.Pattern
