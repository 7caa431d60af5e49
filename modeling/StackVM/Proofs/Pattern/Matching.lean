import StackVM.Pattern.Matcher
import StackVM.Proofs.Pattern.Automaton

/-! # What the matcher finds has been reached

`Reaches` says which states an automaton comes to at which positions, one step after the other. The
matcher follows threads in bulk and leaves out what it has visited, but every thread it keeps has
been reached, and so has the end of every match.
-/

namespace StackVM.Pattern

/-- From its first state at a position of the text, the automaton comes to a state at a position. -/
inductive Reaches (a : Automaton) (text : Array Char) (start : Nat) : Nat → Nat → Prop
  | start : Reaches a text start 0 start
  | first {s p first second : Nat} (reached : Reaches a text start s p)
    (here : a[s]? = some (.choice first second)) : Reaches a text start first p
  | second {s p first second : Nat} (reached : Reaches a text start s p)
    (here : a[s]? = some (.choice first second)) : Reaches a text start second p
  | jump {s p target : Nat} (reached : Reaches a text start s p)
    (here : a[s]? = some (.jump target)) : Reaches a text start target p
  | mark {s p slot : Nat} (reached : Reaches a text start s p)
    (here : a[s]? = some (.mark slot)) : Reaches a text start (s + 1) p
  | anchor {s p : Nat} {c : Anchor} (reached : Reaches a text start s p)
    (here : a[s]? = some (.anchor c)) (holds : c.holds text p = true) :
    Reaches a text start (s + 1) p
  | one {s p : Nat} {set : CharClass} (reached : Reaches a text start s p)
    (here : a[s]? = some (.one set)) (taken : (text[p]?).any set.mem = true) :
    Reaches a text start (s + 1) (p + 1)

variable {a : Automaton} {text : Array Char} {position : Nat}

/-- The state takes a character, or the automaton ends here. -/
def Automaton.StopsAt (a : Automaton) (s : Nat) : Prop :=
  (∃ set, a[s]? = some (.one set)) ∨ a[s]? = none

/-- The thread has been reached at a position. -/
def Thread.Reached (a : Automaton) (text : Array Char) (position : Nat) (t : Thread) : Prop :=
  Reaches a text t.start t.state position

/-- The thread has been reached at a position, where it stops. -/
def Thread.Waits (a : Automaton) (text : Array Char) (position : Nat) (t : Thread) : Prop :=
  t.Reached a text position ∧ a.StopsAt t.state

section Threads

/-- Following reached threads stops at reached states. -/
theorem waits_follow (fuel : Nat) (threads : List Thread) (f : Frontier)
    (reached : ∀ t ∈ threads, t.Reached a text position)
    (waits : ∀ t ∈ f.threads, t.Waits a text position) :
    ∀ t ∈ (follow a text position fuel threads f).threads, t.Waits a text position := by
  fun_induction follow a text position fuel threads f with
  | case1 => exact waits
  | case2 => exact waits
  | case3 fuel t rest f visited ih => exact ih (List.forall_mem_cons.mp reached).2 waits
  | case4 fuel t rest f new f' first second here ih =>
    obtain ⟨head, tail⟩ := List.forall_mem_cons.mp reached
    exact ih (List.forall_mem_cons.mpr
      ⟨.first head here, List.forall_mem_cons.mpr ⟨.second head here, tail⟩⟩) waits
  | case5 fuel t rest f new f' target here ih =>
    obtain ⟨head, tail⟩ := List.forall_mem_cons.mp reached
    exact ih (List.forall_mem_cons.mpr ⟨.jump head here, tail⟩) waits
  | case6 fuel t rest f new f' slot here ih =>
    obtain ⟨head, tail⟩ := List.forall_mem_cons.mp reached
    exact ih (List.forall_mem_cons.mpr ⟨.mark head here, tail⟩) waits
  | case7 fuel t rest f new f' c here holds ih =>
    obtain ⟨head, tail⟩ := List.forall_mem_cons.mp reached
    exact ih (List.forall_mem_cons.mpr ⟨.anchor head here holds, tail⟩) waits
  | case8 fuel t rest f new f' c here fails ih => exact ih (List.forall_mem_cons.mp reached).2 waits
  | case9 fuel t rest f new f' choice jump mark anchor ih =>
    obtain ⟨head, tail⟩ := List.forall_mem_cons.mp reached
    refine ih tail (List.forall_mem_cons.mpr ⟨⟨head, ?_⟩, waits⟩)
    -- The other kinds of states have been dealt with: this one takes a character or does not exist.
    cases here : a[t.state]? with
    | none => exact .inr here
    | some s =>
      cases s with
      | one set => exact .inl ⟨set, here⟩
      | anchor c => exact absurd here (anchor c)
      | mark slot => exact absurd here (mark slot)
      | choice first second => exact absurd here (choice first second)
      | jump target => exact absurd here (jump target)

private theorem waits_enter (t : Thread) {f : Frontier} (reached : t.Reached a text position)
    (waits : ∀ t ∈ f.threads, t.Waits a text position) :
    ∀ u ∈ (enter a text position t f).threads, u.Waits a text position := by
  unfold enter
  exact waits_follow _ [t] f (List.forall_mem_singleton.mpr reached) waits

/-- The match starts where the automaton was entered and stops where it comes to its end. -/
def Outcome.Reached (a : Automaton) (text : Array Char) (o : Outcome) : Prop :=
  ∃ s, Reaches a text o.start s o.stop ∧ a[s]? = none

private theorem waits_advance (threads : List Thread) (f : Frontier)
    (here : ∀ t ∈ threads, t.Waits a text position)
    (next : ∀ t ∈ f.threads, t.Waits a text (position + 1)) :
    (∀ t ∈ (advance a text position threads f).1.threads, t.Waits a text (position + 1)) ∧
      ∀ o ∈ (advance a text position threads f).2, o.Reached a text := by
  fun_induction advance a text position threads f with
  | case1 f => exact ⟨next, fun o found => absurd found (by simp)⟩
  | case2 t rest f set takes taken ih =>
    obtain ⟨head, tail⟩ := List.forall_mem_cons.mp here
    have reached : { t with state := t.state + 1 }.Reached a text (position + 1) :=
      .one head.1 takes taken
    exact ih tail (waits_enter _ reached next)
  | case3 t rest f set takes refused ih => exact ih (List.forall_mem_cons.mp here).2 next
  | case4 t rest f other =>
    refine ⟨next, fun o found => ?_⟩
    obtain ⟨reached, stops⟩ := (List.forall_mem_cons.mp here).1
    cases found
    exact ⟨t.state, reached, stops.resolve_left fun ⟨set, takes⟩ => other set takes⟩

private theorem reached_search (fuel : Nat) (f : Frontier) (best : Option Outcome)
    (waits : ∀ t ∈ f.threads, t.Waits a text position) (found : ∀ o ∈ best, o.Reached a text) :
    ∀ o ∈ search a text fuel position f best, o.Reached a text := by
  fun_induction search a text fuel position f best with
  | case1 => exact found
  | case2 => exact found
  | case3 fuel position f best f' goesOn next accepted stepped ih =>
    have entered : ∀ t ∈ f'.threads, t.Waits a text position := by
      unfold f'
      split
      · exact waits_enter _ .start waits
      · exact waits
    obtain ⟨waiting, accepts⟩ := waits_advance f'.threads.reverse { visited := f'.visited }
      (fun t member => entered t (List.mem_reverse.mp member))
      (fun t member => absurd member (by simp))
    rw [stepped] at waiting accepts
    refine ih waiting fun o chosen => ?_
    cases accepted with
    | none => exact found o chosen
    | some o' => exact accepts o chosen

end Threads

/-- A match has been reached from its start. -/
theorem reached_firstMatch? {o : Outcome} (found : a.firstMatch? text = some o) :
    o.Reached a text :=
  reached_search _ (Frontier.empty a) none
    (fun t member => absurd member (by simp [Frontier.empty]))
    (fun o chosen => absurd chosen (by simp)) o found

section Anchors

theorem le_size_of_reaches {start s p : Nat} (within : start ≤ text.size)
    (reached : Reaches a text start s p) : p ≤ text.size := by
  induction reached with
  | start => exact within
  | one reached here taken ih =>
    obtain ⟨c, found, _⟩ := (Option.any_eq_true _ _).mp taken
    exact (Array.getElem?_eq_some_iff.mp found).1
  | first _ _ ih | second _ _ ih | jump _ _ ih | mark _ _ ih | anchor _ _ _ ih => exact ih

/-- An automaton whose first state asks for the start of the text gets beyond it there only. -/
theorem start_of_reaches {start s p : Nat} (first : a[0]? = some (.anchor .textStart))
    (reached : Reaches a text start s p) : (s = 0 ∧ p = start) ∨ start = 0 := by
  induction reached with
  | start => exact .inl ⟨rfl, rfl⟩
  | anchor reached here holds ih =>
    rcases ih with ⟨rfl, rfl⟩ | start
    · rw [first] at here
      cases here
      exact .inr (beq_iff_eq.mp holds)
    · exact .inr start
  | first reached here ih | second reached here ih | jump reached here ih | mark reached here ih
  | one reached here taken ih =>
    rcases ih with ⟨rfl, rfl⟩ | start
    · rw [first] at here
      cases here
    · exact .inr start

/-- An automaton whose last state is an anchor gets beyond it where the anchor holds only. -/
theorem holds_of_reaches {c : Anchor} {start s p : Nat} (bounded : a.Bounded a.size)
    (reached : Reaches (a.push (.anchor c)) text start s p) :
    s ≤ a.size ∨ (s = a.size + 1 ∧ c.holds text p = true) := by
  have sorts {s : Nat} {q : State} (here : (a.push (.anchor c))[s]? = some q) :
      (s = a.size ∧ q = .anchor c) ∨ (s < a.size ∧ a[s]? = some q) := by
    rw [Array.getElem?_push] at here
    split at here
    · exact .inl ⟨‹_›, (Option.some.inj here).symm⟩
    · exact .inr ⟨(Array.getElem?_eq_some_iff.mp here).1, here⟩
  induction reached with
  | start => exact .inl (Nat.zero_le _)
  | first reached here ih | second reached here ih | jump reached here ih =>
    obtain ⟨_, other⟩ | ⟨_, here⟩ := sorts here
    · cases other
    · exact .inl (bounded _ _ here _ (by simp [State.targets]))
  | mark reached here ih | one reached here taken ih =>
    obtain ⟨_, other⟩ | ⟨within, _⟩ := sorts here
    · cases other
    · exact .inl within
  | anchor reached here holds ih =>
    obtain ⟨rfl, same⟩ | ⟨within, _⟩ := sorts here
    · cases same
      exact .inr ⟨rfl, holds⟩
    · exact .inl within

end Anchors

end StackVM.Pattern
