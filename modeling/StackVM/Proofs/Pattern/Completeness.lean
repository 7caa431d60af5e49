import StackVM.Proofs.Pattern.Matching

/-! # What an automaton accepts is found

`Ends` says from which states at which positions an automaton comes to its end. The matcher keeps a
frontier of threads and the states that it has visited; what has been visited at a position is
closed under the steps that take no character, up to the threads that are still to be followed. So
where a run leads, a thread waits, and if no thread ever accepts there is no run.
-/

namespace StackVM.Pattern

/-- The state, which has number `s`, lets the automaton go on from a position to a state at a
position. -/
def State.Leads (text : Array Char) (s p s' p' : Nat) : State → Prop
  | .one set => ((text[p]?).any set.mem = true ∧ s' = s + 1) ∧ p' = p + 1
  | .anchor c => (c.holds text p = true ∧ s' = s + 1) ∧ p' = p
  | .mark _ => s' = s + 1 ∧ p' = p
  | .choice first second => (s' = first ∨ s' = second) ∧ p' = p
  | .jump target => s' = target ∧ p' = p

/-- From a state at a position, the automaton comes to its end in so many steps. -/
inductive Ends (a : Automaton) (text : Array Char) : Nat → Nat → Nat → Prop
  | done {s p : Nat} (here : a[s]? = none) : Ends a text 0 s p
  | step {n s p s' p' : Nat} {q : State} (here : a[s]? = some q) (leads : q.Leads text s p s' p')
    (ends : Ends a text n s' p') : Ends a text (n + 1) s p

variable {a : Automaton} {text : Array Char} {position : Nat}

section Runs

variable {start s p s' p' n : Nat} {q : State}

private theorem State.Leads.le_size (bounded : a.Bounded a.size) (here : a[s]? = some q)
    (leads : q.Leads text s p s' p') : s' ≤ a.size := by
  have behind : s + 1 ≤ a.size := (Array.getElem?_eq_some_iff.mp here).1
  cases q with
  | one set => exact leads.1.2 ▸ behind
  | anchor c => exact leads.1.2 ▸ behind
  | mark slot => exact leads.1 ▸ behind
  | choice first second =>
    refine bounded s _ here s' ?_
    simpa [State.targets] using leads.1
  | jump target => exact bounded s _ here s' (by simp [State.targets, leads.1])

theorem Ends.exists_step (ends : Ends a text n s p) (here : a[s]? = some q) :
    ∃ m s' p', n = m + 1 ∧ q.Leads text s p s' p' ∧ Ends a text m s' p' := by
  cases ends with
  | done none =>
    rw [none] at here
    cases here
  | step found leads ends =>
    cases found.symm.trans here
    exact ⟨_, _, _, rfl, leads, ends⟩

/-- What has been reached and leads to the end makes a run. -/
theorem exists_ends_of_reaches (reached : Reaches a text start s p) (ends : Ends a text n s p) :
    ∃ m, Ends a text m 0 start := by
  induction reached generalizing n with
  | start => exact ⟨n, ends⟩
  | first _ here ih => exact ih (.step here ⟨.inl rfl, rfl⟩ ends)
  | second _ here ih => exact ih (.step here ⟨.inr rfl, rfl⟩ ends)
  | jump _ here ih => exact ih (.step here ⟨rfl, rfl⟩ ends)
  | mark _ here ih => exact ih (.step here ⟨rfl, rfl⟩ ends)
  | anchor _ here holds ih => exact ih (.step here ⟨⟨holds, rfl⟩, rfl⟩ ends)
  | one _ here taken ih => exact ih (.step here ⟨⟨taken, rfl⟩, rfl⟩ ends)

/-- Only a state that takes a character leads to another position. -/
theorem State.Leads.eq_one (leads : q.Leads text s p s' p') (moves : p' ≠ p) :
    ∃ set, q = .one set := by
  cases q with
  | one set => exact ⟨set, rfl⟩
  | anchor c => exact absurd leads.2 moves
  | mark slot => exact absurd leads.2 moves
  | choice first second => exact absurd leads.2 moves
  | jump target => exact absurd leads.2 moves

private theorem Automaton.StopsAt.eq_one (stops : a.StopsAt s) (here : a[s]? = some q) :
    ∃ set, q = .one set := by
  rcases stops with ⟨set, takes⟩ | none
  · exact ⟨set, Option.some.inj (here.symm.trans takes)⟩
  · rw [none] at here
    cases here

private theorem le_of_reaches (reached : Reaches a text start s p) : start ≤ p := by
  induction reached with
  | start => exact Nat.le_refl _
  | one _ _ _ ih => exact Nat.le_succ_of_le ih
  | first _ _ ih | second _ _ ih | jump _ _ ih | mark _ _ ih | anchor _ _ _ ih => exact ih

end Runs

section Visits

variable {f : Frontier} {s : Nat}

/-- How many states have not been visited at a position. -/
def Frontier.unvisited (f : Frontier) (position : Nat) : Nat :=
  f.visited.countP (· != position + 1)

theorem Frontier.hasVisited_iff :
    f.hasVisited position s = true ↔ ∀ v, f.visited[s]? = some v → v = position + 1 := by
  unfold hasVisited
  rw [Array.getD_eq_getD_getElem?]
  cases f.visited[s]? <;> simp

private theorem Frontier.lt_of_unvisited (new : ¬ f.hasVisited position s = true) :
    s < f.visited.size :=
  Nat.lt_of_not_le fun outside => new <| hasVisited_iff.mpr fun _ found =>
    absurd (Array.getElem?_eq_some_iff.mp found).1 (Nat.not_lt.mpr outside)

private theorem Frontier.hasVisited_visit (new : ¬ f.hasVisited position s = true) (s' : Nat) :
    (f.visit position s).hasVisited position s' = true ↔
      s' = s ∨ f.hasVisited position s' = true := by
  rw [hasVisited_iff, hasVisited_iff, visit, Array.getElem?_setIfInBounds]
  have inside := Frontier.lt_of_unvisited new
  by_cases same : s = s'
  · subst same
    simp [inside]
  · simp [same, Ne.symm same]

private theorem Frontier.unvisited_visit (new : ¬ f.hasVisited position s = true) :
    (f.visit position s).unvisited position + 1 = f.unvisited position := by
  have inside := Frontier.lt_of_unvisited new
  have other : (f.visited[s] != position + 1) = true := by
    rw [hasVisited, Array.getD_eq_getD_getElem?, Array.getElem?_eq_getElem inside] at new
    simpa using new
  have some : 0 < f.visited.countP (· != position + 1) :=
    Array.countP_pos_iff.mpr ⟨_, Array.getElem_mem inside, other⟩
  rw [unvisited, visit, Array.setIfInBounds_def, dif_pos inside, Array.countP_set, if_pos other,
    if_neg (by simp), unvisited]
  omega

end Visits

section Closure

variable {f : Frontier} {pending rest : List Thread} {t : Thread}

/-- The state has been visited or is still to be followed. -/
def Frontier.Known (position : Nat) (pending : List Thread) (f : Frontier) (s : Nat) : Prop :=
  f.hasVisited position s = true ∨ ∃ t ∈ pending, t.state = s

/-- What has been visited at a position has been followed, up to some threads: its steps there lead
to known states, and a thread waits where it stops. No later position has been visited. -/
structure Frontier.Closed (a : Automaton) (text : Array Char) (position : Nat)
    (pending : List Thread) (f : Frontier) : Prop where
  size_eq : f.visited.size = a.size + 1
  past : ∀ v ∈ f.visited, v ≤ position + 1
  follows {s s' : Nat} {q : State} (visited : f.hasVisited position s = true)
    (here : a[s]? = some q) (leads : q.Leads text s position s' position) :
    f.Known position pending s'
  waits {s : Nat} (within : s ≤ a.size) (visited : f.hasVisited position s = true)
    (stops : a.StopsAt s) : ∃ t ∈ f.threads, t.state = s

theorem Frontier.Known.drop {s : Nat} (known : f.Known position (t :: rest) s)
    (visited : f.hasVisited position t.state = true) : f.Known position rest s := by
  rcases known with seen | ⟨u, member, rfl⟩
  · exact .inl seen
  · rcases List.mem_cons.mp member with rfl | later
    · exact .inl visited
    · exact .inr ⟨u, later, rfl⟩

theorem Frontier.Closed.drop (closed : f.Closed a text position (t :: rest))
    (visited : f.hasVisited position t.state = true) : f.Closed a text position rest where
  size_eq := closed.size_eq
  past := closed.past
  follows seen here leads := (closed.follows seen here leads).drop visited
  waits := closed.waits

/-- What remains to be done when the state of a thread is visited: the threads `next` take the place
of the thread. -/
theorem Frontier.Closed.visit (closed : f.Closed a text position (t :: rest))
    (new : ¬ f.hasVisited position t.state = true) (next : List Thread) {threads : List Thread}
    {fuel : Nat} (enough : 2 * f.unvisited position + (t :: rest).length ≤ fuel + 1)
    (few : next.length ≤ 2)
    (leads : ∀ s' q, a[t.state]? = some q → q.Leads text t.state position s' position →
      ∃ u ∈ next, u.state = s')
    (kept : f.threads ⊆ threads) (stops : a.StopsAt t.state → ∃ u ∈ threads, u.state = t.state) :
    { f.visit position t.state with threads }.Closed a text position (next ++ rest) ∧
      2 * (f.visit position t.state).unvisited position + (next ++ rest).length ≤ fuel ∧
      ∀ s, f.Known position (t :: rest) s →
        { f.visit position t.state with threads }.Known position (next ++ rest) s := by
  have visits (s : Nat) :
      { f.visit position t.state with threads }.hasVisited position s = true ↔
        s = t.state ∨ f.hasVisited position s = true := Frontier.hasVisited_visit new s
  have known (s : Nat) (known : f.Known position (t :: rest) s) :
      { f.visit position t.state with threads }.Known position (next ++ rest) s := by
    rcases known with seen | ⟨u, member, rfl⟩
    · exact .inl ((visits s).mpr (.inr seen))
    · rcases List.mem_cons.mp member with rfl | later
      · exact .inl ((visits _).mpr (.inl rfl))
      · exact .inr ⟨u, List.mem_append_right next later, rfl⟩
  refine ⟨⟨?_, ?_, ?_, ?_⟩, ?_, known⟩
  · exact (Array.size_setIfInBounds).trans closed.size_eq
  · intro v member
    rcases Array.mem_or_eq_of_mem_setIfInBounds member with old | same
    · exact closed.past v old
    · exact Nat.le_of_eq same
  · intro s s' q visited here leads'
    rcases (visits s).mp visited with rfl | seen
    · obtain ⟨u, member, same⟩ := leads s' q here leads'
      exact .inr ⟨u, List.mem_append_left rest member, same⟩
    · exact known s' (closed.follows seen here leads')
  · intro s within visited stops'
    rcases (visits s).mp visited with rfl | seen
    · exact stops stops'
    · obtain ⟨u, member, same⟩ := closed.waits within seen stops'
      exact ⟨u, kept member, same⟩
  · have less := Frontier.unvisited_visit new
    rw [List.length_append]
    rw [List.length_cons] at enough
    omega

/-- A state that does not stop is passed through. -/
theorem Frontier.Closed.pass (closed : f.Closed a text position (t :: rest))
    (new : ¬ f.hasVisited position t.state = true) {q : State} (here : a[t.state]? = some q)
    (passes : ∀ set, q ≠ .one set) (next : List Thread) {fuel : Nat}
    (enough : 2 * f.unvisited position + (t :: rest).length ≤ fuel + 1) (few : next.length ≤ 2)
    (leads : ∀ s', q.Leads text t.state position s' position → ∃ u ∈ next, u.state = s') :
    (f.visit position t.state).Closed a text position (next ++ rest) ∧
      2 * (f.visit position t.state).unvisited position + (next ++ rest).length ≤ fuel ∧
      ∀ s, f.Known position (t :: rest) s →
        (f.visit position t.state).Known position (next ++ rest) s := by
  refine closed.visit new next enough few ?_ (List.Subset.refl f.threads) fun stops => ?_
  · intro s' q' found leads'
    cases found.symm.trans here
    exact leads s' leads'
  · obtain ⟨set, same⟩ := stops.eq_one here
    exact absurd same (passes set)

/-- With enough fuel, threads are followed to the end. -/
theorem closed_follow (fuel : Nat) (pending : List Thread) (f : Frontier)
    (closed : f.Closed a text position pending)
    (enough : 2 * f.unvisited position + pending.length ≤ fuel) :
    (follow a text position fuel pending f).Closed a text position [] ∧
      ∀ s, f.Known position pending s →
        (follow a text position fuel pending f).hasVisited position s = true := by
  have finished {f : Frontier} (closed : f.Closed a text position []) :
      f.Closed a text position [] ∧
        ∀ s, f.Known position [] s → f.hasVisited position s = true :=
    ⟨closed, fun s known => known.resolve_right (by simp)⟩
  -- A step keeps what is known, so what is visited after it was visited from the start.
  have onward {fuel : Nat} {pending pending' : List Thread} {f f' g : Frontier}
      (stepped : f'.Closed a text position pending' ∧
        2 * f'.unvisited position + pending'.length ≤ fuel ∧
        ∀ s, f.Known position pending s → f'.Known position pending' s)
      (ih : f'.Closed a text position pending' →
        2 * f'.unvisited position + pending'.length ≤ fuel →
        g.Closed a text position [] ∧
          ∀ s, f'.Known position pending' s → g.hasVisited position s = true) :
      g.Closed a text position [] ∧
        ∀ s, f.Known position pending s → g.hasVisited position s = true := by
    obtain ⟨closed, enough, known⟩ := stepped
    obtain ⟨done, visits⟩ := ih closed enough
    exact ⟨done, fun s before => visits s (known s before)⟩
  fun_induction follow a text position fuel pending f with
  | case1 pending f =>
    obtain rfl : pending = [] := List.eq_nil_of_length_eq_zero (by omega)
    exact finished closed
  | case2 fuel f => exact finished closed
  | case3 fuel t rest f visited ih =>
    rw [List.length_cons] at enough
    exact onward ⟨closed.drop visited, by omega, fun _ known => known.drop visited⟩ ih
  | case4 fuel t rest f new f' first second here ih =>
    exact onward (closed.pass new here (by simp)
      [{ t with state := first }, { t with state := second }] enough (by simp)
      fun s' leads => by simpa [eq_comm] using leads.1) ih
  | case5 fuel t rest f new f' target here ih =>
    exact onward (closed.pass new here (by simp) [{ t with state := target }] enough (by simp)
      fun s' leads => by simpa [eq_comm] using leads.1) ih
  | case6 fuel t rest f new f' slot here ih =>
    exact onward (closed.pass new here (by simp)
      [{ t with state := t.state + 1, marks := (slot, position) :: t.marks }] enough (by simp)
      fun s' leads => by simpa [eq_comm] using leads.1) ih
  | case7 fuel t rest f new f' c here holds ih =>
    exact onward (closed.pass new here (by simp) [{ t with state := t.state + 1 }] enough (by simp)
      fun s' leads => by simpa [eq_comm] using leads.1.2) ih
  | case8 fuel t rest f new f' c here fails ih =>
    exact onward (closed.pass new here (by simp) [] enough (by simp)
      fun s' leads => absurd leads.1.1 fails) ih
  | case9 fuel t rest f new f' choice jump mark anchor ih =>
    -- Only a state that takes a character is left, and it moves to the next position.
    have moves : ∀ s' q, a[t.state]? = some q → q.Leads text t.state position s' position →
        ∃ u ∈ [], Thread.state u = s' := by
      intro s' q here leads
      cases q with
      | one set => exact absurd leads.2 (Nat.ne_of_lt (Nat.lt_succ_self position))
      | anchor c => exact absurd here (anchor c)
      | mark slot => exact absurd here (mark slot)
      | choice first second => exact absurd here (choice first second)
      | jump target => exact absurd here (jump target)
    have stepped := closed.visit new [] enough (by simp) moves
      (List.subset_cons_self t f.threads) fun _ => ⟨t, List.mem_cons_self, rfl⟩
    exact onward stepped ih

private theorem Frontier.Closed.pend (closed : f.Closed a text position []) (t : Thread) :
    f.Closed a text position [t] where
  size_eq := closed.size_eq
  past := closed.past
  follows seen here leads := .inl ((closed.follows seen here leads).resolve_right (by simp))
  waits := closed.waits

private theorem closed_enter (closed : f.Closed a text position []) (t : Thread) :
    (enter a text position t f).Closed a text position [] ∧
      (enter a text position t f).hasVisited position t.state = true ∧
      ∀ s, f.hasVisited position s = true →
        (enter a text position t f).hasVisited position s = true := by
  have few : f.unvisited position ≤ a.size + 1 := closed.size_eq ▸ Array.countP_le_size
  obtain ⟨done, visits⟩ := closed_follow (2 * a.size + 3) [t] f (closed.pend t) (by simp; omega)
  exact ⟨done, visits t.state (.inr ⟨t, List.mem_singleton_self t, rfl⟩),
    fun s seen => visits s (.inl seen)⟩

/-- Where nothing has been visited there is nothing to follow. -/
theorem Frontier.closed_of_past {visited : Array Nat} (size_eq : visited.size = a.size + 1)
    (past : ∀ v ∈ visited, v ≤ position) :
    (Frontier.mk visited []).Closed a text position [] := by
  have new {s : Nat} (within : s ≤ a.size) :
      ¬ (Frontier.mk visited []).hasVisited position s = true := by
    intro seen
    have inside : s < visited.size := size_eq ▸ Nat.lt_succ_of_le within
    have value := hasVisited_iff.mp seen _ (Array.getElem?_eq_getElem inside)
    have most := past _ (Array.getElem_mem inside)
    omega
  refine ⟨size_eq, fun v member => Nat.le_succ_of_le (past v member), ?_, ?_⟩
  · intro s s' q seen here _
    exact absurd seen (new (Nat.le_of_lt (Array.getElem?_eq_some_iff.mp here).1))
  · intro s within seen
    exact absurd seen (new within)

/-- Threads that all take a character or drop lead to what they enter. -/
theorem closed_advance (threads : List Thread) (f : Frontier)
    (closed : f.Closed a text (position + 1) [])
    (refused : (advance a text position threads f).2 = none) :
    (advance a text position threads f).1.Closed a text (position + 1) [] ∧
      (∀ s, f.hasVisited (position + 1) s = true →
        (advance a text position threads f).1.hasVisited (position + 1) s = true) ∧
      ∀ t ∈ threads, ∃ set, a[t.state]? = some (.one set) ∧
        ((text[position]?).any set.mem = true → (advance a text position threads f).1.hasVisited
          (position + 1) (t.state + 1) = true) := by
  fun_induction advance a text position threads f with
  | case1 f => exact ⟨closed, fun s seen => seen, by simp⟩
  | case2 t rest f set takes taken ih =>
    obtain ⟨entered, own, kept⟩ := closed_enter closed { t with state := t.state + 1 }
    obtain ⟨done, keeps, others⟩ := ih entered refused
    refine ⟨done, fun s seen => keeps s (kept s seen), List.forall_mem_cons.mpr ⟨?_, others⟩⟩
    exact ⟨set, takes, fun _ => keeps _ own⟩
  | case3 t rest f set takes fails ih =>
    obtain ⟨done, keeps, others⟩ := ih closed refused
    refine ⟨done, keeps, List.forall_mem_cons.mpr ⟨?_, others⟩⟩
    exact ⟨set, takes, fun taken => absurd taken fails⟩
  | case4 t rest f other => cases refused

private theorem isSome_search (fuel : Nat) (f : Frontier) (best : Option Outcome)
    (found : best.isSome = true) : (search a text fuel position f best).isSome = true := by
  fun_induction search a text fuel position f best with
  | case1 => exact found
  | case2 => exact found
  | case3 fuel position f best f' goesOn next accepted stepped ih =>
    refine ih ?_
    cases accepted with
    | none => exact found
    | some o => rfl

/-- No run leads to the end from what has been visited, if no thread that waits there is at the end
and none of those that take the character leads to it. -/
theorem Frontier.Closed.not_ends {next : Frontier} (bounded : a.Bounded a.size)
    (closed : f.Closed a text position [])
    (moved : ∀ t ∈ f.threads, ∃ set, a[t.state]? = some (.one set) ∧
      ((text[position]?).any set.mem = true →
        next.hasVisited (position + 1) (t.state + 1) = true))
    (later : position + 1 ≤ text.size → ∀ s ≤ a.size, next.hasVisited (position + 1) s = true →
      ∀ n, ¬ Ends a text n s (position + 1))
    (n : Nat) : ∀ s ≤ a.size, f.hasVisited position s = true → ¬ Ends a text n s position := by
  induction n with
  | zero =>
    intro s inside seen ends
    cases ends with
    | done here =>
      obtain ⟨t, member, rfl⟩ := closed.waits inside seen (.inr here)
      obtain ⟨set, takes, _⟩ := moved t member
      cases here.symm.trans takes
  | succ n ih =>
    intro s inside seen ends
    cases ends with
    | @step _ _ _ s' p' q here leads rest =>
      have behind := leads.le_size bounded here
      by_cases stays : p' = position
      · subst stays
        have known := closed.follows seen here leads
        exact ih s' behind (known.resolve_right (by simp)) rest
      · obtain ⟨set, rfl⟩ := leads.eq_one stays
        obtain ⟨⟨taken, rfl⟩, rfl⟩ := leads
        obtain ⟨t, member, rfl⟩ := closed.waits inside seen (.inl ⟨set, here⟩)
        obtain ⟨set', takes, moves⟩ := moved t member
        cases here.symm.trans takes
        have within : position + 1 ≤ text.size := by
          obtain ⟨c, found, _⟩ := (Option.any_eq_true _ _).mp taken
          exact (Array.getElem?_eq_some_iff.mp found).1
        exact later within _ behind (moves taken) n rest

/-- If nothing is found, no run leads to the end: neither from what has been visited nor from a
later start. -/
theorem not_ends_of_search (bounded : a.Bounded a.size) (fuel : Nat) (f : Frontier)
    (closed : f.Closed a text position []) (all : position + fuel = text.size + 1)
    (missed : search a text fuel position f none = none) :
    (position ≤ text.size → ∀ s ≤ a.size, f.hasVisited position s = true →
      ∀ n, ¬ Ends a text n s position) ∧
    ∀ start, position ≤ start → start ≤ text.size → ∀ n, ¬ Ends a text n 0 start := by
  induction fuel generalizing position f with
  | zero => exact ⟨fun within => by omega, fun start begins within => by omega⟩
  | succ fuel ih =>
    obtain ⟨entered, root, kept⟩ := closed_enter closed { start := position, state := 0 }
    simp only [search, Option.isNone_none, if_true, Option.isSome_none, Bool.false_and,
      Bool.false_eq_true, if_false] at missed
    generalize enter a text position { start := position, state := 0 } f = g
      at entered root kept missed
    cases stepped : advance a text position g.threads.reverse { g with threads := [] } with
    | mk next accepted =>
      rw [stepped] at missed
      cases accepted with
      | some o =>
        have found : (search a text fuel (position + 1) next (some o <|> none)).isSome = true :=
          isSome_search fuel next _ rfl
        rw [missed] at found
        cases found
      | none =>
        obtain ⟨advanced, -, moved⟩ := closed_advance g.threads.reverse { g with threads := [] }
          (Frontier.closed_of_past entered.size_eq entered.past) (congrArg Prod.snd stepped)
        rw [stepped] at advanced moved
        obtain ⟨later, starts⟩ := ih next advanced (by omega) missed
        have blocked := entered.not_ends bounded
          (fun t member => moved t (List.mem_reverse.mpr member)) later
        refine ⟨fun within s inside seen n => blocked n s inside (kept s seen), ?_⟩
        intro start begins within n
        rcases Nat.eq_or_lt_of_le begins with rfl | after
        · exact blocked n 0 (Nat.zero_le _) root
        · exact starts start after within n

end Closure

section Matches

private theorem stop_advance (threads : List Thread) (f : Frontier) :
    ∀ o ∈ (advance a text position threads f).2, o.stop = position := by
  fun_induction advance a text position threads f with
  | case1 => simp
  | case2 _ _ _ _ _ _ ih | case3 _ _ _ _ _ _ ih => exact ih
  | case4 => simp

/-- A match that is found stops at one of the positions that have been gone through. -/
theorem stop_search (fuel : Nat) (f : Frontier) (best : Option Outcome) :
    ∀ o ∈ search a text fuel position f best, o ∈ best ∨ o.stop < position + fuel := by
  fun_induction search a text fuel position f best with
  | case1 => exact fun o found => .inl found
  | case2 => exact fun o found => .inl found
  | case3 fuel position f best f' goesOn next accepted stepped ih =>
    intro o found
    rcases ih o found with chosen | later
    · have stops : ∀ o ∈ (advance a text position f'.threads.reverse { f' with threads := [] }).2,
          o.stop = position := stop_advance _ _
      rw [stepped] at stops
      cases accepted with
      | none => exact .inl chosen
      | some o' =>
        have stop := stops o chosen
        exact .inr (by omega)
    · exact .inr (by omega)

/-- An automaton finds a match if there is a run from its first state to its end. -/
theorem isSome_firstMatch?_iff (bounded : a.Bounded a.size) :
    (a.firstMatch? text).isSome = true ↔ ∃ start ≤ text.size, ∃ n, Ends a text n 0 start := by
  constructor
  · intro found
    obtain ⟨o, found⟩ := Option.isSome_iff_exists.mp found
    obtain ⟨s, reached, ended⟩ := reached_firstMatch? found
    have stop := (stop_search _ _ _ o found).resolve_left (by simp)
    refine ⟨o.start, Nat.le_trans (le_of_reaches reached) (by omega), ?_⟩
    exact exists_ends_of_reaches reached (.done ended)
  · rintro ⟨start, within, n, ends⟩
    rw [Option.isSome_iff_ne_none]
    intro missed
    have closed : (Frontier.empty a).Closed a text 0 [] :=
      Frontier.closed_of_past (by simp) (by simp [Array.mem_replicate])
    exact (not_ends_of_search bounded _ _ closed (Nat.zero_add _) missed).2 start (Nat.zero_le _)
      within n ends

end Matches

end StackVM.Pattern
