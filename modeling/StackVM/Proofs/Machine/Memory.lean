import StackVM.Proofs.Machine.Segment
import StackVM.Proofs.Value.Fingerprint

/-! # Remembered results

A lookup depends on the history of the run alone. It finds what was on top of the stack when a
result was last stored in the same cache for parameters with the same fingerprint, unless the cache
was deleted since. Calls, returns and throws choose the parameters that count, but only two
operations change what a lookup finds, and none of the three that work on caches touches variables,
subroutines or handlers. Parameters have one fingerprint exactly if they are alike.
-/

namespace StackVM

namespace Cache

variable (c : Cache) (id other : Int) (key another : String) (v : Value)

/-- What is left of a cache gives the same values as before. -/
theorem get?_filter (keep : Int × String → Bool) (kept : keep (other, another) = true) :
    get? (c.filter fun entry => keep entry.1) other another = c.get? other another := by
  unfold get?
  rw [List.find?_filter]
  congr 2
  funext entry
  by_cases found : entry.1 = (other, another)
  · simp [found, kept]
  · simp [beq_false_of_ne found]

theorem get?_insert : (c.insert id key v).get? other another =
    if (id, key) = (other, another) then some v else c.get? other another := by
  split_ifs with same
  · simp [insert, get?, same]
  · rw [← get?_filter c other another (· != (id, key)) (bne_iff_ne.mpr (Ne.symm same))]
    simp only [insert, get?, List.find?_cons, beq_false_of_ne same]

private theorem get?_delete : (c.delete id).get? other another =
    if id = other then none else c.get? other another := by
  split_ifs with same
  · simp only [get?, delete, List.find?_filter, Option.map_eq_none_iff, List.find?_eq_none]
    intro entry _ found
    obtain ⟨differs, place⟩ : ¬ entry.1.1 = other ∧ entry.1 = (other, another) := by
      simpa [same] using found
    exact differs (by rw [place])
  · exact get?_filter c other another (fun place => place.1 != id) (bne_iff_ne.mpr (Ne.symm same))

end Cache

namespace Machine

/-- The parameters of the innermost subroutine; null outside of all subroutines. -/
def currentParams (m : Machine) : Value :=
  match m.frames with
  | f :: _ => f.params
  | [] => .null

theorem cacheKey_eq_fingerprint (m : Machine) : m.cacheKey = m.currentParams.fingerprint := by
  unfold cacheKey params? currentParams
  cases m.frames <;> rfl

/-- The next instruction stores a value in a cache, for parameters with a fingerprint. -/
def Stores (s : Settings) (id : Int) (key : String) (v : Value) (m : Machine) : Prop :=
  ∃ i, m.Executing s .setCache i ∧ i.operand0 = id ∧ m.currentParams.fingerprint = key ∧
    m.stack.peek = v

/-- The next instruction deletes a cache. -/
def Deletes (s : Settings) (id : Int) (m : Machine) : Prop :=
  ∃ i, m.Executing s .deleteCache i ∧ i.operand0 = id

/-- After a number of steps, a run is at a state with a property. -/
def StandsAt (s : Settings) (start : Machine) (k : Nat) (P : Machine → Prop) : Prop :=
  ∃ state, start.run s k = .running state ∧ P state

/-- A value was stored within the first `n` steps of a run, and since then the cache was not deleted
and nothing else was stored for the same fingerprint. -/
def Remembers (s : Settings) (start : Machine) (n : Nat) (id : Int) (key : String) (v : Value) : Prop :=
  ∃ k < n, start.StandsAt s k (Stores s id key v) ∧ ∀ j, k < j → j < n →
    ¬ start.StandsAt s j (Deletes s id) ∧ ∀ w, ¬ start.StandsAt s j (Stores s id key w)

section Steps

variable {s : Settings} {m next : Machine} {op : Opcode} {i : Instruction} {id : Int} {key : String}
  {v : Value}

theorem Executing.unique {op' : Opcode} {i' : Instruction} (executing : m.Executing s op i)
    (other : m.Executing s op' i') : op = op' ∧ i = i' := by
  have same : i = i' := Option.some.inj (executing.fetched.symm.trans other.fetched)
  subst same
  exact ⟨Option.some.inj (executing.decoded.symm.trans other.decoded), rfl⟩

private theorem Executing.stores_iff (executing : m.Executing s op i) :
    m.Stores s id key v ↔ op = .setCache ∧ i.operand0 = id ∧ m.cacheKey = key ∧ m.stack.peek = v := by
  rw [cacheKey_eq_fingerprint]
  constructor
  · rintro ⟨store, stores, found⟩
    obtain ⟨rfl, rfl⟩ := executing.unique stores
    exact ⟨rfl, found⟩
  · rintro ⟨rfl, found⟩
    exact ⟨i, executing, found⟩

private theorem Executing.deletes_iff (executing : m.Executing s op i) :
    m.Deletes s id ↔ op = .deleteCache ∧ i.operand0 = id := by
  constructor
  · rintro ⟨delete, deletes, found⟩
    obtain ⟨rfl, rfl⟩ := executing.unique deletes
    exact ⟨rfl, found⟩
  · rintro ⟨rfl, found⟩
    exact ⟨i, executing, found⟩

/-- A step changes the remembered results as its operation says, also if it throws. -/
theorem step_cache (stepped : m.step s = .running next) :
    ∃ op i, m.Executing s op i ∧ next.cache = m.cacheAfter op i := by
  obtain ⟨op, i, left, target, executing, ran, rfl⟩ |
    ⟨i, f, left, h, outer, ⟨op, executing, failed⟩, _, _, rfl⟩ := step_running stepped
  · refine ⟨op, i, executing, ?_⟩
    rw [← m.execute_cache s i op, ran]
  · refine ⟨op, i, executing, ?_⟩
    rw [← m.execute_cache s i op, failed]
    rfl

/-- What a step lets a lookup find: the value that it stores, or else what was there before, if the
step neither deletes the cache nor stores anything. -/
theorem step_get? (stepped : m.step s = .running next) :
    next.cache.get? id key = some v ↔ m.Stores s id key v ∨
      ¬ m.Deletes s id ∧ (∀ w, ¬ m.Stores s id key w) ∧ m.cache.get? id key = some v := by
  obtain ⟨op, i, executing, after⟩ := step_cache stepped
  simp only [after, executing.stores_iff, executing.deletes_iff]
  cases op with
  | setCache =>
    rw [cacheAfter, Cache.get?_insert]
    by_cases same : i.operand0 = id ∧ m.cacheKey = key
    · simp [same]
    · simp only [Prod.mk.injEq, same, if_false]
      grind
  | deleteCache =>
    rw [cacheAfter, Cache.get?_delete]
    by_cases same : i.operand0 = id <;> simp [same]
  | _ => simp [cacheAfter]

/-- A lookup that hits pushes what is remembered. -/
theorem Executing.step_hit (looks : m.Executing s .getCacheElseJump i)
    (found : m.cache.get? i.operand0 m.cacheKey = some v) :
    m.step s = .running { m with ip := m.ip + 1, stack := v :: m.stack } := by
  have ran : m.execute s .getCacheElseJump i = .ok (m.push v) := by
    simp only [execute, found]
  exact looks.step_ok ran

/-- A lookup that misses jumps. -/
theorem Executing.step_miss (looks : m.Executing s .getCacheElseJump i)
    (missing : m.cache.get? i.operand0 m.cacheKey = none) :
    m.step s = .running { m with ip := i.operand1.toNat } := by
  have ran : m.execute s .getCacheElseJump i = .jump m (target i.operand1) := by
    simp only [execute, missing]
  exact looks.step_ok ran

private theorem Executing.step_setCache (stores : m.Executing s .setCache i) :
    m.step s = .running { m with
      ip := m.ip + 1
      cache := m.cache.insert i.operand0 m.cacheKey m.stack.peek } :=
  stores.step_ok rfl

private theorem Executing.step_deleteCache (deletes : m.Executing s .deleteCache i) :
    m.step s = .running { m with ip := m.ip + 1, cache := m.cache.delete i.operand0 } :=
  deletes.step_ok rfl

/-- The operations on caches leave variables, subroutines and handlers alone. -/
theorem Executing.step_keeps_of_cache (executing : m.Executing s op i)
    (stepped : m.step s = .running next)
    (works : op = .getCacheElseJump ∨ op = .setCache ∨ op = .deleteCache) :
    next.vars = m.vars ∧ next.frames = m.frames ∧ next.handlers = m.handlers := by
  obtain rfl | rfl | rfl := works
  · cases found : m.cache.get? i.operand0 m.cacheKey with
    | some v =>
      rw [executing.step_hit found] at stepped
      cases stepped
      exact ⟨rfl, rfl, rfl⟩
    | none =>
      rw [executing.step_miss found] at stepped
      cases stepped
      exact ⟨rfl, rfl, rfl⟩
  · rw [executing.step_setCache] at stepped
    cases stepped
    exact ⟨rfl, rfl, rfl⟩
  · rw [executing.step_deleteCache] at stepped
    cases stepped
    exact ⟨rfl, rfl, rfl⟩

/-- No other operation changes the remembered results, be it that it completes or that it throws. -/
theorem Executing.step_cache_eq (executing : m.Executing s op i) (stepped : m.step s = .running next)
    (other : op ≠ .setCache) (another : op ≠ .deleteCache) : next.cache = m.cache := by
  obtain ⟨op', i', same, after⟩ := step_cache stepped
  obtain ⟨rfl, rfl⟩ := executing.unique same
  rw [after]
  cases op with
  | setCache => exact absurd rfl other
  | deleteCache => exact absurd rfl another
  | _ => rfl

end Steps

section Runs

variable {s : Settings} {start state : Machine} {n : Nat} {id : Int} {key : String} {v : Value}

private theorem standsAt_iff {P : Machine → Prop} (reached : start.run s n = .running state) :
    start.StandsAt s n P ↔ P state := by
  constructor
  · rintro ⟨other, same, holds⟩
    rw [reached] at same
    cases same
    exact holds
  · intro holds
    exact ⟨state, reached, holds⟩

/-- One more step of a run decides anew what is remembered, as `step_get?` says of the cache. -/
theorem remembers_succ (reached : start.run s n = .running state) :
    start.Remembers s (n + 1) id key v ↔ state.Stores s id key v ∨
      ¬ state.Deletes s id ∧ (∀ w, ¬ state.Stores s id key w) ∧ start.Remembers s n id key v := by
  constructor
  · rintro ⟨k, bound, stored, since⟩
    obtain earlier | rfl := Nat.lt_succ_iff_lt_or_eq.mp bound
    · obtain ⟨undeleted, unstored⟩ := since n earlier (Nat.lt_succ_self n)
      simp only [standsAt_iff reached] at undeleted unstored
      exact .inr ⟨undeleted, unstored, k, earlier, stored,
        fun j after within => since j after (Nat.lt_succ_of_lt within)⟩
    · exact .inl ((standsAt_iff reached).mp stored)
  · rintro (stores | ⟨undeleted, unstored, k, bound, stored, since⟩)
    · exact ⟨n, Nat.lt_succ_self n, (standsAt_iff reached).mpr stores, fun j after within => by omega⟩
    · refine ⟨k, Nat.lt_succ_of_lt bound, stored, ?_⟩
      intro j after within
      obtain earlier | rfl := Nat.lt_succ_iff_lt_or_eq.mp within
      · exact since j after earlier
      · simp only [standsAt_iff reached]
        exact ⟨undeleted, unstored⟩

/-- The cache of a run that starts with an empty one holds what the run remembers. -/
theorem get?_eq_some_iff_remembers (initial : start.cache = [])
    (reached : start.run s n = .running state) :
    state.cache.get? id key = some v ↔ start.Remembers s n id key v := by
  induction n generalizing state with
  | zero =>
    cases reached
    simp [initial, Cache.get?, Remembers]
  | succ n ih =>
    obtain ⟨before, earlier, stepped⟩ := run_last reached
    rw [step_get? stepped, remembers_succ earlier, ih earlier]

/-- Something is remembered exactly if something was stored and the cache not deleted since: the
latest of such stores counts. -/
theorem exists_remembers_iff : (∃ v, start.Remembers s n id key v) ↔
    ∃ k < n, (∃ v, start.StandsAt s k (Stores s id key v)) ∧
      ∀ j, k < j → j < n → ¬ start.StandsAt s j (Deletes s id) := by
  constructor
  · rintro ⟨v, k, bound, stored, since⟩
    exact ⟨k, bound, ⟨v, stored⟩, fun j after within => (since j after within).1⟩
  · rintro ⟨k, bound, stored, undeleted⟩
    induction n with
    | zero => cases bound
    | succ n ih =>
      by_cases latest : ∃ v, start.StandsAt s n (Stores s id key v)
      · obtain ⟨v, storesLast⟩ := latest
        exact ⟨v, n, Nat.lt_succ_self n, storesLast, fun j after within => by omega⟩
      · have earlier : k < n := by
          refine Nat.lt_of_le_of_ne (Nat.le_of_lt_succ bound) ?_
          rintro rfl
          exact latest stored
        obtain ⟨v, first, within, storesFirst, since⟩ :=
          ih earlier fun j after within => undeleted j after (Nat.lt_succ_of_lt within)
        refine ⟨v, first, Nat.lt_succ_of_lt within, storesFirst, ?_⟩
        intro j after bound
        obtain before | rfl := Nat.lt_succ_iff_lt_or_eq.mp bound
        · exact since j after before
        · exact ⟨undeleted j earlier bound, fun w stores => latest ⟨w, stores⟩⟩

/-- Lookups follow the history of the run. A lookup pushes a value exactly if that value was on top
of the stack when the latest result was stored in its cache, for parameters with the fingerprint of
the current ones and with no deletion of the cache since; there is such a value exactly if something
was stored so at all and the cache was not deleted afterwards, and else the lookup only jumps. No
step but those of the two operations that store and delete changes what any lookup finds, and none
of the operations on caches touches variables, subroutines or handlers. -/
theorem lookup_follows_history {arguments : List String} {seed : UInt64} {world : World}
    {look : Instruction}
    (reached : (Machine.start s.program arguments seed world).run s n = .running state)
    (looks : state.Executing s .getCacheElseJump look) :
    let start := Machine.start s.program arguments seed world
    let key := state.currentParams.fingerprint
    let hit := fun v => state.step s = .running { state with ip := state.ip + 1, stack := v :: state.stack }
    let kept := ∃ k < n, (∃ v, start.StandsAt s k (Stores s look.operand0 key v)) ∧
      ∀ j, k < j → j < n → ¬ start.StandsAt s j (Deletes s look.operand0)
    (∀ v, hit v ↔ start.Remembers s n look.operand0 key v) ∧
    ((∃ v, hit v) ↔ kept) ∧
    (state.step s = .running { state with ip := (max look.operand1 0).toNat } ↔ ¬ kept) ∧
    ∀ (before next : Machine) (op : Opcode) (i : Instruction),
      before.Executing s op i → before.step s = .running next →
      (op ≠ .setCache → op ≠ .deleteCache →
        ∀ id key, next.cache.get? id key = before.cache.get? id key) ∧
      (op = .getCacheElseJump ∨ op = .setCache ∨ op = .deleteCache →
        next.vars = before.vars ∧ next.frames = before.frames ∧ next.handlers = before.handlers) := by
  intro start key hit kept
  have found (v : Value) : state.cache.get? look.operand0 state.cacheKey = some v ↔
      start.Remembers s n look.operand0 key v := by
    rw [cacheKey_eq_fingerprint]
    exact get?_eq_some_iff_remembers rfl reached
  have hits (v : Value) : hit v ↔ state.cache.get? look.operand0 state.cacheKey = some v := by
    refine ⟨?_, looks.step_hit⟩
    intro stepped
    cases present : state.cache.get? look.operand0 state.cacheKey with
    | some w =>
      simp only [hit, looks.step_hit present, Progress.running.injEq, Machine.mk.injEq,
        List.cons.injEq] at stepped
      rw [stepped.1.1]
    | none =>
      -- A miss leaves the stack as it is, and so it is no hit.
      simp [hit, looks.step_miss present] at stepped
  have some_hit : (∃ v, hit v) ↔ kept := by
    simp only [hits, found]
    exact exists_remembers_iff
  refine ⟨fun v => (hits v).trans (found v), some_hit, ?_, ?_⟩
  · have target : (max look.operand1 0).toNat = look.operand1.toNat := by omega
    rw [← some_hit, target]
    constructor
    · rintro stepped ⟨v, stepped'⟩
      simp [hit, stepped] at stepped'
    · intro missed
      apply looks.step_miss
      rw [Option.eq_none_iff_forall_ne_some]
      exact fun v present => missed ⟨v, (hits v).mpr present⟩
  · intro before next op i executing stepped
    refine ⟨?_, executing.step_keeps_of_cache stepped⟩
    intro other another id key
    rw [executing.step_cache_eq stepped other another]

/-- A result is stored in a subroutine that a fault leaves, and looked up in another one with equal
parameters. -/
private def remembering : Settings where
  program :=
    { instructions := #[⟨4, 0, 0, 1⟩, ⟨17, 5, 0, 2⟩, ⟨8, 0, 0, 3⟩, ⟨15, 7, 0, 4⟩, ⟨10, 9, 0, 5⟩, ⟨8, 1, 0, 6⟩,
        ⟨14, 7, 0, 7⟩]
      constants := #[.str "x"] }

private def rememberingRun (n : Nat) : Machine :=
  ((Machine.start remembering.program [] 0 idle.world).run remembering n).machine

theorem lookup_follows_history_remembering :
    (rememberingRun 6).step remembering =
      .running { rememberingRun 6 with ip := 7, stack := .str "x" :: (rememberingRun 6).stack } := by
  have reached : (Machine.start remembering.program [] 0 idle.world).run remembering 6 =
      .running (rememberingRun 6) := rfl
  have looks : (rememberingRun 6).Executing remembering .getCacheElseJump ⟨14, 7, 0, 7⟩ := ⟨rfl, rfl⟩
  obtain ⟨hits, _⟩ := lookup_follows_history reached looks
  have stored : (rememberingRun 3).Stores remembering 7 (rememberingRun 6).currentParams.fingerprint
      (.str "x") := ⟨⟨15, 7, 0, 4⟩, ⟨rfl, rfl⟩, rfl, rfl, rfl⟩
  refine (hits (.str "x")).mpr ⟨3, by decide, ⟨rememberingRun 3, rfl, stored⟩, ?_⟩
  intro j after within
  have fault : (rememberingRun 4).Executing remembering .copy ⟨10, 9, 0, 5⟩ := ⟨rfl, rfl⟩
  have call : (rememberingRun 5).Executing remembering .pushIndex ⟨8, 1, 0, 6⟩ := ⟨rfl, rfl⟩
  obtain rfl | rfl : j = 4 ∨ j = 5 := by omega
  · have stands : (Machine.start remembering.program [] 0 idle.world).run remembering 4 =
        .running (rememberingRun 4) := rfl
    simp [standsAt_iff stands, fault.stores_iff, fault.deletes_iff]
  · have stands : (Machine.start remembering.program [] 0 idle.world).run remembering 5 =
        .running (rememberingRun 5) := rfl
    simp [standsAt_iff stands, call.stores_iff, call.deletes_iff]

end Runs

/-- Two values have one fingerprint exactly if they are alike, and so equal values have one. What is
stored for the parameters of one machine is found for those of another exactly if these are alike;
for all others the cache gives what it gave before. -/
theorem parameters_share_iff_alike :
    (∀ v w : Value, v.fingerprint = w.fingerprint ↔ v.alike w = true) ∧
    (∀ v w : Value, (v == w) = true → v.fingerprint = w.fingerprint) ∧
    ∀ (m m' : Machine) (c : Cache) (id other : Int) (x : Value),
      (c.insert id m.cacheKey x).get? other m'.cacheKey =
        if id = other ∧ m.currentParams.alike m'.currentParams = true then some x
        else c.get? other m'.cacheKey := by
  refine ⟨fun v w => Value.fingerprint_eq_iff, fun v w => Value.fingerprint_eq_of_beq, ?_⟩
  intro m m' c id other x
  have shared : (id, m.cacheKey) = (other, m'.cacheKey) ↔
      id = other ∧ m.currentParams.alike m'.currentParams = true := by
    rw [Prod.mk.injEq, cacheKey_eq_fingerprint, cacheKey_eq_fingerprint, Value.fingerprint_eq_iff]
  rw [Cache.get?_insert]
  exact if_congr shared rfl rfl

/-- The zeros count as one number, but a text with the marks of a list inside stays one text. -/
theorem parameters_share_iff_alike_marked :
    (Value.arr [.num 0.0, .str "a\", \"b"]).fingerprint =
      (Value.arr [.num (-0.0), .str "a\", \"b"]).fingerprint ∧
    (Value.arr [.num 0.0, .str "a\", \"b"]).fingerprint ≠
      (Value.arr [.num 0.0, .str "a", .str "b"]).fingerprint := by
  obtain ⟨shared, equal, _⟩ := parameters_share_iff_alike
  refine ⟨equal _ _ (by decide), ?_⟩
  rw [ne_eq, shared]
  decide

end Machine

end StackVM
