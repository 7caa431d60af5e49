/-! # Item by item, step by step

Values and documents are nested through lists, so that what is defined for all their items is
defined by recursion on these lists. The lemmas here turn such definitions into statements about the
members of a list. A result that is computed in steps succeeds only if every step does.
-/

namespace StackVM

variable {α β ε : Type}

/-- A property of lists that is defined item by item holds when every item has its part. -/
theorem forall_mem_iff_of_cons (every : List α → Prop) {each : α → Prop} (nil : every [])
    (cons : ∀ a as, every (a :: as) ↔ each a ∧ every as) (as : List α) :
    every as ↔ ∀ a ∈ as, each a := by
  induction as with
  | nil => exact iff_of_true nil (List.forall_mem_nil each)
  | cons a as ih => rw [cons, ih, List.forall_mem_cons]

/-- A function on lists that is defined item by item maps the items. -/
theorem eq_map_of_cons {f : α → β} {all : List α → List β} (nil : all [] = [])
    (cons : ∀ a as, all (a :: as) = f a :: all as) (as : List α) : all as = as.map f := by
  induction as with
  | nil => exact nil
  | cons a as ih => rw [cons, ih, List.map_cons]

theorem exists_of_bind_eq_ok {result : Except ε α} {next : α → Except ε β} {value : β}
    (done : (result >>= next) = .ok value) : ∃ a, result = .ok a ∧ next a = .ok value := by
  cases result with
  | error e => cases done
  | ok a => exact ⟨a, rfl, done⟩

end StackVM
