/-! # Rearranging lists -/

namespace StackVM.Sequence

variable {α : Type}

/-- Items of two lists in turn; the rest of the longer list follows. -/
def interleave : List α → List α → List α
  | [], bs => bs
  | as, [] => as
  | a :: as, b :: bs => a :: b :: interleave as bs

/-- Groups of `size` items, the first group having room for `room` more items. -/
def chunksFrom (size : Nat) : Nat → List α → List (List α)
  | _, [] => [[]]
  | room + 1, a :: rest =>
    match chunksFrom size room rest with
    | chunk :: more => (a :: chunk) :: more
    | [] => [[a]]
  | 0, a :: rest =>
    match chunksFrom size (size - 1) rest with
    | chunk :: more => [] :: (a :: chunk) :: more
    | [] => [[], [a]]

/-- Groups of `size` items; the last one may be shorter. -/
def chunks (size : Nat) (items : List α) : List (List α) :=
  if items.isEmpty then [] else chunksFrom size size items

/-- Items two by two; the last one may be alone. -/
def pairUp : List α → List (α × Option α)
  | [] => []
  | [a] => [(a, none)]
  | a :: b :: rest => (a, some b) :: pairUp rest

end StackVM.Sequence
