import StackVM.Pattern.Basic
import StackVM.Proofs.Pattern.Language
import StackVM.Proofs.Pattern.Scanning
import StackVM.Text.Utf8

/-! # Characters that stand for themselves

A character that is written to stand for itself is read as a part that matches it. Such parts, dots
and repetitions of dots look at nothing but the characters they take: where they match is said by a
set of texts (`Takes`). Between the two ends of the text, they accept exactly that set
(`accepts_whole_iff`).
-/

namespace StackVM.Pattern

namespace Reader

/-- With as much fuel as there are characters, the reader comes from a text to a rest of it. -/
def Continues (r : Reader) (cs : List Char) (r' : Reader) (rest : List Char) : Prop :=
  ∀ fuel, cs.length ≤ fuel → ∃ left, rest.length ≤ left ∧ readFrom fuel r cs = readFrom left r' rest

variable {r r' r'' : Reader} {cs rest after : List Char}

theorem continues_refl (r : Reader) (cs : List Char) : r.Continues cs r cs :=
  fun fuel enough => ⟨fuel, enough, rfl⟩

theorem Continues.trans (first : r.Continues cs r' rest) (second : r'.Continues rest r'' after) :
    r.Continues cs r'' after := by
  intro fuel enough
  obtain ⟨left, enough, same⟩ := first fuel enough
  obtain ⟨last, enough, same'⟩ := second left enough
  exact ⟨last, enough, same.trans same'⟩

theorem continues_step (plain : r.flags.verbose = false) (shorter : rest.length < cs.length)
    (stepped : r.step cs = some (r', rest)) : r.Continues cs r' rest := by
  intro fuel enough
  obtain ⟨fuel, rfl⟩ := Nat.exists_eq_add_one_of_ne_zero (by omega : fuel ≠ 0)
  refine ⟨fuel, by omega, ?_⟩
  rw [readFrom, skipIgnored_plain plain]
  cases cs with
  | nil => simp at shorter
  | cons c cs => simp [stepped]

theorem readFrom_nil (plain : r.flags.verbose = false) (fuel : Nat) :
    readFrom fuel r [] = some r := by
  cases fuel <;> simp [readFrom, skipIgnored_plain plain]

/-- What has been read to the end is checked for open groups, depth and room. -/
theorem read?_of_continues (continues : Reader.Continues {} cs r [])
    (plain : r.flags.verbose = false) :
    Node.read? cs = if r.groups.isEmpty && (sequence r.parts).depth ≤ Node.maxDepth &&
      (sequence r.parts).fits then some (sequence r.parts) else none := by
  obtain ⟨left, _, same⟩ := continues cs.length (Nat.le_refl _)
  rw [readFrom_nil plain] at same
  rw [Node.read?, same]
  rfl

end Reader

/-- The part that matches one character. -/
def Node.literal (c : Char) : Node := .one (.single c) 0

section Escapes

variable {r : Reader} {rest : List Char}

private theorem scanEscape_special {f : Flags} {c : Char} (special : c ∈ specials) :
    scanEscape f (c :: rest) = some (.literal c, rest) := by
  simp only [specials, List.mem_cons, List.not_mem_nil, or_false] at special
  rcases special with rfl | rfl | rfl | rfl | rfl | rfl | rfl | rfl | rfl | rfl | rfl | rfl | rfl |
    rfl | rfl | rfl | rfl | rfl <;> rfl

private theorem step_plain {c : Char} (unflagged : r.flags = {}) (plain : c ∉ specials) :
    r.step (c :: rest) = some (r.add (.literal c), rest) := by
  have other {d : Char} (special : d ∈ specials) : c ≠ d := fun same => plain (same ▸ special)
  unfold Reader.step
  split
  case h_13 same =>
    cases same
    rw [unflagged]
    rfl
  case h_1 same => cases same
  all_goals
    rename_i same
    exact absurd (List.cons.inj same).1 (other (by simp [specials]))

/-- A character that is written to stand for itself is read as such. -/
theorem step_escape (unflagged : r.flags = {}) (c : Char) :
    r.step (escape c ++ rest) = some (r.add (.literal c), rest) := by
  unfold escape
  split
  · rename_i special
    have special : c ∈ specials := List.contains_iff_mem.mp special
    simp [Reader.step, scanEscape_special special, unflagged]
    rfl
  · rename_i plain
    exact step_plain unflagged fun special => plain (List.contains_iff_mem.mpr special)

theorem continues_escape (unflagged : r.flags = {}) (c : Char) :
    r.Continues (escape c ++ rest) (r.add (.literal c)) rest := by
  have some : 0 < (escape c).length := by
    unfold escape
    split <;> simp
  refine Reader.continues_step (by rw [unflagged]) ?_ (step_escape unflagged c)
  rw [List.length_append]
  omega

/-- So are several. -/
theorem continues_escapes (unflagged : r.flags = {}) (cs : List Char) :
    r.Continues (cs.flatMap escape ++ rest)
      { r with parts := (cs.map Node.literal).reverse ++ r.parts } rest := by
  induction cs generalizing r with
  | nil => exact Reader.continues_refl r rest
  | cons c cs ih =>
    rw [List.flatMap_cons, List.append_assoc, List.map_cons, List.reverse_cons, List.append_assoc]
    exact (continues_escape unflagged c).trans (ih unflagged)

end Escapes

section Stretches

variable {text : Array Char} {p q : Nat} {R R' : Nat → Nat → Prop} {L L' : List Char → Prop}

/-- What leads from a position to another takes the texts of a set. -/
def Takes (text : Array Char) (R : Nat → Nat → Prop) (L : List Char → Prop) : Prop :=
  ∀ p q, R p q ↔ ∃ taken, L taken ∧ taken <+: text.toList.drop p ∧ q = p + taken.length

private theorem append_prefix_drop_iff {cs taken after : List Char} :
    taken ++ after <+: cs.drop p ↔ taken <+: cs.drop p ∧ after <+: cs.drop (p + taken.length) := by
  constructor
  · rintro ⟨rest, split⟩
    refine ⟨⟨after ++ rest, by rw [← split, List.append_assoc]⟩, rest, ?_⟩
    rw [← List.drop_drop, ← split, List.append_assoc, List.drop_left]
  · rintro ⟨⟨rest, split⟩, more, behind⟩
    refine ⟨more, ?_⟩
    rw [← List.drop_drop, ← split, List.drop_left] at behind
    rw [List.append_assoc, behind, split]

theorem takes_nil : Takes text (· = ·) (· = []) := by
  intro p q
  simp [eq_comm]

/-- One after the other. -/
theorem Takes.append (first : Takes text R L) (second : Takes text R' L') :
    Takes text (fun p q => ∃ r, R p r ∧ R' r q)
      (fun cs => ∃ taken after, cs = taken ++ after ∧ L taken ∧ L' after) := by
  intro p q
  constructor
  · rintro ⟨r, before, behind⟩
    obtain ⟨taken, member, begins, rfl⟩ := (first p r).mp before
    obtain ⟨after, member', begins', rfl⟩ := (second _ q).mp behind
    refine ⟨taken ++ after, ⟨taken, after, rfl, member, member'⟩,
      append_prefix_drop_iff.mpr ⟨begins, begins'⟩, ?_⟩
    rw [List.length_append, Nat.add_assoc]
  · rintro ⟨_, ⟨taken, after, rfl, member, member'⟩, begins, rfl⟩
    obtain ⟨begins, begins'⟩ := append_prefix_drop_iff.mp begins
    refine ⟨p + taken.length, (first _ _).mpr ⟨taken, member, begins, rfl⟩,
      (second _ _).mpr ⟨after, member', begins', ?_⟩⟩
    rw [List.length_append, Nat.add_assoc]

theorem Takes.congr (takes : Takes text R L) (same : ∀ p q, R' p q ↔ R p q)
    (members : ∀ cs, L cs ↔ L' cs) : Takes text R' L' := by
  intro p q
  rw [same, takes p q]
  simp only [members]

private theorem singleton_prefix_drop_iff {cs : List Char} {c : Char} :
    [c] <+: cs.drop p ↔ cs[p]? = some c := by
  rw [← List.head?_drop]
  cases cs.drop p <;> simp [eq_comm]

theorem takes_one (set : CharClass) (depth : Nat) :
    Takes text ((Node.one set depth).Spans text) (fun cs => ∃ c, set.mem c = true ∧ cs = [c]) := by
  intro p q
  rw [Node.Spans, Option.any_eq_true, ← Array.getElem?_toList]
  constructor
  · rintro ⟨⟨c, found, member⟩, rfl⟩
    exact ⟨[c], ⟨c, member, rfl⟩, singleton_prefix_drop_iff.mpr found, rfl⟩
  · rintro ⟨_, ⟨c, member, rfl⟩, begins, rfl⟩
    exact ⟨⟨c, singleton_prefix_drop_iff.mp begins, member⟩, rfl⟩

private theorem takes_turns (set : CharClass) (depth k : Nat) :
    Takes text (Turns ((Node.one set depth).Spans text) k)
      (fun cs => cs.length = k ∧ ∀ c ∈ cs, set.mem c = true) := by
  induction k with
  | zero => exact takes_nil.congr (fun _ _ => Iff.rfl) fun cs => by simp +contextual
  | succ k ih =>
    refine ((takes_one set depth).append ih).congr (fun _ _ => Iff.rfl) fun cs => ?_
    constructor
    · rintro ⟨_, after, rfl, ⟨c, member, rfl⟩, length, others⟩
      exact ⟨by simp [length], List.forall_mem_cons.mpr ⟨member, others⟩⟩
    · rintro ⟨length, members⟩
      cases cs with
      | nil => cases length
      | cons c cs =>
        obtain ⟨member, others⟩ := List.forall_mem_cons.mp members
        exact ⟨[c], cs, rfl, ⟨c, member, rfl⟩, Nat.succ.inj length, others⟩

/-- Any number of characters of a set. -/
theorem takes_many (set : CharClass) (depth : Nat) (greedy : Bool) :
    Takes text ((Node.repeated (.one set depth) 0 none greedy).Spans text)
      (fun cs => ∀ c ∈ cs, set.mem c = true) := by
  intro p q
  rw [Node.Spans]
  constructor
  · rintro ⟨k, -, turns⟩
    obtain ⟨cs, ⟨-, members⟩, reached⟩ := (takes_turns set depth k p q).mp turns
    exact ⟨cs, members, reached⟩
  · rintro ⟨cs, members, reached⟩
    exact ⟨cs.length, by simp, (takes_turns set depth _ p q).mpr ⟨cs, ⟨rfl, members⟩, reached⟩⟩

theorem mem_single {c d : Char} : (CharClass.single c).mem d = true ↔ d = c := by
  rw [CharClass.single, CharClass.mem, Bool.and_eq_true, decide_eq_true_iff, decide_eq_true_iff]
  constructor
  · exact fun ⟨low, high⟩ => Char.le_antisymm high low
  · rintro rfl
    exact ⟨Char.le_refl _, Char.le_refl _⟩

theorem takes_literal (c : Char) : Takes text ((Node.literal c).Spans text) (· = [c]) :=
  (takes_one (.single c) 0).congr (fun _ _ => Iff.rfl) fun cs => by simp [mem_single]

theorem takes_literals (cs : List Char) :
    Takes text (Node.SpansAll text (cs.map Node.literal)) (· = cs) := by
  induction cs with
  | nil => exact takes_nil.congr (fun p q => by rw [List.map_nil, Node.SpansAll]) fun _ => Iff.rfl
  | cons c cs ih =>
    refine ((takes_literal c).append ih).congr (fun p q => by rw [List.map_cons, Node.SpansAll]) ?_
    simp

end Stretches

namespace Node

variable {text : Array Char} {p q : Nat} {items items' : List Node} {L : List Char → Prop}

section Sequence

theorem orderedAll_iff : OrderedAll items ↔ ∀ item ∈ items, item.Ordered := by
  induction items with
  | nil => simp [OrderedAll]
  | cons item items ih => rw [OrderedAll, ih, List.forall_mem_cons]

theorem depthAll_le_iff {n : Nat} : depthAll items ≤ n ↔ ∀ item ∈ items, item.depth ≤ n := by
  induction items with
  | nil => simp [depthAll]
  | cons item items ih => rw [depthAll, Nat.max_le, ih, List.forall_mem_cons]

theorem groupCountAll_eq_zero_iff :
    groupCountAll items = 0 ↔ ∀ item ∈ items, item.groupCount = 0 := by
  induction items with
  | nil => simp [groupCountAll]
  | cons item items ih =>
    rw [groupCountAll, List.forall_mem_cons, ← ih]
    omega

theorem sequence_reverse (several : 2 ≤ items.length) : sequence items.reverse = .seq items := by
  obtain ⟨reversed, rfl⟩ : ∃ reversed, items = List.reverse reversed :=
    ⟨items.reverse, items.reverse_reverse.symm⟩
  rw [List.length_reverse] at several
  rw [List.reverse_reverse]
  match reversed, several with
  | last :: second :: before, _ => rfl

theorem spans_sequence_iff (items : List Node) :
    (sequence items.reverse).Spans text p q ↔ SpansAll text items p q := by
  match items with
  | [] => rw [List.reverse_nil, sequence, Spans, SpansAll]
  | [item] => simp [sequence, SpansAll]
  | first :: second :: items => rw [sequence_reverse (by simp), Spans]

theorem ordered_sequence_iff (items : List Node) :
    (sequence items.reverse).Ordered ↔ OrderedAll items := by
  match items with
  | [] => simp [sequence, Ordered, OrderedAll]
  | [item] => simp [sequence, OrderedAll]
  | first :: second :: items => rw [sequence_reverse (by simp), Ordered]

theorem depth_sequence_le (items : List Node) :
    (sequence items.reverse).depth ≤ depthAll items + 1 := by
  match items with
  | [] => exact Nat.zero_le _
  | [item] => simp [sequence, depthAll]
  | first :: second :: items => exact Nat.le_of_eq (by rw [sequence_reverse (by simp), depth])

theorem groupCount_sequence (items : List Node) :
    (sequence items.reverse).groupCount = groupCountAll items := by
  match items with
  | [] => rfl
  | [item] => simp [sequence, groupCountAll]
  | first :: second :: items => rw [sequence_reverse (by simp), groupCount]

end Sequence

section Whole

/-- The items from one end of the text to the other. -/
def whole (items : List Node) : Node :=
  .seq (.anchor .textStart :: items ++ [.anchor .textEnd])

private theorem spansAll_append_iff :
    SpansAll text (items ++ items') p q ↔
      ∃ r, SpansAll text items p r ∧ SpansAll text items' r q := by
  induction items generalizing p with
  | nil => simp [SpansAll]
  | cons item items ih =>
    simp only [List.cons_append, SpansAll, ih]
    grind

private theorem spans_whole_iff (takes : Takes text (SpansAll text items) L) :
    (whole items).Spans text p q ↔ p = 0 ∧ q = text.size ∧ L text.toList := by
  rw [whole, Spans, List.cons_append, SpansAll]
  simp only [spansAll_append_iff, takes _ _, SpansAll, Spans, Anchor.holds, beq_iff_eq]
  constructor
  · rintro ⟨_, ⟨rfl, rfl⟩, _, ⟨taken, member, begins, rfl⟩, _, ⟨ends, rfl⟩, rfl⟩
    rw [List.drop_zero] at begins
    have taken_eq : taken = text.toList := begins.eq_of_length (by simp; omega)
    exact ⟨rfl, ends, taken_eq ▸ member⟩
  · rintro ⟨rfl, rfl, member⟩
    exact ⟨0, ⟨rfl, rfl⟩, text.size, ⟨text.toList, member, List.prefix_rfl, by simp⟩, text.size,
      ⟨rfl, rfl⟩, rfl⟩

theorem depth_whole (items : List Node) : (whole items).depth = depthAll items + 1 := by
  have before : depthAll (items ++ [.anchor .textEnd]) = depthAll items := by
    induction items with
    | nil => rfl
    | cons item items ih => rw [List.cons_append, depthAll, ih, depthAll]
  rw [whole, depth, List.cons_append, depthAll, before, depth, Nat.zero_max]

private theorem ordered_whole (ordered : OrderedAll items) : (whole items).Ordered := by
  rw [whole, Ordered, orderedAll_iff, List.forall_mem_append, List.forall_mem_cons,
    List.forall_mem_singleton]
  exact ⟨⟨trivial, orderedAll_iff.mp ordered⟩, trivial⟩

/-- Between the ends of the text, exactly the texts of the set are accepted. -/
theorem accepts_whole_iff (ordered : OrderedAll items)
    (takes : ∀ text, Takes text (SpansAll text items) L) (t : String) :
    (ofNode (whole items)).accepts t = true ↔ L t.toList := by
  rw [accepts_ofNode_iff _ (ordered_whole ordered)]
  simp only [spans_whole_iff (takes _)]
  constructor
  · rintro ⟨p, q, _, _, _, member⟩
    exact member
  · intro member
    exact ⟨0, _, Nat.zero_le _, rfl, rfl, member⟩

end Whole

end Node

end StackVM.Pattern
