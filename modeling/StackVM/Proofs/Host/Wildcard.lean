import StackVM.Host.Wildcard
import StackVM.Proofs.Pattern.Anchoring
import StackVM.Proofs.Pattern.Literal
import StackVM.Proofs.Pattern.Room

/-! # What wildcards stand for

Without brackets, a component is read as one part for each of its characters between the two ends
of the name. The pattern exists for every component of at most 8192 characters, and it accepts
exactly the names that come from the component by putting characters for the wildcards. A wildcard
does not stand for a line feed, though, so a name with a line feed can be missed.
-/

namespace StackVM.Wildcard

open Pattern

/-- The texts that a character of a component stands for; wildcards stand for free characters. -/
def StandsFor (free : Char → Prop) (c : Char) (taken : List Char) : Prop :=
  if c = '*' then ∀ d ∈ taken, free d
  else if c = '?' then ∃ d, free d ∧ taken = [d]
  else taken = [c]

/-- The name is made of texts that the characters of the component stand for. -/
def Stands (free : Char → Prop) : List Char → List Char → Prop
  | [], name => name = []
  | c :: component, name =>
    ∃ taken rest, name = taken ++ rest ∧ StandsFor free c taken ∧ Stands free component rest

section Reading

/-- The extended notation of a character of a component. -/
def glyph (c : Char) : List Char :=
  if c = '*' then ['.', '*'] else if c = '?' then ['.'] else escape c

/-- Any character but a line feed. -/
def dot : CharClass := .compl (.single '\n')

/-- The part that a character of a component is read as. -/
def node (c : Char) : Node :=
  if c = '*' then .repeated (.one dot 0) 0 none true
  else if c = '?' then .one dot 0
  else .literal c

private theorem extendedFrom_eq {component : List Char} (noSets : '[' ∉ component) (last : Char) :
    extendedFrom false last component = component.flatMap glyph ++ ['$'] := by
  induction component generalizing last with
  | nil => rfl
  | cons c component ih =>
    obtain ⟨other, noSets⟩ := not_or.mp (mt List.mem_cons.mpr noSets)
    have rest (last : Char) := ih noSets last
    unfold extendedFrom
    rw [if_neg Bool.false_ne_true, List.flatMap_cons, List.append_assoc]
    split
    · rw [rest]
      rfl
    · rw [rest]
      rfl
    · exact absurd rfl other
    · rename_i star question _
      rw [rest, glyph, if_neg star, if_neg question]

variable {r : Reader} {rest : List Char}

private theorem head?_glyphs (component : List Char) :
    (component.flatMap glyph ++ ['$']).head? ≠ some '?' := by
  cases component with
  | nil => simp
  | cons c component =>
    rw [List.flatMap_cons, List.append_assoc, glyph]
    split
    · simp
    · split
      · simp
      · exact head?_escape c

private theorem continues_dot (unflagged : r.flags = {}) :
    r.Continues ('.' :: rest) (r.add (.one dot 0)) rest := by
  refine Reader.continues_step (by rw [unflagged]) (by simp) ?_
  rw [Reader.step, unflagged]
  rfl

private theorem continues_star (unflagged : r.flags = {}) (greedy : rest.head? ≠ some '?') :
    (r.add (.one dot 0)).Continues ('*' :: rest) (r.add (.repeated (.one dot 0) 0 none true))
      rest := by
  refine Reader.continues_step (by rw [Reader.add, unflagged]) (by simp) ?_
  rw [Reader.step, Reader.scanRepeat]
  · simp [Reader.repeatLast, Reader.add, unflagged]
  · rintro rest rfl
    exact greedy rfl

/-- A character of a component is read as its part, unless what follows makes it lazy. -/
theorem continues_glyph (unflagged : r.flags = {}) (c : Char) (greedy : rest.head? ≠ some '?') :
    r.Continues (glyph c ++ rest) (r.add (node c)) rest := by
  unfold glyph node
  split
  · exact (continues_dot unflagged).trans (continues_star unflagged greedy)
  · split
    · exact continues_dot unflagged
    · exact continues_escape unflagged c

private theorem continues_glyphs (unflagged : r.flags = {}) (component : List Char) :
    r.Continues (component.flatMap glyph ++ ['$'])
      { r with parts := (component.map node).reverse ++ r.parts } ['$'] := by
  induction component generalizing r with
  | nil => exact Reader.continues_refl r _
  | cons c component ih =>
    rw [List.flatMap_cons, List.append_assoc, List.map_cons, List.reverse_cons, List.append_assoc]
    exact (continues_glyph unflagged c (head?_glyphs component)).trans (ih unflagged)

private theorem continues_component (component : List Char) :
    Reader.Continues {} ('^' :: component.flatMap glyph ++ ['$'])
      { parts := (Node.anchor .textStart :: component.map node ++ [Node.anchor .textEnd]).reverse }
      [] := by
  have start : Reader.Continues {} ('^' :: component.flatMap glyph ++ ['$'])
      { parts := [.anchor .textStart] } (component.flatMap glyph ++ ['$']) :=
    Reader.continues_step rfl (by simp) rfl
  refine start.trans ((continues_glyphs rfl component).trans ?_)
  refine Reader.continues_step rfl (by simp) ?_
  simp [Reader.step, Reader.add, Reader.endAnchor]

private theorem depthAll_nodes_le (component : List Char) :
    Node.depthAll (component.map node) ≤ 1 := by
  refine Node.depthAll_le_iff.mpr (List.forall_mem_map.mpr fun c _ => ?_)
  unfold node
  split
  · exact Nat.le_refl _
  · split <;> exact Nat.zero_le _

end Reading

section Room

private theorem toRanges_dot : dot.toRanges = [(0, 9), (11, 0xd7ff), (0xe000, 0x10ffff)] := by
  have merged : List.merge [(10, 10)] [(0xd800, 0xdfff)] (fun x y : Nat × Nat => x.1 ≤ y.1) =
      [(10, 10), (0xd800, 0xdfff)] := by simp
  change Text.Ranges.gapsFrom 0 (Text.Ranges.join (List.merge [(10, 10)] _ _)) = _
  rw [merged]
  rfl

private theorem toPart_dot : (Node.one dot 0).toPart =
    .sequences (byteSequences [(0, 9), (11, 0xd7ff), (0xe000, 0x10ffff)]) := by
  rw [Node.toPart, Part.ofSet, toRanges_dot]
  rfl

/-- A dot has ten byte sequences, with 28 ranges altogether. -/
theorem atMost_dot : (Node.one dot 0).toPart.AtMost 1216 := by
  rw [toPart_dot]
  exact Part.atMost_sequences (by decide)

/-- A character of a component takes at most so many bytes. -/
theorem atMost_node (c : Char) : (node c).toPart ≠ .empty ∧ (node c).toPart.AtMost 1256 := by
  unfold node
  split
  · have repeated : (Node.repeated (.one dot 0) 0 none true).toPart =
        .repeated (Node.one dot 0).toPart 0 none := rfl
    refine ⟨by simp [repeated], atMost_dot.many ?_⟩
    rw [toPart_dot, Part.consumes]
  · split
    · refine ⟨?_, atMost_dot.mono (by decide)⟩
      simp [toPart_dot]
    · rw [Node.literal, toPart_single]
      have size : c.utf8Size ≤ 4 := c.utf8Size_le_four
      exact ⟨by simp, (Part.adds_row _).atMost.mono (by omega)⟩

private theorem fits_component {component : List Char} (short : component.length ≤ 8192) :
    (Node.whole (component.map node)).fits = true := by
  refine fits_seq (by simp) (n := 1256) ?_ ?_
  · have anchor : Part.anchor ≠ .empty ∧ Part.anchor.AtMost 1256 :=
      ⟨by simp, Part.adds_anchor.atMost.mono (by decide)⟩
    intro item member
    simp only [List.mem_append, List.mem_cons, List.mem_map, List.not_mem_nil, or_false] at member
    rcases member with (rfl | ⟨c, _, rfl⟩) | rfl
    · exact anchor
    · exact atMost_node c
    · exact anchor
  · simp only [List.cons_append, List.length_cons, List.length_append, List.length_map,
      List.length_nil, Footprint.maxBytes]
    omega

private theorem pattern?_eq {component : List Char} (noSets : '[' ∉ component) :
    pattern? component = if (Node.whole (component.map node)).fits
      then some (ofNode (Node.whole (component.map node))) else none := by
  have read := Reader.read?_of_continues (continues_component component) rfl
  have depth : (Node.whole (component.map node)).depth ≤ Node.maxDepth := by
    have inner := depthAll_nodes_le component
    rw [Node.depth_whole, Node.maxDepth]
    omega
  rw [Node.sequence_reverse (by simp)] at read
  rw [pattern?, ofExtended?, extendedFrom_eq noSets, ← List.cons_append, read, ← Node.whole]
  simp only [List.isEmpty_nil, decide_eq_true depth, Bool.and_self, Bool.true_and]
  split <;> rfl

end Room

section Meaning

private theorem mem_dot {d : Char} : dot.mem d = true ↔ d ≠ '\n' := by
  rw [dot, CharClass.mem, Bool.not_eq_true', ← Bool.not_eq_true, mem_single]

private theorem takes_node (text : Array Char) (c : Char) :
    Takes text ((node c).Spans text) (StandsFor (· ≠ '\n') c) := by
  unfold node StandsFor
  split
  · exact (takes_many dot 0 true).congr (fun _ _ => Iff.rfl) fun cs => by simp only [mem_dot]
  · split
    · exact (takes_one dot 0).congr (fun _ _ => Iff.rfl) fun cs => by simp only [mem_dot]
    · exact takes_literal c

private theorem takes_nodes (text : Array Char) (component : List Char) :
    Takes text (Node.SpansAll text (component.map node)) (Stands (· ≠ '\n') component) := by
  induction component with
  | nil => exact takes_nil.congr (fun p q => by rw [List.map_nil, Node.SpansAll]) fun _ => Iff.rfl
  | cons c component ih =>
    exact ((takes_node text c).append ih).congr
      (fun p q => by rw [List.map_cons, Node.SpansAll]) fun _ => Iff.rfl

private theorem ordered_nodes (component : List Char) : Node.OrderedAll (component.map node) := by
  refine Node.orderedAll_iff.mpr (List.forall_mem_map.mpr fun c _ => ?_)
  unfold node
  split
  · simp [Node.Ordered]
  · split <;> trivial

private theorem accepts_component_iff (component : List Char) (name : String) :
    (ofNode (Node.whole (component.map node))).accepts name = true ↔
      Stands (· ≠ '\n') component name.toList :=
  Node.accepts_whole_iff (ordered_nodes component) (takes_nodes · component) name

/-- What a component stands for depends only on which characters of the name are free. -/
theorem stands_congr {free free' : Char → Prop} {component name : List Char}
    (same : ∀ d ∈ name, free d ↔ free' d) :
    Stands free component name ↔ Stands free' component name := by
  induction component generalizing name with
  | nil => exact Iff.rfl
  | cons c component ih =>
    have first (taken : List Char) (part : ∀ d ∈ taken, free d ↔ free' d) :
        StandsFor free c taken ↔ StandsFor free' c taken := by
      unfold StandsFor
      split
      · exact forall₂_congr part
      · split
        · exact exists_congr fun d => and_congr_left fun single => part d (by simp [single])
        · exact Iff.rfl
    refine exists_congr fun taken => exists_congr fun rest => and_congr_right ?_
    rintro rfl
    exact and_congr (first taken fun d member => same d (List.mem_append_left _ member))
      (ih fun d member => same d (List.mem_append_right _ member))

/-- A component without brackets has a pattern unless it is very long. The pattern accepts exactly
the names that the component stands for if wildcards stand for all characters but a line feed; of
the names without a line feed, exactly those that it stands for in a shell. -/
theorem accepts_iff_stands {component : List Char} (noSets : '[' ∉ component) :
    (component.length ≤ 8192 → (pattern? component).isSome = true) ∧
      ∀ p, pattern? component = some p → ∀ name : String,
        (p.accepts name = true ↔ Stands (· ≠ '\n') component name.toList) ∧
        ('\n' ∉ name.toList →
          (p.accepts name = true ↔ Stands (fun _ => True) component name.toList)) := by
  have built := pattern?_eq noSets
  refine ⟨fun short => ?_, fun p found name => ?_⟩
  · rw [built, if_pos (fits_component short)]
    rfl
  · rw [built, Option.ite_none_right_eq_some] at found
    obtain ⟨_, found⟩ := found
    obtain rfl := Option.some.inj found
    have accepts := accepts_component_iff component name
    refine ⟨accepts, fun noLineFeed => accepts.trans (stands_congr fun d member => ?_)⟩
    have other : d ≠ '\n' := fun same => noLineFeed (same ▸ member)
    simp [other]

/-- The component `*.?c` has a pattern, which accepts `a-b.cc`. -/
theorem accepts_iff_stands_suffix : '[' ∉ "*.?c".toList ∧
    ∃ p, pattern? "*.?c".toList = some p ∧ p.accepts "a-b.cc" = true := by
  have noSets : '[' ∉ "*.?c".toList := by decide
  obtain ⟨found, means⟩ := accepts_iff_stands noSets
  obtain ⟨p, found⟩ := Option.isSome_iff_exists.mp (found (by decide))
  refine ⟨noSets, p, found, ((means p found _).2 (by decide)).mpr ?_⟩
  exact ⟨"a-b".toList, _, rfl, fun _ _ => trivial, ['.'], _, rfl, rfl, ['c'], _, rfl,
    ⟨'c', trivial, rfl⟩, ['c'], _, rfl, rfl, rfl⟩

/-- In a shell, `a?b` stands for a name with a line feed in the middle, but its pattern does not
accept the name. -/
theorem lineFeed_missed : Stands (fun _ => True) ['a', '?', 'b'] "a\nb".toList ∧
    ∃ p, pattern? ['a', '?', 'b'] = some p ∧ p.accepts "a\nb" = false := by
  refine ⟨⟨['a'], _, rfl, rfl, ['\n'], _, rfl, ⟨'\n', trivial, rfl⟩, ['b'], _, rfl, rfl, rfl⟩, ?_⟩
  refine ⟨_, (pattern?_eq (by decide)).trans (if_pos (fits_component (by decide))), ?_⟩
  rw [← Bool.not_eq_true, accepts_component_iff]
  rintro ⟨taken, rest, begins, literal, taken', rest', continues, ⟨d, other, single⟩, _⟩
  have literal : taken = ['a'] := literal
  subst literal single
  have begins : ['a', '\n', 'b'] = 'a' :: rest := begins
  have continues : rest = d :: rest' := continues
  exact other (List.cons.inj ((List.cons.inj begins).2.trans continues)).1.symm

end Meaning

end StackVM.Wildcard
