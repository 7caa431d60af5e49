import StackVM.Proofs.Pattern.Anchoring
import StackVM.Proofs.Pattern.Literal
import StackVM.Proofs.Pattern.Room

/-! # Quoting a text in a pattern

With a percent sign before every punctuation character, a text becomes a pattern. It is read as one
part for each character between the two ends of the text, so it matches the text itself and no
other one (`matchText_quote`), as long as there is room for a state for every byte.
-/

namespace StackVM.Pattern

/-- The visible characters of seven bits that are neither letters nor digits. -/
def isPunctuation (c : Char) : Bool :=
  ('!' ≤ c && c ≤ '/') || (':' ≤ c && c ≤ '@') || ('[' ≤ c && c ≤ '\x60') ||
    ('\x7b' ≤ c && c ≤ '~')

/-- The characters of a pattern that matches a character. -/
def quoteChar (c : Char) : List Char := if isPunctuation c then ['%', c] else [c]

/-- The pattern that matches a text: a percent sign is put before every punctuation character. -/
def quote (s : String) : String := String.ofList (s.toList.flatMap quoteChar)

section Expansion

variable {c : Char} {rest : List Char}

private theorem isPunctuation_of_special (special : c ∈ specials) : isPunctuation c = true := by
  simp only [specials, List.mem_cons, List.not_mem_nil, or_false] at special
  rcases special with rfl | rfl | rfl | rfl | rfl | rfl | rfl | rfl | rfl | rfl | rfl | rfl | rfl |
    rfl | rfl | rfl | rfl | rfl <;> rfl

private theorem expandPercent_punctuation (punctuation : isPunctuation c = true) :
    expandPercent c = escape c := by
  unfold expandPercent
  split
  case h_12 => rfl
  all_goals cases punctuation

private theorem expand_plain (plain : isPunctuation c = false) :
    expand (c :: rest) = c :: expand rest := by
  have other {d : Char} (punctuation : isPunctuation d = true) : c ≠ d := by
    rintro rfl
    rw [plain] at punctuation
    cases punctuation
  rw [expand]
  · exact fun same _ => other rfl same
  · exact fun _ _ same _ => other rfl same
  · exact other rfl
  · exact other rfl

/-- The quoted character is written to stand for itself. -/
theorem expand_quoteChar (c : Char) (rest : List Char) :
    expand (quoteChar c ++ rest) = escape c ++ expand rest := by
  unfold quoteChar
  split
  · rename_i punctuation
    change expandPercent c ++ expand rest = _
    rw [expandPercent_punctuation punctuation]
  · rename_i plain
    have plain := Bool.eq_false_iff.mpr plain
    have unspecial : specials.contains c = false := by
      rw [← Bool.not_eq_true, List.contains_iff_mem]
      exact fun special => absurd (isPunctuation_of_special special) (by rw [plain]; decide)
    rw [escape, unspecial]
    exact expand_plain plain

private theorem expand_quote (s : String) : expand (quote s).toList = s.toList.flatMap escape := by
  rw [quote, String.toList_ofList]
  induction s.toList with
  | nil => rfl
  | cons c cs ih => rw [List.flatMap_cons, List.flatMap_cons, expand_quoteChar, ih]

end Expansion

section Room

open Footprint

/-- The greatest number of bytes of a text that can be quoted: every byte takes a state, and so do
the two anchors and the four states at which an automaton starts and accepts. -/
def maxQuoted : Nat := maxBytes / 32 - 6

private theorem toParts_literals (cs : List Char) :
    Node.toParts (cs.map Node.literal) = cs.map fun c => .row c.utf8Size := by
  rw [toParts_eq_map, List.map_map]
  exact List.map_congr_left fun c _ => toPart_single c 0

private theorem adds_rows (cs : List Char) :
    (Part.seq (cs.map fun c => .row c.utf8Size)).Adds (Text.utf8Size cs) := by
  intro forwards f
  rw [Part.growth]
  induction cs generalizing f with
  | nil => rfl
  | cons c cs ih =>
    rw [List.map_cons, Part.growthAll, Text.utf8Size, List.foldr_cons]
    change _ = add (c.utf8Size + Text.utf8Size cs) f
    cases forwards <;> simp [ih, Part.growth, add] <;> omega

/-- Characters add their bytes; where there are none, nothing is left of them. -/
theorem adds_literals (cs : List Char) :
    ((sequence (cs.map Node.literal).reverse).toPart = .empty ∧ Text.utf8Size cs = 0) ∨
      ((sequence (cs.map Node.literal).reverse).toPart ≠ .empty ∧
        (sequence (cs.map Node.literal).reverse).toPart.Adds (Text.utf8Size cs)) := by
  match cs with
  | [] => exact .inl ⟨rfl, rfl⟩
  | [c] =>
    right
    change (Node.literal c).toPart ≠ .empty ∧ (Node.literal c).toPart.Adds _
    rw [Node.literal, toPart_single]
    exact ⟨by simp, Part.adds_row _⟩
  | c :: d :: cs =>
    right
    rw [Node.sequence_reverse (by simp), Node.toPart, toParts_literals,
      Part.ofList_eq (by simp) (by simp)]
    exact ⟨by simp, adds_rows (c :: d :: cs)⟩

private theorem adds_between {inner : Part} {n : Nat}
    (adds : (inner = .empty ∧ n = 0) ∨ (inner ≠ .empty ∧ inner.Adds n)) :
    (Part.ofList [.anchor, inner, .anchor]).Adds (n + 2) := by
  intro forwards f
  rcases adds with ⟨rfl, rfl⟩ | ⟨present, adds⟩
  · cases forwards <;> rfl
  · rw [Part.ofList_eq (by simp) (by simp [present])]
    cases forwards <;> simp [Part.growth, Part.growthAll, adds _ _, add] <;> omega

/-- The structure of a quoted text. -/
def Node.quoted (cs : List Char) : Node :=
  .whole [.group none (sequence (cs.map Node.literal).reverse)]

private theorem fits_quoted (cs : List Char) :
    (Node.quoted cs).fits = decide (Text.utf8Size cs ≤ maxQuoted) := by
  have adds : (Node.quoted cs).toPart.Adds (Text.utf8Size cs + 2) := adds_between (adds_literals cs)
  rw [Bool.eq_iff_iff, Node.fits, Part.fits, adds, adds, Bool.and_eq_true, decide_eq_true_iff,
    fits_iff, fits_iff]
  simp only [bytes, add, maxQuoted, maxBytes]
  omega

end Room

section Reading

private theorem continues_anchored (extended : List Char) :
    Reader.Continues {} (anchored extended) Reader.opened (extended ++ [')', '$']) := by
  have start : Reader.Continues {} (anchored extended) (({} : Reader).add (.anchor .textStart))
      ('(' :: '?' :: ':' :: extended ++ [')', '$']) :=
    Reader.continues_step rfl (by simp [anchored]) rfl
  exact start.trans (Reader.continues_step rfl (by simp) rfl)

/-- The reader behind a quoted text. -/
def Reader.quoted (cs : List Char) : Reader :=
  { parts := [.anchor .textEnd, .group none (sequence (cs.map Node.literal).reverse),
      .anchor .textStart] }

private theorem continues_quoted (cs : List Char) :
    Reader.Continues {} (anchored (cs.flatMap escape)) (Reader.quoted cs) [] := by
  refine (continues_anchored _).trans ((continues_escapes rfl cs).trans ?_)
  have parts : (cs.map Node.literal).reverse ++ Reader.opened.parts =
      (cs.map Node.literal).reverse := List.append_nil _
  rw [parts]
  exact (Reader.continues_step rfl (by simp) rfl).trans (Reader.continues_step rfl (by simp) rfl)

private theorem depth_quoted (cs : List Char) : (Node.quoted cs).depth ≤ Node.maxDepth := by
  have literals : Node.depthAll (cs.map Node.literal) ≤ 0 :=
    Node.depthAll_le_iff.mpr (List.forall_mem_map.mpr fun c _ => Nat.le_refl 0)
  have inner := Node.depth_sequence_le (cs.map Node.literal)
  simp only [Node.quoted, Node.depth_whole, Node.depth, Node.depthAll, Node.maxDepth]
  omega

/-- The pattern of a quoted text exists if there is room for it. -/
theorem ofText?_quote (s : String) :
    ofText? (quote s) = if Text.utf8Size s.toList ≤ maxQuoted
      then some (ofNode (Node.quoted s.toList)) else none := by
  have read := Reader.read?_of_continues (continues_quoted s.toList) rfl
  have root : sequence (Reader.quoted s.toList).parts = Node.quoted s.toList := rfl
  rw [root, fits_quoted] at read
  rw [ofText?, ofExtended?, expand_quote, read]
  simp [Reader.quoted, depth_quoted]

private theorem outerFlags?_quote (s : String) : outerFlags? (quote s) = some {} := by
  obtain ⟨left, _, same⟩ := continues_quoted s.toList _ (Nat.le_refl _)
  rw [Reader.readFrom_nil rfl] at same
  rw [outerFlags?, expand_quote, same]
  rfl

end Reading

section Matching

private theorem groups_quoted (cs : List Char) : (ofNode (Node.quoted cs)).groups = 0 := by
  have literals : Node.groupCountAll (cs.map Node.literal) = 0 :=
    Node.groupCountAll_eq_zero_iff.mpr (List.forall_mem_map.mpr fun c _ => rfl)
  have inner := (Node.groupCount_sequence (cs.map Node.literal)).trans literals
  change (Node.quoted cs).groupCount = 0
  simp [Node.quoted, Node.whole, Node.groupCount, Node.groupCountAll, inner]

private theorem accepts_quoted_iff (s t : String) :
    (ofNode (Node.quoted s.toList)).accepts t = true ↔ t = s := by
  have literals : Node.OrderedAll (s.toList.map Node.literal) :=
    Node.orderedAll_iff.mpr (List.forall_mem_map.mpr fun c _ => trivial)
  have ordered : Node.OrderedAll [.group none (sequence (s.toList.map Node.literal).reverse)] :=
    ⟨(Node.ordered_sequence_iff _).mpr literals, trivial⟩
  have takes (text : Array Char) : Takes text
      (Node.SpansAll text [.group none (sequence (s.toList.map Node.literal).reverse)])
      (· = s.toList) :=
    (takes_literals s.toList).congr
      (fun p q => by simp [Node.SpansAll, Node.Spans, Node.spans_sequence_iff]) fun _ => Iff.rfl
  rw [Node.quoted, Node.accepts_whole_iff ordered takes]
  exact String.toList_inj

/-- What a quoted text matches is the whole text. -/
theorem slice_of_match {s t : String} {o : Outcome} (room : Text.utf8Size s.toList ≤ maxQuoted)
    (found : (ofNode (Node.quoted s.toList)).automaton.firstMatch? t.toList.toArray = some o) :
    slice t.toList.toArray o.start o.stop = t := by
  have wellFormed := (ofText?_quote s).trans (if_pos room)
  have stop := endAnchor_holds wellFormed (outerFlags?_quote s) (.inl rfl) found
  have stop : o.stop = t.toList.toArray.size := beq_iff_eq.mp stop
  apply String.toList_injective
  rw [start_eq_zero wellFormed found, toList_slice_zero, stop]
  simp

/-- Every text can be quoted: the pattern matches the text and no other one, unless the text is too
long for a pattern. -/
theorem matchText_quote (t s : String) :
    matchText t (quote s) = if t = s ∧ Text.utf8Size s.toList ≤ maxQuoted then [t] else [] := by
  have accepts := accepts_quoted_iff s t
  rw [matchText, ofText?_quote]
  by_cases room : Text.utf8Size s.toList ≤ maxQuoted
  · simp only [room, if_true, and_true]
    rw [matched]
    cases found : (ofNode (Node.quoted s.toList)).automaton.firstMatch? t.toList.toArray with
    | none =>
      have differs : t ≠ s := fun same => by
        have accepted := accepts.mpr same
        rw [Pattern.accepts, found] at accepted
        cases accepted
      rw [if_neg differs]
    | some o =>
      have same : t = s := accepts.mp (by rw [Pattern.accepts, found]; rfl)
      rw [if_pos same]
      change o.texts t.toList.toArray _ = [t]
      rw [Outcome.texts, groups_quoted, slice_of_match room found]
      rfl
  · simp [room]

end Matching

end StackVM.Pattern
