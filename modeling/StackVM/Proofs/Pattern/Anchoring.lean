import StackVM.Pattern.Basic
import StackVM.Proofs.Pattern.Matching
import StackVM.Proofs.Pattern.Reading

/-! # How much of the text a pattern matches

A pattern is read between `^(?:` and `)$`. Its text may close that group, but the first anchor stays
in front of everything, so a match starts where the text does. The last anchor is read with the
flags that the pattern leaves behind: outside the group it may have let the anchors hold at every
line, or have made the reader ignore comments, the dollar sign among them. Unless it has, a match
is the whole text.
-/

namespace StackVM.Pattern

section Opening

/-- The reader behind the first anchor and the opening of the group. -/
def Reader.opened : Reader := { groups := [⟨none, [.anchor .textStart], {}⟩] }

private theorem readFrom_anchored (fuel : Nat) (extended : List Char) :
    Reader.readFrom (fuel + 2) {} (anchored extended) =
      Reader.readFrom fuel Reader.opened (extended ++ [')', '$']) := by
  rfl

private theorem rooted_opened : Reader.opened.Rooted (.anchor .textStart) := List.suffix_rfl

private theorem unflagged_opened : Reader.opened.Unflagged := ⟨rfl, by simp [Reader.opened]⟩

end Opening

section Expanding

variable {cs rest : List Char}

/-- A parenthesis with a question mark stands in front or further behind. -/
theorem marked_cons {c : Char} :
    ['(', '?'] <:+: c :: cs ↔ (c = '(' ∧ cs.head? = some '?') ∨ ['(', '?'] <:+: cs := by
  have question : ['?'] <+: cs ↔ cs.head? = some '?' := by cases cs <;> simp [eq_comm]
  rw [List.infix_cons_iff, List.cons_prefix_cons, question, eq_comm]

private theorem marked_of_cons {c : Char} (other : c ≠ '(') (marked : ['(', '?'] <:+: c :: cs) :
    ['(', '?'] <:+: cs :=
  (marked_cons.mp marked).resolve_left fun found => other found.1

private theorem marked_of_append {token : List Char} (closed : '(' ∉ token)
    (marked : ['(', '?'] <:+: token ++ rest) : ['(', '?'] <:+: rest := by
  induction token with
  | nil => exact marked
  | cons c token ih =>
    obtain ⟨other, closed⟩ := not_or.mp (mt List.mem_cons.mpr closed)
    exact ih closed (marked_of_cons (Ne.symm other) marked)

private theorem marked_of_anchored (marked : ['(', '?'] <:+: cs ++ [')', '$']) :
    ['(', '?'] <:+: cs := by
  induction cs with
  | nil => exact absurd marked (by decide)
  | cons c cs ih =>
    refine marked_cons.mpr ((marked_cons.mp marked).imp ?_ ih)
    rintro ⟨paren, question⟩
    cases cs with
    | nil => exact absurd question (by decide)
    | cons d cs => exact ⟨paren, question⟩

/-- What a percent sign stands for is a character that means itself, or a set, in which no
parenthesis and no comment begins. -/
theorem expandPercent_cases (c : Char) :
    expandPercent c = escape c ∨
      ((expandPercent c).head? = some '[' ∨ (expandPercent c).head? = some '\\') ∧
        '(' ∉ expandPercent c ∧ '#' ∉ expandPercent c := by
  unfold expandPercent
  split
  case h_12 => exact .inl rfl
  all_goals exact .inr (by decide)

private theorem eq_of_mem_escape {c special : Char} (member : special ∈ escape c)
    (other : special ≠ '\\') : c = special := by
  unfold escape at member
  split at member
  · exact ((List.mem_cons.mp member).resolve_left other |> List.mem_singleton.mp).symm
  · exact (List.mem_singleton.mp member).symm

theorem head?_escape (c : Char) : (escape c ++ rest).head? ≠ some '?' := by
  unfold escape
  split
  · exact fun question => absurd question (by simp)
  · rename_i plain
    intro question
    obtain rfl : c = '?' := Option.some.inj question
    exact plain (by decide)

private theorem head?_expandPercent (c : Char) : (expandPercent c ++ rest).head? ≠ some '?' := by
  rcases expandPercent_cases c with same | ⟨starts, _⟩
  · exact same ▸ head?_escape c
  · rw [List.head?_append]
    rcases starts with bracket | backslash
    · simp [bracket]
    · simp [backslash]

private theorem eq_of_mem_expandPercent {c special : Char} (member : special ∈ expandPercent c)
    (meaning : special = '(' ∨ special = '#') : c = special := by
  rcases expandPercent_cases c with same | ⟨_, noParen, noComment⟩
  · refine eq_of_mem_escape (same ▸ member) ?_
    rintro rfl
    exact absurd meaning (by decide)
  · rcases meaning with rfl | rfl
    · exact absurd member noParen
    · exact absurd member noComment

private theorem head?_expand (question : (expand cs).head? = some '?') : cs.head? = some '?' := by
  fun_induction expand cs with
  | case1 | case2 => exact question
  | case3 c rest => exact absurd question (head?_expandPercent c)
  | case4 rest | case5 rest => exact absurd question (by simp)
  | case6 c rest => exact question

private theorem marked_of_expand (marked : ['(', '?'] <:+: expand cs) : ['(', '?'] <:+: cs := by
  fun_induction expand cs with
  | case1 | case2 => exact marked
  | case3 c rest ih =>
    refine marked_cons.mpr (.inr (marked_cons.mpr ?_))
    by_cases paren : c = '('
    · subst paren
      have marked : ['(', '?'] <:+: '(' :: expand rest :=
        marked_of_cons (show '\\' ≠ '(' by decide) marked
      exact (marked_cons.mp marked).imp (fun found => ⟨rfl, head?_expand found.2⟩) ih
    · have closed : '(' ∉ expandPercent c :=
        fun member => paren (eq_of_mem_expandPercent member (.inl rfl))
      exact .inr (ih (marked_of_append closed marked))
  | case4 rest ih | case5 rest ih =>
    have behind := marked_of_cons (by decide) (marked_of_cons (by decide) marked)
    exact marked_cons.mpr (.inr (ih behind))
  | case6 c rest _ _ _ _ ih =>
    exact marked_cons.mpr ((marked_cons.mp marked).imp (.imp_right head?_expand) ih)

private theorem comment_of_expand (comment : '#' ∈ expand cs) : '#' ∈ cs := by
  fun_induction expand cs with
  | case1 | case2 => exact comment
  | case3 c rest ih =>
    rcases List.mem_append.mp comment with own | behind
    · have same := eq_of_mem_expandPercent own (.inr rfl)
      simp [same]
    · simp [ih behind]
  | case4 rest ih | case5 rest ih =>
    have behind : '#' ∈ expand rest := by simpa using comment
    simp [ih behind]
  | case6 c rest _ _ _ _ ih => exact List.mem_cons.mpr ((List.mem_cons.mp comment).imp_right ih)

end Expanding

section Structure

variable {first : Node} {parts : List Node}

private theorem sequence_of_rooted (rooted : [first] <:+ parts.tail) :
    sequence parts = .seq parts.reverse := by
  rcases parts with _ | ⟨last, _ | ⟨part, parts⟩⟩
  · exact absurd rooted.length_le (by simp)
  · exact absurd rooted.length_le (by simp)
  · rfl

private theorem reverse_of_rooted (rooted : [first] <:+ parts.tail) :
    ∃ more, parts.reverse = first :: more := by
  obtain ⟨before, split⟩ := rooted.trans (List.tail_suffix parts)
  exact ⟨before.reverse, by rw [← split, List.reverse_append]; rfl⟩

/-- The first anchor becomes the first state. -/
theorem getElem?_zero_writeAll (c : Anchor) (more : List Node) :
    (Node.writeAll (.anchor c :: more) #[])[0]? = some (.anchor c) :=
  ((Node.writesAll more #[.anchor c] _ Nat.le.refl).keeps (by simp)).trans rfl

/-- The flags with which the end of a pattern is read, outside the group it is put in. -/
def outerFlags? (pattern : String) : Option Flags :=
  let extended := anchored (expand pattern.toList)
  (Reader.readFrom extended.length {} extended).map (·.flags)

variable {pattern : String} {p : Pattern}

/-- A well-formed pattern was read to the end, with all groups closed. -/
theorem exists_reader (wellFormed : ofText? pattern = some p) :
    ∃ r : Reader, outerFlags? pattern = some r.flags ∧ r.groups = [] ∧
      p.automaton = (sequence r.parts).automaton ∧
      ∃ fuel,
        Reader.readFrom fuel Reader.opened (expand pattern.toList ++ [')', '$']) = some r := by
  obtain ⟨root, rooted, rfl⟩ := Option.map_eq_some_iff.mp wellFormed
  obtain ⟨r, read, checked⟩ := Option.bind_eq_some_iff.mp rooted
  obtain ⟨valid, done⟩ := Option.ite_none_right_eq_some.mp checked
  cases done
  have closed : r.groups = [] := by
    simp only [Bool.and_eq_true, List.isEmpty_iff] at valid
    exact valid.1.1
  refine ⟨r, Option.map_eq_some_iff.mpr ⟨r, read, rfl⟩, closed, rfl, ?_⟩
  have long : (anchored (expand pattern.toList)).length =
      (expand pattern.toList ++ [')', '$']).length + 2 + 2 := by simp [anchored]
  rw [long, readFrom_anchored] at read
  exact ⟨_, read⟩

/-- Without a parenthesis and a question mark no flag is on at the end. -/
theorem outerFlags?_unmarked (wellFormed : ofText? pattern = some p)
    (unmarked : ¬ ['(', '?'] <:+: pattern.toList) : outerFlags? pattern = some {} := by
  obtain ⟨r, flags, _, _, fuel, read⟩ := exists_reader wellFormed
  have never : ¬ ['(', '?'] <:+: expand pattern.toList ++ [')', '$'] :=
    fun marked => unmarked (marked_of_expand (marked_of_anchored marked))
  rw [flags, (Reader.unflagged_readFrom read never unflagged_opened).1]

end Structure

section Matches

variable {pattern : String} {p : Pattern} {text : Array Char} {o : Outcome}

private theorem rooted_parts {r : Reader} {fuel : Nat} {cs : List Char} (closed : r.groups = [])
    (read : Reader.readFrom fuel Reader.opened cs = some r) :
    [.anchor .textStart] <:+ r.parts.tail := by
  have rooted := Reader.rooted_readFrom read rooted_opened
  unfold Reader.Rooted at rooted
  rwa [closed] at rooted

/-- A match starts where the text does. -/
theorem start_eq_zero (wellFormed : ofText? pattern = some p)
    (found : p.automaton.firstMatch? text = some o) : o.start = 0 := by
  obtain ⟨r, _, closed, same, fuel, read⟩ := exists_reader wellFormed
  have rooted := rooted_parts closed read
  obtain ⟨more, reversed⟩ := reverse_of_rooted rooted
  have first : p.automaton[0]? = some (.anchor .textStart) := by
    rw [same, sequence_of_rooted rooted, reversed]
    exact getElem?_zero_writeAll .textStart more
  obtain ⟨s, reached, ended⟩ := reached_firstMatch? found
  rcases start_of_reaches first reached with ⟨rfl, _⟩ | start
  · rw [first] at ended
    cases ended
  · exact start

/-- A match stops where the last anchor holds, as the flags outside the group have it. -/
theorem endAnchor_holds {flags : Flags} (wellFormed : ofText? pattern = some p)
    (outer : outerFlags? pattern = some flags)
    (uncommented : flags.verbose = false ∨ '#' ∉ pattern.toList)
    (found : p.automaton.firstMatch? text = some o) :
    (Reader.endAnchor flags).holds text o.stop = true := by
  obtain ⟨r, flagged, closed, same, fuel, read⟩ := exists_reader wellFormed
  cases outer.symm.trans flagged
  have absent (noComment : '#' ∉ pattern.toList) : '#' ∉ expand pattern.toList ++ [')', '$'] := by
    simpa using fun comment => noComment (comment_of_expand comment)
  obtain ⟨before, parts⟩ := Reader.endsAnchored_readFrom read (.inr (List.suffix_append _ _)) closed
    (uncommented.imp_right absent)
  have written : p.automaton =
      (Node.writeAll before.reverse #[]).push (.anchor (Reader.endAnchor r.flags)) := by
    rw [same, sequence_of_rooted (rooted_parts closed read), parts, List.reverse_cons]
    exact Node.writeAll_append before.reverse [.anchor _] #[]
  obtain ⟨s, reached, ended⟩ := reached_firstMatch? found
  rw [written] at reached ended
  rcases holds_of_reaches (Node.bounded_writeAll before.reverse) reached with inside | ⟨_, holds⟩
  · rw [Array.getElem?_eq_none_iff, Array.size_push] at ended
    omega
  · exact holds

/-- The first text of a result is that of a match. -/
theorem exists_match {text pattern first : String}
    (result : first ∈ (matchText text pattern).head?) :
    ∃ p o, ofText? pattern = some p ∧ p.automaton.firstMatch? text.toList.toArray = some o ∧
      first = slice text.toList.toArray o.start o.stop := by
  unfold matchText at result
  split at result
  · rename_i p wellFormed
    unfold matched at result
    dsimp only at result
    split at result
    · rename_i o found
      exact ⟨p, o, wellFormed, found, (Option.some.inj result).symm⟩
    · cases result
  · cases result

theorem toList_slice_zero (text : Array Char) (stop : Nat) :
    (slice text 0 stop).toList = text.toList.take stop := by simp [slice]

/-- What a pattern matches is a beginning of the text. It stops where the last anchor holds with the
flags outside the group, so it is the whole text unless these let anchors hold at every line, or
ignore comments and the pattern has one. A pattern in which no question mark follows a parenthesis
matches the whole text only. -/
theorem matchText_whole_unless_flagged (text pattern : String) :
    ∀ first ∈ (matchText text pattern).head?, ∃ flags ∈ outerFlags? pattern,
      first.toList <+: text.toList ∧
      (flags.verbose = false ∨ '#' ∉ pattern.toList →
        (Reader.endAnchor flags).holds text.toList.toArray first.length = true ∧
          (flags.multiLine = false → first = text)) ∧
      (¬ ['(', '?'] <:+: pattern.toList → first = text) := by
  intro first result
  obtain ⟨p, o, wellFormed, found, sliced⟩ := exists_match result
  obtain ⟨r, outer, _⟩ := exists_reader wellFormed
  have start := start_eq_zero wellFormed found
  have taken : first.toList = text.toList.take o.stop := by
    rw [sliced, start, toList_slice_zero]
  have length : first.length = o.stop := by
    obtain ⟨s, reached, _⟩ := reached_firstMatch? found
    have within := le_size_of_reaches (start ▸ Nat.zero_le _) reached
    rw [← String.length_toList, taken, List.length_take]
    exact Nat.min_eq_left (by simpa using within)
  have whole {flags : Flags} (outer : outerFlags? pattern = some flags)
      (uncommented : flags.verbose = false ∨ '#' ∉ pattern.toList)
      (singleLine : flags.multiLine = false) : first = text := by
    have holds := endAnchor_holds wellFormed outer uncommented found
    rw [Reader.endAnchor, singleLine] at holds
    have stop : o.stop = text.toList.toArray.size := beq_iff_eq.mp holds
    exact String.toList_injective (taken.trans (List.take_of_length_le (by simp [stop])))
  refine ⟨r.flags, outer, taken ▸ List.take_prefix _ _, fun uncommented => ⟨?_, ?_⟩,
    fun plain => ?_⟩
  · exact length ▸ endAnchor_holds wellFormed outer uncommented found
  · exact whole outer uncommented
  · exact whole (outerFlags?_unmarked wellFormed plain) (.inl rfl) rfl

/-- A pattern that leaves its group and makes repetitions lazy there still matches whole texts. -/
theorem matchText_whole_unless_flagged_lazy :
    "abb" ∈ (matchText "abb" "a)(?U)(?:b+").head? ∧
      ∃ flags ∈ outerFlags? "a)(?U)(?:b+", "abb".toList <+: "abb".toList ∧
        flags.verbose = false ∧ flags.multiLine = false ∧
        (Reader.endAnchor flags).holds "abb".toList.toArray "abb".length = true := by
  have result : "abb" ∈ (matchText "abb" "a)(?U)(?:b+").head? := by decide +kernel
  have outer : outerFlags? "a)(?U)(?:b+" = some { swapGreed := true } := by decide
  obtain ⟨flags, known, begins, stops, _⟩ :=
    matchText_whole_unless_flagged "abb" "a)(?U)(?:b+" "abb" result
  cases outer.symm.trans known
  exact ⟨result, _, known, begins, rfl, rfl, (stops (.inl rfl)).1⟩

/-- A pattern that leaves its group may let the anchors hold at every line, or hide the last one in
a comment. Then it matches a part of the text. -/
theorem matchText_part :
    matchText "a\nb" "a)(?m" = ["a"] ∧ matchText "ab" "a)(?x)#" = ["a"] := by
  decide

end Matches

end StackVM.Pattern
