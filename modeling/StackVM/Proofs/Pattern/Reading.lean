import StackVM.Pattern.Reader
import StackVM.Proofs.Pattern.Scanning

/-! # What the reader does

A step of the reader adds a part, repeats the last one, opens a group or closes one, and it changes
flags only at a parenthesis with a question mark. So a part that stands first in the notation and is
followed by another stays first, and a dollar sign at the end of the notation, behind a closing
parenthesis, is read as an anchor unless it may stand in a comment that is ignored.
-/

namespace StackVM.Pattern.Reader

/-- What a step may do to the reader; `marked` says that the flags may be set. -/
inductive Moves (marked : Prop) (r r' : Reader) : Prop
  | adds (part : Node) (parts : r'.parts = part :: r.parts) (groups : r'.groups = r.groups)
    (flags : r'.flags = r.flags ∨ marked)
  | repeats (part again : Node) (before : List Node) (last : r.parts = part :: before)
    (parts : r'.parts = again :: before) (groups : r'.groups = r.groups)
    (flags : r'.flags = r.flags)
  | opens (index : Option Nat) (groups : r'.groups = ⟨index, r.parts, r.flags⟩ :: r.groups)
    (flags : r'.flags = r.flags ∨ marked)
  | closes (g : OpenGroup) (part : Node) (groups : r.groups = g :: r'.groups)
    (parts : r'.parts = part :: g.before) (flags : r'.flags = g.flags)

variable {marked marked' : Prop} {r r' : Reader} {cs rest : List Char}

theorem Moves.imp (weaker : marked → marked') (moves : Moves marked r r') : Moves marked' r r' := by
  cases moves with
  | adds part parts groups flags => exact .adds part parts groups (flags.imp_right weaker)
  | repeats part again before last parts groups flags =>
    exact .repeats part again before last parts groups flags
  | opens index groups flags => exact .opens index groups (flags.imp_right weaker)
  | closes g part groups parts flags => exact .closes g part groups parts flags

section Steps

private theorem moves_add (r : Reader) (part : Node) : Moves marked r (r.add part) :=
  .adds part rfl rfl (.inl rfl)

private theorem moves_repeatLast {bounds : Bounds} {lazy : Bool}
    (read : r.repeatLast bounds lazy = some r') : Moves marked r r' ∧ r'.flags = r.flags := by
  unfold repeatLast at read
  split at read
  · cases read
  · cases read
  · rename_i part before _ last
    cases read
    exact ⟨.repeats part _ before last rfl rfl rfl, rfl⟩

private theorem moves_scanRepeat {bounds : Bounds}
    (read : r.scanRepeat bounds cs = some (r', rest)) :
    (Moves marked r r' ∧ r'.flags = r.flags) ∧ (rest = cs ∨ cs = '?' :: rest) := by
  unfold scanRepeat at read
  split at read
  · obtain ⟨_, repeated, done⟩ := Option.bind_eq_some_iff.mp read
    cases done
    exact ⟨moves_repeatLast repeated, .inr rfl⟩
  · obtain ⟨_, repeated, done⟩ := Option.bind_eq_some_iff.mp read
    cases done
    exact ⟨moves_repeatLast repeated, .inl rfl⟩

private theorem moves_closeGroup (read : r.closeGroup = some r') : Moves marked r r' := by
  unfold closeGroup at read
  split at read
  · cases read
  · rename_i g groups open'
    cases read
    exact .closes g _ open' rfl rfl

private theorem moves_openNamed (read : r.openNamed cs = some (r', rest)) :
    Moves marked r r' ∧ rest <:+ cs ∧ r'.groups ≠ [] := by
  unfold openNamed at read
  obtain ⟨⟨name, after⟩, named, read⟩ := Option.bind_eq_some_iff.mp read
  obtain ⟨_, done⟩ := Option.ite_none_left_eq_some.mp read
  cases done
  exact ⟨.opens _ rfl (.inl rfl), (List.suffix_cons '>' rest).trans (stops_scanName named),
    List.cons_ne_nil _ _⟩

/-- The start of a group opens it or is a setting of flags. -/
theorem moves_scanGroup (read : r.scanGroup cs = some (r', rest)) :
    Moves (cs.head? = some '?') r r' ∧ rest <:+ cs ∧
      (r'.groups = [] → ∃ last, last ≠ '$' ∧ last :: rest <:+ cs) := by
  unfold scanGroup at read
  split at read
  · cases read
  · cases read
  · cases read
  · cases read
  · obtain ⟨moves, left, opened⟩ := moves_openNamed read
    exact ⟨moves, left.trans (List.suffix_append ['?', 'P', '<'] _), fun none => absurd none opened⟩
  · obtain ⟨moves, left, opened⟩ := moves_openNamed read
    exact ⟨moves, left.trans (List.suffix_append ['?', '<'] _), fun none => absurd none opened⟩
  · rename_i text _ _ _ _ _ _
    obtain ⟨⟨list, after⟩, settings, read⟩ := Option.bind_eq_some_iff.mp read
    obtain ⟨last, other, stops⟩ := stops_scanFlags settings
    have stops := stops.trans (List.suffix_cons '?' text)
    have left := (List.suffix_cons last after).trans stops
    dsimp only at read
    split at read
    · cases read
      exact ⟨.opens none rfl (.inr rfl), left, fun _ => ⟨last, other, stops⟩⟩
    · cases read
      exact ⟨.adds .empty rfl rfl (.inr rfl), left, fun _ => ⟨last, other, stops⟩⟩
  · cases read
    exact ⟨.opens _ rfl (.inl rfl), List.suffix_rfl, fun none => absurd none (List.cons_ne_nil _ _)⟩

/-- A parenthesis with a question mark comes next. -/
def Marked (r : Reader) (cs : List Char) : Prop :=
  ∃ inside, cs = '(' :: inside ∧ (skipIgnored r.flags inside).head? = some '?'

/-- What a step does and what it leaves of the text. -/
structure Reads (r : Reader) (cs : List Char) (r' : Reader) (rest : List Char) : Prop where
  moves : Moves (r.Marked cs) r r'
  left : rest <:+ cs
  spares (closed : r'.groups = []) (uncommented : r'.flags.Uncommented cs) : SparesEnd cs rest

theorem reads_of_spares (moves : Moves (r.Marked cs) r r') (spares : SparesEnd cs rest) :
    Reads r cs r' rest :=
  ⟨moves, spares.1, fun _ _ => spares⟩

private theorem reads_group {inside : List Char}
    (read : r.scanGroup (skipIgnored r.flags inside) = some (r', rest)) :
    Reads r ('(' :: inside) r' rest := by
  obtain ⟨moves, left, stops⟩ := moves_scanGroup read
  have ignored := (suffix_skipIgnored r.flags inside).trans (List.suffix_cons '(' inside)
  refine ⟨?_, left.trans ignored, fun closed _ => ?_⟩
  · refine moves.imp fun question => ⟨inside, rfl, question⟩
  · obtain ⟨last, other, stops⟩ := stops closed
    exact .of_last other (stops.trans ignored)

private theorem reads_repeat {sign : Char} {bounds : Bounds} {after : List Char}
    (read : r.scanRepeat bounds after = some (r', rest)) : Reads r (sign :: after) r' rest := by
  have ⟨⟨moves, _⟩, left⟩ : (Moves (r.Marked (sign :: after)) r r' ∧ _) ∧ _ := moves_scanRepeat read
  rcases left with rfl | rfl
  · exact reads_of_spares moves (.single sign rest)
  · exact reads_of_spares moves (.of_last (by decide) (List.suffix_cons sign ('?' :: rest)))

private theorem reads_counted {bounds : Bounds} {text after : List Char}
    (counts : scanBounds r.flags text = some (bounds, after))
    (read : r.scanRepeat bounds after = some (r', rest)) :
    Reads r ('\x7b' :: text) r' rest := by
  obtain ⟨behind, brace, rfl⟩ := stops_scanBounds counts
  have brace := brace.trans (List.suffix_cons '\x7b' text)
  have ignored := (suffix_skipIgnored r.flags behind).trans
    ((List.suffix_cons '\x7d' behind).trans brace)
  have ⟨⟨moves, flags⟩, left⟩ : (Moves (r.Marked ('\x7b' :: text)) r r' ∧ _) ∧ _ :=
    moves_scanRepeat read
  rcases left with rfl | lazy
  · refine ⟨moves, ignored, fun _ uncommented => ?_⟩
    have behindBrace := uncommented.suffix ((List.suffix_cons '\x7d' behind).trans brace)
    obtain ⟨last, other, stops⟩ :=
      stops_skipIgnored (show '\x7d' ≠ '$' by decide) (flags ▸ behindBrace)
    exact .of_last other (stops.trans brace)
  · exact reads_of_spares moves (.of_last (by decide) (lazy ▸ ignored))

/-- What a step does, by the character it starts with. -/
theorem reads_step (nonempty : cs ≠ []) (read : r.step cs = some (r', rest)) :
    Reads r cs r' rest := by
  unfold step at read
  split at read
  case h_1 => exact absurd rfl nonempty
  case h_2 => exact reads_group read
  case h_3 =>
    obtain ⟨_, closed, done⟩ := Option.bind_eq_some_iff.mp read
    cases done
    exact reads_of_spares (moves_closeGroup closed) (.single ')' rest)
  case h_4 =>
    obtain ⟨⟨set, after⟩, bracket, done⟩ := Option.bind_eq_some_iff.mp read
    cases done
    exact reads_of_spares (moves_add r _)
      (.of_last (by decide) ((stops_scanBracket bracket).trans (List.suffix_cons '[' _)))
  case h_5 | h_6 | h_7 => exact reads_repeat read
  case h_8 =>
    obtain ⟨⟨bounds, after⟩, counts, read⟩ := Option.bind_eq_some_iff.mp read
    exact reads_counted counts read
  case h_9 =>
    obtain ⟨_, _, done⟩ := Option.bind_eq_some_iff.mp read
    cases done
    exact reads_of_spares (moves_add r _) (.single '.' rest)
  case h_10 | h_11 | h_13 =>
    cases read
    exact reads_of_spares (moves_add r _) (.single _ rest)
  case h_12 =>
    obtain ⟨⟨e, after⟩, escape, done⟩ := Option.bind_eq_some_iff.mp read
    have spares : SparesEnd ('\\' :: _) after := (sparesEnd_scanEscape escape).cons (by decide)
    cases e <;> cases done <;> exact reads_of_spares (moves_add r _) spares

end Steps

section Runs

/-- What holds of a reader and the text before it holds at the end of a run, if skipping and a step
keep it. -/
theorem readFrom_induct {P : Reader → List Char → Prop}
    (skips : ∀ {r cs}, P r cs → P r (skipIgnored r.flags cs))
    (steps : ∀ {r cs r' rest}, cs ≠ [] → r.step cs = some (r', rest) → P r cs → P r' rest)
    {fuel : Nat} (read : readFrom fuel r cs = some r') (holds : P r cs) : P r' [] := by
  induction fuel generalizing r cs with
  | zero =>
    obtain ⟨empty, done⟩ := Option.ite_none_right_eq_some.mp read
    cases done
    exact List.isEmpty_iff.mp empty ▸ skips holds
  | succ fuel ih =>
    have skipped := skips holds
    rw [readFrom] at read
    split at read
    · rename_i empty
      cases read
      exact empty ▸ skipped
    · rename_i nonempty
      obtain ⟨⟨next, rest⟩, stepped, read⟩ := Option.bind_eq_some_iff.mp read
      exact ih read (steps nonempty stepped skipped)

/-- The outermost parts begin with `first`, and another part or an open group follows it. -/
def Rooted (first : Node) (r : Reader) : Prop :=
  match r.groups.getLast? with
  | none => [first] <:+ r.parts.tail
  | some g => [first] <:+ g.before

theorem Moves.rooted {first : Node} (moves : Moves marked r r') (rooted : r.Rooted first) :
    r'.Rooted first := by
  unfold Rooted at rooted ⊢
  cases moves with
  | adds part parts groups =>
    rw [groups, parts]
    split at rooted
    · exact rooted.trans (List.tail_suffix r.parts)
    · exact rooted
  | repeats part again before last parts groups =>
    rw [groups, parts]
    rw [last] at rooted
    exact rooted
  | opens index groups =>
    rw [groups, List.getLast?_cons]
    split at rooted
    · rename_i outermost
      rw [outermost]
      exact rooted.trans (List.tail_suffix r.parts)
    · rename_i g outermost
      rw [outermost]
      exact rooted
  | closes g part groups parts =>
    rw [groups, List.getLast?_cons] at rooted
    rw [parts]
    cases outermost : r'.groups.getLast? with
    | none =>
      rw [outermost] at rooted
      exact rooted
    | some outer =>
      rw [outermost] at rooted
      exact rooted

theorem rooted_readFrom {first : Node} {fuel : Nat} (read : readFrom fuel r cs = some r')
    (rooted : r.Rooted first) : r'.Rooted first :=
  readFrom_induct (P := fun r _ => r.Rooted first) id
    (fun nonempty stepped rooted => (reads_step nonempty stepped).moves.rooted rooted) read rooted

/-- No flag has been set, neither here nor around an open group. -/
def Unflagged (r : Reader) : Prop := r.flags = {} ∧ ∀ g ∈ r.groups, g.flags = {}

theorem Moves.unflagged (moves : Moves marked r r') (unmarked : ¬ marked)
    (unflagged : r.Unflagged) : r'.Unflagged := by
  obtain ⟨here, around⟩ := unflagged
  cases moves with
  | adds part parts groups flags =>
    exact ⟨(flags.resolve_right unmarked).trans here, groups ▸ around⟩
  | repeats part again before last parts groups flags => exact ⟨flags.trans here, groups ▸ around⟩
  | opens index groups flags =>
    refine ⟨(flags.resolve_right unmarked).trans here, ?_⟩
    rw [groups]
    exact List.forall_mem_cons.mpr ⟨here, around⟩
  | closes g part groups parts flags =>
    rw [groups] at around
    obtain ⟨innermost, around⟩ := List.forall_mem_cons.mp around
    exact ⟨flags.trans innermost, around⟩

/-- Without a parenthesis and a question mark no flag is ever set. -/
theorem unflagged_readFrom {fuel : Nat} (read : readFrom fuel r cs = some r')
    (unmarked : ¬ ['(', '?'] <:+: cs) (unflagged : r.Unflagged) : r'.Unflagged := by
  have shorter {cs rest : List Char} (left : rest <:+ cs) (unmarked : ¬ ['(', '?'] <:+: cs) :
      ¬ ['(', '?'] <:+: rest := fun marked => unmarked (marked.trans left.isInfix)
  refine (readFrom_induct (P := fun r cs => r.Unflagged ∧ ¬ ['(', '?'] <:+: cs) ?_ ?_ read
    ⟨unflagged, unmarked⟩).1
  · intro r cs ⟨unflagged, unmarked⟩
    exact ⟨unflagged, shorter (suffix_skipIgnored r.flags cs) unmarked⟩
  · intro r cs r' rest nonempty stepped ⟨unflagged, unmarked⟩
    have reads := reads_step nonempty stepped
    refine ⟨reads.moves.unflagged ?_ unflagged, shorter reads.left unmarked⟩
    rintro ⟨inside, rfl, question⟩
    rw [unflagged.1, skipIgnored_plain rfl] at question
    obtain ⟨after, rfl⟩ := List.head?_eq_some_iff.mp question
    exact unmarked ⟨[], after, rfl⟩

/-- The text ends with a dollar sign behind a parenthesis, or only the dollar sign is left. -/
def Pending (cs : List Char) : Prop := cs = ['$'] ∨ [')', '$'] <:+ cs

theorem Pending.ne_nil (pending : Pending cs) : cs ≠ [] := by
  rintro rfl
  rcases pending with single | ends
  · cases single
  · exact absurd ends.length_le (by decide)

theorem Pending.suffix (pending : Pending cs) (left : rest <:+ cs) (nonempty : rest ≠ []) :
    Pending rest := by
  rcases pending with rfl | ends
  · rcases List.suffix_cons_iff.mp left with same | empty
    · exact .inl same
    · exact absurd (List.suffix_nil.mp empty) nonempty
  · rcases Nat.le_total rest.length 2 with short | long
    · have within : rest <:+ [')', '$'] := List.suffix_of_suffix_length_le left ends short
      rcases List.suffix_cons_iff.mp within with rfl | within
      · exact .inr List.suffix_rfl
      · rcases List.suffix_cons_iff.mp within with rfl | empty
        · exact .inl rfl
        · exact absurd (List.suffix_nil.mp empty) nonempty
    · exact .inr (List.suffix_of_suffix_length_le ends left long)

private theorem Pending.dollar (pending : Pending cs) : ['$'] <:+ cs := by
  rcases pending with rfl | ends
  · exact List.suffix_rfl
  · exact (List.suffix_cons ')' ['$']).trans ends

private theorem Pending.skipIgnored_ne_nil {f : Flags} (pending : Pending cs)
    (uncommented : f.Uncommented cs) : skipIgnored f cs ≠ [] := by
  intro empty
  obtain ⟨last, other, stops⟩ :=
    stops_skipIgnored (show ' ' ≠ '$' by decide) uncommented
  rw [empty] at stops
  have dollar := pending.dollar.trans (List.suffix_cons ' ' cs)
  have same := List.suffix_of_suffix_length_le stops dollar (by simp)
  exact other (List.cons.inj (same.eq_of_length (by simp))).1

/-- An anchor to the end was read last, unless a group is open or a comment may have been ignored;
`absent` says that there is no comment. -/
def EndsAnchored (absent : Prop) (r : Reader) : Prop :=
  r.groups = [] → r.flags.verbose = false ∨ absent →
    ∃ before, r.parts = .anchor (endAnchor r.flags) :: before

variable {absent : Prop}

private theorem endsAnchored_step (pending : Pending cs) (without : absent → '#' ∉ cs)
    (read : r.step cs = some (r', [])) : r'.EndsAnchored absent := by
  intro closed plain
  have spares := (reads_step pending.ne_nil read).spares closed (plain.imp_right without)
  rcases pending with rfl | ends
  · cases read
    exact ⟨r.parts, rfl⟩
  · exact absurd ends spares.2

theorem endsAnchored_readFrom {fuel : Nat} (read : readFrom fuel r cs = some r')
    (pending : Pending cs) : r'.EndsAnchored ('#' ∉ cs) := by
  generalize same : ('#' ∉ cs) = absent
  have ends := readFrom_induct (P := fun r cs => (Pending cs ∧ (absent → '#' ∉ cs)) ∨
    (cs = [] ∧ r.EndsAnchored absent)) ?_ ?_ read (.inl ⟨pending, same.mpr⟩)
  · exact (ends.resolve_left fun still => still.1.ne_nil rfl).2
  · rintro r cs (⟨pending, without⟩ | ⟨rfl, anchored⟩)
    · have left := suffix_skipIgnored r.flags cs
      by_cases empty : skipIgnored r.flags cs = []
      · refine .inr ⟨empty, fun _ plain => ?_⟩
        exact absurd empty (pending.skipIgnored_ne_nil (plain.imp_right without))
      · exact .inl ⟨pending.suffix left empty, fun a comment => without a (left.subset comment)⟩
    · exact .inr ⟨List.suffix_nil.mp (suffix_skipIgnored r.flags []), anchored⟩
  · rintro r cs r' rest nonempty stepped (⟨pending, without⟩ | ⟨rfl, _⟩)
    · have left := (reads_step nonempty stepped).left
      by_cases empty : rest = []
      · subst empty
        exact .inr ⟨rfl, endsAnchored_step pending without stepped⟩
      · exact .inl ⟨pending.suffix left empty, fun a comment => without a (left.subset comment)⟩
    · exact absurd rfl nonempty

end Runs

end StackVM.Pattern.Reader
