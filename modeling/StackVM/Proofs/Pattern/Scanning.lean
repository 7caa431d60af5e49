import StackVM.Pattern.Bracket

/-! # What the scanners leave

Every scanner of the extended notation leaves an end of the text it was given. Most stop behind a
character of their own: a bracket, a brace, a colon. An escape may end with any character, but then
with its first one, or with the letter of a property. So no token reaches over a closing parenthesis
and stops behind a dollar sign that follows it.
-/

namespace StackVM.Pattern

/-- What lies between `cs` and `rest` does not end with a closing parenthesis and a dollar sign. -/
def SparesEnd (cs rest : List Char) : Prop := rest <:+ cs ∧ ¬ ')' :: '$' :: rest <:+ cs

variable {f : Flags} {cs rest : List Char}

namespace SparesEnd

theorem single (c : Char) (rest : List Char) : SparesEnd (c :: rest) rest :=
  ⟨List.suffix_cons c rest, fun longer => absurd longer.length_le (by simp)⟩

theorem cons {first : Char} (other : first ≠ ')') (spares : SparesEnd cs rest) :
    SparesEnd (first :: cs) rest := by
  refine ⟨spares.1.trans (List.suffix_cons first cs), fun ends => ?_⟩
  rcases List.suffix_cons_iff.mp ends with same | inside
  · exact other (List.cons.inj same).1.symm
  · exact spares.2 inside

theorem of_last {last : Char} (other : last ≠ '$') (stops : last :: rest <:+ cs) :
    SparesEnd cs rest := by
  refine ⟨(List.suffix_cons last rest).trans stops, fun ends => ?_⟩
  have same := List.suffix_of_suffix_length_le ((List.suffix_cons ')' _).trans ends) stops (by simp)
  exact other (List.cons.inj (same.eq_of_length (by simp))).1.symm

end SparesEnd

section Ignored

private theorem suffix_skipIgnoredFrom (comment : Bool) (cs : List Char) :
    skipIgnoredFrom comment cs <:+ cs := by
  induction cs generalizing comment with
  | nil => exact List.suffix_rfl
  | cons c cs ih =>
    rw [skipIgnoredFrom]
    have skips (comment : Bool) : skipIgnoredFrom comment cs <:+ c :: cs :=
      (ih comment).trans (List.suffix_cons c cs)
    split
    · exact skips _
    · split
      · exact skips _
      · split
        · exact skips _
        · exact List.suffix_rfl

theorem suffix_skipIgnored (f : Flags) (cs : List Char) : skipIgnored f cs <:+ cs := by
  unfold skipIgnored
  split
  · exact suffix_skipIgnoredFrom false cs
  · exact List.suffix_rfl

private theorem suffix_of_skipIgnored {c : Char} (found : skipIgnored f cs = c :: rest) :
    rest <:+ cs :=
  (List.suffix_cons c rest).trans (found ▸ suffix_skipIgnored f cs)

theorem skipIgnored_plain (plain : f.verbose = false) (cs : List Char) : skipIgnored f cs = cs := by
  simp [skipIgnored, plain]

/-- No comment is ignored: the flags ignore nothing, or there is no comment. -/
def Flags.Uncommented (f : Flags) (cs : List Char) : Prop := f.verbose = false ∨ '#' ∉ cs

theorem Flags.Uncommented.suffix (uncommented : f.Uncommented cs) (left : rest <:+ cs) :
    f.Uncommented rest :=
  uncommented.imp_right fun absent comment => absent (left.subset comment)

private theorem stops_skipIgnoredFrom {c : Char} (other : c ≠ '$') (absent : '#' ∉ cs) :
    ∃ last, last ≠ '$' ∧ last :: skipIgnoredFrom false cs <:+ c :: cs := by
  induction cs generalizing c with
  | nil => exact ⟨c, other, List.suffix_rfl⟩
  | cons d cs ih =>
    obtain ⟨noComment, absent⟩ := not_or.mp (mt List.mem_cons.mpr absent)
    rw [skipIgnoredFrom, if_neg Bool.false_ne_true]
    split
    · rename_i blank
      have notDollar : d ≠ '$' := by
        rintro rfl
        exact absurd blank (by decide)
      obtain ⟨last, other, stops⟩ := ih notDollar absent
      exact ⟨last, other, stops.trans (List.suffix_cons c (d :: cs))⟩
    · rw [if_neg fun comment => noComment (beq_iff_eq.mp comment).symm]
      exact ⟨c, other, List.suffix_rfl⟩

/-- White space that is skipped does not end with a dollar sign. -/
theorem stops_skipIgnored {c : Char} (other : c ≠ '$') (uncommented : f.Uncommented cs) :
    ∃ last, last ≠ '$' ∧ last :: skipIgnored f cs <:+ c :: cs := by
  by_cases verbose : f.verbose = true
  · rw [skipIgnored, if_pos verbose]
    exact stops_skipIgnoredFrom other (uncommented.resolve_left (by simp [verbose]))
  · rw [skipIgnored_plain (Bool.eq_false_iff.mpr verbose)]
    exact ⟨c, other, List.suffix_rfl⟩

end Ignored

section Escapes

private theorem ne_of_hexValue? {c : Char} {digit : Nat} (isDigit : hexValue? c = some digit) :
    c ≠ ')' := by
  rintro rfl
  have noDigit : hexValue? ')' = none := by decide
  rw [noDigit] at isDigit
  cases isDigit

private theorem sparesEnd_scanHexDigits {value n number : Nat}
    (read : scanHexDigits value (n + 1) cs = some (number, rest)) : SparesEnd cs rest := by
  induction n generalizing value cs with
  | zero =>
    cases cs with
    | nil => cases read
    | cons c cs =>
      obtain ⟨digit, _, done⟩ := Option.bind_eq_some_iff.mp read
      cases done
      exact .single c rest
  | succ n ih =>
    cases cs with
    | nil => cases read
    | cons c cs =>
      obtain ⟨digit, isDigit, read⟩ := Option.bind_eq_some_iff.mp read
      exact (ih read).cons (ne_of_hexValue? isDigit)

private theorem sparesEnd_scanHexBraced {value : Option Nat} {number : Nat}
    (read : scanHexBraced value cs = some (number, rest)) : SparesEnd cs rest := by
  induction cs generalizing value with
  | nil => cases read
  | cons c cs ih =>
    rw [scanHexBraced] at read
    split at read
    · obtain ⟨_, _, done⟩ := Option.map_eq_some_iff.mp read
      cases done
      exact .single c rest
    · obtain ⟨digit, isDigit, read⟩ := Option.bind_eq_some_iff.mp read
      exact (ih read).cons (ne_of_hexValue? isDigit)

private theorem sparesEnd_scanNumber {n : Nat} {c : Char}
    (read : scanNumber (n + 1) cs = some (c, rest)) : SparesEnd cs rest := by
  unfold scanNumber at read
  split at read
  · obtain ⟨⟨number, left⟩, digits, found⟩ := Option.bind_eq_some_iff.mp read
    obtain ⟨_, _, done⟩ := Option.bind_eq_some_iff.mp found
    cases done
    exact (sparesEnd_scanHexBraced digits).cons (by decide)
  · obtain ⟨⟨number, left⟩, digits, found⟩ := Option.bind_eq_some_iff.mp read
    obtain ⟨_, _, done⟩ := Option.bind_eq_some_iff.mp found
    cases done
    exact sparesEnd_scanHexDigits digits

private theorem sparesEnd_scanProperty {set : CharClass}
    (read : scanProperty cs = some (set, rest)) :
    SparesEnd cs rest := by
  unfold scanProperty at read
  split at read
  · cases read
  · rename_i text
    split at read
    · rename_i brace after found
      obtain ⟨_, _, done⟩ := Option.map_eq_some_iff.mp read
      cases done
      have stops : brace :: rest <:+ text := found ▸ List.dropWhile_suffix _
      have closes : (brace != '\x7d') = false := by
        have head := List.head_dropWhile_not (· != '\x7d') (l := text) (by simp [found])
        simpa only [found, List.head_cons] using head
      refine .cons (by decide) (.of_last ?_ stops)
      rintro rfl
      exact absurd closes (by decide)
    · cases read
  · rename_i c after _
    split at read
    · cases read
    · obtain ⟨_, _, done⟩ := Option.map_eq_some_iff.mp read
      cases done
      exact .single c rest

theorem sparesEnd_scanEscape {e : Escape} (read : scanEscape f cs = some (e, rest)) :
    SparesEnd cs rest := by
  unfold scanEscape at read
  split at read
  case h_1 | h_2 | h_3 | h_12 | h_13 | h_14 | h_15 | h_16 | h_17 =>
    cases read
    exact .single _ rest
  case h_4 | h_5 | h_6 | h_18 =>
    obtain ⟨_, done⟩ := Option.ite_none_right_eq_some.mp read
    cases done
    exact .single _ rest
  case h_7 | h_8 =>
    obtain ⟨⟨set, left⟩, property, found⟩ := Option.bind_eq_some_iff.mp read
    obtain ⟨_, done⟩ := Option.ite_none_right_eq_some.mp found
    cases done
    exact (sparesEnd_scanProperty property).cons (by decide)
  case h_9 | h_10 | h_11 =>
    obtain ⟨⟨c, left⟩, number, done⟩ := Option.bind_eq_some_iff.mp read
    cases done
    exact (sparesEnd_scanNumber number).cons (by decide)
  case h_19 => cases read

end Escapes

section Counts

private theorem suffix_scanDigits (f : Flags) (comment : Bool) (value : Option Nat)
    (cs : List Char) :
    (scanDigits f comment value cs).2 <:+ cs := by
  induction cs generalizing comment value with
  | nil => exact List.suffix_rfl
  | cons c cs ih =>
    rw [scanDigits]
    have reads (comment : Bool) (value : Option Nat) :
        (scanDigits f comment value cs).2 <:+ c :: cs :=
      (ih comment value).trans (List.suffix_cons c cs)
    split
    · exact reads _ _
    · split
      · exact reads _ _
      · split
        · exact reads _ _
        · split
          · exact reads _ _
          · exact List.suffix_rfl

private theorem suffix_scanCount (f : Flags) (cs : List Char) : (scanCount f cs).2 <:+ cs :=
  (List.dropWhile_suffix _).trans
    ((suffix_scanDigits f false none _).trans (List.dropWhile_suffix _))

/-- The counts of a repetition end with a brace; what is ignored behind it is skipped. -/
theorem stops_scanBounds {bounds : Bounds} (read : scanBounds f cs = some (bounds, rest)) :
    ∃ after, '\x7d' :: after <:+ cs ∧ rest = skipIgnored f after := by
  have closes {b : Bounds} {after : List Char} (brace : '\x7d' :: after <:+ cs)
      (checked : (if b.isValid = true then some (b, skipIgnored f after) else none) =
        some (bounds, rest)) :
      ∃ after, '\x7d' :: after <:+ cs ∧ rest = skipIgnored f after := by
    obtain ⟨_, done⟩ := Option.ite_none_right_eq_some.mp checked
    cases done
    exact ⟨after, brace, rfl⟩
  have first := (suffix_scanCount f (skipIgnored f cs)).trans (suffix_skipIgnored f cs)
  unfold scanBounds at read
  generalize scanCount f (skipIgnored f cs) = counted at read first
  obtain ⟨count, behind⟩ := counted
  obtain ⟨least, _, chosen⟩ := Option.bind_eq_some_iff.mp read
  clear read
  split at chosen
  · rename_i after
    have ignored := (suffix_skipIgnored f after).trans ((List.suffix_cons ',' after).trans first)
    split at chosen
    · rename_i found
      exact closes (found ▸ ignored) chosen
    · have second := (suffix_scanCount f (skipIgnored f after)).trans ignored
      generalize scanCount f (skipIgnored f after) = counted at chosen second
      obtain ⟨count, behind⟩ := counted
      obtain ⟨most, _, chosen⟩ := Option.bind_eq_some_iff.mp chosen
      split at chosen
      · exact closes second chosen
      · cases chosen
  · exact closes first chosen
  · cases chosen

end Counts

section Names

theorem stops_scanName {name known : List Char} (read : scanName known cs = some (name, rest)) :
    '>' :: rest <:+ cs := by
  induction cs generalizing known with
  | nil => cases read
  | cons c cs ih =>
    rw [scanName] at read
    split at read
    · rename_i angle
      obtain ⟨_, done⟩ := Option.ite_none_left_eq_some.mp read
      cases done
      exact beq_iff_eq.mp angle ▸ List.suffix_rfl
    · obtain ⟨_, read⟩ := Option.ite_none_right_eq_some.mp read
      exact (ih read).trans (List.suffix_cons c cs)

/-- Settings end with a colon or a parenthesis. -/
theorem stops_scanFlags {flags : Flags} {seen : List Char} {on dangling : Bool} {list : FlagList}
    (read : scanFlags flags seen on dangling cs = some (list, rest)) :
    ∃ last, last ≠ '$' ∧ last :: rest <:+ cs := by
  have goesOn {c : Char} {cs : List Char} (inner : ∃ last, last ≠ '$' ∧ last :: rest <:+ cs) :
      ∃ last, last ≠ '$' ∧ last :: rest <:+ c :: cs := by
    obtain ⟨last, other, stops⟩ := inner
    exact ⟨last, other, stops.trans (List.suffix_cons c cs)⟩
  fun_induction scanFlags flags seen on dangling cs with
  | case3 flags seen on dangling cs =>
    cases read
    exact ⟨':', by decide, List.suffix_rfl⟩
  | case5 flags seen on dangling cs =>
    cases read
    exact ⟨')', by decide, List.suffix_rfl⟩
  | case6 flags seen dangling cs ih => exact goesOn (ih read)
  | case9 flags seen on dangling c cs _ _ _ _ _ _ ih => exact goesOn (ih read)
  | case1 | case2 | case4 | case7 | case8 | case10 => cases read

end Names

section Brackets

private theorem suffix_skipDashes (f : Flags) (comment : Bool) (count : Nat) (cs : List Char) :
    (skipDashes f comment count cs).2 <:+ cs := by
  induction cs generalizing comment count with
  | nil => exact List.suffix_rfl
  | cons c cs ih =>
    rw [skipDashes]
    have skips (comment : Bool) (count : Nat) : (skipDashes f comment count cs).2 <:+ c :: cs :=
      (ih comment count).trans (List.suffix_cons c cs)
    split
    · exact skips _ _
    · split
      · exact skips _ _
      · split
        · exact skips _ _
        · split
          · exact skips _ _
          · exact List.suffix_rfl

private theorem suffix_scanOpen (f : Flags) (cs : List Char) : (scanOpen f cs).2 <:+ cs := by
  unfold scanOpen
  split
  rename_i negated start opened
  have begins : start <:+ cs := by
    have ignored := suffix_skipIgnored f cs
    split at opened
    · rename_i after found
      cases opened
      exact (suffix_skipIgnored f after).trans (suffix_of_skipIgnored found)
    · cases opened
      exact ignored
  have dashes := (suffix_skipDashes f false 0 start).trans begins
  generalize skipDashes f false 0 start = skipped at dashes ⊢
  obtain ⟨count, behind⟩ := skipped
  dsimp only at dashes ⊢
  split
  · exact dashes
  · split
    · rename_i after
      exact (suffix_skipIgnored f after).trans ((List.suffix_cons ']' after).trans dashes)
    · exact dashes

private theorem suffix_scanNamed {set : Option CharClass}
    (read : scanNamed f cs = some (set, rest)) :
    rest <:+ cs := by
  unfold scanNamed at read
  split at read
  · rename_i text
    split at read
    rename_i negated start opened
    have begins : start <:+ text := by
      split at opened
      · cases opened
        exact List.suffix_cons _ _
      · cases opened
        exact List.suffix_rfl
    dsimp only at read
    split at read
    · rename_i after found
      obtain ⟨_, _, done⟩ := Option.bind_eq_some_iff.mp read
      cases done
      have stops : ':' :: ']' :: rest <:+ start := found ▸ List.dropWhile_suffix _
      exact ((List.suffix_append [':', ']'] rest).trans stops).trans
        (begins.trans (List.suffix_cons ':' text))
    · cases read
  · cases read

private theorem suffix_scanItem {e : Escape} (read : scanItem f cs = some (e, rest)) :
    rest <:+ cs := by
  unfold scanItem at read
  split at read
  · exact (sparesEnd_scanEscape read).1.trans (List.suffix_cons _ _)
  · cases read
    exact List.suffix_cons _ _
  · cases read

private theorem suffix_scanRange {set : CharClass} (read : scanRange f cs = some (set, rest)) :
    rest <:+ cs := by
  unfold scanRange at read
  obtain ⟨⟨first, behind⟩, item, read⟩ := Option.bind_eq_some_iff.mp read
  have ignored := (suffix_skipIgnored f behind).trans (suffix_scanItem item)
  dsimp only at read
  split at read
  · cases read
  · rename_i after found
    rw [found] at ignored
    split at read
    · obtain ⟨_, _, done⟩ := Option.bind_eq_some_iff.mp read
      cases done
      exact ignored
    · obtain ⟨⟨last, left⟩, item, read⟩ := Option.bind_eq_some_iff.mp read
      obtain ⟨_, _, done⟩ := Option.bind_eq_some_iff.mp read
      cases done
      exact (suffix_scanItem item).trans
        ((suffix_skipIgnored f after).trans ((List.suffix_cons '-' after).trans ignored))
  · obtain ⟨_, _, done⟩ := Option.bind_eq_some_iff.mp read
    cases done
    exact ignored

/-- Brackets are read up to the closing one of the outermost. -/
theorem stops_scanBracketFrom {fuel : Nat} {bracket : OpenBracket} {outer : List OpenBracket}
    {set : NestedSet} (read : scanBracketFrom f fuel bracket outer cs = some (set, rest)) :
    ']' :: rest <:+ cs := by
  fun_induction scanBracketFrom f fuel bracket outer cs with
  | case1 | case2 => cases read
  | case3 fuel bracket outer cs inside found members after named ih =>
    obtain ⟨set, _, read⟩ := Option.bind_eq_some_iff.mp read
    exact (ih set read).trans ((suffix_scanNamed named).trans (suffix_of_skipIgnored found))
  | case4 fuel bracket outer cs inside found _ inner after opened ih =>
    have begins : after <:+ inside := by simpa only [opened] using suffix_scanOpen f inside
    exact (ih read).trans (begins.trans (suffix_of_skipIgnored found))
  | case5 fuel bracket outer cs after found ih =>
    obtain ⟨closed, _, read⟩ := Option.bind_eq_some_iff.mp read
    cases outer with
    | nil =>
      cases read
      exact found ▸ suffix_skipIgnored f cs
    | cons parent outer =>
      exact (ih closed parent outer read).trans (suffix_of_skipIgnored found)
  | case6 fuel bracket outer cs after found ih
  | case7 fuel bracket outer cs after found ih
  | case8 fuel bracket outer cs after found ih =>
    exact (ih read).trans ((List.suffix_cons _ after).trans (suffix_of_skipIgnored found))
  | case9 fuel bracket outer cs _ _ _ _ _ _ ih =>
    obtain ⟨⟨set, after⟩, item, read⟩ := Option.bind_eq_some_iff.mp read
    exact (ih set after read).trans ((suffix_scanRange item).trans (suffix_skipIgnored f cs))

theorem stops_scanBracket {set : NestedSet} (read : scanBracket f cs = some (set, rest)) :
    ']' :: rest <:+ cs :=
  (stops_scanBracketFrom read).trans (suffix_scanOpen f cs)

end Brackets

end StackVM.Pattern
