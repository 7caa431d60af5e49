import StackVM.Text.Quoted

/-! # A quoted text ends where its last quote stands

No character is written like the beginning of another one, and none like a quote. So a quoted text
can be told from whatever follows it, and different texts are quoted differently.
-/

namespace StackVM.Text

/-- Texts without stops are told apart in front of rests that are empty or start with a stop. -/
theorem append_inj_of_stops {stops a b r r' : List Char} (free : ∀ c ∈ a, c ∉ stops)
    (free' : ∀ c ∈ b, c ∉ stops) (ends : ∀ c ∈ r.head?, c ∈ stops)
    (ends' : ∀ c ∈ r'.head?, c ∈ stops) (same : a ++ r = b ++ r') : a = b ∧ r = r' := by
  induction a generalizing b with
  | nil =>
    cases b with
    | nil => exact ⟨rfl, same⟩
    | cons d b =>
      have start : d ∈ r.head? := by
        rw [show r = d :: (b ++ r') from same]
        rfl
      exact absurd (ends d start) (free' d (List.mem_cons_self ..))
  | cons c a ih =>
    cases b with
    | nil =>
      have start : c ∈ r'.head? := by
        rw [← show c :: (a ++ r) = r' from same]
        rfl
      exact absurd (ends' c start) (free c (List.mem_cons_self ..))
    | cons d b =>
      obtain ⟨rfl, rest⟩ := List.cons.inj same
      obtain ⟨rfl, rests⟩ := ih (fun e member => free e (List.mem_cons_of_mem c member))
        (fun e member => free' e (List.mem_cons_of_mem c member)) rest
      exact ⟨rfl, rests⟩

section Hexadecimal

private theorem digitChar_inj {m n : Nat} (low : m < 16) (low' : n < 16)
    (same : m.digitChar = n.digitChar) :
    m = n := by
  have table : ∀ i j : Fin 16, Nat.digitChar i = Nat.digitChar j → i = j := by decide
  exact congrArg Fin.val (table ⟨m, low⟩ ⟨n, low'⟩ same)

private theorem toDigits_inj {m n : Nat} (same : Nat.toDigits 16 m = Nat.toDigits 16 n) :
    m = n := by
  induction m using Nat.strongRecOn generalizing n with
  | ind m ih =>
    rw [Nat.toDigits_eq_if (n := m) (by decide), Nat.toDigits_eq_if (n := n) (by decide)] at same
    split at same <;> split at same
    · exact digitChar_inj ‹_› ‹_› (List.cons.inj same).1
    · have empty := (List.append_inj' (show [] ++ [_] = _ from same) rfl).1
      exact absurd empty.symm Nat.toDigits_ne_nil
    · have empty := (List.append_inj' (show _ = [] ++ [_] from same) rfl).1
      exact absurd empty Nat.toDigits_ne_nil
    · obtain ⟨quotients, remainders⟩ := List.append_inj' same rfl
      have quotient := ih (m / 16) (by omega) quotients
      have remainder := digitChar_inj (Nat.mod_lt m (by decide)) (Nat.mod_lt n (by decide))
        (List.cons.inj remainders).1
      omega

private theorem ne_brace_of_mem_toDigits {n : Nat} {c : Char} (member : c ∈ Nat.toDigits 16 n) :
    c ≠ '\x7d' := by
  induction n using Nat.strongRecOn with
  | ind n ih =>
    rw [Nat.toDigits_eq_if (by decide)] at member
    split at member
    · obtain rfl := List.mem_singleton.mp member
      exact Nat.digitChar_ne _ rfl
    · obtain earlier | last := List.mem_append.mp member
      · exact ih (n / 16) (by omega) earlier
      · obtain rfl := List.mem_singleton.mp last
        exact Nat.digitChar_ne _ rfl

end Hexadecimal

section Characters

variable {c d e : Char} {r r' : List Char}

/-- The characters with a short escape. -/
def shortEscapes : List (Char × Char) :=
  [('\x00', '0'), ('\t', 't'), ('\n', 'n'), ('\r', 'r'), ('"', '"'), ('\\', '\\')]

private theorem shortEscape?_mem (short : shortEscape? c = some e) : (c, e) ∈ shortEscapes := by
  unfold shortEscape? at short
  split at short
  all_goals cases short
  all_goals decide

private theorem shortEscape?_inj (short : shortEscape? c = some e)
    (short' : shortEscape? d = some e) :
    c = d := by
  have table : ∀ p ∈ shortEscapes, ∀ q ∈ shortEscapes, p.2 = q.2 → p.1 = q.1 := by decide
  exact table _ (shortEscape?_mem short) _ (shortEscape?_mem short') rfl

private theorem ne_of_shortEscape? (short : shortEscape? c = some e) : e ≠ 'u' := by
  have table : ∀ p ∈ shortEscapes, p.2 ≠ 'u' := by decide
  exact table _ (shortEscape?_mem short)

/-- The three ways in which a character is written. -/
theorem quoteChar_cases (c : Char) :
    (∃ e, shortEscape? c = some e ∧ quoteChar c = ['\\', e]) ∨
    quoteChar c = numberEscape c ∨ (c ≠ '\\' ∧ c ≠ '"' ∧ quoteChar c = [c]) := by
  unfold quoteChar
  cases short : shortEscape? c with
  | some e => exact .inl ⟨e, rfl, rfl⟩
  | none =>
    cases isInvisible c with
    | true => exact .inr (.inl rfl)
    | false =>
      refine .inr (.inr ⟨?_, ?_, rfl⟩)
      · rintro rfl
        cases short
      · rintro rfl
        cases short

private theorem numberEscape_append_inj (same : numberEscape c ++ r = numberEscape d ++ r') :
    c = d ∧ r = r' := by
  simp only [numberEscape, List.cons_append, List.nil_append, List.append_assoc, List.cons.injEq,
    true_and] at same
  have free (n : Nat) : ∀ e ∈ Nat.toDigits 16 n, e ∉ ['\x7d'] :=
    fun e member => mt List.mem_singleton.mp (ne_brace_of_mem_toDigits member)
  obtain ⟨digits, rests⟩ := append_inj_of_stops (free _) (free _) (by simp) (by simp) same
  exact ⟨Char.toNat_inj.mp (toDigits_inj digits), (List.cons.inj rests).2⟩

/-- Characters are told apart whatever follows them. -/
theorem quoteChar_append_inj (same : quoteChar c ++ r = quoteChar d ++ r') : c = d ∧ r = r' := by
  -- Both kinds of escapes start with a backslash; only a number goes on with `u`.
  obtain ⟨e, short, written⟩ | written | ⟨backslash, _, written⟩ := quoteChar_cases c <;>
    obtain ⟨e', short', written'⟩ | written' | ⟨backslash', _, written'⟩ := quoteChar_cases d <;>
    rw [written, written'] at same
  · obtain ⟨rfl, rests⟩ := List.cons.inj (List.cons.inj same).2
    exact ⟨shortEscape?_inj short short', rests⟩
  · have u : e = 'u' := (List.cons.inj (List.cons.inj same).2).1
    exact absurd u (ne_of_shortEscape? short)
  · exact absurd (List.cons.inj same).1.symm backslash'
  · have u : 'u' = e' := (List.cons.inj (List.cons.inj same).2).1
    exact absurd u.symm (ne_of_shortEscape? short')
  · exact numberEscape_append_inj same
  · exact absurd (List.cons.inj same).1.symm backslash'
  · exact absurd (List.cons.inj same).1 backslash
  · exact absurd (List.cons.inj same).1 backslash
  · exact List.cons.inj same

private theorem quoteChar_ne_quote (c : Char) : quoteChar c ++ r ≠ '"' :: r' := by
  intro same
  obtain ⟨e, _, written⟩ | written | ⟨_, quote, written⟩ := quoteChar_cases c
  · rw [written] at same
    exact absurd (List.cons.inj same).1 (by decide)
  · rw [written] at same
    exact absurd (List.cons.inj same).1 (by decide)
  · rw [written] at same
    exact quote (List.cons.inj same).1

end Characters

private theorem flatMap_quoteChar_append_inj {cs ds r r' : List Char}
    (same : cs.flatMap quoteChar ++ '"' :: r = ds.flatMap quoteChar ++ '"' :: r') :
    cs = ds ∧ r = r' := by
  induction cs generalizing ds with
  | nil =>
    cases ds with
    | nil => simpa using same
    | cons d ds =>
      rw [List.flatMap_cons, List.append_assoc] at same
      exact absurd same.symm (quoteChar_ne_quote d)
  | cons c cs ih =>
    cases ds with
    | nil =>
      rw [List.flatMap_cons, List.append_assoc] at same
      exact absurd same (quoteChar_ne_quote c)
    | cons d ds =>
      rw [List.flatMap_cons, List.flatMap_cons, List.append_assoc, List.append_assoc] at same
      obtain ⟨rfl, rest⟩ := quoteChar_append_inj same
      obtain ⟨rfl, rests⟩ := ih rest
      exact ⟨rfl, rests⟩

theorem toList_quote (s : String) :
    (quote s).toList = '"' :: (s.toList.flatMap quoteChar ++ ['"']) := by
  simp [quote]

/-- Quoted texts are told apart whatever follows them. -/
theorem quote_append_inj {s t : String} {r r' : List Char}
    (same : (quote s).toList ++ r = (quote t).toList ++ r') : s = t ∧ r = r' := by
  simp only [toList_quote, List.cons_append, List.append_assoc, List.nil_append, List.cons.injEq,
    true_and] at same
  obtain ⟨texts, rests⟩ := flatMap_quoteChar_append_inj same
  exact ⟨String.toList_inj.mp texts, rests⟩

end StackVM.Text
