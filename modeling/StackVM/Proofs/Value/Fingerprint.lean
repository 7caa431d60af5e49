import Mathlib.Data.List.Forall2
import StackVM.Value.Fingerprint
import StackVM.Proofs.Number.Text
import StackVM.Proofs.Text.Quoted

/-! # What a fingerprint tells of its value

A fingerprint can be read from the front: a word ends at the first delimiter, a text at its closing
quote, a list or record at its closing bracket. So two values with one fingerprint are alike: they
differ at most in numbers that are written the same.
-/

namespace StackVM.Value

mutual

/-- Two values agree in shape, booleans, texts and names, and their numbers are written the same. -/
def alike : Value → Value → Bool
  | .null, .null => true
  | .bool a, .bool b => a == b
  | .num x, .num y => Number.text x.toFloat == Number.text y.toFloat
  | .str s, .str t => s == t
  | .arr items, .arr others => alikeItems items others
  | .obj fields, .obj others => alikeFields fields others
  | _, _ => false

/-- The items are alike one by one. -/
def alikeItems : List Value → List Value → Bool
  | [], [] => true
  | v :: rest, w :: others => alike v w && alikeItems rest others
  | _, _ => false

/-- The fields have the same names and their values are alike. -/
def alikeFields : List (String × Value) → List (String × Value) → Bool
  | [], [] => true
  | (j, v) :: rest, (k, w) :: others => j == k && alike v w && alikeFields rest others
  | _, _ => false

end

/-- Two fields have the same name and their values are alike. -/
def alikeField (f g : String × Value) : Bool := f.1 == g.1 && alike f.2 g.2

private theorem alikeItems_iff {vs ws : List Value} :
    alikeItems vs ws = true ↔ List.Forall₂ (alike · · = true) vs ws := by
  induction vs generalizing ws with
  | nil => cases ws <;> simp [alikeItems]
  | cons v vs ih => cases ws <;> simp [alikeItems, ih]

private theorem alikeFields_iff {fs gs : List (String × Value)} :
    alikeFields fs gs = true ↔ List.Forall₂ (alikeField · · = true) fs gs := by
  induction fs generalizing gs with
  | nil => cases gs <;> simp [alikeFields]
  | cons f fs ih => cases gs <;> simp [alikeFields, alikeField, ih]

section Agreement

mutual

theorem fingerprint_eq_of_alike : ∀ {v w : Value}, alike v w = true → fingerprint v = fingerprint w
  | .null, .null, _ => rfl
  | .bool a, .bool b, agree => by rw [show a = b by simpa [alike] using agree]
  | .num x, .num y, agree => by simpa [alike, fingerprint] using agree
  | .str s, .str t, agree => by rw [show s = t by simpa [alike] using agree]
  | .arr items, .arr others, agree => by
    have items_agree : alikeItems items others = true := agree
    rw [fingerprint, fingerprint, fingerprintItems_eq_of_alike items_agree]
  | .obj fields, .obj others, agree => by
    have fields_agree : alikeFields fields others = true := agree
    rw [fingerprint, fingerprint, fingerprintFields_eq_of_alike fields_agree]

private theorem fingerprintItems_eq_of_alike : ∀ {vs ws : List Value}, alikeItems vs ws = true →
    fingerprintItems vs = fingerprintItems ws
  | [], [], _ => rfl
  | v :: vs, w :: ws, agree => by
    obtain ⟨first, rest⟩ : alike v w = true ∧ alikeItems vs ws = true := by
      simpa [alikeItems] using agree
    rw [fingerprintItems, fingerprintItems, fingerprint_eq_of_alike first,
      fingerprintItems_eq_of_alike rest]

private theorem fingerprintFields_eq_of_alike : ∀ {fs gs : List (String × Value)},
    alikeFields fs gs = true → fingerprintFields fs = fingerprintFields gs
  | [], [], _ => rfl
  | (j, v) :: fs, (k, w) :: gs, agree => by
    obtain ⟨⟨rfl, first⟩, rest⟩ : (j = k ∧ alike v w = true) ∧ alikeFields fs gs = true := by
      simpa [alikeFields] using agree
    rw [fingerprintFields, fingerprintFields, fingerprint_eq_of_alike first,
      fingerprintFields_eq_of_alike rest]

end

mutual

theorem alike_of_beq : ∀ {v w : Value}, beq v w = true → alike v w = true
  | .null, .null, _ => rfl
  | .bool _, .bool _, equal => equal
  | .num _, .num _, equal => beq_iff_eq.mpr (Number.text_eq_of_beq equal)
  | .str _, .str _, equal => equal
  | .arr items, .arr others, equal =>
    alikeItems_of_beq (show beqItems items others = true from equal)
  | .obj fields, .obj others, equal =>
    alikeFields_of_beq (show beqFields fields others = true from equal)

private theorem alikeItems_of_beq :
    ∀ {vs ws : List Value}, beqItems vs ws = true → alikeItems vs ws = true
  | [], [], _ => rfl
  | v :: vs, w :: ws, equal => by
    obtain ⟨first, rest⟩ : beq v w = true ∧ beqItems vs ws = true := by
      simpa [beqItems] using equal
    rw [alikeItems, alike_of_beq first, alikeItems_of_beq rest, Bool.and_true]

private theorem alikeFields_of_beq : ∀ {fs gs : List (String × Value)}, beqFields fs gs = true →
    alikeFields fs gs = true
  | [], [], _ => rfl
  | (j, v) :: fs, (k, w) :: gs, equal => by
    obtain ⟨⟨rfl, first⟩, rest⟩ : (j = k ∧ beq v w = true) ∧ beqFields fs gs = true := by
      simpa [beqFields] using equal
    rw [alikeFields, beq_self_eq_true, alike_of_beq first, alikeFields_of_beq rest, Bool.and_true,
      Bool.and_true]

end

end Agreement

section Delimited

/-- What may stand behind a value within a fingerprint. -/
def delimiters : List Char := [',', ']', '\x7d']

/-- The characters that structure a fingerprint. -/
def marks : List Char := delimiters ++ ['"', '[', '\x7b']

/-- The rest of a fingerprint behind one of its values. -/
def Delimited (r : List Char) : Prop := ∀ c ∈ r.head?, c ∈ delimiters

private theorem delimited_nil : Delimited [] := by simp [Delimited]

private theorem delimited_cons {c : Char} {r : List Char} (delimiter : c ∈ delimiters) :
    Delimited (c :: r) := by
  simpa [Delimited] using delimiter

variable {α : Type} (text : α → List Char) (agree : α → α → Bool)

/-- Wherever the text of `a` stands in front of a delimiter, it is read as `a`. -/
def Separates (a : α) : Prop := ∀ (b : α) (r r' : List Char), Delimited r → Delimited r' →
  text a ++ r = text b ++ r' → agree a b = true ∧ r = r'

/-- The texts behind the first, each with the comma in front of it. -/
def following (as : List α) : List Char := as.flatMap fun a => ',' :: ' ' :: text a

/-- The texts one after another, separated by commas. -/
def joined : List α → List Char
  | [] => []
  | a :: as => text a ++ following text as

variable {text agree} {as bs : List α} {close : Char} {r r' : List Char}

private theorem toList_intercalate {α : Type} (text : α → String) (as : List α) :
    (", ".intercalate (as.map text)).toList = joined (fun a => (text a).toList) as := by
  cases as with
  | nil => simp [joined]
  | cons a as =>
    rw [String.toList_intercalate, joined, List.map_cons, List.map_cons]
    induction as generalizing a with
    | nil => simp [following]
    | cons b as ih =>
      rw [List.map_cons, List.map_cons, List.intercalate_cons_cons, ih]
      simp [following]

private theorem delimited_following (closes : close ∈ [']', '\x7d']) :
    Delimited (following text as ++ close :: r) := by
  cases as with
  | nil => exact delimited_cons (List.mem_cons_of_mem _ closes)
  | cons a as => exact delimited_cons (List.mem_cons_self ..)

private theorem following_append_inj (separates : ∀ a ∈ as, Separates text agree a)
    (closes : close ∈ [']', '\x7d'])
    (same : following text as ++ close :: r = following text bs ++ close :: r') :
    List.Forall₂ (agree · · = true) as bs ∧ r = r' := by
  -- The comma tells one more text from the closing bracket, and both delimit the text before.
  have comma : close ≠ ',' := by
    rintro rfl
    exact absurd closes (by decide)
  induction as generalizing bs with
  | nil =>
    cases bs with
    | nil => exact ⟨.nil, (List.cons.inj same).2⟩
    | cons b bs => exact absurd (List.cons.inj same).1 comma
  | cons a as ih =>
    cases bs with
    | nil => exact absurd (List.cons.inj same).1.symm comma
    | cons b bs =>
      simp only [following, List.flatMap_cons, List.cons_append, List.append_assoc, List.cons.injEq,
        true_and] at same
      obtain ⟨first, rest⟩ := separates a (List.mem_cons_self ..) b _ _
        (delimited_following closes) (delimited_following closes) same
      obtain ⟨others, rests⟩ := ih (fun a member => separates a (List.mem_cons_of_mem _ member)) rest
      exact ⟨.cons first others, rests⟩

/-- Joined texts are told apart in front of their closing bracket. -/
theorem joined_append_inj (separates : ∀ a ∈ as, Separates text agree a)
    (closes : close ∈ [']', '\x7d']) (starts : ∀ a r r', text a ++ r ≠ close :: r')
    (same : joined text as ++ close :: r = joined text bs ++ close :: r') :
    List.Forall₂ (agree · · = true) as bs ∧ r = r' := by
  cases as with
  | nil =>
    cases bs with
    | nil => exact ⟨.nil, (List.cons.inj same).2⟩
    | cons b bs =>
      rw [joined, joined, List.append_assoc] at same
      exact absurd same.symm (starts b _ _)
  | cons a as =>
    cases bs with
    | nil =>
      rw [joined, joined, List.append_assoc] at same
      exact absurd same (starts a _ _)
    | cons b bs =>
      rw [joined, joined, List.append_assoc, List.append_assoc] at same
      obtain ⟨first, rest⟩ := separates a (List.mem_cons_self ..) b _ _
        (delimited_following closes) (delimited_following closes) same
      obtain ⟨others, rests⟩ := following_append_inj
        (fun a member => separates a (List.mem_cons_of_mem _ member)) closes rest
      exact ⟨.cons first others, rests⟩

end Delimited

section Kinds

/-- The characters of a value's fingerprint. -/
def chars (v : Value) : List Char := v.fingerprint.toList

/-- The characters of a field within a fingerprint. -/
def fieldChars (f : String × Value) : List Char :=
  (Text.quote f.1).toList ++ ':' :: ' ' :: chars f.2

/-- The mark that a value's fingerprint starts with; null, booleans and numbers start with none. -/
def opening : Value → Option Char
  | .str _ => some '"'
  | .arr _ => some '['
  | .obj _ => some '\x7b'
  | _ => none

private theorem fingerprintItems_eq_map (vs : List Value) :
    fingerprintItems vs = vs.map fingerprint := by
  induction vs with
  | nil => rfl
  | cons v vs ih => rw [fingerprintItems, ih, List.map_cons]

private theorem fingerprintFields_eq_map (fs : List (String × Value)) :
    fingerprintFields fs = fs.map fun f => Text.quote f.1 ++ ": " ++ fingerprint f.2 := by
  induction fs with
  | nil => rfl
  | cons f fs ih => rw [fingerprintFields, ih, List.map_cons]

private theorem chars_arr (items : List Value) :
    chars (.arr items) = '[' :: (joined chars items ++ [']']) := by
  rw [chars, fingerprint, fingerprintItems_eq_map, String.toList_append, String.toList_append,
    toList_intercalate]
  rfl

private theorem chars_obj (fields : List (String × Value)) :
    chars (.obj fields) = '\x7b' :: (joined fieldChars fields ++ ['\x7d']) := by
  have texts : (fun f : String × Value => (Text.quote f.1 ++ ": " ++ fingerprint f.2).toList) =
      fieldChars := by
    funext f
    simp [fieldChars, chars]
  rw [chars, fingerprint, fingerprintFields_eq_map, String.toList_append, String.toList_append,
    toList_intercalate, texts]
  rfl

private theorem not_mem_marks_of_isNumeral {c : Char} (numeral : Number.isNumeral c = true) :
    c ∉ marks := by
  have table : marks.all (!Number.isNumeral ·) = true := by decide
  intro mark
  have other : (!Number.isNumeral c) = true := List.all_eq_true.mp table c mark
  rw [numeral] at other
  cases other

private theorem not_mem_marks_of_all {text : List Char}
    (free : text.all (!marks.contains ·) = true) :
    ∀ c ∈ text, c ∉ marks := by
  intro c member mark
  have other : (!marks.contains c) = true := List.all_eq_true.mp free c member
  rw [List.contains_iff_mem.mpr mark] at other
  cases other

/-- Values that start with no mark are written as words: not empty, and without marks. -/
theorem chars_of_word : ∀ {v : Value}, opening v = none → chars v ≠ [] ∧ ∀ c ∈ chars v, c ∉ marks
  | .null, _ => ⟨by decide, not_mem_marks_of_all (by decide)⟩
  | .bool true, _ => ⟨by decide, not_mem_marks_of_all (by decide)⟩
  | .bool false, _ => ⟨by decide, not_mem_marks_of_all (by decide)⟩
  | .num x, _ => by
    obtain word | ⟨some, numerals⟩ := Number.text_shape x.toFloat
    · have table : ∀ word ∈ ["nan", "inf", "-inf"],
          word.toList ≠ [] ∧ word.toList.all (!marks.contains ·) = true := by decide
      exact ⟨(table _ word).1, not_mem_marks_of_all (table _ word).2⟩
    · exact ⟨some, fun c member => not_mem_marks_of_isNumeral (numerals c member)⟩

private theorem text_ne_of_mem {x : Float} {word : String}
    (member : word ∈ ["null", "true", "false"]) :
    Number.text x ≠ word := by
  rintro rfl
  obtain other | ⟨_, numerals⟩ := Number.text_shape x
  · have table : ∀ word ∈ ["null", "true", "false"], word ∉ ["nan", "inf", "-inf"] := by decide
    exact table _ member other
  · have table : ∀ word ∈ ["null", "true", "false"],
        ¬ word.toList.all Number.isNumeral = true := by decide
    exact table _ member (List.all_eq_true.mpr numerals)

/-- The first character of a fingerprint tells the kind of its value. -/
theorem chars_start (v : Value) : ∃ c cs, chars v = c :: cs ∧ c ∉ delimiters ∧
    opening v = if c ∈ marks then some c else none := by
  cases kind : opening v with
  | none =>
    obtain ⟨some, free⟩ := chars_of_word kind
    obtain ⟨c, cs, start⟩ := List.exists_cons_of_ne_nil some
    have plain : c ∉ marks := free c (by simp [start])
    refine ⟨c, cs, start, ?_, by rw [if_neg plain]⟩
    exact fun delimiter => plain (List.mem_append_left _ delimiter)
  | some c =>
    cases v with
    | null => cases kind
    | bool b => cases kind
    | num x => cases kind
    | str s =>
      cases kind
      exact ⟨_, _, Text.toList_quote s, by decide⟩
    | arr items =>
      cases kind
      exact ⟨_, _, chars_arr items, by decide⟩
    | obj fields =>
      cases kind
      exact ⟨_, _, chars_obj fields, by decide⟩

theorem opening_eq_of_append {v w : Value} {r r' : List Char}
    (same : chars v ++ r = chars w ++ r') : opening v = opening w := by
  obtain ⟨c, cs, start, _, kind⟩ := chars_start v
  obtain ⟨d, ds, start', _, kind'⟩ := chars_start w
  rw [start, start'] at same
  rw [kind, kind', (List.cons.inj same).1]

end Kinds

section Reading

private theorem alike_of_words {v w : Value} (word : opening v = none) (word' : opening w = none)
    (same : v.fingerprint = w.fingerprint) : alike v w = true := by
  cases v with
  | null =>
    cases w with
    | null => rfl
    | bool b => cases b <;> exact absurd same (by decide)
    | num y => exact absurd same.symm (text_ne_of_mem (by decide))
    | _ => cases word'
  | bool a =>
    cases w with
    | null => cases a <;> exact absurd same (by decide)
    | bool b => cases a <;> cases b <;> first | rfl | exact absurd same (by decide)
    | num y => cases a <;> exact absurd same.symm (text_ne_of_mem (by decide))
    | _ => cases word'
  | num x =>
    cases w with
    | null => exact absurd same (text_ne_of_mem (by decide))
    | bool b => cases b <;> exact absurd same (text_ne_of_mem (by decide))
    | num y => exact beq_iff_eq.mpr same
    | _ => cases word'
  | _ => cases word

private theorem separates_word {v : Value} (word : opening v = none) : Separates chars alike v := by
  intro w r r' ends ends' same
  -- The other value is a word too, and so both end at the first mark.
  have word' : opening w = none := (opening_eq_of_append same).symm.trans word
  have marked {r : List Char} (ends : Delimited r) : ∀ c ∈ r.head?, c ∈ marks :=
    fun c start => List.mem_append_left _ (ends c start)
  obtain ⟨words, rests⟩ := Text.append_inj_of_stops (chars_of_word word).2 (chars_of_word word').2
    (marked ends) (marked ends') same
  exact ⟨alike_of_words word word' (String.toList_inj.mp words), rests⟩

private theorem separates_str (s : String) : Separates chars alike (.str s) := by
  intro w r r' _ _ same
  have kind := opening_eq_of_append same
  cases w with
  | str t =>
    obtain ⟨rfl, rests⟩ := Text.quote_append_inj same
    exact ⟨beq_self_eq_true s, rests⟩
  | _ => cases kind

private theorem separates_arr {items : List Value}
    (separates : ∀ v ∈ items, Separates chars alike v) :
    Separates chars alike (.arr items) := by
  intro w r r' _ _ same
  have kind := opening_eq_of_append same
  cases w with
  | arr others =>
    have starts (v : Value) (r r' : List Char) : chars v ++ r ≠ ']' :: r' := by
      obtain ⟨c, cs, start, free, _⟩ := chars_start v
      rw [start]
      intro same
      exact free (by rw [(List.cons.inj same).1]; decide)
    rw [chars_arr, chars_arr, List.cons_append, List.cons_append, List.append_assoc,
      List.append_assoc] at same
    obtain ⟨agree, rests⟩ := joined_append_inj separates (by decide) starts (List.cons.inj same).2
    exact ⟨alikeItems_iff.mpr agree, rests⟩
  | _ => cases kind

private theorem separates_field {f : String × Value} (separates : Separates chars alike f.2) :
    Separates fieldChars alikeField f := by
  intro g r r' ends ends' same
  rw [fieldChars, fieldChars, List.append_assoc, List.append_assoc] at same
  obtain ⟨names, rest⟩ := Text.quote_append_inj same
  obtain ⟨agree, rests⟩ := separates g.2 r r' ends ends' (List.cons.inj (List.cons.inj rest).2).2
  exact ⟨by rw [alikeField, names, agree, beq_self_eq_true, Bool.and_true], rests⟩

private theorem separates_obj {fields : List (String × Value)}
    (separates : ∀ f ∈ fields, Separates fieldChars alikeField f) :
    Separates chars alike (.obj fields) := by
  intro w r r' _ _ same
  have kind := opening_eq_of_append same
  cases w with
  | obj others =>
    have starts (f : String × Value) (r r' : List Char) : fieldChars f ++ r ≠ '\x7d' :: r' := by
      rw [fieldChars, Text.toList_quote]
      intro same
      exact absurd (List.cons.inj same).1 (by decide)
    rw [chars_obj, chars_obj, List.cons_append, List.cons_append, List.append_assoc,
      List.append_assoc] at same
    obtain ⟨agree, rests⟩ := joined_append_inj separates (by decide) starts (List.cons.inj same).2
    exact ⟨alikeFields_iff.mpr agree, rests⟩
  | _ => cases kind

/-- A fingerprint is read back up to the text of numbers, whatever follows it. -/
theorem separates_chars : ∀ v : Value, Separates chars alike v
  | .null => separates_word rfl
  | .bool _ => separates_word rfl
  | .num _ => separates_word rfl
  | .str s => separates_str s
  | .arr items => separates_arr fun v _ => separates_chars v
  | .obj fields => separates_obj fun f _ => separates_field (separates_chars f.2)
termination_by v => sizeOf v
decreasing_by
  · have := List.sizeOf_lt_of_mem ‹v ∈ items›
    simp only [arr.sizeOf_spec]
    omega
  · have := List.sizeOf_lt_of_mem ‹f ∈ fields›
    obtain ⟨k, v⟩ := f
    simp only [Prod.mk.sizeOf_spec, obj.sizeOf_spec] at *
    omega

theorem fingerprint_eq_iff {v w : Value} : v.fingerprint = w.fingerprint ↔ alike v w = true := by
  constructor
  · intro same
    have texts : chars v ++ [] = chars w ++ [] := by rw [chars, chars, same]
    exact (separates_chars v w [] [] delimited_nil delimited_nil texts).1
  · exact fingerprint_eq_of_alike

theorem fingerprint_eq_of_beq {v w : Value} (equal : (v == w) = true) :
    v.fingerprint = w.fingerprint :=
  fingerprint_eq_of_alike (alike_of_beq equal)

end Reading

end StackVM.Value
