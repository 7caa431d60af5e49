import StackVM.Proofs.Json.Numeral
import StackVM.Proofs.Structural

/-! # Documents read back from every layout

`Spells` relates a document to its texts: blanks may stand around every bracket, comma and colon.
The reader recovers the document from each of them, and both writers produce one of them.
-/

namespace StackVM.Json

variable {α : Type} {close : Char} {spells : α → List Char → Prop} {as : List α} {first : Bool}
variable {gap text more rest : List Char}

section Sequence

/-- The text of a bracketed sequence after its opening bracket or, unless `first` holds, after an
item. -/
inductive Sequence (close : Char) (spells : α → List Char → Prop) :
    Bool → List α → List Char → Prop
  | close {first : Bool} {gap : List Char} (blank : Blank gap) :
    Sequence close spells first [] (gap ++ [close])
  | first {a : α} {as : List α} {gap text more : List Char} (blank : Blank gap)
    (item : spells a text) (following : Sequence close spells false as more) :
    Sequence close spells true (a :: as) (gap ++ text ++ more)
  | next {a : α} {as : List α} {gap gap' text more : List Char} (blank : Blank gap)
    (blank' : Blank gap') (item : spells a text) (following : Sequence close spells false as more) :
    Sequence close spells false (a :: as) (gap ++ ',' :: gap' ++ text ++ more)

theorem Sequence.numberEnds (sequence : Sequence close spells false as more)
    (ends : NumberEnds [close]) (rest : List Char) : NumberEnds (more ++ rest) := by
  cases sequence with
  | close blank =>
    rw [List.append_assoc]
    exact numberEnds_blank blank (numberEnds_cons (ends close rfl))
  | next blank blank' item following =>
    simp only [List.append_assoc, List.cons_append]
    exact numberEnds_blank blank (numberEnds_cons (by decide))

private theorem nextItem_close (first : Bool) (blank : Blank gap) :
    nextItem first (gap ++ ']' :: rest) = .ok (.close rest) := by
  rw [nextItem, skipBlanks_append blank, skipBlanks_cons (by decide)]
  rfl

private theorem nextItem_first (blank : Blank gap) (starts : Starts text) :
    nextItem true (gap ++ (text ++ rest)) = .ok (.item (text ++ rest)) := by
  obtain ⟨c, cs, rfl, visible, inside⟩ := starts
  rw [nextItem, skipBlanks_append blank, List.cons_append, skipBlanks_cons visible]
  simp

private theorem nextItem_next {gap' : List Char} (blank : Blank gap) (blank' : Blank gap')
    (starts : Starts text) :
    nextItem false (gap ++ ',' :: (gap' ++ (text ++ rest))) = .ok (.item (text ++ rest)) := by
  obtain ⟨c, cs, rfl, visible, inside⟩ := starts
  rw [nextItem, skipBlanks_append blank, skipBlanks_cons (by decide)]
  simp [skipBlanks_append blank', skipBlanks_cons visible, inside]

private theorem readItems_item {item : List Char → Scan α} {cs : List Char} {a : α} (fuel : Nat)
    (next : nextItem first cs = .ok (.item text)) (reads : item text = .ok (a, more))
    (remaining : readItems item fuel false more = .ok (as, rest)) :
    readItems item (fuel + 1) first cs = .ok (a :: as, rest) := by
  simp only [readItems, next, reads, remaining, bind, Except.bind]
  rfl

theorem readItems_of_sequence {item : List Char → Scan α}
    (reads : ∀ a ∈ as, ∀ text, spells a text → Starts text ∧ ReadsAs item text a)
    (sequence : Sequence ']' spells first as text) {fuel : Nat} (enough : as.length < fuel) :
    readItems item fuel first (text ++ rest) = .ok (as, rest) := by
  induction sequence generalizing fuel with
  | close blank =>
    obtain ⟨fuel, rfl⟩ := Nat.exists_eq_succ_of_ne_zero (Nat.ne_of_gt enough)
    simp only [readItems, List.append_assoc, List.singleton_append, nextItem_close _ blank]
    rfl
  | first blank spelled following ih =>
    obtain ⟨fuel, rfl⟩ := Nat.exists_eq_succ_of_ne_zero (Nat.ne_zero_of_lt enough)
    obtain ⟨starts, readsHead⟩ := reads _ List.mem_cons_self _ spelled
    simp only [List.append_assoc]
    exact readItems_item fuel (nextItem_first blank starts)
      (readsHead _ (following.numberEnds (numberEnds_cons (by decide)) rest))
      (ih (fun a member => reads a (List.mem_cons_of_mem _ member)) (Nat.lt_of_succ_lt_succ enough))
  | next blank blank' spelled following ih =>
    obtain ⟨fuel, rfl⟩ := Nat.exists_eq_succ_of_ne_zero (Nat.ne_zero_of_lt enough)
    obtain ⟨starts, readsHead⟩ := reads _ List.mem_cons_self _ spelled
    simp only [List.append_assoc, List.cons_append]
    exact readItems_item fuel (nextItem_next blank blank' starts)
      (readsHead _ (following.numberEnds (numberEnds_cons (by decide)) rest))
      (ih (fun a member => reads a (List.mem_cons_of_mem _ member)) (Nat.lt_of_succ_lt_succ enough))

theorem Sequence.length_le (sequence : Sequence close spells first as text) :
    as.length < text.length + first.toNat := by
  induction sequence with
  | close blank =>
    simp only [List.length_nil, List.length_append, List.length_singleton]
    omega
  | first blank spelled following ih =>
    simp only [List.length_cons, List.length_append, Bool.toNat_false, Bool.toNat_true] at ih ⊢
    omega
  | next blank blank' spelled following ih =>
    simp only [List.length_cons, List.length_append, Bool.toNat_false] at ih ⊢
    omega

/-- A bracketed text is long enough to count its items by. -/
theorem Sequence.length_lt_append (sequence : Sequence close spells true as text)
    (rest : List Char) : as.length < (text ++ rest).length + 1 := by
  have := sequence.length_le
  simp only [Bool.toNat_true, List.length_append] at this ⊢
  omega

end Sequence

section Members

/-- The text of a member: its name, a colon and its value. -/
inductive SpellsMember (spells : α → List Char → Prop) : String × α → List Char → Prop
  | mk {name : String} {a : α} {gap gap' text : List Char} (blank : Blank gap)
    (blank' : Blank gap') (value : spells a text) :
    SpellsMember spells (name, a) (stringChars name ++ gap ++ ':' :: gap' ++ text)

theorem nextKey_close (first : Bool) (blank : Blank gap) :
    nextKey first (gap ++ '\x7d' :: rest) = .ok (.close rest) := by
  rw [nextKey, skipBlanks_append blank, skipBlanks_cons (by decide)]
  rfl

theorem nextKey_first (blank : Blank gap) :
    nextKey true (gap ++ '"' :: rest) = .ok (.item rest) := by
  rw [nextKey, skipBlanks_append blank, skipBlanks_cons (by decide)]
  rfl

theorem nextKey_next {gap' : List Char} (blank : Blank gap) (blank' : Blank gap') :
    nextKey false (gap ++ ',' :: (gap' ++ '"' :: rest)) = .ok (.item rest) := by
  rw [nextKey, skipBlanks_append blank, skipBlanks_cons (by decide)]
  simp [skipBlanks_append blank', skipBlanks_cons (c := '"') (by decide)]

theorem skipColon_append (blank : Blank gap) : skipColon (gap ++ ':' :: rest) = .ok rest := by
  rw [skipColon, skipBlanks_append blank, skipBlanks_cons (by decide)]
  rfl

private theorem readMembers_member {item : List Char → Scan α} {cs key after value : List Char}
    {a : α}
    {members : List (String × α)} (fuel : Nat) (next : nextKey first cs = .ok (.item text))
    (named : scanString text = .ok (key, after)) (colon : skipColon after = .ok value)
    (reads : item value = .ok (a, more))
    (remaining : readMembers item fuel false more = .ok (members, rest)) :
    readMembers item (fuel + 1) first cs = .ok ((String.ofList key, a) :: members, rest) := by
  simp only [readMembers, next, named, colon, reads, remaining, bind, Except.bind]
  rfl

/-- A spelled member is read once the reader has come to the mark that opens its name. -/
theorem readMembers_spelled {item : List Char → Scan α} {cs : List Char} {m : String × α}
    {members : List (String × α)} (fuel : Nat) (spelled : SpellsMember spells m text)
    (reads : ∀ gap text, Blank gap → spells m.2 text → ReadsAs item (gap ++ text) m.2)
    (ends : NumberEnds more)
    (opens : ∀ inside, text ++ more = '"' :: inside → nextKey first cs = .ok (.item inside))
    (remaining : readMembers item fuel false more = .ok (members, rest)) :
    readMembers item (fuel + 1) first cs = .ok (m :: members, rest) := by
  cases spelled with
  | mk before after value =>
    have readsValue := reads _ _ after value _ ends
    simp only [List.append_assoc, List.cons_append, stringChars_append] at readsValue opens
    rw [readMembers_member fuel (opens _ rfl) (scanString_flatMap _ _) (skipColon_append before)
      readsValue remaining, String.ofList_toList]

private theorem readMembers_of_sequence {item : List Char → Scan α} {members : List (String × α)}
    (reads : ∀ m ∈ members, ∀ gap text, Blank gap → spells m.2 text →
      ReadsAs item (gap ++ text) m.2)
    (sequence : Sequence '\x7d' (SpellsMember spells) first members text) {fuel : Nat}
    (enough : members.length < fuel) :
    readMembers item fuel first (text ++ rest) = .ok (members, rest) := by
  induction sequence generalizing fuel with
  | close blank =>
    obtain ⟨fuel, rfl⟩ := Nat.exists_eq_succ_of_ne_zero (Nat.ne_zero_of_lt enough)
    simp only [readMembers, List.append_assoc, List.singleton_append, nextKey_close _ blank]
    rfl
  | first blank spelled following ih =>
    obtain ⟨fuel, rfl⟩ := Nat.exists_eq_succ_of_ne_zero (Nat.ne_zero_of_lt enough)
    simp only [List.append_assoc]
    exact readMembers_spelled fuel spelled (reads _ List.mem_cons_self)
      (following.numberEnds (numberEnds_cons (by decide)) rest)
      (fun inside same => same ▸ nextKey_first blank)
      (ih (fun m member => reads m (List.mem_cons_of_mem _ member)) (Nat.lt_of_succ_lt_succ enough))
  | next blank blank' spelled following ih =>
    obtain ⟨fuel, rfl⟩ := Nat.exists_eq_succ_of_ne_zero (Nat.ne_zero_of_lt enough)
    simp only [List.append_assoc, List.cons_append]
    exact readMembers_spelled fuel spelled (reads _ List.mem_cons_self)
      (following.numberEnds (numberEnds_cons (by decide)) rest)
      (fun inside same => same ▸ nextKey_next blank blank')
      (ih (fun m member => reads m (List.mem_cons_of_mem _ member)) (Nat.lt_of_succ_lt_succ enough))

end Members

/-- Induction over a document, its items and its members. -/
@[elab_as_elim]
theorem nested_induction {motive : Json → Prop} (null : motive .null) (bool : ∀ b, motive (.bool b))
    (int : ∀ n, motive (.int n)) (float : ∀ x, motive (.float x)) (str : ∀ s, motive (.str s))
    (arr : ∀ items, (∀ j ∈ items, motive j) → motive (.arr items))
    (obj : ∀ members, (∀ m ∈ members, motive m.2) → motive (.obj members)) (j : Json) : motive j :=
  @Json.rec motive (fun items => ∀ k ∈ items, motive k) (fun members => ∀ m ∈ members, motive m.2)
    (fun m => motive m.2) null bool int float str arr obj
    (fun _ member => nomatch member)
    (fun _ _ head tail => List.forall_mem_cons.mpr ⟨head, tail⟩)
    (fun _ member => nomatch member)
    (fun _ _ head tail => List.forall_mem_cons.mpr ⟨head, tail⟩)
    (fun _ _ value => value) j

section Documents

/-- The texts of a document. -/
inductive Spells : Json → List Char → Prop
  | null : Spells .null "null".toList
  | bool (b : Bool) : Spells (.bool b) (if b then "true" else "false").toList
  | int {n : Int} (fits : FitsInt n) : Spells (.int n) (Number.integerText n).toList
  | float {x : Float} (finite : Number.isFinite x = true) :
    Spells (.float x) (Number.jsonText x).toList
  | str (s : String) : Spells (.str s) (stringChars s)
  | arr {items : List Json} {text : List Char} (sequence : Sequence ']' Spells true items text) :
    Spells (.arr items) ('[' :: text)
  | obj {members : List (String × Json)} {text : List Char}
    (sequence : Sequence '\x7d' (SpellsMember Spells) true members text) :
    Spells (.obj members) ('\x7b' :: text)

mutual

/-- How many brackets are open at once. -/
def depth : Json → Nat
  | .arr items => depthItems items + 1
  | .obj members => depthMembers members + 1
  | _ => 0

/-- The greatest depth of the items. -/
def depthItems : List Json → Nat
  | [] => 0
  | j :: rest => max (depth j) (depthItems rest)

/-- The greatest depth of the members. -/
def depthMembers : List (String × Json) → Nat
  | [] => 0
  | (_, j) :: rest => max (depth j) (depthMembers rest)

end

theorem Spells.starts {j : Json} (spelled : Spells j text) : Starts text := by
  cases spelled with
  | null => exact ⟨_, _, rfl, by decide, by decide⟩
  | bool b => cases b <;> exact ⟨_, _, rfl, by decide, by decide⟩
  | int fits => exact starts_integerText _
  | float finite => exact starts_jsonText finite
  | str s => exact ⟨_, _, rfl, by decide, by decide⟩
  | arr sequence => exact ⟨_, _, rfl, by decide, by decide⟩
  | obj sequence => exact ⟨_, _, rfl, by decide, by decide⟩

private theorem readValue_eq (depth : Nat) : ∃ inner, readValue depth = readWith inner := by
  cases depth with
  | zero => exact ⟨none, rfl⟩
  | succ depth => exact ⟨some (readValue depth), rfl⟩

private theorem readValue_append {depth : Nat} {cs : List Char} (blank : Blank gap) :
    readValue depth (gap ++ cs) = readValue depth cs := by
  obtain ⟨inner, reader⟩ := readValue_eq depth
  rw [reader, readWith_append blank]

private theorem readValue_list {depth : Nat} {items : List Json}
    (reads : ∀ j ∈ items, ∀ text, Spells j text → ReadsAs (readValue depth) text j)
    (sequence : Sequence ']' Spells true items text) :
    ReadsAs (readValue (depth + 1)) ('[' :: text) (.arr items) := by
  intro rest _
  rw [readValue, List.cons_append, readWith, skipBlanks_cons (by decide)]
  simp only [readItems_of_sequence (fun j member text spelled =>
    ⟨spelled.starts, reads j member text spelled⟩) sequence (sequence.length_lt_append rest)]
  rfl

private theorem readValue_object {depth : Nat} {members : List (String × Json)}
    (reads : ∀ m ∈ members, ∀ text, Spells m.2 text → ReadsAs (readValue depth) text m.2)
    (sequence : Sequence '\x7d' (SpellsMember Spells) true members text) :
    ReadsAs (readValue (depth + 1)) ('\x7b' :: text) (.obj members) := by
  intro rest _
  have spaced : ∀ m ∈ members, ∀ gap text, Blank gap → Spells m.2 text →
      ReadsAs (readValue depth) (gap ++ text) m.2 := by
    intro m member gap text blank spelled rest ends
    rw [List.append_assoc, readValue_append blank]
    exact reads m member text spelled rest ends
  rw [readValue, List.cons_append, readWith, skipBlanks_cons (by decide)]
  simp only [readMembers_of_sequence spaced sequence (sequence.length_lt_append rest)]
  rfl

theorem depthItems_le_iff {items : List Json} {n : Nat} :
    depthItems items ≤ n ↔ ∀ j ∈ items, j.depth ≤ n :=
  forall_mem_iff_of_cons (depthItems · ≤ n) (Nat.zero_le n) (fun _ _ => Nat.max_le) items

theorem depthMembers_le_iff {members : List (String × Json)} {n : Nat} :
    depthMembers members ≤ n ↔ ∀ m ∈ members, m.2.depth ≤ n :=
  forall_mem_iff_of_cons (depthMembers · ≤ n) (Nat.zero_le n) (fun _ _ => Nat.max_le) members

/-- Every text of a document reads as that document, if enough brackets may be opened. -/
theorem readValue_of_spells (j : Json) {n : Nat} (shallow : j.depth ≤ n) (text : List Char)
    (spelled : Spells j text) : ReadsAs (readValue n) text j := by
  obtain ⟨inner, reader⟩ := readValue_eq n
  -- A bracket is opened at the cost of one level, so the items are read with the predecessor of n.
  induction j using nested_induction generalizing n inner text with
  | null =>
    cases spelled
    exact reader ▸ reads_null
  | bool b =>
    cases spelled
    exact reader ▸ reads_bool b
  | int k =>
    cases spelled with
    | int fits => exact reader ▸ reads_int fits
  | float x =>
    cases spelled with
    | float finite => exact reader ▸ reads_float finite
  | str s =>
    cases spelled
    exact reader ▸ reads_str s
  | arr items ih =>
    obtain ⟨n, rfl⟩ := Nat.exists_eq_succ_of_ne_zero (Nat.ne_zero_of_lt shallow)
    obtain ⟨inner, reader⟩ := readValue_eq n
    have inside := depthItems_le_iff.mp (Nat.le_of_succ_le_succ shallow)
    cases spelled with
    | arr sequence =>
      exact readValue_list (fun j member text spelled =>
        ih j member (inside j member) text spelled inner reader) sequence
  | obj members ih =>
    obtain ⟨n, rfl⟩ := Nat.exists_eq_succ_of_ne_zero (Nat.ne_zero_of_lt shallow)
    obtain ⟨inner, reader⟩ := readValue_eq n
    have inside := depthMembers_le_iff.mp (Nat.le_of_succ_le_succ shallow)
    cases spelled with
    | obj sequence =>
      exact readValue_object (fun m member text spelled =>
        ih m member (inside m member) text spelled inner reader) sequence

/-- A whole text that spells a document is read as that document. -/
theorem readChars_of_spells {j : Json} (shallow : j.depth ≤ maxDepth) (spelled : Spells j text) :
    readChars text = .ok j := by
  have whole := readValue_of_spells j shallow text spelled [] numberEnds_nil
  rw [List.append_nil] at whole
  rw [readChars, whole]
  rfl

end Documents

section Writers

/-- Texts separated by commas, each behind the same gap. -/
def joined (gap : List Char) (write : α → List Char) : List α → List Char
  | [] => []
  | [a] => gap ++ write a
  | a :: rest => gap ++ write a ++ ',' :: joined gap write rest

theorem joined_cons (gap : List Char) (write : α → List Char) (a : α) (as : List α) :
    joined gap write (a :: as) = gap ++ write a ++ as.flatMap fun b => ',' :: (gap ++ write b) := by
  induction as generalizing a with
  | nil => simp [joined]
  | cons b as ih => rw [joined, ih, List.flatMap_cons, List.cons_append, List.append_assoc]; simp

private theorem sequence_following {write : α → List Char} {last : List Char} (blank : Blank gap)
    (blank' : Blank last) (spelled : ∀ a ∈ as, spells a (write a)) :
    Sequence close spells false as
      ((as.flatMap fun b => ',' :: (gap ++ write b)) ++ (last ++ [close])) := by
  induction as with
  | nil => exact .close blank'
  | cons a as ih =>
    have following := ih fun b member => spelled b (List.mem_cons_of_mem _ member)
    have whole := Sequence.next blank_nil blank (spelled a List.mem_cons_self) following
    simpa only [List.flatMap_cons, List.append_assoc, List.cons_append, List.nil_append] using whole

private theorem sequence_joined {write : α → List Char} {last : List Char} (blank : Blank gap)
    (blank' : Blank last) (spelled : ∀ a ∈ as, spells a (write a)) :
    Sequence close spells true as (joined gap write as ++ (last ++ [close])) := by
  cases as with
  | nil => exact .close blank'
  | cons a as =>
    rw [joined_cons, List.append_assoc _ _ (last ++ _)]
    exact .first blank (spelled a List.mem_cons_self)
      (sequence_following blank blank' fun b member => spelled b (List.mem_cons_of_mem _ member))

mutual

/-- The numbers of the document have a text: integers fit 64 bits, all others are finite. -/
def Writable : Json → Prop
  | .int n => FitsInt n
  | .float x => Number.isFinite x = true
  | .arr items => WritableItems items
  | .obj members => WritableMembers members
  | _ => True

/-- Every item is writable. -/
def WritableItems : List Json → Prop
  | [] => True
  | j :: rest => Writable j ∧ WritableItems rest

/-- Every member is writable. -/
def WritableMembers : List (String × Json) → Prop
  | [] => True
  | (_, j) :: rest => Writable j ∧ WritableMembers rest

end

theorem eq_joined {write : α → List Char} {f : List α → List Char} (nil : f [] = [])
    (one : ∀ a, f [a] = gap ++ write a)
    (more : ∀ a b rest, f (a :: b :: rest) = gap ++ write a ++ ',' :: f (b :: rest)) (as : List α) :
    f as = joined gap write as := by
  fun_induction joined gap write as with
  | case1 => exact nil
  | case2 a => exact one a
  | case3 a rest several ih =>
    obtain ⟨b, rest, rfl⟩ := List.exists_cons_of_ne_nil several
    rw [more, ih]

theorem compactItems_eq (items : List Json) : compactItems items = joined [] compactChars items :=
  eq_joined (f := compactItems) rfl (fun _ => rfl) (fun _ _ _ => rfl) items

theorem compactMembers_eq (members : List (String × Json)) : compactMembers members =
    joined [] (fun m => stringChars m.1 ++ ':' :: compactChars m.2) members :=
  eq_joined (f := compactMembers) rfl (fun _ => rfl) (fun _ _ _ => rfl) members

private theorem prettyItems_eq (level : Nat) (items : List Json) :
    prettyItems level items = joined (lineBreak level) (prettyChars level) items :=
  eq_joined (f := prettyItems level) rfl (fun _ => rfl) (fun _ _ _ => rfl) items

private theorem prettyMembers_eq (level : Nat) (members : List (String × Json)) :
    prettyMembers level members = joined (lineBreak level)
      (fun m => stringChars m.1 ++ ':' :: ' ' :: prettyChars level m.2) members :=
  eq_joined (f := prettyMembers level) rfl (fun _ => by simp [prettyMembers])
    (fun _ _ _ => by simp [prettyMembers]) members

private theorem blank_lineBreak (level : Nat) : Blank (lineBreak level) := by
  intro c member
  rcases List.mem_cons.mp member with rfl | member
  · decide
  · rw [List.eq_of_mem_replicate member]
    decide

private theorem blank_space : Blank [' '] := by simp [Blank, isBlank]

private theorem spellsMember_spaced {m : String × Json} (blank : Blank gap)
    (spelled : Spells m.2 text) :
    SpellsMember Spells m (stringChars m.1 ++ ':' :: (gap ++ text)) := by
  simpa only [List.append_nil, List.append_assoc, List.cons_append]
    using (SpellsMember.mk blank_nil blank spelled : SpellsMember Spells (m.1, m.2) _)

theorem writableItems_iff {items : List Json} :
    WritableItems items ↔ ∀ j ∈ items, j.Writable :=
  forall_mem_iff_of_cons WritableItems trivial (fun _ _ => Iff.rfl) items

theorem writableMembers_iff {members : List (String × Json)} :
    WritableMembers members ↔ ∀ m ∈ members, m.2.Writable :=
  forall_mem_iff_of_cons WritableMembers trivial (fun _ _ => Iff.rfl) members

/-- The compact form is a text of the document. -/
theorem spells_compactChars (j : Json) (writable : j.Writable) : Spells j (compactChars j) := by
  induction j using nested_induction with
  | null => exact .null
  | bool b => exact .bool b
  | int n => exact .int writable
  | float x => exact .float writable
  | str s => exact .str s
  | arr items ih =>
    have inside := writableItems_iff.mp writable
    rw [compactChars, List.cons_append, compactItems_eq]
    exact .arr (sequence_joined blank_nil blank_nil fun j member => ih j member (inside j member))
  | obj members ih =>
    have inside := writableMembers_iff.mp writable
    rw [compactChars, List.cons_append, compactMembers_eq]
    exact .obj (sequence_joined blank_nil blank_nil fun m member =>
      spellsMember_spaced blank_nil (ih m member (inside m member)))

/-- The pretty form is a text of the document at every indentation. -/
theorem spells_prettyChars (level : Nat) (j : Json) (writable : j.Writable) :
    Spells j (prettyChars level j) := by
  induction j using nested_induction generalizing level with
  | null => exact .null
  | bool b => exact .bool b
  | int n => exact .int writable
  | float x => exact .float writable
  | str s => exact .str s
  | arr items ih =>
    have inside := writableItems_iff.mp writable
    cases items with
    | nil => exact .arr (.close blank_nil)
    | cons j items =>
      rw [prettyChars, List.cons_append, List.cons_append, prettyItems_eq, List.append_assoc]
      exact .arr (sequence_joined (blank_lineBreak _) (blank_lineBreak _) fun k member =>
        ih k member (level + 1) (inside k member))
  | obj members ih =>
    have inside := writableMembers_iff.mp writable
    cases members with
    | nil => exact .obj (.close blank_nil)
    | cons m members =>
      rw [prettyChars, List.cons_append, List.cons_append, prettyMembers_eq, List.append_assoc]
      exact .obj (sequence_joined (blank_lineBreak _) (blank_lineBreak _) fun k member =>
        spellsMember_spaced blank_space (ih k member (level + 1) (inside k member)))

end Writers

end StackVM.Json
