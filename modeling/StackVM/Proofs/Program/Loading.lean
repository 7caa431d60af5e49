import StackVM.Proofs.Program.Wire

/-! # Loading reads back every program

The members of a program are read one after another into a draft; the invariant says which of them
are still to come, so that their order does not matter. Every text of a program loads as that program.
-/

namespace StackVM.Program

open Json

variable {α : Type} {gap gap' text rest : List Char} {j : Json} {as : List α} {documents : List Json}

section Lists

variable {item : List Char → Scan α}

/-- Every text of the document is read as the item. -/
def Stands (item : List Char → Scan α) (a : α) (j : Json) : Prop :=
  ∀ text, Spells j text → ReadsAs item text a

private theorem stands_instruction {n : Instruction.Numbers} (wire : n.Wire j) (fits : n.Fits) :
    Stands (readInstruction itemDepth) n.instruction j := by
  intro text spelled rest ends
  have shallow : j.depth ≤ itemDepth := (Instruction.depth_of_wire wire).trans (by decide)
  simp only [readInstruction, readValue_of_spells j shallow text spelled rest ends, bind, Except.bind,
    Instruction.instruction?_of_wire wire fits]
  rfl

private theorem stands_constant {v : Value} (written : v.WrittenAs j) (sorted : v.Sorted)
    (shallow : v.depth ≤ itemDepth) : Stands (readConstant itemDepth) v j := by
  intro text spelled rest ends
  have inside := (Value.depth_of_writtenAs written).trans shallow
  simp only [readConstant, readValue_of_spells j inside text spelled rest ends, bind, Except.bind,
    Value.ofJson_of_writtenAs written sorted]
  rfl

private theorem sequence_of_forall₂ {β : Type} {R : α → β → Prop} {spells : β → List Char → Prop}
    {close : Char}
    {bs : List β} {first : Bool} (sequence : Sequence close spells first bs text)
    (related : List.Forall₂ R as bs) :
    Sequence close (fun a text => ∃ b, R a b ∧ spells b text) first as text := by
  induction sequence generalizing as with
  | close blank =>
    cases related
    exact .close blank
  | first blank spelled _ ih =>
    cases related with
    | cons head tail => exact .first blank ⟨_, head, spelled⟩ (ih tail)
  | next blank blank' spelled _ ih =>
    cases related with
    | cons head tail => exact .next blank blank' ⟨_, head, spelled⟩ (ih tail)

/-- A list of documents is read as the list of the items they stand for. -/
theorem readList_of_spells (each : List.Forall₂ (Stands item) as documents) (blank : Blank gap)
    (spelled : Spells (.arr documents) text) : ReadsAs (readList item) (gap ++ text) as := by
  intro rest _
  cases spelled with
  | @arr _ text sequence =>
    have items := sequence_of_forall₂ sequence each
    have reads : ∀ a ∈ as, ∀ text, (∃ j, Stands item a j ∧ Spells j text) →
        Starts text ∧ ReadsAs item text a := by
      rintro a - text ⟨j, stands, spelled⟩
      exact ⟨spelled.starts, stands text spelled⟩
    rw [readList, List.append_assoc, skipBlanks_append blank, List.cons_append,
      skipBlanks_cons (by decide)]
    exact readItems_of_sequence reads items (items.length_lt_append rest)

private theorem readVersion_str (s : String) (blank : Blank gap) :
    ReadsAs readVersion (gap ++ stringChars s) (some s) := by
  intro rest _
  rw [readVersion, List.append_assoc, skipBlanks_append blank, stringChars_append,
    skipBlanks_cons (by decide)]
  simp [scanString_flatMap, bind, Except.bind, pure, Except.pure]

private theorem readVersion_null (blank : Blank gap) :
    ReadsAs readVersion (gap ++ "null".toList) none := by
  intro rest _
  rw [readVersion, List.append_assoc, skipBlanks_append blank]
  rfl

end Lists

section Members

variable {version : Option String} {numbers : List Instruction.Numbers} {constants : List Value}
variable {loaded : List Instruction} {draft : Draft} {name key : String} {names : List String}
variable {held : Option α} {settled : Prop} {m : String × Json} {members : List (String × Json)}

/-- A part whose name is still to come has not been read; any other part is settled. -/
structure Pending (name : String) (names : List String) (held : Option α) (settled : Prop) : Prop where
  unread : name ∈ names → held = none
  settled : name ∉ names → settled

theorem Pending.other (pending : Pending name (key :: names) held settled) (differs : name ≠ key) :
    Pending name names held settled :=
  ⟨fun later => pending.unread (.tail _ later), fun absent =>
    pending.settled (List.not_mem_cons_of_ne_of_not_mem differs absent)⟩

theorem Pending.done (fresh : name ∉ names) (done : settled) : Pending name names held settled :=
  ⟨fun later => absurd later fresh, fun _ => done⟩

/-- The members of these names are still to come; the draft holds all others. -/
structure Draft.Awaits (draft : Draft) (names : List String) (version : Option String)
    (loaded : List Instruction) (constants : List Value) : Prop where
  version : Pending "version" names draft.version (draft.version.join = version)
  instructions : Pending "instructions" names draft.instructions (draft.instructions = some loaded)
  constants : Pending "constants" names draft.constants (draft.constants.getD [] = constants)

theorem Draft.Awaits.finish (awaits : draft.Awaits [] version loaded constants) (rest : List Char) :
    draft.finish rest = .ok (⟨version, loaded.toArray, constants.toArray⟩, rest) := by
  rw [Draft.finish, awaits.instructions.settled List.not_mem_nil,
    awaits.version.settled List.not_mem_nil, awaits.constants.settled List.not_mem_nil]

private theorem Members.awaits (present : Members version numbers constants members) :
    Draft.Awaits {} (members.map Prod.fst) version loaded constants where
  version := ⟨fun _ => rfl, fun absent => (present.unversioned absent).symm⟩
  instructions := ⟨fun _ => rfl, fun absent => absurd present.coded absent⟩
  constants := ⟨fun _ => rfl, fun absent => (present.bare absent).symm⟩

section Steps

variable {cs value : List Char}

private theorem readMember_version {v : Option String} (unread : draft.version = none)
    (colon : skipColon cs = .ok value) (reads : readVersion value = .ok (v, rest)) :
    readMember draft "version" cs = .ok ({ draft with version := some v }, rest) := by
  simp [readMember, once, unread, colon, reads, bind, Except.bind, pure, Except.pure]

private theorem readMember_instructions {is : List Instruction} (unread : draft.instructions = none)
    (colon : skipColon cs = .ok value) (reads : readInstructions value = .ok (is, rest)) :
    readMember draft "instructions" cs = .ok ({ draft with instructions := some is }, rest) := by
  simp [readMember, once, unread, colon, reads, bind, Except.bind, pure, Except.pure]

private theorem readMember_constants {vs : List Value} (unread : draft.constants = none)
    (colon : skipColon cs = .ok value) (reads : readConstants value = .ok (vs, rest)) :
    readMember draft "constants" cs = .ok ({ draft with constants := some vs }, rest) := by
  simp [readMember, once, unread, colon, reads, bind, Except.bind, pure, Except.pure]

end Steps

/-- The numbers of the instructions fit, and the constants are values that a program may hold. -/
structure Loadable (numbers : List Instruction.Numbers) (constants : List Value) : Prop where
  fits : ∀ n ∈ numbers, n.Fits
  sorted : ∀ v ∈ constants, v.Sorted
  shallow : ∀ v ∈ constants, v.depth ≤ itemDepth

/-- Reading a member leaves one member fewer to come. -/
theorem readMember_of_member (loadable : Loadable numbers constants)
    (member : Member version numbers constants m)
    (awaits : draft.Awaits (m.1 :: names) version (numbers.map (·.instruction)) constants)
    (fresh : m.1 ∉ names) (before : Blank gap) (after : Blank gap') (spelled : Spells m.2 text)
    (ends : NumberEnds rest) :
    ∃ next : Draft, readMember draft m.1 (gap ++ ':' :: (gap' ++ text ++ rest)) = .ok (next, rest) ∧
      next.Awaits names version (numbers.map (·.instruction)) constants := by
  have colon : skipColon (gap ++ ':' :: (gap' ++ text ++ rest)) = .ok (gap' ++ text ++ rest) :=
    skipColon_append before
  obtain ⟨ofVersion, ofInstructions, ofConstants⟩ := awaits
  cases member with
  | version given =>
    cases spelled
    exact ⟨_, readMember_version (ofVersion.unread (.head _)) colon (readVersion_str _ after rest ends),
      .done fresh given.symm, ofInstructions.other (by simp), ofConstants.other (by simp)⟩
  | noVersion missing =>
    cases spelled
    exact ⟨_, readMember_version (ofVersion.unread (.head _)) colon (readVersion_null after rest ends),
      .done fresh missing.symm, ofInstructions.other (by simp), ofConstants.other (by simp)⟩
  | instructions each =>
    have stand : List.Forall₂ (Stands (readInstruction itemDepth)) (numbers.map (·.instruction)) _ :=
      List.forall₂_map_left_iff.mpr (((List.forall₂_and_left _ _).mpr ⟨loadable.fits, each⟩).imp
        fun n j both => stands_instruction both.2 both.1)
    exact ⟨_, readMember_instructions (ofInstructions.unread (.head _)) colon
      (readList_of_spells stand after spelled rest ends),
      ofVersion.other (by simp), .done fresh rfl, ofConstants.other (by simp)⟩
  | constants each =>
    have stand : List.Forall₂ (Stands (readConstant itemDepth)) constants _ :=
      ((List.forall₂_and_left _ _).mpr ⟨fun v present => And.intro (loadable.sorted v present)
        (loadable.shallow v present), each⟩).imp fun v j both => stands_constant both.2 both.1.1 both.1.2
    exact ⟨_, readMember_constants (ofConstants.unread (.head _)) colon
      (readList_of_spells stand after spelled rest ends),
      ofVersion.other (by simp), ofInstructions.other (by simp), .done fresh rfl⟩

/-- A spelled member is read once the reader has come to the mark that opens its name. -/
theorem readDraft_spelled {first : Bool} {cs more : List Char} {p : Program} (fuel : Nat)
    (loadable : Loadable numbers constants) (member : Member version numbers constants m)
    (awaits : draft.Awaits (m.1 :: names) version (numbers.map (·.instruction)) constants)
    (fresh : m.1 ∉ names) (spelled : SpellsMember Spells m text) (ends : NumberEnds more)
    (opens : ∀ inside, text ++ more = '"' :: inside → nextKey first cs = .ok (.item inside))
    (remaining : ∀ next : Draft, next.Awaits names version (numbers.map (·.instruction)) constants →
      readDraft fuel false next more = .ok (p, rest)) :
    readDraft (fuel + 1) first draft cs = .ok (p, rest) := by
  cases spelled with
  | mk before after value =>
    obtain ⟨next, reads, awaits⟩ := readMember_of_member loadable member awaits fresh before after value ends
    simp only [List.append_assoc, List.cons_append, stringChars_append] at opens reads
    simp only [readDraft, opens _ rfl, scanString_flatMap, String.ofList_toList, reads, bind, Except.bind]
    exact remaining next awaits

/-- The members are read in whatever order they stand. -/
theorem readDraft_of_sequence {first : Bool} (loadable : Loadable numbers constants)
    (sequence : Sequence '\x7d' (SpellsMember Spells) first members text)
    (belong : ∀ m ∈ members, Member version numbers constants m)
    (distinct : (members.map Prod.fst).Nodup)
    (awaits : draft.Awaits (members.map Prod.fst) version (numbers.map (·.instruction)) constants)
    {fuel : Nat} (enough : members.length < fuel) (rest : List Char) :
    readDraft fuel first draft (text ++ rest) =
      .ok (⟨version, (numbers.map (·.instruction)).toArray, constants.toArray⟩, rest) := by
  induction sequence generalizing fuel draft with
  | close blank =>
    obtain ⟨fuel, rfl⟩ := Nat.exists_eq_succ_of_ne_zero (Nat.ne_zero_of_lt enough)
    simp only [readDraft, List.append_assoc, List.singleton_append, nextKey_close _ blank, bind,
      Except.bind]
    exact awaits.finish rest
  | first blank spelled following ih =>
    obtain ⟨fuel, rfl⟩ := Nat.exists_eq_succ_of_ne_zero (Nat.ne_zero_of_lt enough)
    obtain ⟨fresh, distinct⟩ := List.nodup_cons.mp distinct
    obtain ⟨member, belong⟩ := List.forall_mem_cons.mp belong
    simp only [List.append_assoc]
    exact readDraft_spelled fuel loadable member awaits fresh spelled
      (following.numberEnds (numberEnds_cons (by decide)) rest)
      (fun inside same => same ▸ nextKey_first blank)
      (fun next awaits => ih belong distinct awaits (Nat.lt_of_succ_lt_succ enough))
  | next blank blank' spelled following ih =>
    obtain ⟨fuel, rfl⟩ := Nat.exists_eq_succ_of_ne_zero (Nat.ne_zero_of_lt enough)
    obtain ⟨fresh, distinct⟩ := List.nodup_cons.mp distinct
    obtain ⟨member, belong⟩ := List.forall_mem_cons.mp belong
    simp only [List.append_assoc, List.cons_append]
    exact readDraft_spelled fuel loadable member awaits fresh spelled
      (following.numberEnds (numberEnds_cons (by decide)) rest)
      (fun inside same => same ▸ nextKey_next blank blank')
      (fun next awaits => ih belong distinct awaits (Nat.lt_of_succ_lt_succ enough))

/-- Every text of a program is read. -/
theorem ofText_of_written {text : String} (loadable : Loadable numbers constants)
    (written : Written version numbers constants text) :
    ofText text = .ok ⟨version, (numbers.map (·.instruction)).toArray, constants.toArray⟩ := by
  obtain ⟨members, before, inner, after, present, spelled, blank, blank', whole⟩ := written
  cases spelled with
  | @obj _ inner sequence =>
    have read := readDraft_of_sequence loadable sequence present.belong present.distinct present.awaits
      (sequence.length_lt_append after) after
    have ended : skipBlanks after = [] := by
      rw [← List.append_nil after, skipBlanks_append blank']
      rfl
    rw [ofText, whole, readChars, readProgram, List.append_assoc, skipBlanks_append blank, List.cons_append,
      skipBlanks_cons (by decide)]
    simp only [read, bind, Except.bind, Json.finish, ended]

/-- The compact text of a document of a program is one of the program's texts. -/
theorem written_compact (present : Members version numbers constants members)
    (writable : (Json.obj members).Writable) :
    Written version numbers constants (Json.compact (.obj members)) :=
  ⟨members, [], _, [], present, spells_compactChars _ writable, blank_nil, blank_nil, by simp [Json.compact]⟩

private theorem writable_packed {n : Instruction.Numbers} (fits : n.Fits) :
    (Json.arr (n.toList.map .int)).Writable := by
  refine writableItems_iff.mpr (List.forall_mem_map.mpr fun k member => ?_)
  have := Instruction.fitsInt64_iff.mp (fits.each k member)
  rw [Json.Writable, Json.FitsInt]
  omega

private theorem exists_written (version : Option String) (fits : ∀ n ∈ numbers, n.Fits)
    (finite : ∀ v ∈ constants, v.Finite) : ∃ text, Written version numbers constants text := by
  obtain ⟨documents, each⟩ := exists_forall₂ fun v member => Value.exists_writtenAs (finite v member)
  obtain ⟨j, given, writable⟩ :
      ∃ j, Member version numbers constants ("version", j) ∧ j.Writable := by
    cases version with
    | none => exact ⟨.null, .noVersion rfl, trivial⟩
    | some text => exact ⟨.str text, .version rfl, trivial⟩
  have wires : List.Forall₂ Instruction.Numbers.Wire numbers
      (numbers.map fun n => .arr (n.toList.map .int)) := by
    rw [List.forall₂_map_right_iff, List.forall₂_same]
    exact fun n _ => .packed (.cut 4 (List.forall_mem_nil _))
  have present : Members version numbers constants [("version", j),
      ("instructions", .arr (numbers.map fun n => .arr (n.toList.map .int))),
      ("constants", .arr documents)] := by
    refine ⟨by simp, ?_, by simp, by simp, by simp⟩
    simp only [List.forall_mem_cons]
    exact ⟨given, .instructions wires, .constants (each.imp fun _ _ => And.left),
      List.forall_mem_nil _⟩
  refine ⟨_, written_compact present (writableMembers_iff.mpr ?_)⟩
  simp only [List.forall_mem_cons]
  refine ⟨writable, writableItems_iff.mpr (List.forall_mem_map.mpr fun n member =>
    writable_packed (fits n member)), writableItems_iff.mpr ?_, List.forall_mem_nil _⟩
  exact forall_mem_of_forall₂ each fun _ _ _ => And.right

/-- Every text of a program loads as that program, whichever form each instruction is written in.
An operation code that is no byte is loaded as zero, which is the code of no operation; all other
numbers are kept. -/
theorem ofText_reads_back (version : Option String) (instructions : List Instruction)
    (constants : List Value) (inRange : ∀ i ∈ instructions, i.InRange)
    (plain : ∀ v ∈ constants, v.Sorted ∧ v.Finite ∧ v.depth + 2 ≤ maxDepth) :
    (∃ text, Written version (instructions.map (·.numbers)) constants text) ∧
    (∀ text, Written version (instructions.map (·.numbers)) constants text →
      ofText text = .ok ⟨version, instructions.toArray, constants.toArray⟩) ∧
    ∀ numbers text, (∀ n ∈ numbers, n.Fits) → Written version numbers constants text →
      ∃ loaded, ofText text = .ok ⟨version, loaded.toArray, constants.toArray⟩ ∧
        List.Forall₂ Instruction.Numbers.Loads numbers loaded := by
  have fits : ∀ n ∈ instructions.map (·.numbers), n.Fits :=
    List.forall_mem_map.mpr fun i member => (inRange i member).fits
  have loadable {numbers} (fits : ∀ n ∈ numbers, n.Fits) : Loadable numbers constants :=
    ⟨fits, fun v member => (plain v member).1, fun v member => Nat.le_sub_of_add_le (plain v member).2.2⟩
  refine ⟨exists_written version fits fun v member => (plain v member).2.1, fun text written => ?_,
    fun numbers text fits written => ⟨_, ofText_of_written (loadable fits) written, ?_⟩⟩
  · have kept : (instructions.map (·.numbers)).map (·.instruction) = instructions := by
      rw [List.map_map]
      exact (List.map_congr_left (g := id) fun i member =>
        (inRange i member).instruction_numbers).trans (List.map_id _)
    rw [ofText_of_written (loadable fits) written, kept]
  · rw [List.forall₂_map_right_iff, List.forall₂_same]
    exact fun n member => (fits n member).loads

/-- The members of a program, with a packed, a named and an overlong instruction and with constants
whose fields are out of order. -/
def mixed (code : Int) : List (String × Json) :=
  [("constants", .arr [.float 0.5, .obj [("b", .int 1), ("a", .null)]]),
    ("instructions", .arr [.arr [.int 1],
      .obj [("line_no", .int 7), ("opcode", .int code)],
      .arr [.int 3, .int (-1), .int 0, .int 9, .int 12]]),
    ("version", .str "1.0")]

/-- The constants of that program. -/
def mixedConstants : List Value :=
  [.num 0.5, .obj [("a", .null), ("b", .num (Number.ofInt 1))]]

private theorem members_mixed (code : Int) : Members (some "1.0")
    [⟨1, 0, 0, 0⟩, ⟨code, 0, 0, 7⟩, ⟨3, -1, 0, 9⟩] mixedConstants (mixed code) := by
  have first : (⟨1, 0, 0, 0⟩ : Instruction.Numbers).Wire (.arr [.int 1]) :=
    .packed (.cut 1 (by simp [Instruction.Numbers.toList]))
  have second : (⟨code, 0, 0, 7⟩ : Instruction.Numbers).Named [("line_no", 7), ("opcode", code)] :=
    ⟨by simp, by simp [Instruction.Numbers.named], by simp, by simp [Instruction.Numbers.named]⟩
  have third : (⟨3, -1, 0, 9⟩ : Instruction.Numbers).Wire
      (.arr [.int 3, .int (-1), .int 0, .int 9, .int 12]) :=
    .packed (.extended [12] (by simp [Instruction.fitsInt64]))
  have record : (Value.obj [("a", .null), ("b", .num (Number.ofInt 1))]).WrittenAs
      (.obj [("b", .int 1), ("a", .null)]) :=
    .obj (.swap _ _ _) (.cons (.mk (.int 1)) (.cons (.mk .null) .nil))
  refine ⟨by simp [mixed], ?_, by simp [mixed], by simp [mixed], by simp [mixed]⟩
  simp only [mixed, List.forall_mem_cons]
  exact ⟨.constants (.cons (.float 0.5) (.cons record .nil)),
    .instructions (.cons first (.cons (.named second) (.cons third .nil))), .version rfl, List.forall_mem_nil _⟩

private theorem writable_mixed {code : Int} (fits : FitsInt code) :
    (Json.obj (mixed code)).Writable := by
  have half : Number.isFinite 0.5 = true := by decide
  simp only [mixed, Json.Writable, Json.WritableMembers, Json.WritableItems, half, fits]
  simp [FitsInt]

theorem ofText_reads_back_mixed :
    ofText (Json.compact (.obj (mixed 255))) = .ok ⟨some "1.0",
      #[⟨1, 0, 0, 0⟩, ⟨255, 0, 0, 7⟩, ⟨3, -1, 0, 9⟩], mixedConstants.toArray⟩ ∧
    ∃ loaded, ofText (Json.compact (.obj (mixed 300))) =
        .ok ⟨some "1.0", loaded.toArray, mixedConstants.toArray⟩ ∧
      List.Forall₂ Instruction.Numbers.Loads
        [⟨1, 0, 0, 0⟩, ⟨300, 0, 0, 7⟩, ⟨3, -1, 0, 9⟩] loaded := by
  have inRange : ∀ i ∈ [⟨1, 0, 0, 0⟩, ⟨255, 0, 0, 7⟩, ⟨3, -1, 0, 9⟩], Instruction.InRange i := by
    simp only [List.forall_mem_cons]
    exact ⟨⟨by decide, by decide, by decide⟩, ⟨by decide, by decide, by decide⟩,
      ⟨by decide, by decide, by decide⟩, List.forall_mem_nil _⟩
  have plain : ∀ v ∈ mixedConstants, v.Sorted ∧ v.Finite ∧ v.depth + 2 ≤ maxDepth := by
    simp only [mixedConstants, List.forall_mem_cons, Value.Sorted, Value.SortedFields, Record.Sorted,
      Value.Finite, Value.FiniteFields]
    refine ⟨by decide, by decide, List.forall_mem_nil _⟩
  have fits : ∀ n ∈ [⟨1, 0, 0, 0⟩, ⟨300, 0, 0, 7⟩, ⟨3, -1, 0, 9⟩], Instruction.Numbers.Fits n := by
    simp only [List.forall_mem_cons]
    exact ⟨⟨by decide, by decide⟩, ⟨by decide, by decide⟩, ⟨by decide, by decide⟩, List.forall_mem_nil _⟩
  obtain ⟨-, exactly, loads⟩ := ofText_reads_back (some "1.0") _ mixedConstants inRange plain
  exact ⟨exactly _ (written_compact (members_mixed 255) (writable_mixed (by simp [FitsInt]))),
    loads _ _ fits (written_compact (members_mixed 300) (writable_mixed (by simp [FitsInt])))⟩

end Members

end StackVM.Program
