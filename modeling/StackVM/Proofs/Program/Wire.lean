import StackVM.Machine.Opcode
import StackVM.Program.Reader
import StackVM.Proofs.Record
import StackVM.Proofs.Value.Json

/-! # The documents that stand for a program

An instruction is written as a list of its numbers or as an object with a member for each, a value
as a document of its shape, and a program as an object of three members. Whatever may be left out,
reordered or added is a choice of the writer: each relation has many documents for one meaning, and
every document has the meaning it was written for.
-/

namespace StackVM

namespace Instruction

/-- The numbers of an instruction as they are written. -/
structure Numbers where
  opcode : Int
  operand0 : Int
  operand1 : Int
  line : Int

/-- The numbers of an instruction. -/
def numbers (i : Instruction) : Numbers := ⟨i.opcode.toNat, i.operand0, i.operand1, i.line⟩

/-- The operands fit 64 bits and the line fits 32. -/
structure InRange (i : Instruction) : Prop where
  operand0 : fitsInt64 i.operand0 = true
  operand1 : fitsInt64 i.operand1 = true
  line : -0x80000000 ≤ i.line ∧ i.line < 0x80000000

namespace Numbers

/-- The numbers in order. -/
def toList (n : Numbers) : List Int := [n.opcode, n.operand0, n.operand1, n.line]

/-- The numbers with their names. -/
def named (n : Numbers) : List (String × Int) :=
  [("opcode", n.opcode), ("operand_0", n.operand0), ("operand_1", n.operand1), ("line_no", n.line)]

/-- Every number fits 64 bits, and the line fits 32. -/
structure Fits (n : Numbers) : Prop where
  each : ∀ k ∈ n.toList, fitsInt64 k = true
  line : -0x80000000 ≤ n.line ∧ n.line < 0x80000000

/-- The packed form: zeros at the end may be left out, and any integers may follow the fourth. -/
inductive Packed (n : Numbers) : List Int → Prop
  | cut (count : Nat) (zeros : ∀ k ∈ n.toList.drop count, k = 0) : Packed n (n.toList.take count)
  | extended (more : List Int) (fit : ∀ k ∈ more, fitsInt64 k = true) : Packed n (n.toList ++ more)

/-- The named form: the members stand in any order, and zeros other than the operation code may be
left out. -/
structure Named (n : Numbers) (members : List (String × Int)) : Prop where
  distinct : (members.map Prod.fst).Nodup
  belong : ∀ m ∈ members, m ∈ n.named
  coded : ("opcode", n.opcode) ∈ members
  zeros : ∀ m ∈ n.named, m ∉ members → m.2 = 0

/-- The documents of an instruction. -/
inductive Wire (n : Numbers) : Json → Prop
  | packed {numbers : List Int} (packed : n.Packed numbers) : Wire n (.arr (numbers.map .int))
  | named {members : List (String × Int)} (named : n.Named members) :
    Wire n (.obj (members.map fun m => (m.1, .int m.2)))

/-- The instruction holds the numbers; an operation code outside a byte is held as zero, which is no
operation. -/
structure Loads (n : Numbers) (i : Instruction) : Prop where
  operand0 : i.operand0 = n.operand0
  operand1 : i.operand1 = n.operand1
  line : i.line = n.line
  inside : 0 ≤ n.opcode ∧ n.opcode ≤ 255 → (i.opcode.toNat : Int) = n.opcode
  outside : ¬ (0 ≤ n.opcode ∧ n.opcode ≤ 255) → i.opcode = 0 ∧ Opcode.ofCode? i.opcode = none

end Numbers

end Instruction

namespace Value

/-- A field and a member of the same name. -/
inductive FieldWrittenAs (written : Value → Json → Prop) : String × Value → String × Json → Prop
  | mk {name : String} {v : Value} {j : Json} (value : written v j) :
    FieldWrittenAs written (name, v) (name, j)

/-- The documents of a value: a number may be written as an integer that it is nearest to, and the
fields of a record stand in any order. -/
inductive WrittenAs : Value → Json → Prop
  | null : WrittenAs .null .null
  | bool (b : Bool) : WrittenAs (.bool b) (.bool b)
  | int (n : Int) : WrittenAs (.num (Number.ofInt n)) (.int n)
  | float (x : Float) : WrittenAs (.num x) (.float x)
  | str (s : String) : WrittenAs (.str s) (.str s)
  | arr {items : List Value} {documents : List Json} (each : List.Forall₂ WrittenAs items documents) :
    WrittenAs (.arr items) (.arr documents)
  | obj {fields order : List (String × Value)} {members : List (String × Json)}
    (same : order.Perm fields) (each : List.Forall₂ (FieldWrittenAs WrittenAs) order members) :
    WrittenAs (.obj fields) (.obj members)

end Value

namespace Program

variable (version : Option String) (instructions : List Instruction.Numbers) (constants : List Value)

/-- A member of a program. -/
inductive Member : String × Json → Prop
  | version {text : String} (given : version = some text) : Member ("version", .str text)
  | noVersion (missing : version = none) : Member ("version", .null)
  | instructions {documents : List Json}
    (each : List.Forall₂ Instruction.Numbers.Wire instructions documents) :
    Member ("instructions", .arr documents)
  | constants {documents : List Json} (each : List.Forall₂ Value.WrittenAs constants documents) :
    Member ("constants", .arr documents)

/-- The members of a program stand in any order. There must be instructions; a version and constants
may be left out if there are none. -/
structure Members (members : List (String × Json)) : Prop where
  distinct : (members.map Prod.fst).Nodup
  belong : ∀ m ∈ members, Member version instructions constants m
  coded : "instructions" ∈ members.map Prod.fst
  unversioned : "version" ∉ members.map Prod.fst → version = none
  bare : "constants" ∉ members.map Prod.fst → constants = []

/-- The texts of a program: those of its documents, with blanks anywhere between their parts. -/
def Written (text : String) : Prop :=
  ∃ members before inner after, Members version instructions constants members ∧
    Json.Spells (.obj members) inner ∧ Json.Blank before ∧ Json.Blank after ∧
    text.toList = before ++ inner ++ after

end Program

namespace Instruction

variable {n : Numbers} {i : Instruction} {j : Json} {numbers : List Int} {members : List (String × Int)}

/-- The instruction of its numbers. -/
def Numbers.instruction (n : Numbers) : Instruction := ofNumbers n.opcode n.operand0 n.operand1 n.line

private theorem clampLine_of_fits {line : Int} (fits : -0x80000000 ≤ line ∧ line < 0x80000000) :
    clampLine line = line := by
  rw [clampLine, if_pos (by simpa using fits)]

theorem Numbers.Fits.loads (fits : n.Fits) : n.Loads n.instruction := by
  refine ⟨rfl, rfl, clampLine_of_fits fits.line, fun inside => ?_, fun outside => ?_⟩
  · have byte : n.opcode.toNat < 256 := by omega
    simp only [Numbers.instruction, ofNumbers, decide_eq_true inside.1, decide_eq_true inside.2,
      Bool.and_self, if_true, Nat.toUInt8_eq, UInt8.toNat_ofNat', Nat.reducePow, Nat.mod_eq_of_lt byte]
    omega
  · have zero : n.instruction.opcode = 0 := by
      simp only [Numbers.instruction, ofNumbers]
      rw [if_neg (by simpa using outside)]
    exact ⟨zero, by rw [zero]; rfl⟩

theorem fitsInt64_iff {k : Int} :
    fitsInt64 k = true ↔ -0x8000000000000000 ≤ k ∧ k < 0x8000000000000000 := by
  simp [fitsInt64]

theorem InRange.fits (inRange : i.InRange) : i.numbers.Fits := by
  have code : fitsInt64 i.opcode.toNat = true := by
    have byte := i.opcode.toNat_lt
    rw [fitsInt64_iff]
    omega
  have line : fitsInt64 i.line = true := by
    have := inRange.line
    rw [fitsInt64_iff]
    omega
  refine ⟨?_, inRange.line⟩
  simp only [Numbers.toList, List.forall_mem_cons]
  exact ⟨code, inRange.operand0, inRange.operand1, line, List.forall_mem_nil _⟩

theorem InRange.instruction_numbers (inRange : i.InRange) : i.numbers.instruction = i := by
  have byte := i.opcode.toNat_lt
  have inside : 0 ≤ i.numbers.opcode ∧ i.numbers.opcode ≤ 255 := by
    simp only [numbers]
    omega
  have code : i.numbers.opcode.toNat.toUInt8 = i.opcode := by
    simp [numbers]
  have line : clampLine i.numbers.line = i.line := clampLine_of_fits inRange.line
  rw [Numbers.instruction, ofNumbers, if_pos (by simpa using inside), code, line]
  rfl

section Packed

private theorem getD_of_packed (packed : n.Packed numbers) {k : Nat} (within : k < 4) :
    (numbers[k]?).getD 0 = (n.toList[k]?).getD 0 := by
  cases packed with
  | cut count zeros =>
    by_cases kept : k < count
    · rw [List.getElem?_take_of_lt kept]
    · rw [List.getElem?_eq_none (by rw [List.length_take]; omega), Option.getD_none]
      cases found : n.toList[k]? with
      | none => rfl
      | some x =>
        have dropped : (n.toList.drop count)[k - count]? = some x := by
          rw [List.getElem?_drop, Nat.add_sub_cancel' (Nat.le_of_not_lt kept), found]
        exact (zeros x (List.mem_of_getElem? dropped)).symm
  | extended more fit => rw [List.getElem?_append_left within]

private theorem fits_of_packed (packed : n.Packed numbers) (fits : n.Fits) :
    ∀ k ∈ numbers, fitsInt64 k = true := by
  cases packed with
  | cut count zeros => exact fun k member => fits.each k (List.mem_of_mem_take member)
  | extended more fit => exact List.forall_mem_append.mpr ⟨fits.each, fit⟩

private theorem mapM_int64? (fit : ∀ k ∈ numbers, fitsInt64 k = true) :
    (numbers.map Json.int).mapM Program.int64? = some numbers := by
  induction numbers with
  | nil => rfl
  | cons k numbers ih =>
    obtain ⟨first, rest⟩ := List.forall_mem_cons.mp fit
    have head : Program.int64? (.int k) = some k := if_pos first
    rw [List.map_cons, List.mapM_cons, head, ih rest]
    rfl

end Packed

section Named

variable {name : String} {k : Int}

private theorem filter_name_of_mem (distinct : (members.map Prod.fst).Nodup)
    (member : (name, k) ∈ members) :
    members.filter (·.1 == name) = [(name, k)] := by
  induction members with
  | nil => cases member
  | cons m members ih =>
    obtain ⟨fresh, rest⟩ := List.nodup_cons.mp distinct
    rcases List.mem_cons.mp member with rfl | later
    · have none : members.filter (·.1 == name) = [] := by
        rw [List.filter_eq_nil_iff]
        intro m present same
        exact fresh (List.mem_map.mpr ⟨m, present, by simpa using same⟩)
      rw [List.filter_cons_of_pos (by simp), none]
    · have differs : m.1 ≠ name := by
        rintro rfl
        exact fresh (List.mem_map.mpr ⟨_, later, rfl⟩)
      rw [List.filter_cons_of_neg (by simpa using differs), ih rest later]

/-- A member that is there is found, and a member that is not is missing. -/
theorem intMember?_of_mem (distinct : (members.map Prod.fst).Nodup) (member : (name, k) ∈ members)
    (fits : fitsInt64 k = true) :
    Program.intMember? (members.map fun m => (m.1, .int m.2)) name = some (some k) := by
  have found : (members.map fun m => (m.1, Json.int m.2)).filter (·.1 == name) = [(name, .int k)] := by
    rw [List.filter_map]
    exact congrArg (List.map _) (filter_name_of_mem distinct member)
  have value : Program.int64? (.int k) = some k := if_pos fits
  simp only [Program.intMember?, found, value, Option.map_some]

private theorem intMember?_of_not_mem (absent : name ∉ members.map Prod.fst) :
    Program.intMember? (members.map fun m => (m.1, .int m.2)) name = some none := by
  have missing : (members.map fun m => (m.1, Json.int m.2)).filter (·.1 == name) = [] := by
    rw [List.filter_map, List.map_eq_nil_iff, List.filter_eq_nil_iff]
    intro m present same
    exact absent (List.mem_map.mpr ⟨m, present, by simpa using same⟩)
  simp only [Program.intMember?, missing]

private theorem Numbers.named_distinct (n : Numbers) : (n.named.map Prod.fst).Nodup :=
  (by decide : ["opcode", "operand_0", "operand_1", "line_no"].Nodup)

/-- What is found under the name of a number is that number, or nothing if it is zero. -/
theorem intMember?_of_named (named : n.Named members) (fits : n.Fits) (belongs : (name, k) ∈ n.named) :
    ∃ found, Program.intMember? (members.map fun m => (m.1, .int m.2)) name = some found ∧
      found.getD 0 = k := by
  by_cases present : (name, k) ∈ members
  · have listed : k ∈ n.toList := List.mem_map_of_mem (f := Prod.snd) belongs
    exact ⟨some k, intMember?_of_mem named.distinct present (fits.each k listed), rfl⟩
  · have absent : name ∉ members.map Prod.fst := by
      intro written
      obtain ⟨m, member, same⟩ := List.mem_map.mp written
      have := List.inj_on_of_nodup_map n.named_distinct (named.belong m member) belongs same
      exact present (this ▸ member)
    exact ⟨none, intMember?_of_not_mem absent, (named.zeros _ belongs present).symm⟩

theorem depth_of_wire (wire : n.Wire j) : j.depth ≤ 1 := by
  cases wire with
  | packed _ =>
    exact Nat.succ_le_succ (Json.depthItems_le_iff.mpr (List.forall_mem_map.mpr fun _ _ => Nat.le_refl 0))
  | named _ =>
    exact Nat.succ_le_succ (Json.depthMembers_le_iff.mpr (List.forall_mem_map.mpr fun _ _ => Nat.le_refl 0))

/-- Every document of an instruction is read as the instruction of its numbers. -/
theorem instruction?_of_wire (wire : n.Wire j) (fits : n.Fits) :
    Program.instruction? j = some n.instruction := by
  cases wire with
  | packed packed =>
    have at' (k : Nat) (within : k < 4) := getD_of_packed packed within
    simp only [Program.instruction?, mapM_int64? (fits_of_packed packed fits), bind, Option.bind,
      at' 0 (by decide), at' 1 (by decide), at' 2 (by decide), at' 3 (by decide)]
    rfl
  | named named =>
    -- The operation code is never left out, the other three may be.
    have code := intMember?_of_mem named.distinct named.coded (fits.each n.opcode (.head _))
    obtain ⟨operand0, found0, same0⟩ :=
      intMember?_of_named named fits (k := n.operand0) (.tail _ (.head _))
    obtain ⟨operand1, found1, same1⟩ :=
      intMember?_of_named named fits (k := n.operand1) (.tail _ (.tail _ (.head _)))
    obtain ⟨line, foundLine, sameLine⟩ :=
      intMember?_of_named named fits (k := n.line) (.tail _ (.tail _ (.tail _ (.head _))))
    simp only [Program.instruction?, code, found0, found1, foundLine, bind, Option.bind, same0, same1,
      sameLine]
    rfl

end Named

end Instruction

section Related

variable {α β : Type} {R : α → β → Prop} {as : List α} {bs : List β}

private theorem map_of_forall₂ {f : β → α} (related : List.Forall₂ R as bs)
    (each : ∀ a ∈ as, ∀ b, R a b → f b = a) : bs.map f = as := by
  have equal : List.Forall₂ (fun a b => a = f b) as bs :=
    ((List.forall₂_and_left as bs).mpr ⟨each, related⟩).imp fun a b both => (both.1 b both.2).symm
  rw [← List.forall₂_map_right_iff, List.forall₂_eq_eq_eq] at equal
  exact equal.symm

theorem forall_mem_of_forall₂ {p : β → Prop} (related : List.Forall₂ R as bs)
    (each : ∀ a ∈ as, ∀ b, R a b → p b) : ∀ b ∈ bs, p b := by
  induction related with
  | nil => exact List.forall_mem_nil p
  | cons head _ ih =>
    obtain ⟨first, rest⟩ := List.forall_mem_cons.mp each
    exact List.forall_mem_cons.mpr ⟨first _ head, ih rest⟩

theorem exists_forall₂ (each : ∀ a ∈ as, ∃ b, R a b) : ∃ bs, List.Forall₂ R as bs := by
  induction as with
  | nil => exact ⟨[], .nil⟩
  | cons a as ih =>
    obtain ⟨⟨b, head⟩, rest⟩ := List.forall_mem_cons.mp each
    obtain ⟨bs, tail⟩ := ih rest
    exact ⟨b :: bs, .cons head tail⟩

end Related

namespace Value

variable {v : Value} {j : Json}

/-- Every document of a value has that value. -/
theorem ofJson_of_writtenAs (written : v.WrittenAs j) (sorted : v.Sorted) : ofJson j = v := by
  induction v using nested_induction generalizing j with
  | null =>
    cases written
    rfl
  | bool b =>
    cases written
    rfl
  | num x =>
    cases written with
    | int n => rfl
    | float x => rfl
  | str s =>
    cases written
    rfl
  | arr items ih =>
    cases written with
    | arr each =>
      have inside := sortedItems_iff.mp sorted
      rw [ofJson_arr, map_of_forall₂ each fun v member j written =>
        ih v member written (inside v member)]
  | obj fields ih =>
    cases written with
    | @obj _ order _ same each =>
      have inside := sortedFields_iff.mp sorted.2
      have fieldOf : ∀ f ∈ order, ∀ m, FieldWrittenAs WrittenAs f m → (m.1, ofJson m.2) = f := by
        rintro f member m ⟨value⟩
        have present := same.mem_iff.mp member
        rw [ih _ present value (inside _ present)]
      rw [ofJson_obj, map_of_forall₂ each fieldOf, Record.ofList_of_perm sorted.1 same]

/-- A document is nested no deeper than its value. -/
theorem depth_of_writtenAs (written : v.WrittenAs j) : j.depth ≤ v.depth := by
  induction v using nested_induction generalizing j with
  | null =>
    cases written
    exact Nat.le_refl 0
  | bool b =>
    cases written
    exact Nat.le_refl 0
  | num x => cases written <;> exact Nat.le_refl 0
  | str s =>
    cases written
    exact Nat.le_refl 0
  | arr items ih =>
    have deepest := depthItems_le_iff.mp (Nat.le_refl (depthItems items))
    cases written with
    | arr each =>
      exact Nat.succ_le_succ (Json.depthItems_le_iff.mpr (forall_mem_of_forall₂ each
        fun v member j written => (ih v member written).trans (deepest v member)))
  | obj fields ih =>
    have deepest := depthFields_le_iff.mp (Nat.le_refl (depthFields fields))
    cases written with
    | obj same each =>
      refine Nat.succ_le_succ (Json.depthMembers_le_iff.mpr (forall_mem_of_forall₂ each ?_))
      rintro f member m ⟨value⟩
      have present := same.mem_iff.mp member
      exact (ih _ present value).trans (deepest _ present)

/-- A value of finite numbers has a document that can be written. -/
theorem exists_writtenAs (finite : v.Finite) : ∃ j, v.WrittenAs j ∧ j.Writable := by
  induction v using nested_induction with
  | null => exact ⟨_, .null, trivial⟩
  | bool b => exact ⟨_, .bool b, trivial⟩
  | num x =>
    cases x with
    | float x => exact ⟨_, .float x, finite⟩
    | negativeNaN => cases finite
  | str s => exact ⟨_, .str s, trivial⟩
  | arr items ih =>
    have inside := finiteItems_iff.mp finite
    obtain ⟨documents, each⟩ := exists_forall₂ fun v member => ih v member (inside v member)
    refine ⟨_, .arr (each.imp fun _ _ => And.left), Json.writableItems_iff.mpr ?_⟩
    exact forall_mem_of_forall₂ each fun _ _ _ => And.right
  | obj fields ih =>
    have inside := finiteFields_iff.mp finite
    have member : ∀ f ∈ fields, ∃ m : String × Json, FieldWrittenAs WrittenAs f m ∧ m.2.Writable := by
      intro f present
      obtain ⟨j, written, writable⟩ := ih f present (inside f present)
      exact ⟨(f.1, j), .mk written, writable⟩
    obtain ⟨members, each⟩ := exists_forall₂ member
    refine ⟨_, .obj (.refl fields) (each.imp fun _ _ => And.left), Json.writableMembers_iff.mpr ?_⟩
    exact forall_mem_of_forall₂ each fun _ _ _ => And.right

end Value

end StackVM
