import StackVM.Diagnostic
import StackVM.Proofs.Json.Document
import StackVM.Proofs.Record

/-! # Diagnostics as lines of JSON

A compact document has no control characters, as strings write theirs as escapes, so it fills one
line. The document of a diagnostic reads back with the same members, and these tell everything about
the diagnostic.
-/

namespace StackVM

namespace Json

variable {cs more : List Char} {c : Char}

section Lines

/-- No control characters, in particular no line breaks. -/
def Visible (cs : List Char) : Prop := ∀ c ∈ cs, 0x20 ≤ c.toNat

theorem visible_nil : Visible [] := fun _ member => absurd member List.not_mem_nil

theorem visible_cons : Visible (c :: cs) ↔ 0x20 ≤ c.toNat ∧ Visible cs := List.forall_mem_cons

theorem visible_append : Visible (cs ++ more) ↔ Visible cs ∧ Visible more := List.forall_mem_append

private theorem Visible.newline_not_mem (visible : Visible cs) : '\n' ∉ cs :=
  fun member => absurd (visible _ member) (by decide)

private theorem visible_of_isDigit (digits : ∀ c ∈ cs, c.isDigit = true) : Visible cs := by
  intro c member
  have digit := digits c member
  simp only [Char.isDigit, Bool.and_eq_true, decide_eq_true_eq, UInt32.le_iff_toNat_le] at digit
  exact Nat.le_trans (by decide) digit.1

theorem visible_decimalDigits (n : Nat) : Visible (Number.decimalDigits n) :=
  visible_of_isDigit Number.isDigit_of_mem_decimalDigits

private theorem visible_integerText (n : Int) : Visible (Number.integerText n).toList := by
  unfold Number.integerText
  split
  · rw [String.toList_ofList, visible_cons]
    exact ⟨by decide, visible_decimalDigits _⟩
  · rw [String.toList_ofList]
    exact visible_decimalDigits _

private theorem visible_escapeChar (c : Char) : Visible (escapeChar c) := by
  unfold escapeChar
  split
  case h_8 =>
    split
    case isTrue control =>
      have table : ∀ i : Fin 32, 0x20 ≤ (Nat.digitChar (i / 16)).toNat ∧
          0x20 ≤ (Nat.digitChar (i % 16)).toNat := by decide
      simpa [Visible] using table ⟨c.toNat, control⟩
    case isFalse plain => simpa [Visible] using plain
  all_goals simp [Visible]

private theorem visible_stringChars (s : String) : Visible (stringChars s) := by
  rw [stringChars, List.cons_append, visible_cons, visible_append]
  refine ⟨by decide, fun c member => ?_, by simp [Visible]⟩
  obtain ⟨d, -, member⟩ := List.mem_flatMap.mp member
  exact visible_escapeChar d c member

private theorem visible_positional (d : Number.Decimal) :
    Visible d.positional.1 ∧ Visible d.positional.2 := by
  have digits := visible_decimalDigits d.digits
  have zeros (k : Nat) : Visible (List.replicate k '0') := visible_of_isDigit isDigit_of_mem_zeros
  unfold Number.Decimal.positional
  dsimp only
  split
  · exact ⟨visible_append.mpr ⟨digits, zeros _⟩, visible_nil⟩
  · split
    · exact ⟨fun c member => digits c (List.mem_of_mem_take member),
        fun c member => digits c (List.mem_of_mem_drop member)⟩
    · exact ⟨zeros 1, visible_append.mpr ⟨zeros _, digits⟩⟩

private theorem visible_numeral (d : Number.Decimal) : Visible (numeral d) := by
  have digits := visible_decimalDigits d.digits
  obtain ⟨whole, fraction⟩ := visible_positional d
  have after (cs : List Char) (visible : Visible cs) : Visible ('.' :: cs) :=
    visible_cons.mpr ⟨by decide, visible⟩
  unfold numeral
  dsimp only
  split
  · refine visible_append.mpr ⟨visible_append.mpr ⟨?_, ?_⟩, ?_⟩
    · exact fun c member => digits c (List.mem_of_mem_take member)
    · split
      · exact visible_nil
      · exact after _ fun c member => digits c (List.mem_of_mem_drop member)
    · refine visible_append.mpr ⟨?_, visible_decimalDigits _⟩
      split <;> simp [Visible]
  · refine visible_append.mpr ⟨whole, after _ ?_⟩
    split
    · simp [Visible]
    · exact fraction

private theorem visible_jsonText (x : Float) : Visible (Number.jsonText x).toList := by
  rw [toList_jsonText, visible_append, Number.signText]
  refine ⟨?_, visible_numeral _⟩
  split <;> simp [Visible]

private theorem visible_joined {α : Type} {write : α → List Char} {as : List α}
    (visible : ∀ a ∈ as, Visible (write a)) : Visible (joined [] write as) := by
  cases as with
  | nil => exact visible_nil
  | cons a as =>
    obtain ⟨first, others⟩ := List.forall_mem_cons.mp visible
    rw [joined_cons, List.nil_append, visible_append]
    refine ⟨first, fun c member => ?_⟩
    obtain ⟨b, present, member⟩ := List.mem_flatMap.mp member
    exact visible_cons.mpr ⟨by decide, others b present⟩ c member

/-- A compact document has no control characters. -/
theorem visible_compactChars (j : Json) : Visible (compactChars j) := by
  induction j using nested_induction with
  | null => simp [compactChars, Visible]
  | bool b => cases b <;> simp [compactChars, Visible]
  | int n => exact visible_integerText n
  | float x => exact visible_jsonText x
  | str s => exact visible_stringChars s
  | arr items ih =>
    rw [compactChars, compactItems_eq, List.cons_append, visible_cons, visible_append]
    exact ⟨by decide, visible_joined ih, by simp [Visible]⟩
  | obj members ih =>
    rw [compactChars, compactMembers_eq, List.cons_append, visible_cons, visible_append]
    refine ⟨by decide, visible_joined fun m member => ?_, by simp [Visible]⟩
    exact visible_append.mpr
      ⟨visible_stringChars m.1, visible_cons.mpr ⟨by decide, ih m member⟩⟩

end Lines

/-- A document that can be written is read back from its compact text. -/
theorem read_compact {j : Json} (writable : j.Writable) (shallow : j.depth ≤ maxDepth) :
    read j.compact = .ok j := by
  have whole := readChars_of_spells shallow (spells_compactChars j writable)
  rw [read, compact, String.toList_ofList, whole]

end Json

namespace Diagnostic

variable {d e : Diagnostic}

section Members

variable {members : Record Json} {name : String} {v : Option Json}

private theorem get?_addMember (absent : members.get? name = none) (other : String) :
    (addMember members name v).get? other =
      if name = other then v else members.get? other := by
  cases v with
  | some value => exact Record.get?_insert members name other value
  | none =>
    split
    case isTrue same => exact same ▸ absent
    case isFalse => rfl

private theorem sorted_addMember (sorted : members.Sorted) : (addMember members name v).Sorted := by
  cases v with
  | some value => exact Record.sorted_insert sorted name value
  | none => exact sorted

private theorem mem_addMember {m : String × Json} (member : m ∈ addMember members name v) :
    m.2 ∈ v ∨ m ∈ members := by
  cases v with
  | some value => exact (Record.mem_insert member).imp_left (by rintro rfl; rfl)
  | none => exact .inr member

/-- What stands under a name. -/
theorem get?_members (d : Diagnostic) (name : String) : d.members.get? name =
    if name = "suggestion" then d.suggestion.map .str
    else if name = "line" then d.line.map .int
    else if name = "notes" then some (.arr (d.notes.map .str))
    else if name = "message" then some (.str d.message)
    else if name = "severity" then some (.str d.severity.name)
    else none := by
  have basic (name : String) : d.basicMembers.get? name =
      if name = "notes" then some (.arr (d.notes.map .str))
      else if name = "message" then some (.str d.message)
      else if name = "severity" then some (.str d.severity.name)
      else none := by
    simp only [basicMembers, Record.ofList, List.foldl_cons, List.foldl_nil, Record.get?_insert,
      Record.get?, eq_comm]
  have line := get?_addMember (v := d.line.map .int)
    (by simp [basic] : d.basicMembers.get? "line" = none)
  rw [members, get?_addMember (by simp [line, basic]), line, basic]
  simp only [eq_comm]

private theorem sorted_members (d : Diagnostic) : d.members.Sorted :=
  sorted_addMember (sorted_addMember (Record.sorted_ofList _))

private theorem writable_texts (texts : List String) :
    (Json.arr (texts.map .str)).Writable ∧ (Json.arr (texts.map .str)).depth ≤ 1 := by
  have each : ∀ j ∈ texts.map Json.str, j.Writable ∧ j.depth ≤ 0 := by
    intro j member
    obtain ⟨text, -, rfl⟩ := List.mem_map.mp member
    exact ⟨trivial, Nat.le_refl 0⟩
  refine ⟨Json.writableItems_iff.mpr fun j member => (each j member).1, Nat.succ_le_succ ?_⟩
  exact Json.depthItems_le_iff.mpr fun j member => (each j member).2

private theorem writable_members (fits : ∀ n ∈ d.line, Json.FitsInt n) :
    ∀ m ∈ d.members, m.2.Writable ∧ m.2.depth ≤ 1 := by
  rintro ⟨name, j⟩ member
  rcases mem_addMember member with suggestion | member
  · obtain ⟨text, -, written⟩ := Option.map_eq_some_iff.mp suggestion
    exact written ▸ ⟨trivial, Nat.zero_le 1⟩
  rcases mem_addMember member with line | member
  · obtain ⟨n, present, written⟩ := Option.map_eq_some_iff.mp line
    exact written ▸ ⟨fits n present, Nat.zero_le 1⟩
  rcases Record.mem_insert member with ⟨⟨⟩⟩ | member
  · exact writable_texts d.notes
  rcases Record.mem_insert member with ⟨⟨⟩⟩ | member
  · exact ⟨trivial, Nat.zero_le 1⟩
  rcases Record.mem_insert member with ⟨⟨⟩⟩ | member
  · exact ⟨trivial, Nat.zero_le 1⟩
  exact absurd member List.not_mem_nil

end Members

section Reading

/-- The document of a diagnostic is read back from its line. -/
theorem read_renderJson (fits : ∀ n ∈ d.line, Json.FitsInt n) :
    Json.read d.renderJson = .ok (.obj d.members) := by
  refine Json.read_compact (Json.writableMembers_iff.mpr fun m member => ?_) (Nat.succ_le_succ ?_)
  · exact (writable_members fits m member).1
  · exact Json.depthMembers_le_iff.mpr fun m member =>
      (writable_members fits m member).2.trans (by decide)

private theorem str_injective : Function.Injective Json.str := fun _ _ same => Json.str.inj same

private theorem name_injective : Function.Injective Severity.name := by
  intro s t same
  cases s <;> cases t <;> simp_all [Severity.name]

/-- The members tell everything about a diagnostic. -/
theorem members_injective : Function.Injective members := by
  intro d e same
  have found (name : String) : d.members.get? name = e.members.get? name := by rw [same]
  have suggestion := found "suggestion"
  have line := found "line"
  have notes := found "notes"
  have message := found "message"
  have severity := found "severity"
  simp only [get?_members, String.reduceEq, if_true, if_false, Option.some.injEq, Json.arr.injEq,
    Json.str.injEq] at suggestion line notes message severity
  have line := Option.map_injective (fun _ _ same => Json.int.inj same) line
  have suggestion := Option.map_injective str_injective suggestion
  have notes := List.map_injective_iff.mpr str_injective notes
  have severity := name_injective severity
  cases d
  cases e
  congr

/-- Nothing is trimmed off a line, as it ends with a brace. -/
theorem streamText_json (d : Diagnostic) : d.streamText .json = d.renderJson ++ "\n" := by
  have ends : d.renderJson.toList.reverse =
      '\x7d' :: (Json.compactMembers d.members).reverse ++ ['\x7b'] := by
    rw [renderJson, Json.compact, String.toList_ofList, toJson, Json.compactChars]
    simp
  have kept : trimEnd d.renderJson = d.renderJson := by
    rw [trimEnd, ends, List.cons_append, List.dropWhile_cons_of_neg (by decide),
      ← List.cons_append, ← ends, List.reverse_reverse, String.ofList_toList]
  rw [streamText, render, kept]

end Reading

/-- Diagnostics written as JSON are one line and lose nothing. The line has no line break, and one
is written behind it; it reads back as an object whose names are distinct and under which exactly
the severity, the message and the notes of the diagnostic are found, its line and its suggestion
just in case it has them, and nothing else. Hence two diagnostics with the same line are the same.
-/
theorem renderJson_one_line_lossless (d : Diagnostic) (fits : ∀ n ∈ d.line, Json.FitsInt n) :
    '\n' ∉ d.renderJson.toList ∧
    d.streamText .json = d.renderJson ++ "\n" ∧
    (∃ members : Record Json, Json.read d.renderJson = .ok (.obj members) ∧ members.Sorted ∧
      members.get? "severity" = some (.str d.severity.name) ∧
      members.get? "message" = some (.str d.message) ∧
      members.get? "notes" = some (.arr (d.notes.map .str)) ∧
      members.get? "line" = d.line.map .int ∧
      members.get? "suggestion" = d.suggestion.map .str ∧
      ∀ name ∉ ["severity", "message", "notes", "line", "suggestion"], members.get? name = none) ∧
    ∀ e : Diagnostic, (∀ n ∈ e.line, Json.FitsInt n) → e.renderJson = d.renderJson → e = d := by
  refine ⟨?_, streamText_json d, ⟨d.members, read_renderJson fits, sorted_members d, ?_⟩, ?_⟩
  · rw [renderJson, Json.compact, String.toList_ofList]
    exact (Json.visible_compactChars _).newline_not_mem
  · refine ⟨?_, ?_, ?_, ?_, ?_, fun name other => ?_⟩
    all_goals rw [get?_members]
    case refine_6 =>
      simp only [List.mem_cons, List.not_mem_nil, or_false, not_or] at other
      simp [other]
    all_goals simp
  · intro e fits' same
    have documents := (read_renderJson fits').symm.trans
      ((congrArg Json.read same).trans (read_renderJson fits))
    exact members_injective (Json.obj.inj (Except.ok.inj documents))

/-- A warning whose texts are full of marks. -/
def marked : Diagnostic where
  severity := .warning
  message := "a \"b\"\n\\ \x01"
  line := some (-3)
  notes := ["", "\r\n"]

theorem renderJson_one_line_lossless_marked :
    '\n' ∉ marked.renderJson.toList ∧ (∃ members : Record Json,
      Json.read marked.renderJson = .ok (.obj members) ∧
      members.get? "message" = some (.str "a \"b\"\n\\ \x01") ∧
      members.get? "line" = some (.int (-3)) ∧ members.get? "suggestion" = none) := by
  have fits : ∀ n ∈ marked.line, Json.FitsInt n := by
    rintro n ⟨⟩
    exact ⟨by decide, by decide⟩
  obtain ⟨single, -, ⟨members, reads, -, -, message, -, line, suggestion, -⟩, -⟩ :=
    renderJson_one_line_lossless marked fits
  exact ⟨single, members, reads, message, line, suggestion⟩

end Diagnostic

end StackVM
