import Inspector.Command.Console
import Inspector.Proofs.Text.Run

/-!
# Records and lines

What a person is told goes to the standard error record by record: the events that are shown,
the count of the warnings among them, and the complaint. Each record begins in its own way: an
event with its level, a count with a digit, a complaint with a word of its own.

A record is not a line. It may quote names, and a name may hold ends of lines; what stands
behind one of them is a line of its own, whatever the record is. So a line may stand inside a
record (`Ending.Quotes`), and only the first line of a record tells what the record is.

A count has no end of a line in it. A line with a count is therefore the record of the count,
or it is quoted by another record (`countLine_mem_lines_iff`).
-/

namespace Inspector.Command

open Diagnostics

/-! ## Lines of records -/

/-- The lines of a record. -/
def recordLines (record : String) : List String :=
  (Text.segments '\n' record.toList).map String.ofList

/-- A record without an end of a line is one line. -/
theorem recordLines_of_notMem {record : String} (free : '\n' ∉ record.toList) :
    recordLines record = [record] := by
  rw [recordLines, Text.segments_of_notMem free, List.map_singleton, String.ofList_toList]

/-- A line that begins in another way than a record stands in it only behind an end of a
line. -/
theorem mem_recordLines_iff {record line : String} {c : Char}
    (start : record.toList.head? = some c) (visible : c ≠ '\n')
    (other : line.toList.head? ≠ some c) :
    line ∈ recordLines record ↔ line ∈ (recordLines record).tail := by
  obtain ⟨text, chars⟩ := List.head?_eq_some_iff.mp start
  obtain ⟨first, rest, cut⟩ := Text.segments_cons_of_ne visible text
  rw [recordLines, chars, cut, List.map_cons, List.tail_cons, List.mem_cons]
  refine or_iff_right ?_
  rintro rfl
  exact other (by rw [String.toList_ofList, List.head?_cons])

namespace Ending

variable {ending : Ending} {line : String}

/-- The lines of the standard error are those of the records. -/
theorem lines_eq (ending : Ending) : ending.lines = ending.records.flatMap recordLines := by
  have text : ending.told.toList =
      (ending.records.map String.toList).flatMap (· ++ ['\n']) := by
    rw [told, String.toList_join, List.flatMap_map, List.flatMap_map]
    simp
  rw [lines, text, Text.segments_flatMap_ended, List.dropLast_concat, List.map_flatMap,
    List.flatMap_map]
  rfl

theorem mem_lines_iff :
    line ∈ ending.lines ↔ ∃ record ∈ ending.records, line ∈ recordLines record := by
  rw [lines_eq, List.mem_flatMap]

/-- A line stands inside a record, behind an end of a line. -/
def Quotes (ending : Ending) (line : String) : Prop :=
  ∃ record ∈ ending.records, line ∈ (recordLines record).tail

theorem Quotes.mem_lines (h : ending.Quotes line) : line ∈ ending.lines := by
  obtain ⟨record, mem, tail⟩ := h
  exact mem_lines_iff.mpr ⟨record, mem, List.mem_of_mem_tail tail⟩

end Ending

/-! ## The record of a count -/

theorem toList_countLine (n : Nat) :
    (countLine n).toList = Nat.toDigits 10 n ++ " warning(s) emitted".toList := by
  rw [countLine, String.toList_append, Nat.toList_repr]

theorem countLine_injective : Function.Injective countLine := by
  intro n m same
  have digits := congrArg String.toList same
  rw [toList_countLine, toList_countLine] at digits
  calc
    n = Nat.ofDigitChars 10 (Nat.toDigits 10 n) 0 := Nat.ofDigitChars_ten_toDigits.symm
    _ = Nat.ofDigitChars 10 (Nat.toDigits 10 m) 0 := by rw [List.append_cancel_right digits]
    _ = m := Nat.ofDigitChars_ten_toDigits

/-- A count starts with a digit. -/
theorem isDigit_of_head_countLine {n : Nat} {c : Char}
    (h : (countLine n).toList.head? = some c) : c.isDigit := by
  rw [toList_countLine, List.head?_append_of_ne_nil _ Nat.toDigits_ne_nil] at h
  exact Nat.isDigit_of_mem_toDigits (by decide) (by decide) (List.mem_of_head? h)

theorem newline_not_mem_countLine (n : Nat) : '\n' ∉ (countLine n).toList := by
  rw [toList_countLine]
  intro mem
  rcases List.mem_append.mp mem with digit | word
  · exact absurd (Nat.isDigit_of_mem_toDigits (by decide) (by decide) digit) (by decide)
  · exact absurd word (by decide)

/-- A record that starts neither with a digit nor with an end of a line. -/
def Worded (record : String) : Prop :=
  ∃ c, record.toList.head? = some c ∧ c ≠ '\n' ∧ c.isDigit = false

/-- A count stands in such a record only behind an end of a line. -/
theorem Worded.countLine_mem_iff {record : String} (h : Worded record) (n : Nat) :
    countLine n ∈ recordLines record ↔ countLine n ∈ (recordLines record).tail := by
  obtain ⟨c, start, visible, word⟩ := h
  refine mem_recordLines_iff start visible fun same => ?_
  rw [isDigit_of_head_countLine same] at word
  cases word

/-- What a person sees of an event starts with its level. -/
theorem name_prefix_consoleLine (e : Event) :
    e.level.name.toList <+: e.consoleLine.toList := by
  obtain ⟨level, origin, values⟩ := e
  rw [Event.consoleLine]
  cases values with
  | nil =>
    rewrite [List.map_nil, String.intercalate_singleton]
    exact List.prefix_rfl
  | cons value rest =>
    rw [List.map_cons, String.intercalate_cons_cons, String.toList_append, String.toList_append,
      List.append_assoc]
    exact List.prefix_append _ _

theorem worded_consoleLine (e : Event) : Worded e.consoleLine := by
  obtain ⟨rest, same⟩ := name_prefix_consoleLine e
  rw [Worded, ← same]
  cases e.level <;> exact ⟨_, rfl, by decide, by decide⟩

theorem worded_complaintLine (complaint : Complaint) : Worded (complaintLine complaint) := by
  rw [Worded, complaintLine, String.toList_append]
  exact ⟨'e', rfl, by decide, by decide⟩

theorem head_usageText : usageText.toList.head? = some 'U' := by
  decide +kernel

theorem worded_usageText : Worded usageText :=
  ⟨'U', head_usageText, by decide, by decide⟩

/-- The complaints of an answer. -/
def complaintsOf (answer : Except Complaint Unit) : List String :=
  match answer with
  | .ok () => []
  | .error complaint => ["error: " ++ complaint.message]

theorem closingLines_eq (count : Nat) (answer : Except Complaint Unit) :
    closingLines count answer =
      (if count = 0 then [] else [countLine count]) ++ complaintsOf answer := rfl

theorem worded_complaintsOf (answer : Except Complaint Unit) :
    ∀ record ∈ complaintsOf answer, Worded record := by
  cases answer with
  | ok => exact List.forall_mem_nil _
  | error complaint => exact List.forall_mem_singleton.mpr (worded_complaintLine complaint)

/-- Among records that start with words a line with a count is the record of the count, or
it is quoted. -/
theorem countLine_mem_lines_iff {ending : Ending} (front back : List String) {count : Nat}
    (records : ending.records =
      front ++ (if count = 0 then [] else [countLine count]) ++ back)
    (before : ∀ record ∈ front, Worded record) (behind : ∀ record ∈ back, Worded record)
    (n : Nat) :
    countLine n ∈ ending.lines ↔ 0 < n ∧ n = count ∨ ending.Quotes (countLine n) := by
  constructor
  · intro line
    obtain ⟨record, there, line⟩ := Ending.mem_lines_iff.mp line
    have mem := there
    rw [records, List.mem_append, List.mem_append] at mem
    rcases mem with (mem | mem) | mem
    · exact .inr ⟨record, there, ((before record mem).countLine_mem_iff n).mp line⟩
    · split at mem
      · cases mem
      next some =>
        rw [List.eq_of_mem_singleton mem, recordLines_of_notMem (newline_not_mem_countLine _)]
          at line
        obtain rfl := countLine_injective (List.eq_of_mem_singleton line)
        exact .inl ⟨Nat.pos_of_ne_zero some, rfl⟩
    · exact .inr ⟨record, there, ((behind record mem).countLine_mem_iff n).mp line⟩
  · rintro (⟨some, rfl⟩ | quoted)
    · refine Ending.mem_lines_iff.mpr ⟨countLine n, ?_, ?_⟩
      · rw [records, if_neg (Nat.ne_of_gt some)]
        simp
      · rw [recordLines_of_notMem (newline_not_mem_countLine n)]
        exact List.mem_singleton_self _
    · exact quoted.mem_lines

end Inspector.Command
