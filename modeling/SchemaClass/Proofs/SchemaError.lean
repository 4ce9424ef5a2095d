import SchemaClass.Document.Text
import SchemaClass.Proofs.Config.KeyPlace
import SchemaClass.Proofs.Document.Labels
import SchemaClass.Proofs.Document.Places
/-!
# Labels and the texts they point into

The label of a text that is no document is computed from a line and a column, that of a finding is
searched for between quotes, and that of an empty setting line by line.  However it is found, it
never leaves the text.  A fault has a label on the last byte that was read, or behind it if that is
a line break.  At the end of a text no byte stands behind a line break, and then there is no label.

* `label_of_fault`: the label of a fault, by the number of bytes that were read;
* `no_label_of_fault_truncated`: a text that ends too early and has none;
* `problem_of_document`: why a document is refused;
* `labels_in_text`: labels lie in their texts, and those of values on the values, from left to
  right.
-/

namespace SchemaClass.SchemaError

open Text
open Document (Stored valueSpan?)

/-! ## 1. Faults -/

/-- **The label of a fault** is on the last byte that was read, or behind it if that is a line
break.  It is missing if nothing stands behind.  The place that is reported counts the line breaks
that were read, and the bytes behind the last of them. -/
theorem label_of_fault {text : String} {fault : Json.Fault} (h₀ : 0 < fault.read)
    (h : fault.read ≤ byteLength text.toList) (file : String) :
    let read := (bytes text.toList).take fault.read
    let labels := (refused file text (.document fault)).labels
    fault.lineColumn text.toList = (lineBehind read, columnBehind read) ∧
      (read.getLast? ≠ some breakByte →
        labels = [⟨"parse error here", ⟨fault.read - 1, 1⟩⟩]) ∧
      (read.getLast? = some breakByte → fault.read < byteLength text.toList →
        labels = [⟨"parse error here", ⟨fault.read, 1⟩⟩]) ∧
      (read.getLast? = some breakByte → fault.read = byteLength text.toList → labels = []) := by
  intro read labels
  have hlabels : labels = (((offsetOf? text.toList (fault.lineColumn text.toList).1
      (fault.lineColumn text.toList).2).map (⟨·, 1⟩)).map (⟨"parse error here", ·⟩)).toList := rfl
  rw [Json.Fault.lineColumn, offsetOf?_lineColumn h₀ h] at hlabels
  refine ⟨lineColumn_eq _ _, fun hread => ?_, fun hread hlt => ?_, fun hread hend => ?_⟩
  · rw [hlabels, if_neg hread]
    rfl
  · rw [hlabels, if_pos hread, if_pos hlt]
    rfl
  · rw [hlabels, if_pos hread, if_neg (Nat.not_lt.mpr hend.ge)]
    rfl

/-- The fault in a text whose key does not begin with a quote: only the first byte of what stands
there instead has been read, on the second line. -/
def unquotedKey : Json.Fault := ⟨.keyNotString, 5⟩

theorem label_of_fault_unquotedKey :
    0 < unquotedKey.read ∧ unquotedKey.read ≤ byteLength "\x7b\n  ö: 1 \x7d".toList ∧
      Document.parse "schema.json" "\x7b\n  ö: 1 \x7d"
        = .error (.refused "schema.json" "\x7b\n  ö: 1 \x7d" (.document unquotedKey)) ∧
      (refused "schema.json" "\x7b\n  ö: 1 \x7d" (.document unquotedKey)).labels
        = [⟨"parse error here", ⟨4, 1⟩⟩] := by
  have h₀ : 0 < unquotedKey.read := by decide
  have h : unquotedKey.read ≤ byteLength "\x7b\n  ö: 1 \x7d".toList := by decide
  obtain ⟨-, hlabel, -⟩ := label_of_fault h₀ h "schema.json"
  exact ⟨h₀, h, by decide +kernel, hlabel (by decide)⟩

/-- **A text that ends too early has no label** if it ends with a line break. -/
theorem no_label_of_fault_truncated :
    ∃ fault, Document.parse "schema.json" "\x7b\"models\":[\n"
        = .error (.refused "schema.json" "\x7b\"models\":[\n" (.document fault)) ∧
      0 < fault.read ∧ fault.read = byteLength "\x7b\"models\":[\n".toList ∧
      (refused "schema.json" "\x7b\"models\":[\n" (.document fault)).labels = [] := by
  refine ⟨⟨.endInList, 12⟩, ?_, ?_, ?_, ?_⟩
  all_goals decide +kernel

/-! ## 2. Refused texts -/

/-- **Why a document is refused**: its text is none, its models are not in one place, or it breaks a
rule. -/
theorem problem_of_document {file text : String} {e : SchemaError}
    (h : Document.parse file text = .error e) :
    (∃ fault, e = .refused file text (.document fault)) ∨
      (∃ r, e = .refused file text (.rejected r none)) ∨
        ∃ finding, e = .refused file text (.finding finding) := by
  obtain ⟨p, htext, rfl⟩ := Outcome.mapError_eq_error.mp h
  rcases Outcome.bind_eq_error.mp htext with hread | ⟨envelope, -, htext⟩
  · obtain ⟨fault, -, rfl⟩ := Outcome.mapError_eq_error.mp hread
    exact Or.inl ⟨fault, rfl⟩
  rcases Outcome.bind_eq_error.mp htext with hmodels | ⟨d, -, htext⟩
  · obtain ⟨r, -, rfl⟩ := Outcome.mapError_eq_error.mp hmodels
    exact Or.inr (Or.inl ⟨r, rfl⟩)
  rcases Outcome.bind_eq_error.mp htext with hrules | ⟨_, -, htext⟩
  · obtain ⟨finding, -, rfl⟩ := Outcome.mapError_eq_error.mp hrules
    exact Or.inr (Or.inr ⟨finding, rfl⟩)
  · cases htext

/-- The label of a problem lies in the text if its place does. -/
theorem labels_in_text_of {file text : String} {p : Problem}
    (h : ∀ span, p.span? text.toList = some span →
      span.offset + span.length ≤ byteLength text.toList) :
    ∀ l ∈ (refused file text p).labels,
      l.span.offset + l.span.length ≤ byteLength text.toList := by
  intro l hl
  obtain ⟨span, hspan, rfl⟩ := Option.map_eq_some_iff.mp (Option.mem_toList.mp hl)
  exact h span hspan

theorem fault_in_text {text : List Char} {fault : Json.Fault} {span : Span}
    (h : (Problem.document fault).span? text = some span) :
    span.offset + span.length ≤ byteLength text := by
  obtain ⟨offset, hoffset, rfl⟩ := Option.map_eq_some_iff.mp h
  exact offsetOf?_lt hoffset

theorem finding_in_text {text : List Char} {finding : Finding} {span : Span}
    (h : finding.locate? text = some span) : span.offset + span.length ≤ byteLength text := by
  rw [Finding.locate?_eq] at h
  exact (Document.stored_of_mem_valueSpans (List.mem_of_getElem? h)).in_text

/-- **Labels never leave the text**, whether they are computed from a line and a column, searched
for between quotes or searched for line by line.  A label of a value covers the value, which is
stored under its key there, and labels with higher numbers stand further right. -/
theorem labels_in_text :
    (∀ (file text : String) (e : SchemaError), Document.parse file text = .error e →
      ∀ l ∈ e.labels, l.span.offset + l.span.length ≤ byteLength text.toList) ∧
    (∀ (file text : String) (e : SchemaError), Config.parse file text = .error e →
      (∀ fault, e ≠ .refused file text (.config fault)) →
        ∀ l ∈ e.labels, l.span.offset + l.span.length ≤ byteLength text.toList) ∧
    (∀ (text : List Char) (key value : String) (n : Nat) (span : Span),
      valueSpan? text key value n = some span → Stored text key value span ∧
        sliceBytes? span.offset (span.offset + span.length) text = some value.toList) ∧
    ∀ (text : List Char) (key value : String) (m n : Nat) (s t : Span), m < n →
      valueSpan? text key value m = some s → valueSpan? text key value n = some t →
        s.offset < t.offset := by
  refine ⟨fun file text e h => ?_, fun file text e h hcomputed => ?_,
    fun text key value n span h => ?_,
    fun text key value m n s t => Document.offset_lt_of_valueSpan?⟩
  · rcases problem_of_document h with ⟨fault, rfl⟩ | ⟨r, rfl⟩ | ⟨finding, rfl⟩
    · exact labels_in_text_of fun span => fault_in_text
    · exact labels_in_text_of nofun
    · exact labels_in_text_of fun span => finding_in_text
  · rcases Config.problem_of_config h with ⟨fault, rfl⟩ | ⟨key, rfl⟩
    · exact absurd rfl (hcomputed fault)
    · exact labels_in_text_of fun span hspan => (Config.isLabelOf_keySpan? hspan).in_text
  · have hstored := Document.stored_of_mem_valueSpans (List.mem_of_getElem? h)
    exact ⟨hstored, hstored.covers⟩

/-- A document with two models of one name, the second one on another line than its key. -/
def repeatedUser : String :=
  "\x7b\"models\":[\x7b\"name\":\"User\"\x7d,\x7b\"name\" :\n\"User\"\x7d]\x7d"

theorem labels_in_text_repeatedUser :
    Document.parse "schema.json" repeatedUser
        = .error (.refused "schema.json" repeatedUser (.finding (.duplicateModel "User"))) ∧
      (∀ l ∈ (refused "schema.json" repeatedUser (.finding (.duplicateModel "User"))).labels,
        l.span.offset + l.span.length ≤ byteLength repeatedUser.toList) ∧
      (∀ l ∈ (refused "kiln.toml" Config.namelessInput
          (.rejected (.emptySetting "input") (some ⟨20, 5⟩))).labels,
        l.span.offset + l.span.length ≤ byteLength Config.namelessInput.toList) ∧
      valueSpan? repeatedUser.toList "name" "User" 0 = some ⟨20, 4⟩ ∧
      valueSpan? repeatedUser.toList "name" "User" 1 = some ⟨38, 4⟩ ∧
      Stored repeatedUser.toList "name" "User" ⟨38, 4⟩ ∧
      sliceBytes? 38 42 repeatedUser.toList = some "User".toList ∧ 20 < 38 := by
  have hdocument : Document.parse "schema.json" repeatedUser
      = .error (.refused "schema.json" repeatedUser (.finding (.duplicateModel "User"))) := by
    decide +kernel
  have hconfig : Config.parse "kiln.toml" Config.namelessInput
      = .error (.refused "kiln.toml" Config.namelessInput
          (.rejected (.emptySetting "input") (some ⟨20, 5⟩))) := by decide +kernel
  have hfirst : valueSpan? repeatedUser.toList "name" "User" 0 = some ⟨20, 4⟩ := by decide +kernel
  have hsecond : valueSpan? repeatedUser.toList "name" "User" 1 = some ⟨38, 4⟩ := by decide +kernel
  obtain ⟨hparsed, hread, hspan, horder⟩ := labels_in_text
  obtain ⟨hstored, hcovers⟩ := hspan _ _ _ 1 _ hsecond
  exact ⟨hdocument, hparsed _ _ _ hdocument, hread _ _ _ hconfig nofun, hfirst, hsecond, hstored,
    hcovers, horder _ _ _ 0 1 _ _ (by decide) hfirst hsecond⟩

end SchemaClass.SchemaError
