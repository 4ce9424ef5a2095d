import Mathlib.Data.List.TakeWhile
import SchemaClass.Config.Parser
import SchemaClass.Proofs.Outcome
import SchemaClass.Proofs.Text.Position
/-!
# Where the label of an empty setting stands

The label is searched for line by line, and every line that is passed counts as one byte longer than
what is left of it without its end.  A line end of two characters is two bytes long, so the label
stands one byte before its key for each of them, and on the key if there is none.

* `returnEnds`: how many line ends have a carriage return;
* `Assigned`: what stands before the first assignment to a key;
* `exists_of_findKey`: the search finds that assignment, and its label stands before the key by as
  many bytes;
* `label_of_key`: so the label covers its key if no line before ends with a carriage return;
* `label_misses_key`: and may miss it otherwise.
-/

namespace SchemaClass.Config

open Text

/-! ## 1. Lines and their ends -/

/-- How many line breaks of a text have a carriage return before them. -/
def returnEnds : List Char → Nat
  | [] => 0
  | c :: cs => (if c = '\r' ∧ cs.head? = some '\n' then 1 else 0) + returnEnds cs

theorem lines_of_notMem {text : List Char} (h : '\n' ∉ text) : lines text = [text] := by
  rw [lines, List.splitOn_eq_singleton h]
  rfl

theorem lines_line {line : List Char} (h : '\n' ∉ line) (rest : List Char) :
    lines (line ++ '\n' :: rest) = dropReturn line :: lines rest := by
  obtain ⟨piece, pieces, hpieces⟩ :=
    List.exists_cons_of_ne_nil (List.splitOn_ne_nil '\n' rest)
  rw [lines, lines, List.splitOn_append_cons_self_of_not_mem h, hpieces]
  rfl

theorem returnEnds_line {line : List Char} (h : '\n' ∉ line) (rest : List Char) :
    returnEnds (line ++ '\n' :: rest)
      = (if line.getLast? = some '\r' then 1 else 0) + returnEnds rest := by
  induction line with
  | nil => simp [returnEnds]
  | cons c line ih =>
    obtain ⟨-, hline⟩ := not_or.mp (mt List.mem_cons.mpr h)
    rw [List.cons_append, returnEnds, ih hline]
    cases line with
    | nil => simp
    | cons d line =>
      have hd : d ≠ '\n' := fun he => hline (he ▸ List.mem_cons_self)
      simp [hd]

/-- No line break has a carriage return exactly if the two never stand side by side. -/
theorem returnEnds_eq_zero_iff {text : List Char} :
    returnEnds text = 0 ↔ ¬ ['\r', '\n'] <:+: text := by
  induction text with
  | nil => simp [returnEnds]
  | cons c cs ih =>
    have hhead : ['\n'] <+: cs ↔ cs.head? = some '\n' := by
      cases cs with
      | nil => simp
      | cons d cs => simp [List.cons_prefix_cons, eq_comm]
    rw [returnEnds, Nat.add_eq_zero_iff, ih, List.infix_cons_iff, not_or, List.cons_prefix_cons,
      hhead, eq_comm (a := '\r')]
    refine and_congr_left fun _ => ?_
    split <;> simp_all

/-- What is left of a line without its end, and what the end takes. -/
theorem byteLength_dropReturn (line : List Char) :
    byteLength (dropReturn line) + (if line.getLast? = some '\r' then 1 else 0)
      = byteLength line := by
  rw [dropReturn]
  split
  · next h =>
    obtain ⟨front, rfl⟩ := List.getLast?_eq_some_iff.mp h
    rw [List.dropLast_concat, byteLength_append]
    rfl
  · rfl

theorem exists_eq_dropReturn (line : List Char) : ∃ cr, line = dropReturn line ++ cr := by
  rw [dropReturn]
  split
  · exact ⟨_, (List.dropLast_prefix line).choose_spec.symm⟩
  · exact ⟨[], (List.append_nil line).symm⟩

/-! ## 2. The line of a key -/

/-- What stands before the first assignment to a key in a text: whole lines, and then blanks. -/
structure Assigned (text key front indent : List Char) : Prop where
  whole : front = [] ∨ front.getLast? = some '\n'
  blank : ∀ c ∈ indent, isBlank c = true
  /-- The key and an equals sign follow, on the same line. -/
  text_eq : ∃ gap behind, (∀ c ∈ gap, isBlank c = true) ∧ '\n' ∉ indent ++ (key ++ gap) ∧
    text = front ++ (indent ++ (key ++ (gap ++ '=' :: behind)))
  first : ∀ line ∈ lines front, assigns key line = false

theorem assigns_nil (key : List Char) : assigns key [] = false := by
  cases key <;> rfl

/-- A line that looks like an assignment is one. -/
theorem exists_of_assigns {key line : List Char} (h : assigns key line = true) :
    ∃ gap behind, (∀ c ∈ gap, isBlank c = true) ∧
      line = line.takeWhile isBlank ++ (key ++ (gap ++ '=' :: behind)) := by
  obtain ⟨rest, hrest, hsign⟩ := (Option.any_eq_true _ _).mp h
  obtain ⟨behind, hbehind⟩ := List.head?_eq_some_iff.mp (beq_iff_eq.mp hsign)
  refine ⟨rest.takeWhile isBlank, behind, fun c hc => List.mem_takeWhile_imp hc, ?_⟩
  calc line = line.takeWhile isBlank ++ trimStart line := List.takeWhile_append_dropWhile.symm
    _ = line.takeWhile isBlank ++ (key ++ rest) := by rw [dropToken?_eq_some.mp hrest]
    _ = _ := by
      rw [← hbehind, trimStart, List.takeWhile_append_dropWhile]

/-- The first line of a text, if it assigns to a key. -/
theorem assigned_here {key line : List Char} (h : assigns key line = true) (hline : '\n' ∉ line)
    (tail : List Char) : Assigned (line ++ tail) key [] (line.takeWhile isBlank) := by
  obtain ⟨gap, behind, hgap, heq⟩ := exists_of_assigns h
  have hwhole : line = (line.takeWhile isBlank ++ (key ++ gap)) ++ '=' :: behind := by
    rw [List.append_assoc, List.append_assoc]
    exact heq
  refine ⟨Or.inl rfl, fun c hc => List.mem_takeWhile_imp hc,
    ⟨gap, behind ++ tail, hgap, fun hbreak => ?_, ?_⟩, fun l hl => ?_⟩
  · exact hline (hwhole ▸ List.mem_append_left _ hbreak)
  · exact (congrArg (· ++ tail) heq).trans (by simp)
  · rw [lines_of_notMem List.not_mem_nil, List.mem_singleton] at hl
    rw [hl, assigns_nil]

/-- An assignment behind the first line of a text, if that line has none. -/
theorem Assigned.behind {text key front indent line : List Char}
    (h : Assigned text key front indent) (hline : '\n' ∉ line)
    (hnot : assigns key (dropReturn line) = false) :
    Assigned (line ++ '\n' :: text) key (line ++ '\n' :: front) indent := by
  obtain ⟨gap, behind, hgap, hsame, htext⟩ := h.text_eq
  refine ⟨Or.inr ?_, h.blank, ⟨gap, behind, hgap, hsame, ?_⟩, ?_⟩
  · rcases h.whole with hfront | hfront
    · rw [hfront, List.getLast?_concat]
    · rw [List.getLast?_append, List.getLast?_cons, hfront]
      rfl
  · rw [htext]
    simp
  · rw [lines_line hline]
    exact List.forall_mem_cons.mpr ⟨hnot, h.first⟩

/-- **The search finds the first assignment**, and falls behind by one byte for each line end with a
carriage return. -/
theorem exists_of_findKey {key : List Char} {span : Span} : ∀ (text : List Char) {offset : Nat},
    findKey key offset (lines text) = some span →
      ∃ front indent, Assigned text key front indent ∧ span.length = byteLength key ∧
        span.offset + returnEnds front = offset + byteLength (front ++ indent)
  | text, offset, h => by
    by_cases hbreak : '\n' ∈ text
    · obtain ⟨line, rest, htext, hline⟩ := List.eq_append_cons_of_mem hbreak
      have hshorter : rest.length < text.length := by
        rw [htext, List.length_append, List.length_cons]
        omega
      rw [htext, lines_line hline, findKey] at h
      split at h
      · next hfound =>
        cases h
        obtain ⟨cr, hcr⟩ := exists_eq_dropReturn line
        have hfree : '\n' ∉ dropReturn line :=
          fun hmem => hline (hcr ▸ List.mem_append_left cr hmem)
        have hassigned := assigned_here hfound hfree (cr ++ '\n' :: rest)
        rw [← List.append_assoc, ← hcr, ← htext] at hassigned
        exact ⟨[], _, hassigned, rfl, rfl⟩
      · next hnot =>
        obtain ⟨front, indent, hassigned, hlength, hoffset⟩ := exists_of_findKey rest h
        refine ⟨line ++ '\n' :: front, indent, ?_, hlength, ?_⟩
        · rw [htext]
          exact hassigned.behind hline (Bool.eq_false_iff.mpr hnot)
        · -- the count misses the carriage return of this line and those of the lines behind it
          have hcr := byteLength_dropReturn line
          have hnl : byteLength ('\n' :: (front ++ indent))
              = 1 + byteLength (front ++ indent) := rfl
          rw [returnEnds_line hline, List.append_assoc, List.cons_append, byteLength_append, hnl]
          omega
    · rw [lines_of_notMem hbreak, findKey] at h
      split at h
      · next hfound =>
        cases h
        have hassigned := assigned_here hfound hbreak []
        rw [List.append_nil] at hassigned
        exact ⟨[], _, hassigned, rfl, rfl⟩
      · cases h
termination_by text => text.length

/-! ## 3. Labels -/

/-- Where the label of a key stands.  It is as long as the key.  It begins before the first
assignment to the key by as many bytes as line ends with a carriage return stand in front, so it
begins with the key exactly if there are none, and covers it then. -/
def IsLabelOf (text key : List Char) (span : Span) : Prop :=
  ∃ front indent, Assigned text key front indent ∧ span.length = byteLength key ∧
    span.offset + returnEnds front = byteLength (front ++ indent) ∧
    (span.offset = byteLength (front ++ indent) ↔ ¬ ['\r', '\n'] <:+: front) ∧
    (¬ ['\r', '\n'] <:+: front →
      sliceBytes? span.offset (span.offset + span.length) text = some key)

theorem isLabelOf_keySpan? {text : List Char} {key : String} {span : Span}
    (h : keySpan? text key = some span) : IsLabelOf text key.toList span := by
  obtain ⟨front, indent, hassigned, hlength, hoffset⟩ := exists_of_findKey text h
  rw [Nat.zero_add] at hoffset
  have hiff : span.offset = byteLength (front ++ indent) ↔ ¬ ['\r', '\n'] <:+: front := by
    rw [← returnEnds_eq_zero_iff]
    omega
  refine ⟨front, indent, hassigned, hlength, hoffset, hiff, fun hends => ?_⟩
  obtain ⟨gap, behind, -, -, htext⟩ := hassigned.text_eq
  rw [hiff.mpr hends, hlength, htext, ← List.append_assoc]
  exact sliceBytes?_append (front ++ indent) key.toList (gap ++ '=' :: behind)

theorem IsLabelOf.in_text {text key : List Char} {span : Span} (h : IsLabelOf text key span) :
    span.offset + span.length ≤ byteLength text := by
  obtain ⟨front, indent, hassigned, hlength, hoffset, -⟩ := h
  obtain ⟨gap, behind, -, -, htext⟩ := hassigned.text_eq
  have hle := byteLength_add_le (front ++ indent) key (gap ++ '=' :: behind)
  rw [List.append_assoc, ← htext] at hle
  omega

/-- **Why a configuration is refused**: it cannot be read, or a setting is empty, with the label of
its key. -/
theorem problem_of_config {file text : String} {e : SchemaError} (h : parse file text = .error e) :
    (∃ fault, e = .refused file text (.config fault)) ∨
      ∃ key, e = .refused file text (.rejected (.emptySetting key) (keySpan? text.toList key)) := by
  obtain ⟨p, htext, rfl⟩ := Outcome.mapError_eq_error.mp h
  rcases Outcome.bind_eq_error.mp htext with hread | ⟨c, -, hcheck⟩
  · obtain ⟨fault, -, rfl⟩ := Outcome.mapError_eq_error.mp hread
    exact Or.inl ⟨fault, rfl⟩
  · split at hcheck
    · next key _ =>
      cases hcheck
      exact Or.inr ⟨key, rfl⟩
    · cases hcheck

/-- **A label of a key stands before the first assignment to the key**, by as many bytes as line
ends with a carriage return stand in front.  So it covers the key if there are none, for every key
and text, and for every text that is refused because a setting is empty. -/
theorem label_of_key (text : String) :
    (∀ (key : String) (span : Span), keySpan? text.toList key = some span →
      IsLabelOf text.toList key.toList span) ∧
    ∀ (file : String) (r : Rejection) (span : Span),
      parse file text = .error (.refused file text (.rejected r (some span))) →
        ∃ key, r = .emptySetting key ∧ IsLabelOf text.toList key.toList span := by
  refine ⟨fun key span h => isLabelOf_keySpan? h, fun file r span h => ?_⟩
  rcases problem_of_config h with ⟨fault, he⟩ | ⟨key, he⟩
  · cases he
  · obtain ⟨-, -, hproblem⟩ := SchemaError.refused.inj he
    obtain ⟨rfl, hspan⟩ := Problem.rejected.inj hproblem
    exact ⟨key, rfl, isLabelOf_keySpan? hspan.symm⟩

/-- A configuration that names no document, with a longer character in front. -/
def namelessInput : String := "# où\n[generator]\n\t input = ''\n"

theorem label_of_key_namelessInput :
    parse "kiln.toml" namelessInput
        = .error (.refused "kiln.toml" namelessInput
            (.rejected (.emptySetting "input") (some ⟨20, 5⟩))) ∧
      IsLabelOf namelessInput.toList "input".toList ⟨20, 5⟩ := by
  have hparse : parse "kiln.toml" namelessInput
      = .error (.refused "kiln.toml" namelessInput
          (.rejected (.emptySetting "input") (some ⟨20, 5⟩))) := by decide +kernel
  obtain ⟨key, hkey, hlabel⟩ := (label_of_key namelessInput).2 _ _ _ hparse
  rw [← Rejection.emptySetting.inj hkey] at hlabel
  exact ⟨hparse, hlabel⟩

/-- **The label of a key misses it** behind a line end with a carriage return. -/
theorem label_misses_key :
    ∃ e, parse "kiln.toml" "[generator]\r\ninput = \"\"\r\n" = .error e ∧
      e.labels = [⟨"`input` cannot be empty", ⟨12, 5⟩⟩] ∧
      sliceBytes? 12 17 "[generator]\r\ninput = \"\"\r\n".toList = some "\ninpu".toList := by
  refine ⟨.refused "kiln.toml" "[generator]\r\ninput = \"\"\r\n"
    (.rejected (.emptySetting "input") (some ⟨12, 5⟩)), ?_, ?_, ?_⟩
  all_goals decide +kernel

end SchemaClass.Config
