import Mathlib.Tactic.SplitIfs
import SchemaClass.Source.Decorator
/-!
# Literals in decorators

A quote and a backslash are marked inside a literal, so that whoever reads the literal knows where
it ends, whatever text it stands for and whatever follows it.  So literals of different texts never
look alike.  In a decorator, literals stand among names.  A literal there ends in front of what the
decorator goes on with, which does not depend on the literal.  All literals are found again one
after the other as long as no name has a quote.

* `scanLiteral`: the reader of one literal; `scanLiteral_literal`: it reads a literal to its end;
* `escape_eq_replaced`: backslashes are marked first, and quotes after them;
* `literals?`: the reader of all literals of a text;
* `HasLiterals`: the texts whose literals are known, whatever stands behind them;
* `HasPlace`, `place_of_member`: what stands around a value in a decorator;
* `literals_self_delimiting`: literals by themselves and in decorators.
-/

namespace SchemaClass.Source

/-! ## 1. One literal -/

/-- The text of a literal and what stands behind it, read from behind the opening quote.  What
follows a backslash is taken as it is, and the first quote that follows none ends the literal. -/
def scanMarked (marked : Bool) : List Char → Option (List Char × List Char)
  | [] => none
  | c :: rest =>
    if marked then (scanMarked false rest).map fun (text, behind) => (c :: text, behind)
    else if c = '"' then some ([], rest)
    else if c = '\\' then scanMarked true rest
    else (scanMarked false rest).map fun (text, behind) => (c :: text, behind)

/-- The text of the literal that a text begins with, and what stands behind it. -/
def scanLiteral : List Char → Option (List Char × List Char)
  | [] => none
  | c :: rest => if c = '"' then scanMarked false rest else none

/-- **A marked text is read to its end**, whatever follows. -/
theorem scanMarked_escape (text rest : List Char) :
    scanMarked false (escape text ++ '"' :: rest) = some (text, rest) := by
  induction text with
  | nil => rfl
  | cons c text ih =>
    rw [escape]
    split
    · simp [scanMarked, ih]
    · next hplain =>
      have hne : c ≠ '\\' ∧ c ≠ '"' := by simpa using hplain
      simp [scanMarked, hne, ih]

theorem toList_literal (s : String) : (literal s).toList = '"' :: (escape s.toList ++ ['"']) := by
  simp [literal]

theorem scanLiteral_literal (s : String) (rest : List Char) :
    scanLiteral ((literal s).toList ++ rest) = some (s.toList, rest) := by
  simp [toList_literal, scanLiteral, scanMarked_escape]

/-! ## 2. Two replacements -/

/-- A text with a character replaced wherever it stands. -/
def replaced (c : Char) (other text : List Char) : List Char :=
  text.flatMap fun d => if d = c then other else [d]

/-- **Backslashes are marked first, and quotes after them**, so that the backslashes that mark
quotes are not marked themselves. -/
theorem escape_eq_replaced (text : List Char) :
    escape text = replaced '"' ['\\', '"'] (replaced '\\' ['\\', '\\'] text) := by
  induction text with
  | nil => rfl
  | cons c text ih =>
    have hcons : replaced '\\' ['\\', '\\'] (c :: text)
        = (if c = '\\' then ['\\', '\\'] else [c]) ++ replaced '\\' ['\\', '\\'] text := rfl
    rw [hcons, replaced, List.flatMap_append, escape, ih, replaced]
    by_cases hbackslash : c = '\\'
    · simp [hbackslash]
    · by_cases hquote : c = '"' <;> simp [hbackslash, hquote]

/-! ## 3. The literals of a text -/

theorem length_lt_of_scanMarked {marked : Bool} {text value rest : List Char}
    (h : scanMarked marked text = some (value, rest)) : rest.length < text.length := by
  induction text generalizing marked value with
  | nil => cases h
  | cons c text ih =>
    rw [List.length_cons, Nat.lt_succ_iff]
    have hkept : (scanMarked false text).map (fun (more, behind) => (c :: more, behind))
        = some (value, rest) → rest.length ≤ text.length := by
      intro hkept
      obtain ⟨⟨more, behind⟩, hmore, he⟩ := Option.map_eq_some_iff.mp hkept
      cases he
      exact Nat.le_of_lt (ih hmore)
    rw [scanMarked] at h
    split_ifs at h
    · exact hkept h
    · cases h
      exact Nat.le_refl _
    · exact Nat.le_of_lt (ih h)
    · exact hkept h

/-- The texts of all literals of a text, from left to right. -/
def literals? : List Char → Option (List (List Char))
  | [] => some []
  | c :: rest =>
    if c = '"' then
      match h : scanMarked false rest with
      | none => none
      | some (value, behind) =>
        have := length_lt_of_scanMarked h
        (literals? behind).map (value :: ·)
    else literals? rest
termination_by text => text.length

theorem literals?_name {c : Char} (h : c ≠ '"') (rest : List Char) :
    literals? (c :: rest) = literals? rest := by
  rw [literals?, if_neg h]

theorem literals?_quote {rest value behind : List Char}
    (h : scanMarked false rest = some (value, behind)) :
    literals? ('"' :: rest) = (literals? behind).map (value :: ·) := by
  rw [literals?, if_pos rfl]
  split
  · next hnone => exact absurd (hnone.symm.trans h) nofun
  · next hsome =>
    cases hsome.symm.trans h
    rfl

/-- The literals of a text are known, whatever stands behind it. -/
def HasLiterals (s : String) (values : List (List Char)) : Prop :=
  ∀ rest, literals? (s.toList ++ rest) = (literals? rest).map (values ++ ·)

/-- A text without quotes. -/
def IsName (s : String) : Prop := '"' ∉ s.toList

instance (s : String) : Decidable (IsName s) := inferInstanceAs (Decidable (¬ _))

theorem IsName.hasLiterals {s : String} (h : IsName s) : HasLiterals s [] := by
  intro rest
  rw [IsName] at h
  generalize s.toList = text at h
  induction text with
  | nil => simp
  | cons c text ih =>
    rw [List.mem_cons, not_or] at h
    rw [List.cons_append, literals?_name (Ne.symm h.1), ih h.2]

/-- What is always written around values. -/
theorem hasLiterals_mark (mark : String) (h : IsName mark := by decide) : HasLiterals mark [] :=
  h.hasLiterals

theorem hasLiterals_literal (s : String) : HasLiterals (literal s) [s.toList] := by
  intro rest
  have hscan : scanMarked false (escape s.toList ++ ['"'] ++ rest) = some (s.toList, rest) := by
    simpa using scanMarked_escape s.toList rest
  rw [toList_literal, List.cons_append, literals?_quote hscan]
  rfl

theorem HasLiterals.append {s t : String} {values more : List (List Char)}
    (h : HasLiterals s values) (hmore : HasLiterals t more) :
    HasLiterals (s ++ t) (values ++ more) := by
  intro rest
  rw [String.toList_append, List.append_assoc, h, hmore, Option.map_map]
  simp [Function.comp_def]

/-- Pieces with a separator between them. -/
theorem HasLiterals.intercalate {α : Type} {separator : String} {text : α → String}
    {values : α → List (List Char)} (hs : IsName separator) :
    ∀ {pieces : List α}, (∀ x ∈ pieces, HasLiterals (text x) (values x)) →
      HasLiterals (separator.intercalate (pieces.map text)) (pieces.flatMap values)
  | [], _ => hasLiterals_mark ""
  | [x], h => by simpa using h
  | x :: y :: pieces, h => by
    obtain ⟨hx, hrest⟩ := List.forall_mem_cons.mp h
    have hpieces := intercalate hs hrest
    rw [List.map_cons, List.map_cons, String.intercalate_cons_of_ne_nil (List.cons_ne_nil _ _),
      ← List.map_cons, List.flatMap_cons]
    simpa using (hx.append hs.hasLiterals).append hpieces

end SchemaClass.Source

namespace SchemaClass

open Source

/-! ## 4. The literals of a decorator -/

namespace TagValue

/-- The text of a value, if it is written as a literal. -/
def literals : TagValue → List (List Char)
  | text s => [s.toList]
  | boolean _ | identifier _ | deferred _ => []

/-- Names have no quotes. -/
def Named : TagValue → Prop
  | identifier name | deferred name => IsName name
  | boolean _ | text _ => True

instance : (v : TagValue) → Decidable v.Named
  | identifier name | deferred name => inferInstanceAs (Decidable (IsName name))
  | boolean _ | text _ => isTrue trivial

theorem hasLiterals {v : TagValue} (h : v.Named) : HasLiterals (valueText v) v.literals := by
  cases v with
  | boolean b => cases b <;> exact hasLiterals_mark _
  | identifier name => exact h.hasLiterals
  | text s => exact hasLiterals_literal s
  | deferred name => exact (hasLiterals_mark "() => ").append h.hasLiterals

end TagValue

namespace Argument

/-- The texts that are written as literals. -/
def literals : Argument → List (List Char)
  | identifier _ => []
  | object members => members.flatMap fun m => m.2.literals

/-- Names and keys have no quotes. -/
def Named : Argument → Prop
  | identifier name => IsName name
  | object members => ∀ m ∈ members, IsName m.1 ∧ m.2.Named

instance : (a : Argument) → Decidable a.Named
  | identifier name => inferInstanceAs (Decidable (IsName name))
  | object members => inferInstanceAs (Decidable (∀ m ∈ members, IsName m.1 ∧ m.2.Named))

theorem hasLiterals {a : Argument} (h : a.Named) : HasLiterals (argumentText a) a.literals := by
  cases a with
  | identifier name => exact h.hasLiterals
  | object members =>
    have hmembers : HasLiterals (", ".intercalate (members.map memberText))
        (members.flatMap fun m => m.2.literals) := by
      refine .intercalate (by decide) fun m hm => ?_
      obtain ⟨hkey, hvalue⟩ := h m hm
      have hcolon := hasLiterals_mark ": "
      simpa [memberText] using
        (hkey.hasLiterals.append hcolon).append (TagValue.hasLiterals hvalue)
    cases members with
    | nil => exact hasLiterals_mark _
    | cons m members =>
      have hopen := hasLiterals_mark "\x7b "
      have hclose := hasLiterals_mark " \x7d"
      simpa [argumentText, literals] using (hopen.append hmembers).append hclose

end Argument

namespace Tag

/-- The texts that are written as literals. -/
def literals (t : Tag) : List (List Char) := t.arguments.flatMap (·.literals)

/-- Names and keys have no quotes. -/
def Named (t : Tag) : Prop := IsName t.name ∧ ∀ a ∈ t.arguments, a.Named

instance (t : Tag) : Decidable t.Named := inferInstanceAs (Decidable (_ ∧ _))

/-- **The literals of a decorator** are the texts of its arguments. -/
theorem hasLiterals {t : Tag} (h : t.Named) :
    HasLiterals (Decorator.ofTag t).text t.literals := by
  have harguments : HasLiterals (", ".intercalate (t.arguments.map argumentText)) t.literals :=
    .intercalate (by decide) fun a ha => Argument.hasLiterals (h.2 a ha)
  have hat := hasLiterals_mark "@"
  have hopen := hasLiterals_mark "("
  have hclose := hasLiterals_mark ")"
  simpa [Decorator.text, Decorator.ofTag] using
    (((hat.append h.1.hasLiterals).append hopen).append harguments).append hclose

end Tag

namespace Source

/-! ## 5. The place of a value -/

/-- A text with a place for another one: what stands before and behind it is the same, whatever
stands there. -/
def HasPlace (text : String → String) : Prop := ∃ front back, ∀ s, text s = front ++ s ++ back

theorem HasPlace.within {text : String → String} (h : HasPlace text) (before behind : String) :
    HasPlace fun s => before ++ text s ++ behind := by
  obtain ⟨front, back, htext⟩ := h
  exact ⟨before ++ front, back ++ behind, fun s => by simp only [htext, String.append_assoc]⟩

/-- One of several pieces with a separator between them. -/
theorem HasPlace.intercalate {text : String → String} (h : HasPlace text) (separator : String)
    (before after : List String) :
    HasPlace fun s => separator.intercalate (before ++ text s :: after) := by
  induction before with
  | nil =>
    cases after with
    | nil => simpa using h
    | cons piece after =>
      simpa [String.append_assoc] using
        h.within "" (separator ++ separator.intercalate (piece :: after))
  | cons piece before ih =>
    have hne : ∀ s, before ++ text s :: after ≠ [] := by simp
    simpa [String.intercalate_cons_of_ne_nil (hne _)] using ih.within (piece ++ separator) ""

/-- **What a decorator has around a value** of one of its objects does not depend on the value. -/
theorem place_of_member (name origin : String) (args more : List Argument)
    (members others : List (String × TagValue)) (key : String) :
    ∃ front back, ∀ v : TagValue,
      (Decorator.ofTag ⟨name, origin,
        args ++ .object (members ++ (key, v) :: others) :: more⟩).text
        = front ++ valueText v ++ back := by
  have hmember : HasPlace fun s => key ++ ": " ++ s := ⟨key ++ ": ", "", by simp⟩
  have hmembers := hmember.intercalate ", " (members.map memberText) (others.map memberText)
  have hobject := hmembers.within "\x7b " " \x7d"
  have harguments := hobject.intercalate ", " (args.map argumentText) (more.map argumentText)
  obtain ⟨front, back, h⟩ := harguments.within ("@" ++ name ++ "(") ")"
  refine ⟨front, back, fun v => ?_⟩
  have hargument : argumentText (.object (members ++ (key, v) :: others))
      = "\x7b " ++ ", ".intercalate (members.map memberText ++ (key ++ ": " ++ valueText v)
          :: others.map memberText) ++ " \x7d" := by
    rw [argumentText]
    · simp [memberText]
    · simp
  rw [← h, Decorator.text, Decorator.ofTag, List.map_append, List.map_cons, hargument]

/-- **Literals are read back, and they end where they are meant to**, whatever follows them.  So
literals of different texts differ, and neither can be the beginning of the other.  The marks are
those of two replacements, one after the other.  Among the arguments of a decorator, the literal of
a text ends in front of what stands behind its place, which is the same for every text.  And if its
names have no quotes, all literals of a decorator are the texts of its arguments, each one from its
own quote to its own quote. -/
theorem literals_self_delimiting :
    (∀ (s : String) (rest : List Char),
      scanLiteral ((valueText (.text s)).toList ++ rest) = some (s.toList, rest)) ∧
    (∀ (s t : String) (rest more : List Char),
      (valueText (.text s)).toList ++ rest = (valueText (.text t)).toList ++ more →
        s = t ∧ rest = more) ∧
    (∀ s : String, valueText (.text s) = "\"" ++ String.ofList
      (replaced '"' ['\\', '"'] (replaced '\\' ['\\', '\\'] s.toList)) ++ "\"") ∧
    (∀ (name origin : String) (args more : List Argument)
      (members others : List (String × TagValue)) (key : String),
      ∃ front back : String, ∀ s : String,
        (Decorator.ofTag ⟨name, origin,
          args ++ .object (members ++ (key, .text s) :: others) :: more⟩).text
          = front ++ (valueText (.text s) ++ back) ∧
        ∀ rest, scanLiteral ((valueText (.text s) ++ back).toList ++ rest)
          = some (s.toList, back.toList ++ rest)) ∧
    ∀ t : Tag, t.Named → ∀ rest,
      literals? ((Decorator.ofTag t).text.toList ++ rest)
        = (literals? rest).map (t.literals ++ ·) := by
  refine ⟨scanLiteral_literal, fun s t rest more h => ?_, fun s => ?_, ?_,
    fun t ht => t.hasLiterals ht⟩
  · have hsame := (scanLiteral_literal s rest).symm.trans
      ((congrArg scanLiteral h).trans (scanLiteral_literal t more))
    obtain ⟨htext, hrest⟩ := Prod.mk.inj (Option.some.inj hsame)
    exact ⟨String.toList_inj.mp htext, hrest⟩
  · rw [← escape_eq_replaced]
    rfl
  · intro name origin args more members others key
    obtain ⟨front, back, htext⟩ := place_of_member name origin args more members others key
    refine ⟨front, back, fun s => ⟨?_, fun rest => ?_⟩⟩
    · rw [htext, String.append_assoc]
    · rw [String.toList_append, List.append_assoc]
      exact scanLiteral_literal s (back.toList ++ rest)

/-- A tag with texts that look like the end of a literal. -/
def riddleTag : Tag where
  name := "ApiProperty"
  origin := "@nestjs/swagger"
  arguments := [.identifier "Riddle", .object [("enumName", .text "a\\\"b\\"),
    ("type", .deferred "Post"), ("description", .text "\", \\")]]

theorem literals_self_delimiting_riddle :
    scanLiteral ((valueText (.text "\\")).toList ++ ['"']) = some (['\\'], ['"']) ∧
      (∀ (t : String) (more : List Char),
        ['"', '\\', '\\', '"', '"'] = (valueText (.text t)).toList ++ more →
          t = "\\" ∧ more = ['"']) ∧
      riddleTag.Named ∧
      literals? (Decorator.ofTag riddleTag).text.toList
        = some ["a\\\"b\\".toList, "\", \\".toList] := by
  obtain ⟨hscan, hinj, -, -, htag⟩ := literals_self_delimiting
  have hnamed : riddleTag.Named := by decide
  have hrest : literals? [] = some [] := by simp [literals?]
  have hliterals := htag riddleTag hnamed []
  rw [List.append_nil, hrest] at hliterals
  refine ⟨hscan "\\" ['"'], fun t more h => ?_, hnamed, hliterals⟩
  obtain ⟨rfl, rfl⟩ := hinj "\\" t ['"'] more h
  exact ⟨rfl, rfl⟩

end Source

end SchemaClass
