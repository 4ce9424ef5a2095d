import SchemaClass.Proofs.Json.Spelling
/-!
# Values that nobody asks for

A member that a record does not know is passed with whatever value it has.  The grammar of values
says what stands between brackets: items with commas between them, each with the blanks around it.

* `IsValue`: any value;
* `passOpen_tail`, `passOpen_between`: what is open is closed again, item by item;
* `IsValue.passes`, `passValue_spelled`: a value is passed, however deep it is nested.
-/

namespace SchemaClass.Json

open Outcome
open Text (Cursor)

/-! ## 1. Values -/

/-- A text with the blanks around it. -/
structure Padded where
  before : Blanks
  text : List Char
  behind : Blanks

def Padded.spelled (p : Padded) : List Char := p.before.text ++ (p.text ++ p.behind.text)

/-- A member of an object: a key between quotes, a colon and a value, with the blanks around
them. -/
structure Member where
  before : Blanks
  key : List Char
  behind : Blanks
  value : Padded

/-- What stands before the value of a member. -/
def Member.start (m : Member) : List Char :=
  m.before.text ++ '"' :: (m.key ++ '"' :: (m.behind.text ++ [':']))

def Member.spelled (m : Member) : List Char := m.start ++ m.value.spelled

/-- What stands between brackets: items with commas between them, or blanks if there are none. -/
def between (ws : Blanks) : List (List Char) → List Char
  | [] => ws.text
  | item :: items => item ++ items.flatMap (',' :: ·)

/-- Any value. -/
inductive IsValue : List Char → Prop where
  | nullWord : IsValue ['n', 'u', 'l', 'l']
  | trueWord : IsValue ['t', 'r', 'u', 'e']
  | falseWord : IsValue ['f', 'a', 'l', 's', 'e']
  | number {cs : List Char} (h : IsNumber cs) : IsValue cs
  | string {cs : List Char} (h : IsChars cs) : IsValue ('"' :: (cs ++ ['"']))
  | list {ws : Blanks} {elements : List Padded} (h : ∀ e ∈ elements, IsValue e.text) :
    IsValue ('[' :: (between ws (elements.map (·.spelled)) ++ [']']))
  | object {ws : Blanks} {members : List Member} (hkeys : ∀ m ∈ members, IsChars m.key)
    (h : ∀ m ∈ members, IsValue m.value.text) :
    IsValue ('\x7b' :: (between ws (members.map (·.spelled)) ++ ['\x7d']))

/-- What is behind a value inside brackets. -/
def passRest : List Bracket → Cursor → Except Fault Cursor
  | [], c => .ok c
  | b :: stack, c => passOpen (.inside b true) stack c

/-! ## 2. One step -/

def Bracket.opening : Bracket → Char
  | .list => '['
  | .object => '\x7b'

theorem passOpen_value_opening {b : Bracket} {stack : List Bracket} {c : Cursor}
    (h : (skipBlanks c).peek? = some b.opening) :
    passOpen .value stack c = passOpen (.inside b false) stack (skipBlanks c).next := by
  rw [passOpen.eq_def .value stack c]
  dsimp only
  cases b with
  | list => exact dif_pos h
  | object => exact (dif_neg (by rw [h]; decide)).trans (dif_pos h)

theorem passOpen_value_scalar {stack : List Bracket} {c d : Cursor}
    (h : ∀ b : Bracket, (skipBlanks c).peek? ≠ some b.opening)
    (hpass : passScalar (skipBlanks c) = .ok d) :
    passOpen .value stack c = passRest stack d := by
  have hlist : (skipBlanks c).peek? ≠ some '[' := h .list
  have hobject : (skipBlanks c).peek? ≠ some '\x7b' := h .object
  rw [passOpen.eq_def .value stack c]
  dsimp only
  rw [dif_neg hlist, dif_neg hobject]
  split
  · next heq => cases hpass.symm.trans heq
  · next heq =>
    cases hpass.symm.trans heq
    cases stack <;> rfl

theorem passOpen_inside_closing {b : Bracket} {comma : Bool} {stack : List Bracket} {c : Cursor}
    (h : (skipBlanks c).peek? = some b.closing) :
    passOpen (.inside b comma) stack c = passRest stack (skipBlanks c).next := by
  rw [passOpen.eq_def (.inside b comma) stack c]
  dsimp only
  split
  · next heq => cases h.symm.trans heq
  · next heq =>
    cases h.symm.trans heq
    rw [if_pos rfl]
    cases stack <;> rfl

theorem passOpen_inside_comma {b : Bracket} {stack : List Bracket} {c d : Cursor}
    (h : (skipBlanks c).peek? = some ',') (hstart : startMember b (skipBlanks c).next = .ok d) :
    passOpen (.inside b true) stack c = passOpen .value (b :: stack) d := by
  have hclosing : ',' ≠ b.closing := by cases b <;> decide
  rw [passOpen.eq_def (.inside b true) stack c]
  dsimp only
  split
  · next heq => cases h.symm.trans heq
  · next heq =>
    cases h.symm.trans heq
    rw [if_neg hclosing, if_pos rfl, if_pos rfl]
    split
    · next heq => cases hstart.symm.trans heq
    · next heq =>
      cases hstart.symm.trans heq
      rfl

theorem passOpen_inside_first {b : Bracket} {stack : List Bracket} {c d : Cursor} {x : Char}
    (h : (skipBlanks c).peek? = some x) (hclosing : x ≠ b.closing)
    (hstart : startMember b (skipBlanks c) = .ok d) :
    passOpen (.inside b false) stack c = passOpen .value (b :: stack) d := by
  rw [passOpen.eq_def (.inside b false) stack c]
  dsimp only
  split
  · next heq => cases h.symm.trans heq
  · next heq =>
    cases h.symm.trans heq
    rw [if_neg hclosing, if_neg Bool.false_ne_true]
    split
    · next heq => cases hstart.symm.trans heq
    · next heq =>
      cases hstart.symm.trans heq
      rfl

theorem colon_spelled (ws : Blanks) (rest : List Char) (n : Nat) :
    ∃ m, colon ⟨ws.text ++ ':' :: rest, n⟩ = .ok ⟨rest, m⟩ := by
  obtain ⟨m, hm⟩ := skipBlanks_spelled ws (by decide : isBlank ':' = false) rest n
  refine ⟨m + 1, ?_⟩
  rw [colon, hm]
  exact if_pos rfl

theorem startMember_object {m : Member} (h : IsChars m.key) (rest : List Char) (n : Nat) :
    ∃ k, startMember .object ⟨m.start ++ rest, n⟩ = .ok ⟨rest, k⟩ := by
  have htext : m.start ++ rest
      = m.before.text ++ '"' :: (m.key ++ '"' :: (m.behind.text ++ ':' :: rest)) := by
    rw [Member.start, List.append_assoc, List.cons_append, List.append_assoc, List.cons_append,
      List.append_assoc]
    rfl
  obtain ⟨k, hk⟩ := skipBlanks_spelled m.before (by decide : isBlank '"' = false)
    (m.key ++ '"' :: (m.behind.text ++ ':' :: rest)) n
  obtain ⟨l, hl⟩ := passString_spelled h (m.behind.text ++ ':' :: rest) (k + 1)
  obtain ⟨j, hj⟩ := colon_spelled m.behind rest l
  refine ⟨j, ?_⟩
  rw [htext, startMember, passKey, hk]
  exact (if_pos rfl).trans (bind_eq_ok.mpr ⟨_, hl, hj⟩)

/-! ## 3. Any depth -/

/-- Passing a text as a value leaves what follows it, in whatever brackets it stands. -/
def Passes (text : List Char) : Prop :=
  ∀ (ws : Blanks) (stack : List Bracket) (rest : List Char) (n : Nat), Ends rest →
    ∃ m, passOpen .value stack ⟨ws.text ++ (text ++ rest), n⟩ = passRest stack ⟨rest, m⟩

/-- A text begins as a value does: with no blank, and with nothing that closes a list. -/
def StartsValue (text : List Char) : Prop :=
  ∃ x xs, text = x :: xs ∧ isBlank x = false ∧ x ≠ ']'

theorem IsValue.startsValue {cs : List Char} (h : IsValue cs) : StartsValue cs := by
  cases h with
  | number hnumber =>
    obtain ⟨x, xs, rfl, hx⟩ := hnumber.head
    exact ⟨x, xs, rfl, not_isBlank_of_isNumeric hx, ne_of_isNumeric hx (by decide)⟩
  | _ => exact ⟨_, _, rfl, rfl, by decide⟩

theorem ends_blanks (ws : Blanks) {rest : List Char} (h : Ends rest) : Ends (ws.text ++ rest) := by
  obtain ⟨ws, hws⟩ := ws
  cases ws with
  | nil => exact h
  | cons x ws =>
    rintro y ⟨⟩
    exact Or.inl (hws x List.mem_cons_self)

/-- The items behind the first one and the closing bracket. -/
def tail (b : Bracket) (items : List (List Char)) (rest : List Char) : List Char :=
  items.flatMap (',' :: ·) ++ b.closing :: rest

theorem tail_cons (b : Bracket) (item : List Char) (items : List (List Char)) (rest : List Char) :
    tail b (item :: items) rest = ',' :: (item ++ tail b items rest) := by
  rw [tail, tail, List.flatMap_cons, List.append_assoc]
  rfl

theorem ends_tail (b : Bracket) (items : List (List Char)) (rest : List Char) :
    Ends (tail b items rest) := by
  cases items with
  | nil =>
    rintro x ⟨⟩
    cases b with
    | list => exact Or.inr (Or.inr (Or.inl rfl))
    | object => exact Or.inr (Or.inr (Or.inr rfl))
  | cons =>
    rintro x ⟨⟩
    exact Or.inr (Or.inl rfl)

theorem Padded.spelled_append (p : Padded) (rest : List Char) :
    p.spelled ++ rest = p.before.text ++ (p.text ++ (p.behind.text ++ rest)) := by
  rw [spelled, List.append_assoc, List.append_assoc]

/-- A text begins an item of a bracket, in front of its value: right behind the opening bracket,
where blanks have been passed already, and behind a comma. -/
structure Begins (b : Bracket) (start : List Char) (value : Padded) : Prop where
  first : ∀ rest n, ∃ x k, ∃ ws : Blanks,
    (skipBlanks ⟨start ++ (value.spelled ++ rest), n⟩).peek? = some x ∧ x ≠ b.closing ∧
    startMember b (skipBlanks ⟨start ++ (value.spelled ++ rest), n⟩)
      = .ok ⟨ws.text ++ (value.text ++ (value.behind.text ++ rest)), k⟩
  later : ∀ rest n, ∃ k, startMember b ⟨start ++ rest, n⟩ = .ok ⟨rest, k⟩

/-- Elements of a list begin with nothing in front of their values. -/
theorem begins_list {e : Padded} (h : IsValue e.text) : Begins .list [] e := by
  obtain ⟨x, xs, htext, hblank, hclosing⟩ := h.startsValue
  refine ⟨fun rest n => ?_, fun rest n => ⟨n, rfl⟩⟩
  obtain ⟨k, hk⟩ := skipBlanks_spelled e.before hblank (xs ++ (e.behind.text ++ rest)) n
  refine ⟨x, k, .none, ?_⟩
  rw [List.nil_append, Padded.spelled_append, htext, List.cons_append, hk]
  exact ⟨rfl, hclosing, rfl⟩

theorem passKey_skipBlanks (c : Cursor) : passKey (skipBlanks c) = passKey c := by
  rw [passKey, passKey, skipBlanks_skipBlanks]

/-- Members of an object begin with a key and a colon. -/
theorem begins_object {m : Member} (h : IsChars m.key) : Begins .object m.start m.value := by
  refine ⟨fun rest n => ?_, startMember_object h⟩
  obtain ⟨k, hk⟩ := startMember_object h (m.value.spelled ++ rest) n
  refine ⟨'"', k, m.value.before, ?_, by decide, ?_⟩
  · obtain ⟨l, hl⟩ := skipBlanks_spelled m.before (by decide : isBlank '"' = false)
      (m.key ++ '"' :: (m.behind.text ++ [':']) ++ (m.value.spelled ++ rest)) n
    rw [Member.start, List.append_assoc, List.cons_append, hl]
    rfl
  · rw [← Padded.spelled_append]
    exact (passKey_skipBlanks _).trans hk

section Items

variable {ι : Type} {b : Bracket} {start : ι → List Char} {value : ι → Padded} {items : List ι}

/-- The items behind the first one, where each begins as `start` says and goes on with a value. -/
theorem passOpen_tail (hbegins : ∀ i ∈ items, Begins b (start i) (value i))
    (hpass : ∀ i ∈ items, Passes (value i).text) (ws : Blanks) (stack : List Bracket)
    (rest : List Char) (n : Nat) :
    ∃ m, passOpen (.inside b true) stack
        ⟨ws.text ++ tail b (items.map fun i => start i ++ (value i).spelled) rest, n⟩
      = passRest stack ⟨rest, m⟩ := by
  induction items generalizing ws n with
  | nil =>
    have hblank : isBlank b.closing = false := by cases b <;> rfl
    obtain ⟨k, hk⟩ := skipBlanks_spelled ws hblank rest n
    have hclosing : (skipBlanks ⟨ws.text ++ b.closing :: rest, n⟩).peek? = some b.closing := by
      rw [hk]
      rfl
    exact ⟨_, (passOpen_inside_closing hclosing).trans (by rw [hk]; rfl)⟩
  | cons i items ih =>
    rw [List.forall_mem_cons] at hbegins hpass
    have hends := ends_tail b (items.map fun i => start i ++ (value i).spelled) rest
    rw [List.map_cons, tail_cons, List.append_assoc, Padded.spelled_append]
    replace ih := ih hbegins.2 hpass.2
    generalize tail b (items.map fun i => start i ++ (value i).spelled) rest = more at ih hends ⊢
    obtain ⟨j, hj⟩ := skipBlanks_spelled ws (by decide : isBlank ',' = false) (start i ++
      ((value i).before.text ++ ((value i).text ++ ((value i).behind.text ++ more)))) n
    obtain ⟨k, hk⟩ := hbegins.1.later
      ((value i).before.text ++ ((value i).text ++ ((value i).behind.text ++ more))) (j + 1)
    obtain ⟨l, hl⟩ := hpass.1 (value i).before (b :: stack) ((value i).behind.text ++ more) k
      (ends_blanks _ hends)
    obtain ⟨m, hm⟩ := ih (value i).behind l
    refine ⟨m, ?_⟩
    rw [passOpen_inside_comma (by rw [hj]; rfl) (by rw [hj]; exact hk), hl]
    exact hm

/-- Everything behind an opening bracket. -/
theorem passOpen_between (hbegins : ∀ i ∈ items, Begins b (start i) (value i))
    (hpass : ∀ i ∈ items, Passes (value i).text) (ws : Blanks) (stack : List Bracket)
    (rest : List Char) (n : Nat) :
    ∃ m, passOpen (.inside b false) stack
        ⟨between ws (items.map fun i => start i ++ (value i).spelled) ++ b.closing :: rest, n⟩
      = passRest stack ⟨rest, m⟩ := by
  cases items with
  | nil =>
    have hblank : isBlank b.closing = false := by cases b <;> rfl
    obtain ⟨k, hk⟩ := skipBlanks_spelled ws hblank rest n
    have hclosing : (skipBlanks ⟨ws.text ++ b.closing :: rest, n⟩).peek? = some b.closing := by
      rw [hk]
      rfl
    exact ⟨_, (passOpen_inside_closing hclosing).trans (by rw [hk]; rfl)⟩
  | cons i items =>
    rw [List.forall_mem_cons] at hbegins hpass
    have htail := passOpen_tail hbegins.2 hpass.2 (value i).behind stack rest
    have hends := ends_tail b (items.map fun i => start i ++ (value i).spelled) rest
    have htext : between ws ((i :: items).map fun i => start i ++ (value i).spelled)
          ++ b.closing :: rest
        = start i ++ ((value i).spelled
          ++ tail b (items.map fun i => start i ++ (value i).spelled) rest) := by
      rw [List.map_cons, between, tail, List.append_assoc, List.append_assoc]
    rw [htext]
    generalize tail b (items.map fun i => start i ++ (value i).spelled) rest = more
      at htail hends ⊢
    obtain ⟨x, k, ws', hpeek, hclosing, hstart⟩ := hbegins.1.first more n
    obtain ⟨l, hl⟩ := hpass.1 ws' (b :: stack) ((value i).behind.text ++ more) k
      (ends_blanks _ hends)
    obtain ⟨m, hm⟩ := htail l
    exact ⟨m, (passOpen_inside_first hpeek hclosing hstart).trans (hl.trans hm)⟩

/-- A value in brackets. -/
theorem passes_brackets (hbegins : ∀ i ∈ items, Begins b (start i) (value i))
    (hpass : ∀ i ∈ items, Passes (value i).text) (ws : Blanks) :
    Passes (b.opening ::
      (between ws (items.map fun i => start i ++ (value i).spelled) ++ [b.closing])) := by
  intro ws' stack rest n _
  have hblank : isBlank b.opening = false := by cases b <;> rfl
  obtain ⟨k, hk⟩ := skipBlanks_spelled ws' hblank (between ws (items.map fun i =>
    start i ++ (value i).spelled) ++ b.closing :: rest) n
  obtain ⟨m, hm⟩ := passOpen_between hbegins hpass ws stack rest (k + b.opening.utf8Size)
  refine ⟨m, ?_⟩
  rw [List.cons_append, List.append_assoc, List.singleton_append,
    passOpen_value_opening (by rw [hk]; rfl), hk]
  exact hm

end Items

/-- A value that is no list and no object. -/
theorem passes_scalar {x : Char} {xs : List Char} (hblank : isBlank x = false)
    (hopening : ∀ b : Bracket, x ≠ b.opening)
    (hpass : ∀ rest n, Ends rest → ∃ m, passScalar ⟨x :: (xs ++ rest), n⟩ = .ok ⟨rest, m⟩) :
    Passes (x :: xs) := by
  intro ws stack rest n hrest
  obtain ⟨k, hk⟩ := skipBlanks_spelled ws hblank (xs ++ rest) n
  obtain ⟨m, hm⟩ := hpass rest k hrest
  refine ⟨m, passOpen_value_scalar ?_ ?_⟩
  · intro b hpeek
    rw [List.cons_append, hk] at hpeek
    exact hopening b (Option.some.inj hpeek)
  · rw [List.cons_append, hk]
    exact hm

/-- **Any value is passed**, however deep it is nested and whatever follows it. -/
theorem IsValue.passes {cs : List Char} (h : IsValue cs) : Passes cs := by
  induction h with
  | nullWord =>
    refine passes_scalar rfl (by rintro ⟨⟩ <;> decide) fun rest n _ => ?_
    exact word_spelled ['u', 'l', 'l'] rest (n + 1)
  | trueWord =>
    refine passes_scalar rfl (by rintro ⟨⟩ <;> decide) fun rest n _ => ?_
    exact word_spelled ['r', 'u', 'e'] rest (n + 1)
  | falseWord =>
    refine passes_scalar rfl (by rintro ⟨⟩ <;> decide) fun rest n _ => ?_
    exact word_spelled ['a', 'l', 's', 'e'] rest (n + 1)
  | number h =>
    obtain ⟨x, xs, rfl, hx⟩ := h.head
    have hopening : ∀ b : Bracket, x ≠ b.opening := by
      rintro ⟨⟩ <;> exact ne_of_isNumeric hx (by decide)
    refine passes_scalar (not_isBlank_of_isNumeric hx) hopening fun rest n hrest => ?_
    obtain ⟨m, hm⟩ := passNumber_spelled h hrest n
    refine ⟨m, ?_⟩
    rw [passScalar]
    dsimp only
    rw [if_neg (ne_of_isNumeric hx (by decide)), if_neg (ne_of_isNumeric hx (by decide)),
      if_neg (ne_of_isNumeric hx (by decide)), if_neg (ne_of_isNumeric hx (by decide))]
    exact (if_pos hx).trans hm
  | string h =>
    refine passes_scalar rfl (by rintro ⟨⟩ <;> decide) fun rest n _ => ?_
    rw [List.append_assoc]
    exact passString_spelled h rest (n + 1)
  | @list ws elements h ih =>
    have hbegins : ∀ e ∈ elements, Begins .list ((fun _ => []) e) (id e) :=
      fun e he => begins_list (h e he)
    exact passes_brackets hbegins ih ws
  | @object ws members hkeys h ih =>
    exact passes_brackets (b := .object) (fun m hm => begins_object (hkeys m hm)) ih ws

theorem passValue_spelled {cs : List Char} (h : IsValue cs) (ws : Blanks) {rest : List Char}
    (hrest : Ends rest) (n : Nat) :
    ∃ m, passValue ⟨ws.text ++ (cs ++ rest), n⟩ = .ok ⟨rest, m⟩ := h.passes ws [] rest n hrest

end SchemaClass.Json
