import SchemaClass.Json.Record
import SchemaClass.Proofs.Json.Passing
/-!
# Reading what has been spelled

A spelling of a value is read as that value, whatever follows it.  A record is spelled as an object
with its members in any order: each known key at most once, unknown keys with any values, and keys
whose values may be left out.  What has been read of it depends on the keys that have been met, and
not on their order.

* `Reads`: reading a text gives a value and leaves what follows it;
* `Column`, `SpellsObject`: the keys of a record type, and the objects that spell a record;
* `Fits`: a record type is read as its columns say;
* `reads_text`, `reads_boolean`, `reads_variant`, `reads_list`: the readers of values;
* `reads_object`: a record is read back from every object that spells it.
-/

namespace SchemaClass.Json

open Outcome
open Text (Cursor)

/-! ## 1. Simple values -/

section Simple

variable {α β : Type} {read : Reader α} {a : α} {text : List Char}

/-- Reading a text gives a value and leaves what follows it. -/
def Reads (read : Reader α) (a : α) (text : List Char) : Prop :=
  ∀ (ws : Blanks) (rest : List Char) (n : Nat),
    ∃ m, read ⟨ws.text ++ (text ++ rest), n⟩ = .ok (a, ⟨rest, m⟩)

theorem Reads.map (f : α → β) (h : Reads read a text) :
    Reads (fun c => (read c).map fun (a, d) => (f a, d)) (f a) text := by
  intro ws rest n
  obtain ⟨m, hm⟩ := h ws rest n
  exact ⟨m, map_eq_ok.mpr ⟨_, hm, rfl⟩⟩

/-- The spellings of a string. -/
inductive SpellsText (s : String) : List Char → Prop where
  | mk {cs : List Char} (h : Spells s.toList cs) : SpellsText s ('"' :: (cs ++ ['"']))

theorem SpellsText.head {s : String} (h : SpellsText s text) : ∃ xs, text = '"' :: xs := by
  obtain ⟨h⟩ := h
  exact ⟨_, rfl⟩

theorem reads_text {s : String} (h : SpellsText s text) : Reads readText s text := by
  intro ws rest n
  obtain ⟨hspelled⟩ := h
  rename_i cs
  obtain ⟨k, hk⟩ := skipBlanks_spelled ws (by decide : isBlank '"' = false) (cs ++ '"' :: rest) n
  obtain ⟨m, hm⟩ := readString_spelled hspelled rest (k + 1)
  refine ⟨m, ?_⟩
  rw [List.cons_append, List.append_assoc, List.singleton_append, readText, hk]
  exact (if_pos rfl).trans hm

/-- The spelling of a truth value. -/
def spelledBoolean (b : Bool) : List Char :=
  if b then ['t', 'r', 'u', 'e'] else ['f', 'a', 'l', 's', 'e']

theorem reads_boolean (b : Bool) : Reads readBoolean b (spelledBoolean b) := by
  intro ws rest n
  cases b with
  | false =>
    obtain ⟨k, hk⟩ := skipBlanks_spelled ws (by decide : isBlank 'f' = false)
      ('a' :: 'l' :: 's' :: 'e' :: rest) n
    obtain ⟨m, hm⟩ := word_spelled ['a', 'l', 's', 'e'] rest (k + 1)
    refine ⟨m, ?_⟩
    have htext : ws.text ++ (spelledBoolean false ++ rest)
        = ws.text ++ 'f' :: 'a' :: 'l' :: 's' :: 'e' :: rest := rfl
    rw [readBoolean, htext, hk]
    exact (if_neg nofun).trans ((if_pos rfl).trans (map_eq_ok.mpr ⟨_, hm, rfl⟩))
  | true =>
    obtain ⟨k, hk⟩ := skipBlanks_spelled ws (by decide : isBlank 't' = false)
      ('r' :: 'u' :: 'e' :: rest) n
    obtain ⟨m, hm⟩ := word_spelled ['r', 'u', 'e'] rest (k + 1)
    refine ⟨m, ?_⟩
    have htext : ws.text ++ (spelledBoolean true ++ rest)
        = ws.text ++ 't' :: 'r' :: 'u' :: 'e' :: rest :=
      rfl
    rw [readBoolean, htext, hk]
    exact (if_pos rfl).trans (map_eq_ok.mpr ⟨_, hm, rfl⟩)

/-- The spellings of a value that may be absent. -/
def SpellsOption (spells : α → List Char → Prop) : Option α → List Char → Prop
  | none, text => text = ['n', 'u', 'l', 'l']
  | some a, text => spells a text

theorem reads_null : Reads (readOption read) none ['n', 'u', 'l', 'l'] := by
  intro ws rest n
  obtain ⟨k, hk⟩ := skipBlanks_spelled ws (by decide : isBlank 'n' = false)
    ('u' :: 'l' :: 'l' :: rest) n
  obtain ⟨m, hm⟩ := word_spelled ['u', 'l', 'l'] rest (k + 1)
  refine ⟨m, ?_⟩
  have htext : ws.text ++ (['n', 'u', 'l', 'l'] ++ rest)
      = ws.text ++ 'n' :: 'u' :: 'l' :: 'l' :: rest :=
    rfl
  rw [readOption, htext, hk]
  exact (if_pos rfl).trans (map_eq_ok.mpr ⟨_, hm, rfl⟩)

theorem reads_some {x : Char} {xs : List Char} (hblank : isBlank x = false) (hx : x ≠ 'n')
    (h : Reads read a (x :: xs)) : Reads (readOption read) (some a) (x :: xs) := by
  intro ws rest n
  obtain ⟨k, hk⟩ := skipBlanks_spelled ws hblank (xs ++ rest) n
  obtain ⟨m, hm⟩ := h .none rest k
  refine ⟨m, ?_⟩
  rw [readOption, List.cons_append, hk]
  refine (if_neg fun hpeek => hx (Option.some.inj hpeek)).trans ?_
  exact map_eq_ok.mpr ⟨_, hm, rfl⟩

theorem reads_optionText {s : Option String} (h : SpellsOption SpellsText s text) :
    Reads (readOption readText) s text := by
  cases s with
  | none => exact h ▸ reads_null
  | some s =>
    obtain ⟨xs, rfl⟩ := h.head
    exact reads_some rfl (by decide) (reads_text h)

/-- One of several names. -/
theorem reads_variant {known : List String} {ofName? : String → Option α} {name : String}
    (hname : ofName? name = some a) (h : SpellsText name text) :
    Reads (readVariant known ofName?) a text := by
  intro ws rest n
  obtain ⟨hspelled⟩ := h
  rename_i cs
  obtain ⟨k, hk⟩ := skipBlanks_spelled ws (by decide : isBlank '"' = false) (cs ++ '"' :: rest) n
  obtain ⟨m, hm⟩ := readString_spelled hspelled rest (k + 1)
  refine ⟨m, ?_⟩
  rw [List.cons_append, List.append_assoc, List.singleton_append, readVariant, hk]
  refine (if_pos rfl).trans (bind_eq_ok.mpr ⟨_, hm, ?_⟩)
  dsimp only
  rw [hname]
  rfl

end Simple

/-! ## 2. Lists -/

section Lists

variable {α : Type} {read : Reader α}

/-- The lists that spell the elements of a list. -/
inductive SpellsList (spells : α → List Char → Prop) : List α → List Char → Prop where
  | mk (ws : Blanks) (elements : List (α × Padded)) (h : ∀ e ∈ elements, spells e.1 e.2.text) :
    SpellsList spells (elements.map (·.1))
      ('[' :: (between ws (elements.map (·.2.spelled)) ++ [']']))

theorem SpellsList.head {spells : α → List Char → Prop} {as : List α} {text : List Char}
    (h : SpellsList spells as text) : ∃ xs, text = '[' :: xs := by
  obtain ⟨ws, elements, h⟩ := h
  exact ⟨_, rfl⟩

theorem nextElement?_closing (ws : Blanks) (first : Bool) (rest : List Char) (n : Nat) :
    nextElement? first ⟨ws.text ++ ']' :: rest, n⟩ = .ok none := by
  obtain ⟨k, hk⟩ := skipBlanks_spelled ws (by decide : isBlank ']' = false) rest n
  rw [nextElement?, hk]
  exact if_pos rfl

theorem nextElement?_first (ws : Blanks) {text : List Char} (htext : StartsValue text)
    (rest : List Char) (n : Nat) :
    ∃ m, nextElement? true ⟨ws.text ++ (text ++ rest), n⟩ = .ok (some ⟨text ++ rest, m⟩) := by
  obtain ⟨x, xs, rfl, hblank, hclosing⟩ := htext
  obtain ⟨k, hk⟩ := skipBlanks_spelled ws hblank (xs ++ rest) n
  refine ⟨k, ?_⟩
  rw [nextElement?, List.cons_append, hk]
  exact (if_neg hclosing).trans (if_pos rfl)

theorem nextElement?_comma (ws ws' : Blanks) {text : List Char} (htext : StartsValue text)
    (rest : List Char) (n : Nat) :
    ∃ m, nextElement? false ⟨ws.text ++ ',' :: (ws'.text ++ (text ++ rest)), n⟩
      = .ok (some ⟨text ++ rest, m⟩) := by
  obtain ⟨x, xs, rfl, hblank, hclosing⟩ := htext
  obtain ⟨k, hk⟩ := skipBlanks_spelled ws (by decide : isBlank ',' = false)
    (ws'.text ++ (x :: xs ++ rest)) n
  obtain ⟨m, hm⟩ := skipBlanks_spelled ws' hblank (xs ++ rest) (k + 1)
  have hnext : (⟨',' :: (ws'.text ++ (x :: xs ++ rest)), k⟩ : Cursor).next
      = ⟨ws'.text ++ x :: (xs ++ rest), k + 1⟩ := rfl
  refine ⟨m, ?_⟩
  rw [nextElement?, hk, hnext, hm]
  exact (if_neg (by decide)).trans ((if_neg Bool.false_ne_true).trans
    ((if_pos rfl).trans (if_neg hclosing)))

theorem endList_spelled (ws : Blanks) (rest : List Char) (n : Nat) :
    ∃ m, endList ⟨ws.text ++ ']' :: rest, n⟩ = .ok ⟨rest, m⟩ := by
  obtain ⟨k, hk⟩ := skipBlanks_spelled ws (by decide : isBlank ']' = false) rest n
  refine ⟨k + 1, ?_⟩
  rw [endList, hk]
  exact if_pos rfl

theorem readElements_end {first : Bool} {c : Cursor} (h : nextElement? first c = .ok none) :
    readElements read first c = .ok ([], c) := by
  rw [readElements]
  exact bind_eq_ok.mpr ⟨none, h, rfl⟩

/-- One element, and the elements behind it. -/
theorem readElements_step {first : Bool} {c d e f : Cursor} {a : α} {as : List α}
    (hnext : nextElement? first c = .ok (some d)) (hread : read d = .ok (a, e))
    (hleft : e.left < c.left) (hrest : readElements read false e = .ok (as, f)) :
    readElements read first c = .ok (a :: as, f) := by
  rw [readElements]
  refine bind_eq_ok.mpr ⟨_, hnext, bind_eq_ok.mpr ⟨_, hread, ?_⟩⟩
  exact (if_pos hleft).trans (bind_eq_ok.mpr ⟨_, hrest, rfl⟩)

theorem StartsValue.length_pos {text : List Char} (h : StartsValue text) : 0 < text.length := by
  obtain ⟨x, xs, rfl, -, -⟩ := h
  exact Nat.succ_pos _

theorem readElements_tail {elements : List (α × Padded)}
    (h : ∀ e ∈ elements, StartsValue e.2.text ∧ Reads read e.1 e.2.text) (ws : Blanks)
    (rest : List Char) (n : Nat) :
    ∃ (ws' : Blanks) (m : Nat),
      readElements read false ⟨ws.text ++ tail .list (elements.map (·.2.spelled)) rest, n⟩
        = .ok (elements.map (·.1), ⟨ws'.text ++ ']' :: rest, m⟩) := by
  induction elements generalizing ws n with
  | nil => exact ⟨ws, n, readElements_end (nextElement?_closing ws false rest n)⟩
  | cons e elements ih =>
    rw [List.forall_mem_cons] at h
    replace ih := ih h.2
    rw [List.map_cons, tail_cons, Padded.spelled_append]
    generalize tail .list (elements.map (·.2.spelled)) rest = more at ih ⊢
    obtain ⟨k, hk⟩ := nextElement?_comma ws e.2.before h.1.1 (e.2.behind.text ++ more) n
    obtain ⟨l, hl⟩ := h.1.2 .none (e.2.behind.text ++ more) k
    obtain ⟨ws', m, hm⟩ := ih e.2.behind l
    refine ⟨ws', m, readElements_step hk hl ?_ hm⟩
    have hpos := h.1.1.length_pos
    simp only [Cursor.left, List.length_append, List.length_cons]
    omega

/-- **A list is read** element by element. -/
theorem reads_elements {elements : List (α × Padded)}
    (h : ∀ e ∈ elements, StartsValue e.2.text ∧ Reads read e.1 e.2.text) (ws : Blanks) :
    Reads (readList read) (elements.map (·.1))
      ('[' :: (between ws (elements.map (·.2.spelled)) ++ [']'])) := by
  intro ws' rest n
  obtain ⟨k, hk⟩ := skipBlanks_spelled ws' (by decide : isBlank '[' = false)
    (between ws (elements.map (·.2.spelled)) ++ ']' :: rest) n
  obtain ⟨ws'', l, hl⟩ : ∃ (ws'' : Blanks) (l : Nat), readElements read true
      ⟨between ws (elements.map (·.2.spelled)) ++ ']' :: rest, k + 1⟩
        = .ok (elements.map (·.1), ⟨ws''.text ++ ']' :: rest, l⟩) := by
    cases elements with
    | nil => exact ⟨ws, k + 1, readElements_end (nextElement?_closing ws true rest (k + 1))⟩
    | cons e elements =>
      rw [List.forall_mem_cons] at h
      have htail := readElements_tail h.2 e.2.behind rest
      have htext : between ws ((e :: elements).map (·.2.spelled)) ++ ']' :: rest
          = e.2.before.text ++ (e.2.text ++ (e.2.behind.text
            ++ tail .list (elements.map (·.2.spelled)) rest)) := by
        rw [List.map_cons, between, List.append_assoc, Padded.spelled_append]
        rfl
      rw [htext]
      generalize tail .list (elements.map (·.2.spelled)) rest = more at htail ⊢
      obtain ⟨j, hj⟩ := nextElement?_first e.2.before h.1.1 (e.2.behind.text ++ more) (k + 1)
      obtain ⟨l, hl⟩ := h.1.2 .none (e.2.behind.text ++ more) j
      obtain ⟨ws'', m, hm⟩ := htail l
      refine ⟨ws'', m, readElements_step hj hl ?_ hm⟩
      have hpos := h.1.1.length_pos
      simp only [Cursor.left, List.length_append]
      omega
  obtain ⟨m, hm⟩ := endList_spelled ws'' rest l
  refine ⟨m, ?_⟩
  have hnext : (⟨'[' :: (between ws (elements.map (·.2.spelled)) ++ ']' :: rest), k⟩ :
      Cursor).next = ⟨between ws (elements.map (·.2.spelled)) ++ ']' :: rest, k + 1⟩ := rfl
  rw [List.cons_append, List.append_assoc, List.singleton_append, readList, hk]
  exact (if_pos rfl).trans (bind_eq_ok.mpr ⟨_, hl, bind_eq_ok.mpr ⟨_, hm, rfl⟩⟩)

theorem reads_list {spells : α → List Char → Prop}
    (h : ∀ a text, spells a text → StartsValue text ∧ Reads read a text) {as : List α}
    {text : List Char} (hspelled : SpellsList spells as text) : Reads (readList read) as text := by
  obtain ⟨ws, elements, helements⟩ := hspelled
  exact reads_elements (fun e he => h _ _ (helements e he)) _

end Lists

/-! ## 3. Records -/

/-- A field of a record type as it may be written: its key, the spellings of its value, and the
records in which it may be left out. -/
structure Column (α : Type) where
  key : String
  spells : α → List Char → Prop
  optional : α → Prop

section Records

variable {δ α : Type} {columns : List (Column α)} {a : α}

/-- What some members of an object say, each of them with its key read, where `met` are the keys of
those before them.  Only a key that nobody knows may occur again. -/
structure Says (columns : List (Column α)) (a : α) (met : List String)
    (members : List (String × Member)) : Prop where
  keys : ∀ m ∈ members, Spells m.1.toList m.2.key
  fresh : ∀ m ∈ members, ∀ c ∈ columns, m.1 = c.key → c.key ∉ met
  once : members.Pairwise fun m m' => m.1 = m'.1 → ∀ c ∈ columns, m.1 ≠ c.key
  known : ∀ m ∈ members, ∀ c ∈ columns, m.1 = c.key → c.spells a m.2.value.text
  unknown : ∀ m ∈ members, (∀ c ∈ columns, m.1 ≠ c.key) → IsValue m.2.value.text

/-- The members of an object describe a record: what is missing may be left out. -/
structure Describes (columns : List (Column α)) (a : α) (members : List (String × Member)) : Prop
    extends Says columns a [] members where
  missing : ∀ c ∈ columns, c.key ∉ members.map (·.1) → c.optional a

/-- The objects that spell a record. -/
inductive SpellsObject (columns : List (Column α)) (a : α) : List Char → Prop where
  | mk (ws : Blanks) (members : List (String × Member)) (h : Describes columns a members) :
    SpellsObject columns a
      ('\x7b' :: (between ws (members.map (·.2.spelled)) ++ ['\x7d']))

theorem SpellsObject.head {text : List Char} (h : SpellsObject columns a text) :
    ∃ xs, text = '\x7b' :: xs := by
  obtain ⟨ws, members, h⟩ := h
  exact ⟨_, rfl⟩

theorem SpellsObject.startsValue {text : List Char} (h : SpellsObject columns a text) :
    StartsValue text := by
  obtain ⟨xs, hxs⟩ := h.head
  exact ⟨'\x7b', xs, hxs, rfl, by decide⟩

/-- A record type is read as its columns say.  The draft depends on the keys that have been met. -/
structure Fits (r : Record δ α) (columns : List (Column α)) (draft : α → List String → δ) :
    Prop where
  empty : ∀ a, draft a [] = r.empty
  known : ∀ a keys, ∀ c ∈ columns, c.key ∉ keys →
    ∃ read, r.slot (draft a keys) c.key = .free read ∧
      ∀ text, c.spells a text → Reads read (draft a (c.key :: keys)) text
  unknown : ∀ a keys key, (∀ c ∈ columns, key ≠ c.key) → r.slot (draft a keys) key = .unknown
  finish : ∀ a keys, (∀ c ∈ columns, c.key ∉ keys → c.optional a) →
    r.finish (draft a keys) = .ok a

/-- A value where its key has been met. -/
def met {β : Type} (keys : List String) (key : String) (b : β) : Option β :=
  if key ∈ keys then some b else none

theorem met_of_mem {β : Type} {keys : List String} {key : String} (h : key ∈ keys) (b : β) :
    met keys key b = some b := if_pos h

theorem getD_met {β : Type} {keys : List String} {key : String} {b fallback : β}
    (h : key ∉ keys → b = fallback) : (met keys key b).getD fallback = b := by
  by_cases hkey : key ∈ keys
  · rw [met_of_mem hkey, Option.getD_some]
  · rw [met, if_neg hkey, Option.getD_none, h hkey]

theorem join_met {β : Type} {keys : List String} {key : String} {b : Option β}
    (h : key ∉ keys → b = none) : (met keys key b).join = b := by
  by_cases hkey : key ∈ keys
  · rw [met_of_mem hkey, Option.join_some]
  · rw [met, if_neg hkey, Option.join_none, h hkey]

/-- A key that has not been met is free, and filling it in is meeting it. -/
theorem free_of_not_met {β : Type} {r : Record δ α} {draft : α → List String → δ}
    {keys : List String} {key : String} {b : β} {read : Reader β} {set : β → δ}
    {spells : List Char → Prop} (hkey : key ∉ keys)
    (hslot : r.slot (draft a keys) key = .of (met keys key b) read set)
    (hset : set b = draft a (key :: keys)) (hreads : ∀ text, spells text → Reads read b text) :
    ∃ read', r.slot (draft a keys) key = .free read' ∧
      ∀ text, spells text → Reads read' (draft a (key :: keys)) text := by
  refine ⟨fun c => (read c).map fun (b, d) => (set b, d), ?_, fun text h => ?_⟩
  · rw [hslot, met, if_neg hkey]
    rfl
  · rw [← hset]
    exact (hreads text h).map set

/-! ### Keys -/

theorem nextKey?_closing (ws : Blanks) (first : Bool) (rest : List Char) (n : Nat) :
    nextKey? first ⟨ws.text ++ '\x7d' :: rest, n⟩ = .ok none := by
  obtain ⟨k, hk⟩ := skipBlanks_spelled ws (by decide : isBlank '\x7d' = false) rest n
  rw [nextKey?, hk]
  exact if_pos rfl

/-- A member behind its key. -/
def Member.behindKey (m : Member) (rest : List Char) : List Char :=
  m.behind.text ++ ':' :: (m.value.spelled ++ rest)

theorem Member.spelled_append (m : Member) (rest : List Char) :
    m.spelled ++ rest = m.before.text ++ '"' :: (m.key ++ '"' :: m.behindKey rest) := by
  rw [spelled, start, behindKey, List.append_assoc, List.append_assoc, List.cons_append,
    List.append_assoc, List.cons_append, List.append_assoc]
  rfl

theorem nextKey?_first {name : String} {m : Member} (h : Spells name.toList m.key)
    (rest : List Char) (n : Nat) :
    ∃ k, nextKey? true ⟨m.spelled ++ rest, n⟩ = .ok (some (name, ⟨m.behindKey rest, k⟩)) := by
  rw [Member.spelled_append]
  obtain ⟨j, hj⟩ := skipBlanks_spelled m.before (by decide : isBlank '"' = false)
    (m.key ++ '"' :: m.behindKey rest) n
  obtain ⟨k, hk⟩ := readString_spelled h (m.behindKey rest) (j + 1)
  refine ⟨k, ?_⟩
  rw [nextKey?, hj]
  exact (if_neg (by decide)).trans ((if_pos rfl).trans ((if_pos rfl).trans
    (map_eq_ok.mpr ⟨_, hk, rfl⟩)))

theorem nextKey?_comma (ws : Blanks) {name : String} {m : Member} (h : Spells name.toList m.key)
    (rest : List Char) (n : Nat) :
    ∃ k, nextKey? false ⟨ws.text ++ ',' :: (m.spelled ++ rest), n⟩
      = .ok (some (name, ⟨m.behindKey rest, k⟩)) := by
  rw [Member.spelled_append]
  obtain ⟨j, hj⟩ := skipBlanks_spelled ws (by decide : isBlank ',' = false)
    (m.before.text ++ '"' :: (m.key ++ '"' :: m.behindKey rest)) n
  obtain ⟨i, hi⟩ := skipBlanks_spelled m.before (by decide : isBlank '"' = false)
    (m.key ++ '"' :: m.behindKey rest) (j + 1)
  obtain ⟨k, hk⟩ := readString_spelled h (m.behindKey rest) (i + 1)
  have hnext : (⟨',' :: (m.before.text ++ '"' :: (m.key ++ '"' :: m.behindKey rest)), j⟩ :
      Cursor).next = ⟨m.before.text ++ '"' :: (m.key ++ '"' :: m.behindKey rest), j + 1⟩ := rfl
  refine ⟨k, ?_⟩
  rw [nextKey?, hj, hnext, hi]
  exact (if_neg (by decide)).trans ((if_neg Bool.false_ne_true).trans ((if_pos rfl).trans
    ((if_pos rfl).trans (map_eq_ok.mpr ⟨_, hk, rfl⟩))))

/-! ### Members -/

variable {r : Record δ α} {draft : α → List String → δ}

theorem readMembers_end {d : δ} {first : Bool} {c : Cursor} (h : nextKey? first c = .ok none) :
    readMembers r d first c = .ok (d, c) := by
  rw [readMembers]
  exact bind_eq_ok.mpr ⟨none, h, rfl⟩

/-- One member: what it says is read.  The keys that have been met are then those before and its
own, as far as the record type knows them. -/
theorem readMembers_step (hfits : Fits r columns draft) {met : List String}
    {m : String × Member} {members : List (String × Member)}
    (hmembers : Says columns a met (m :: members)) {first : Bool} {c : Cursor} {more : List Char}
    {k : Nat} (hends : Ends more)
    (hnext : nextKey? first c = .ok (some (m.1, ⟨m.2.behindKey more, k⟩)))
    (hleft : m.2.value.behind.text.length + more.length < c.left) :
    ∃ met' l, (∀ c ∈ columns, c.key ∈ met' ↔ c.key ∈ met ∨ c.key = m.1) ∧
      ∀ result, readMembers r (draft a met') false ⟨m.2.value.behind.text ++ more, l⟩ = .ok result →
        readMembers r (draft a met) first c = .ok result := by
  obtain ⟨j, hj⟩ : ∃ j, colon ⟨m.2.behindKey more, k⟩
      = .ok ⟨m.2.value.before.text ++ (m.2.value.text ++ (m.2.value.behind.text ++ more)), j⟩ := by
    rw [← Padded.spelled_append]
    exact colon_spelled m.2.behind (m.2.value.spelled ++ more) k
  have hleft' : ∀ l, (⟨m.2.value.behind.text ++ more, l⟩ : Cursor).left < c.left := by
    intro l
    rw [Cursor.left, List.length_append]
    exact hleft
  by_cases hcolumn : ∃ c ∈ columns, m.1 = c.key
  · obtain ⟨column, hmem, hkey⟩ := hcolumn
    have hspells := hmembers.known m List.mem_cons_self column hmem hkey
    obtain ⟨read, hslot, hreads⟩ := hfits.known a met column hmem
      (hmembers.fresh m List.mem_cons_self column hmem hkey)
    obtain ⟨l, hl⟩ := hreads _ hspells m.2.value.before (m.2.value.behind.text ++ more) j
    refine ⟨column.key :: met, l, fun c _ => by rw [List.mem_cons, or_comm, hkey], ?_⟩
    intro result hresult
    rw [readMembers]
    refine bind_eq_ok.mpr ⟨_, hnext, ?_⟩
    dsimp only
    rw [hkey, hslot]
    exact bind_eq_ok.mpr ⟨_, hj, bind_eq_ok.mpr ⟨_, hl, (if_pos (hleft' l)).trans hresult⟩⟩
  · have hnone : ∀ c ∈ columns, m.1 ≠ c.key := fun c hc heq => hcolumn ⟨c, hc, heq⟩
    obtain ⟨l, hl⟩ :=
      passValue_spelled (hmembers.unknown m List.mem_cons_self hnone) m.2.value.before
      (ends_blanks m.2.value.behind hends) j
    refine ⟨met, l, fun c hc => (or_iff_left (hnone c hc).symm).symm, ?_⟩
    intro result hresult
    rw [readMembers]
    refine bind_eq_ok.mpr ⟨_, hnext, ?_⟩
    dsimp only
    rw [hfits.unknown a met m.1 hnone]
    exact bind_eq_ok.mpr ⟨_, hj, bind_eq_ok.mpr ⟨_, hl, (if_pos (hleft' l)).trans hresult⟩⟩

theorem Says.rest {met met' : List String} {m : String × Member}
    {members : List (String × Member)} (h : Says columns a met (m :: members))
    (hmet : ∀ c ∈ columns, c.key ∈ met' ↔ c.key ∈ met ∨ c.key = m.1) :
    Says columns a met' members := by
  obtain ⟨hfirst, honce⟩ := List.pairwise_cons.mp h.once
  refine ⟨fun m' hm' => h.keys m' (List.mem_cons_of_mem m hm'), ?_, honce,
    fun m' hm' => h.known m' (List.mem_cons_of_mem m hm'),
    fun m' hm' => h.unknown m' (List.mem_cons_of_mem m hm')⟩
  intro m' hm' c hc hkey hmem
  rcases (hmet c hc).mp hmem with hold | hnew
  · exact h.fresh m' (List.mem_cons_of_mem m hm') c hc hkey hold
  · exact hfirst m' hm' (hnew.symm.trans hkey.symm) c hc hnew.symm

theorem readMembers_tail (hfits : Fits r columns draft) {members : List (String × Member)}
    {met : List String} (hmembers : Says columns a met members) (ws : Blanks) (rest : List Char)
    (n : Nat) :
    ∃ met', ∃ (ws' : Blanks) (m : Nat),
      (∀ c ∈ columns, c.key ∈ met' ↔ c.key ∈ met ∨ c.key ∈ members.map (·.1)) ∧
      readMembers r (draft a met) false
          ⟨ws.text ++ tail .object (members.map (·.2.spelled)) rest, n⟩
        = .ok (draft a met', ⟨ws'.text ++ '\x7d' :: rest, m⟩) := by
  induction members generalizing met ws n with
  | nil =>
    refine ⟨met, ws, n, fun c _ => (or_iff_left List.not_mem_nil).symm, ?_⟩
    exact readMembers_end (nextKey?_closing ws false rest n)
  | cons m members ih =>
    have hends := ends_tail .object (members.map (·.2.spelled)) rest
    rw [List.map_cons, List.map_cons, tail_cons]
    replace ih := fun met' (hmet : ∀ c ∈ columns, c.key ∈ met' ↔ c.key ∈ met ∨ c.key = m.1) =>
      ih (hmembers.rest hmet) m.2.value.behind
    generalize tail .object (members.map (·.2.spelled)) rest = more at ih hends ⊢
    obtain ⟨k, hk⟩ := nextKey?_comma ws (hmembers.keys m List.mem_cons_self) more n
    have hleft : m.2.value.behind.text.length + more.length
        < (⟨ws.text ++ ',' :: (m.2.spelled ++ more), n⟩ : Cursor).left := by
      simp only [Cursor.left, Member.spelled, Padded.spelled, List.length_append,
        List.length_cons]
      omega
    obtain ⟨met', l, hmet, hstep⟩ := readMembers_step hfits hmembers hends hk hleft
    obtain ⟨met'', ws', i, hmet', hrest⟩ := ih met' hmet l
    refine ⟨met'', ws', i, fun c hc => ?_, hstep _ hrest⟩
    rw [hmet' c hc, hmet c hc, List.mem_cons, or_assoc]

theorem readMembers_between (hfits : Fits r columns draft) {members : List (String × Member)}
    (hmembers : Says columns a [] members) (ws : Blanks) (rest : List Char) (n : Nat) :
    ∃ met, ∃ (ws' : Blanks) (m : Nat),
      (∀ c ∈ columns, c.key ∈ met ↔ c.key ∈ members.map (·.1)) ∧
      readMembers r (draft a []) true
          ⟨between ws (members.map (·.2.spelled)) ++ '\x7d' :: rest, n⟩
        = .ok (draft a met, ⟨ws'.text ++ '\x7d' :: rest, m⟩) := by
  cases members with
  | nil =>
    refine ⟨[], ws, n, fun c _ => Iff.rfl, ?_⟩
    exact readMembers_end (nextKey?_closing ws true rest n)
  | cons m members =>
    have hends := ends_tail .object (members.map (·.2.spelled)) rest
    have htext : between ws ((m :: members).map (·.2.spelled)) ++ '\x7d' :: rest
        = m.2.spelled ++ tail .object (members.map (·.2.spelled)) rest := by
      rw [List.map_cons, between, List.append_assoc]
      rfl
    rw [htext]
    have htail := fun met (hmet : ∀ c ∈ columns, c.key ∈ met ↔ c.key ∈ [] ∨ c.key = m.1) =>
      readMembers_tail hfits (hmembers.rest hmet) m.2.value.behind rest
    generalize tail .object (members.map (·.2.spelled)) rest = more at htail hends ⊢
    obtain ⟨k, hk⟩ := nextKey?_first (hmembers.keys m List.mem_cons_self) more n
    have hleft : m.2.value.behind.text.length + more.length
        < (⟨m.2.spelled ++ more, n⟩ : Cursor).left := by
      simp only [Cursor.left, Member.spelled, Member.start, Padded.spelled, List.length_append,
        List.length_cons]
      omega
    obtain ⟨met, l, hmet, hstep⟩ := readMembers_step hfits hmembers hends hk hleft
    obtain ⟨met', ws', i, hmet', hrest⟩ := htail met hmet l
    refine ⟨met', ws', i, fun c hc => ?_, hstep _ hrest⟩
    rw [hmet' c hc, hmet c hc, or_iff_right List.not_mem_nil, List.map_cons, List.mem_cons]

theorem endObject_spelled (ws : Blanks) (rest : List Char) (n : Nat) :
    ∃ m, endObject ⟨ws.text ++ '\x7d' :: rest, n⟩ = .ok ⟨rest, m⟩ := by
  obtain ⟨k, hk⟩ := skipBlanks_spelled ws (by decide : isBlank '\x7d' = false) rest n
  refine ⟨k + 1, ?_⟩
  rw [endObject, hk]
  exact if_pos rfl

/-- **A record is read back** from every object that spells it. -/
theorem reads_object (hfits : Fits r columns draft) {text : List Char}
    (h : SpellsObject columns a text) : Reads (readRecord r) a text := by
  intro ws' rest n
  obtain ⟨ws, members, hdescribes⟩ := h
  obtain ⟨k, hk⟩ := skipBlanks_spelled ws' (by decide : isBlank '\x7b' = false)
    (between ws (members.map (·.2.spelled)) ++ '\x7d' :: rest) n
  obtain ⟨met, ws'', l, hmet, hl⟩ :=
    readMembers_between hfits hdescribes.toSays ws rest (k + 1)
  obtain ⟨m, hm⟩ := endObject_spelled ws'' rest l
  have hfinish : r.finish (draft a met) = .ok a :=
    hfits.finish a met fun c hc hkey => hdescribes.missing c hc (mt (hmet c hc).mpr hkey)
  have hmembers : readMembers r r.empty true (⟨'\x7b' :: (between ws (members.map (·.2.spelled))
      ++ '\x7d' :: rest), k⟩ : Cursor).next = .ok (draft a met, ⟨ws''.text ++ '\x7d' :: rest, l⟩) := by
    rw [← hfits.empty a]
    exact hl
  refine ⟨m, ?_⟩
  rw [List.cons_append, List.append_assoc, List.singleton_append, readRecord, hk]
  refine (if_pos rfl).trans (bind_eq_ok.mpr ⟨_, hmembers, ?_⟩)
  dsimp only
  rw [hfinish]
  exact bind_eq_ok.mpr ⟨_, hm, rfl⟩

end Records

/-- A text that is a value but for the blanks around it. -/
theorem readWhole_spelled {α : Type} {read : Reader α} {a : α} {p : Padded}
    (h : Reads read a p.text) : readWhole read p.spelled = .ok a := by
  obtain ⟨m, hm⟩ := h p.before p.behind.text 0
  refine bind_eq_ok.mpr ⟨_, hm, ?_⟩
  exact if_pos (by rw [skipBlanks_end]; rfl)

end SchemaClass.Json
