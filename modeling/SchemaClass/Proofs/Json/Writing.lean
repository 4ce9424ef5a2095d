import SchemaClass.Json.Writer
import SchemaClass.Proofs.Json.Reading
/-!
# What is written is a spelling

The compact form is one of the many spellings of a value, the one without blanks and with as few
escapes as can be.

* `spellsText_writeText`, `spellsOption_writeOption`, `spellsList_writeList`: values;
* `spellsObject_writeObject`: an object whose members describe a record.
-/

namespace SchemaClass.Json

/-! ## 1. Strings -/

/-- The last two digits of a control character. -/
theorem hexNumber?_control {x : Char} (h : x.toNat < 0x20) :
    hexNumber? '0' '0' (Nat.digitChar (x.toNat / 16)) (Nat.digitChar (x.toNat % 16))
      = some x.toNat := by
  have hall : ∀ k < 0x20,
      hexNumber? '0' '0' (Nat.digitChar (k / 16)) (Nat.digitChar (k % 16)) = some k := by decide
  exact hall x.toNat h

theorem spells_writeChar (x : Char) {xs cs : List Char} (h : Spells xs cs) :
    Spells (x :: xs) (writeChar x ++ cs) := by
  rw [writeChar.eq_def]
  split
  case h_8 hquote hbackslash _ _ _ _ _ =>
    split
    · next hcontrol => exact .number (hexNumber?_control hcontrol) h
    · next hcontrol => exact .plain ⟨hquote, hbackslash, Nat.not_lt.mp hcontrol⟩ h
  all_goals exact .short rfl h

theorem spells_write (xs : List Char) : Spells xs (xs.flatMap writeChar) := by
  induction xs with
  | nil => exact .nil
  | cons x xs ih => exact spells_writeChar x ih

theorem spellsText_writeText (s : String) : SpellsText s (writeText s) :=
  .mk (spells_write s.toList)

theorem writeBoolean_eq (b : Bool) : writeBoolean b = spelledBoolean b := rfl

/-! ## 2. Values with parts -/

variable {α : Type} {spells : α → List Char → Prop} {write : α → List Char}

theorem spellsOption_writeOption (h : ∀ a, spells a (write a)) (a : Option α) :
    SpellsOption spells a (writeOption write a) := by
  cases a with
  | none => rfl
  | some a => exact h a

/-- A text without blanks around it. -/
def bare (text : List Char) : Padded := ⟨.none, text, .none⟩

theorem spelled_bare (text : List Char) : (bare text).spelled = text := by
  rw [Padded.spelled, bare, Blanks.none, List.nil_append, List.append_nil]

theorem commas_eq_between (items : List (List Char)) : commas items = between .none items := by
  cases items <;> rfl

theorem spellsList_writeList {as : List α} (h : ∀ a ∈ as, spells a (write a)) :
    SpellsList spells as (writeList write as) := by
  have hlist : SpellsList spells ((as.map fun a => (a, bare (write a))).map (·.1))
      ('[' :: (between .none ((as.map fun a => (a, bare (write a))).map (·.2.spelled))
        ++ [']'])) := by
    refine .mk .none _ fun e he => ?_
    obtain ⟨a, ha, rfl⟩ := List.mem_map.mp he
    exact h a ha
  rw [List.map_map, List.map_map] at hlist
  simp only [Function.comp_def, spelled_bare, List.map_id'] at hlist
  rw [writeList, commas_eq_between]
  exact hlist

/-- A member without blanks in it. -/
def bareMember (member : String × List Char) : String × Member :=
  (member.1, ⟨.none, member.1.toList.flatMap writeChar, .none, bare member.2⟩)

theorem spelled_bareMember (member : String × List Char) :
    (bareMember member).2.spelled = writeText member.1 ++ ':' :: member.2 := by
  simp [bareMember, Member.spelled, Member.start, spelled_bare, writeText, Blanks.none]

/-- Members with different keys describe a record, if each says what the column of its key wants. -/
theorem describes_bareMember {columns : List (Column α)} {a : α}
    {members : List (String × List Char)} (hnodup : (members.map (·.1)).Nodup)
    (hknown : ∀ m ∈ members, ∃ c ∈ columns, m.1 = c.key)
    (hspells : ∀ m ∈ members, ∀ c ∈ columns, m.1 = c.key → c.spells a m.2)
    (hmissing : ∀ c ∈ columns, c.key ∉ members.map (·.1) → c.optional a) :
    Describes columns a (members.map bareMember) where
  keys m hm := by
    obtain ⟨member, -, rfl⟩ := List.mem_map.mp hm
    exact spells_write member.1.toList
  fresh _ _ _ _ _ := List.not_mem_nil
  once := by
    rw [List.pairwise_map]
    exact (List.pairwise_map.mp hnodup).imp fun hne heq => absurd heq hne
  known m hm c hc hkey := by
    obtain ⟨member, hmember, rfl⟩ := List.mem_map.mp hm
    exact hspells member hmember c hc hkey
  unknown m hm hnone := by
    obtain ⟨member, hmember, rfl⟩ := List.mem_map.mp hm
    obtain ⟨c, hc, hkey⟩ := hknown member hmember
    exact absurd hkey (hnone c hc)
  missing c hc hkey := by
    refine hmissing c hc fun hmem => hkey ?_
    rw [List.map_map]
    exact hmem

/-- **An object is written as one that spells a record**, if its members describe the record. -/
theorem spellsObject_writeObject {columns : List (Column α)} {a : α}
    {members : List (String × List Char)} (h : Describes columns a (members.map bareMember)) :
    SpellsObject columns a (writeObject members) := by
  have hobject := SpellsObject.mk .none _ h
  rw [List.map_map] at hobject
  simp only [Function.comp_def, spelled_bareMember] at hobject
  rw [writeObject, commas_eq_between]
  exact hobject

end SchemaClass.Json
