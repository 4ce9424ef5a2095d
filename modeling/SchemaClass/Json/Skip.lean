import SchemaClass.Json.Token
/-!
# Passing a value

A value that nobody asks for is passed without being kept.  It still has to be valid JSON, but its
numbers may be of any size and it may be nested to any depth: what is open is a stack of brackets.

* `passValue`: passes one value;
* `passScalar_left_lt`, `startMember_left_lt`: each step takes something from the text.
-/

namespace SchemaClass.Json

open Text (Cursor)

/-- An open bracket. -/
inductive Bracket where
  | list
  | object
  deriving DecidableEq, Repr

namespace Bracket

def closing : Bracket → Char
  | list => ']'
  | object => '\x7d'

/-- What is said where neither a comma nor the closing bracket stands. -/
def noSeparator : Bracket → Cause
  | list => .noListSeparator
  | object => .noObjectSeparator

/-- What is said where the text ends before the closing bracket. -/
def endInside : Bracket → Cause
  | list => .endInList
  | object => .endInObject

end Bracket

/-- Passes a value that is no list and no object. -/
def passScalar (c : Cursor) : Except Fault Cursor :=
  match c.rest with
  | [] => failAhead c .endInValue
  | x :: _ =>
    if x = 'n' then word ['u', 'l', 'l'] c.next
    else if x = 't' then word ['r', 'u', 'e'] c.next
    else if x = 'f' then word ['a', 'l', 's', 'e'] c.next
    else if x = '"' then passString c.next
    else if x = '-' || x.isDigit then passNumber c
    else failAhead c .noValue

/-- Passes the colon behind a key. -/
def colon (c : Cursor) : Except Fault Cursor :=
  let c := skipBlanks c
  match c.rest with
  | [] => failAhead c .endInObject
  | x :: _ => if x = ':' then .ok c.next else failAhead c .noColon

/-- Passes the key of a member and its colon. -/
def passKey (c : Cursor) : Except Fault Cursor :=
  let c := skipBlanks c
  match c.rest with
  | [] => failAhead c .endInObject
  | x :: _ => if x = '"' then passString c.next >>= colon else failAhead c .keyNotString

/-- Passes what stands before the next value in a bracket. -/
def startMember : Bracket → Cursor → Except Fault Cursor
  | .list, c => .ok c
  | .object, c => passKey c

theorem passScalar_left_lt {c d : Cursor} (h : passScalar c = .ok d) : d.left < c.left := by
  unfold passScalar at h
  split at h
  · cases h
  · next x xs hc =>
    have hn : c.next.left < c.left := Cursor.next_left_lt (by simp [hc])
    split at h
    · have := word_left_le h; omega
    · split at h
      · have := word_left_le h; omega
      · split at h
        · have := word_left_le h; omega
        · split at h
          · have := passString_left_lt h; omega
          · split at h
            · exact passNumber_left_lt h
            · cases h

theorem colon_left_lt {c d : Cursor} (h : colon c = .ok d) : d.left < c.left := by
  have hb := skipBlanks_left_le c
  unfold colon at h
  dsimp only at h
  split at h
  · cases h
  · next x xs hc =>
    split at h
    · cases h
      have : (skipBlanks c).next.left < (skipBlanks c).left :=
        Cursor.next_left_lt (by simp [hc])
      omega
    · cases h

theorem passKey_left_lt {c d : Cursor} (h : passKey c = .ok d) : d.left < c.left := by
  have hb := skipBlanks_left_le c
  unfold passKey at h
  dsimp only at h
  split at h
  · cases h
  · next x xs hc =>
    have hn : (skipBlanks c).next.left < (skipBlanks c).left :=
      Cursor.next_left_lt (by simp [hc])
    split at h
    · cases hs : passString (skipBlanks c).next with
      | error f => simp [hs, bind, Except.bind] at h
      | ok e =>
        simp only [hs, bind, Except.bind] at h
        have := passString_left_lt hs
        have := colon_left_lt h
        omega
    · cases h

theorem startMember_left_le {b : Bracket} {c d : Cursor} (h : startMember b c = .ok d) :
    d.left ≤ c.left := by
  cases b with
  | list => cases h; exact Nat.le_refl _
  | object => exact Nat.le_of_lt (passKey_left_lt h)

/-- What is left to do: a value, or the end of one inside a bracket.  The flag says whether a value
has been passed in that bracket, so that a comma may follow. -/
inductive Task where
  | value
  | inside (bracket : Bracket) (comma : Bool)

/-- Passes one value and the rest of every bracket that is still open. -/
def passOpen (task : Task) (stack : List Bracket) (c : Cursor) : Except Fault Cursor :=
  match task with
  | .value =>
    let d := skipBlanks c
    if _h : d.peek? = some '[' then passOpen (.inside .list false) stack d.next
    else if _h : d.peek? = some '\x7b' then passOpen (.inside .object false) stack d.next
    else
      match _h : passScalar d with
      | .error f => .error f
      | .ok e =>
        match stack with
        | [] => .ok e
        | b :: stack => passOpen (.inside b true) stack e
  | .inside b comma =>
    let d := skipBlanks c
    match _h : d.peek? with
    | none => failAhead d b.endInside
    | some x =>
      if x = b.closing then
        match stack with
        | [] => .ok d.next
        | b :: stack => passOpen (.inside b true) stack d.next
      else if comma then
        if x = ',' then
          match _h' : startMember b d.next with
          | .error f => .error f
          | .ok e => passOpen .value (b :: stack) e
        else failAhead d b.noSeparator
      else
        match _h' : startMember b d with
        | .error f => .error f
        | .ok e => passOpen .value (b :: stack) e
termination_by (c.left, match task with | .value => 0 | .inside _ _ => 1)
decreasing_by
  all_goals have hb := skipBlanks_left_le c
  · exact Prod.Lex.left _ _ (Nat.lt_of_lt_of_le (Cursor.next_left_lt_of_peek? _h) hb)
  · exact Prod.Lex.left _ _ (Nat.lt_of_lt_of_le (Cursor.next_left_lt_of_peek? _h) hb)
  · exact Prod.Lex.left _ _ (Nat.lt_of_lt_of_le (passScalar_left_lt _h) hb)
  · exact Prod.Lex.left _ _ (Nat.lt_of_lt_of_le (Cursor.next_left_lt_of_peek? _h) hb)
  · exact Prod.Lex.left _ _ (Nat.lt_of_le_of_lt (startMember_left_le _h')
      (Nat.lt_of_lt_of_le (Cursor.next_left_lt_of_peek? _h) hb))
  · have he : e.left ≤ (skipBlanks c).left := startMember_left_le _h'
    rcases Nat.lt_or_ge e.left c.left with hlt | hge
    · exact Prod.Lex.left _ _ hlt
    · rw [show e.left = c.left by omega]
      exact Prod.Lex.right _ (by decide)

/-- Passes one value. -/
def passValue (c : Cursor) : Except Fault Cursor := passOpen .value [] c

end SchemaClass.Json
