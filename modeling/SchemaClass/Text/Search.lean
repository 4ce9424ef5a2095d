/-!
# Searching a text

Occurrences of one text in another, both kept as lists of characters.

* `cutAt`: the two sides of the first occurrence;
* `occurrences`: both sides of every occurrence, left to right, where the search goes on behind an
  occurrence and not inside it;
* `cutAt_eq_some`: the sides and the token give the text back;
* `cutAt_eq_none_iff`, `cutAt_eq_some_iff`: a text is cut if it has the token, and nowhere before the
  first occurrence.
-/

namespace SchemaClass.Text

/-- The part of `text` behind `token`, if `text` begins with `token`. -/
def dropToken? : (token text : List Char) → Option (List Char)
  | [], text => some text
  | _ :: _, [] => none
  | t :: ts, c :: cs => if t = c then dropToken? ts cs else none

theorem dropToken?_eq_some {token text rest : List Char} :
    dropToken? token text = some rest ↔ text = token ++ rest := by
  fun_induction dropToken? token text with
  | case1 text => simp [eq_comm]
  | case2 t ts => simp
  | case3 ts c cs ih => simpa using ih
  | case4 t ts c cs h => simp [Ne.symm h]

theorem dropToken?_eq_none_iff {token text : List Char} :
    dropToken? token text = none ↔ ¬ token <+: text := by
  rw [Option.eq_none_iff_forall_ne_some]
  constructor
  · rintro h ⟨rest, hrest⟩
    exact h rest (dropToken?_eq_some.2 hrest.symm)
  · intro h rest hrest
    exact h ⟨rest, (dropToken?_eq_some.1 hrest).symm⟩

/-- What stands before and behind the first occurrence of `token`. -/
def cutAt (token : List Char) : List Char → Option (List Char × List Char)
  | [] => (dropToken? token []).map ([], ·)
  | c :: cs =>
    match dropToken? token (c :: cs) with
    | some rest => some ([], rest)
    | none => (cutAt token cs).map fun (before, behind) => (c :: before, behind)

theorem cutAt_eq_some {token text before behind : List Char}
    (h : cutAt token text = some (before, behind)) : text = before ++ token ++ behind := by
  induction text generalizing before with
  | nil =>
    obtain ⟨rest, hr, he⟩ := Option.map_eq_some_iff.1 h
    cases he
    simpa using dropToken?_eq_some.1 hr
  | cons c cs ih =>
    rw [cutAt] at h
    split at h
    · next rest hr =>
      cases h
      simpa using dropToken?_eq_some.1 hr
    · obtain ⟨⟨b, e⟩, hp, he⟩ := Option.map_eq_some_iff.1 h
      cases he
      simp [ih hp]

/-- A text that has not the token is not cut. -/
theorem cutAt_eq_none_iff {token text : List Char} :
    cutAt token text = none ↔ ¬ token <:+: text := by
  induction text with
  | nil =>
    rw [cutAt, Option.map_eq_none_iff, dropToken?_eq_none_iff, List.prefix_nil, List.infix_nil]
  | cons c cs ih =>
    rw [cutAt, List.infix_cons_iff]
    split
    · next rest hrest =>
      have hhere : token <+: c :: cs := ⟨rest, (dropToken?_eq_some.1 hrest).symm⟩
      simp [hhere]
    · next hnone =>
      rw [Option.map_eq_none_iff, ih, not_or]
      exact ⟨fun h => ⟨dropToken?_eq_none_iff.1 hnone, h⟩, fun h => h.2⟩

/-- No occurrence stands before the one that a text is cut at. -/
theorem length_le_of_cutAt {token text before behind b e : List Char}
    (h : cutAt token text = some (before, behind)) (htext : text = b ++ token ++ e) :
    before.length ≤ b.length := by
  induction text generalizing before b with
  | nil =>
    obtain ⟨rest, -, he⟩ := Option.map_eq_some_iff.1 h
    cases he
    exact Nat.zero_le _
  | cons c cs ih =>
    rw [cutAt] at h
    split at h
    · cases h
      exact Nat.zero_le _
    · next hnone =>
      obtain ⟨⟨before', behind'⟩, hcut, he⟩ := Option.map_eq_some_iff.1 h
      cases he
      cases b with
      | nil => exact absurd ⟨e, htext.symm⟩ (dropToken?_eq_none_iff.1 hnone)
      | cons d b =>
        rw [List.cons_append, List.cons_append, List.cons.injEq] at htext
        exact Nat.succ_le_succ (ih hcut htext.2)

/-- `before` and `behind` are what stands on the two sides of the first occurrence of `token`. -/
structure IsFirstCut (token text before behind : List Char) : Prop where
  text_eq : text = before ++ token ++ behind
  first : ∀ b e, text = b ++ token ++ e → before.length ≤ b.length

/-- **A text is cut at the first occurrence of the token.** -/
theorem cutAt_eq_some_iff {token text before behind : List Char} :
    cutAt token text = some (before, behind) ↔ IsFirstCut token text before behind := by
  constructor
  · intro h
    exact ⟨cutAt_eq_some h, fun b e => length_le_of_cutAt h⟩
  · rintro ⟨htext, hfirst⟩
    cases hcut : cutAt token text with
    | none =>
      have hinfix : token <:+: text := ⟨before, behind, htext.symm⟩
      exact absurd hinfix (cutAt_eq_none_iff.1 hcut)
    | some sides =>
      obtain ⟨b, e⟩ := sides
      have hsides : text = b ++ token ++ e := cutAt_eq_some hcut
      have hlength : b.length = before.length :=
        Nat.le_antisymm (length_le_of_cutAt hcut htext) (hfirst b e hsides)
      rw [hsides, List.append_assoc, List.append_assoc] at htext
      obtain ⟨rfl, hrest⟩ := List.append_inj htext hlength
      rw [List.append_cancel_left hrest]

/-- Both sides of every occurrence of `token`.  The first argument holds what has been passed, in
reverse; the second counts the characters of an occurrence that are still to be passed. -/
def occurrencesFrom (token : List Char) : List Char → Nat → List Char →
    List (List Char × List Char)
  | _, _, [] => []
  | passed, n + 1, c :: cs => occurrencesFrom token (c :: passed) n cs
  | passed, 0, c :: cs =>
    match dropToken? token (c :: cs) with
    | some behind =>
      (passed.reverse, behind) :: occurrencesFrom token (c :: passed) (token.length - 1) cs
    | none => occurrencesFrom token (c :: passed) 0 cs

/-- What stands before and behind each occurrence of a token that is not empty. -/
def occurrences (token text : List Char) : List (List Char × List Char) :=
  occurrencesFrom token [] 0 text

theorem occurrencesFrom_sides {token passed text before behind : List Char} {n : Nat}
    (h : (before, behind) ∈ occurrencesFrom token passed n text) :
    passed.reverse ++ text = before ++ token ++ behind := by
  fun_induction occurrencesFrom token passed n text with
  | case1 => simp at h
  | case2 passed n c cs ih => simpa using ih h
  | case3 passed c cs rest hr ih =>
    rcases List.mem_cons.1 h with h | h
    · cases h
      simp [dropToken?_eq_some.1 hr]
    · simpa using ih h
  | case4 passed c cs hr ih => simpa using ih h

theorem occurrences_sides {token text before behind : List Char}
    (h : (before, behind) ∈ occurrences token text) : text = before ++ token ++ behind := by
  simpa using occurrencesFrom_sides h

end SchemaClass.Text
