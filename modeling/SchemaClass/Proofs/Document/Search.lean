import Mathlib.Data.List.TakeWhile
import SchemaClass.Document.Validation
/-!
# What the search for a value finds

The search looks for a value between quotes and goes on behind every occurrence, so it could miss
one that begins with the last quote of another.  `placesFrom` looks at every place of the text
instead.  The search finds nothing else, and it finds all of that unless the value itself looks like
the colon behind a key.

* `stored_behind_quote`, `isStoredUnder_member`: what stands before a value of a key;
* `valueSpans_sublist`, `valueSpans_eq_placesFrom`: the search against the look at every place;
* `placesFrom_quoteFree`, `placesFrom_unstored`, `placesFrom_quoted`: how the look at every place
  passes the parts of a text.
-/

namespace SchemaClass.Document

open Text

/-! ## 1. The key before a value -/

/-- A text without quotes. -/
def QuoteFree (cs : List Char) : Prop := ∀ c ∈ cs, c ≠ '"'

instance (cs : List Char) : Decidable (QuoteFree cs) := List.decidableBAll (· ≠ '"') cs

/-- A colon with any blanks around it. -/
def IsColon (cs : List Char) : Prop := trimStart (trimEnd cs) = [':']

instance (cs : List Char) : Decidable (IsColon cs) :=
  inferInstanceAs (Decidable (trimStart (trimEnd cs) = [':']))

/-- Blanks are removed up to a quote at most. -/
theorem trimStart_append_quote (cs ds : List Char) :
    trimStart (cs ++ '"' :: ds) = trimStart cs ++ '"' :: ds := by
  induction cs with
  | nil => rfl
  | cons c cs ih =>
    rw [List.cons_append, trimStart_cons, trimStart_cons]
    split
    · exact ih
    · rfl

theorem mem_of_trimStart {c : Char} {cs : List Char} (h : c ∈ trimStart cs) : c ∈ cs :=
  (List.dropWhile_suffix isBlank).subset h

theorem eq_of_trimStart_append_quote {cs ds es : List Char} (hcs : QuoteFree cs)
    (h : trimStart cs ++ '"' :: ds = '"' :: es) : trimStart cs = [] ∧ ds = es := by
  cases htrim : trimStart cs with
  | nil =>
    rw [htrim] at h
    exact ⟨rfl, (List.cons.inj h).2⟩
  | cons c rest =>
    have hmem : c ∈ cs := mem_of_trimStart (htrim ▸ List.mem_cons_self)
    rw [htrim] at h
    exact absurd (List.cons.inj h).1 (hcs c hmem)

theorem isColon_of_trimStart {cs ds : List Char} (hcolon : trimStart cs.reverse = ':' :: ds)
    (hblank : trimStart ds = []) : IsColon cs := by
  have hall : ∀ c ∈ ds.reverse, isBlank c = true := by
    intro c hc
    rw [trimStart, List.dropWhile_eq_nil_iff] at hblank
    exact hblank c (List.mem_reverse.mp hc)
  rw [IsColon, trimEnd, hcolon, List.reverse_cons, trimStart, List.dropWhile_append_of_pos hall]
  rfl

/-- **A value of a key stands behind a colon**, and the key behind the quote before the last. -/
theorem stored_behind_quote {key : String} {front cs : List Char} (hcs : QuoteFree cs)
    (h : isStoredUnder key (front ++ '"' :: cs) = true) :
    IsColon cs ∧ ∃ earlier, front = earlier ++ '"' :: key.toList := by
  have hreverse : (front ++ '"' :: cs).reverse = cs.reverse ++ '"' :: front.reverse := by simp
  have hquoted : (quoted key).reverse = '"' :: (key.toList.reverse ++ ['"']) := by simp [quoted]
  rw [isStoredUnder, hreverse, trimStart_append_quote] at h
  split at h
  · next earlier heq =>
    cases hds : trimStart cs.reverse with
    | nil =>
      rw [hds] at heq
      cases heq
    | cons c ds =>
      rw [hds, List.cons_append] at heq
      obtain ⟨rfl, rfl⟩ := List.cons.inj heq
      have hfree : QuoteFree ds := fun d hd => hcs d
        (List.mem_reverse.mp (mem_of_trimStart (hds ▸ List.mem_cons_of_mem ':' hd)))
      obtain ⟨rest, hrest⟩ := Option.isSome_iff_exists.mp h
      rw [trimStart_append_quote, dropToken?_eq_some, hquoted, List.cons_append] at hrest
      obtain ⟨hblank, hfront⟩ := eq_of_trimStart_append_quote hfree hrest
      refine ⟨isColon_of_trimStart hds hblank, rest.reverse, ?_⟩
      simpa using congrArg List.reverse hfront
  · cases h

/-- A text without quotes ends where the first quote stands. -/
theorem append_quote_inj {cs ds xs ys : List Char} (hcs : QuoteFree cs) (hds : QuoteFree ds)
    (h : cs ++ '"' :: xs = ds ++ '"' :: ys) : cs = ds ∧ xs = ys := by
  induction cs generalizing ds with
  | nil =>
    cases ds with
    | nil => exact ⟨rfl, (List.cons.inj h).2⟩
    | cons d ds => exact absurd (List.cons.inj h).1.symm (hds d List.mem_cons_self)
  | cons c cs ih =>
    cases ds with
    | nil => exact absurd (List.cons.inj h).1 (hcs c List.mem_cons_self)
    | cons d ds =>
      obtain ⟨rfl, hrest⟩ := List.cons.inj h
      obtain ⟨rfl, rfl⟩ := ih (fun e he => hcs e (List.mem_cons_of_mem _ he))
        (fun e he => hds e (List.mem_cons_of_mem _ he)) hrest
      exact ⟨rfl, rfl⟩

/-- Right behind a key and its colon stands a value of that key and of no other. -/
theorem isStoredUnder_member {key k : String} (hkey : QuoteFree key.toList)
    (hk : QuoteFree k.toList) (front : List Char) :
    isStoredUnder key (front ++ (quoted k ++ [':'])) = true ↔ k = key := by
  constructor
  · intro h
    have hsplit : front ++ (quoted k ++ [':']) = (front ++ '"' :: k.toList) ++ '"' :: [':'] := by
      simp [quoted]
    rw [hsplit] at h
    obtain ⟨-, earlier, he⟩ := stored_behind_quote (by decide) h
    have hbehind : k.toList.reverse ++ '"' :: front.reverse
        = key.toList.reverse ++ '"' :: earlier.reverse := by simpa using congrArg List.reverse he
    have hinj := append_quote_inj (fun c hc => hk c (List.mem_reverse.mp hc))
      (fun c hc => hkey c (List.mem_reverse.mp hc)) hbehind
    exact String.toList_injective (List.reverse_inj.mp hinj.1)
  · rintro rfl
    have hreverse : (front ++ (quoted k ++ [':'])).reverse
        = ':' :: ((quoted k).reverse ++ front.reverse) := by simp
    have hquote : trimStart ((quoted k).reverse ++ front.reverse)
        = (quoted k).reverse ++ front.reverse := by
      simp [quoted, trimStart_cons, isBlank]
    rw [isStoredUnder, hreverse, trimStart_cons, if_neg (by decide)]
    change (dropToken? _ (trimStart ((quoted k).reverse ++ front.reverse))).isSome = true
    rw [hquote, dropToken?_eq_some.mpr rfl]
    rfl

/-- Behind a character that is neither a colon nor blank stands no value. -/
theorem isStoredUnder_append_singleton {key : String} {c : Char} (hblank : isBlank c = false)
    (hcolon : c ≠ ':') (front : List Char) : isStoredUnder key (front ++ [c]) = false := by
  have hreverse : (front ++ [c]).reverse = c :: front.reverse := by simp
  rw [isStoredUnder, hreverse, trimStart_cons, hblank, if_neg Bool.false_ne_true]
  split
  · next heq => exact absurd (List.cons.inj heq).1 hcolon
  · rfl

/-! ## 2. Every place of a text -/

/-- The place of a value behind `before`, without the quotes. -/
def spanBehind (before : List Char) (value : String) : Span :=
  ⟨byteLength before + 1, byteLength value.toList⟩

/-- The places of `value` as a value of `key`, wherever the first quote stands.  The first list
holds what has been passed, in reverse. -/
def placesFrom (key value : String) : (passed text : List Char) → List Span
  | _, [] => []
  | passed, c :: cs =>
    if (dropToken? (quoted value) (c :: cs)).isSome && isStoredUnder key passed.reverse then
      spanBehind passed.reverse value :: placesFrom key value (c :: passed) cs
    else placesFrom key value (c :: passed) cs

/-- The places of those occurrences that are stored under `key`. -/
def storedSpans (key value : String) (sides : List (List Char × List Char)) : List Span :=
  (sides.filter fun (before, _) => isStoredUnder key before).map
    fun (before, _) => spanBehind before value

variable {key value : String} {passed text : List Char}

theorem storedSpans_cons (before behind : List Char) (sides : List (List Char × List Char)) :
    storedSpans key value ((before, behind) :: sides)
      = if isStoredUnder key before = true then
          spanBehind before value :: storedSpans key value sides
        else storedSpans key value sides := by
  rw [storedSpans, List.filter_cons]
  dsimp only
  split <;> rfl

/-- **The search finds no other places**, whatever it has passed and is still to pass. -/
theorem storedSpans_sublist (passed : List Char) (n : Nat) (text : List Char) :
    (storedSpans key value (occurrencesFrom (quoted value) passed n text)).Sublist
      (placesFrom key value passed text) := by
  fun_induction occurrencesFrom (quoted value) passed n text with
  | case1 => exact List.Sublist.refl _
  | case2 passed n c cs ih =>
    rw [placesFrom]
    split
    · exact ih.cons _
    · exact ih
  | case3 passed c cs behind hfound ih =>
    rw [placesFrom, storedSpans_cons, hfound, Option.isSome_some, Bool.true_and]
    split
    · exact ih.cons_cons _
    · exact ih
  | case4 passed c cs hnone ih =>
    rw [placesFrom, hnone]
    exact ih

theorem valueSpans_sublist (text : List Char) (key value : String) :
    (valueSpans text key value).Sublist (placesFrom key value [] text) :=
  storedSpans_sublist [] 0 text

/-- No value begins inside a text without quotes. -/
theorem placesFrom_quoteFree {cs : List Char} (h : QuoteFree cs) (passed text : List Char) :
    placesFrom key value passed (cs ++ text)
      = placesFrom key value (cs.reverse ++ passed) text := by
  induction cs generalizing passed with
  | nil => rfl
  | cons c cs ih =>
    have hnone : dropToken? (quoted value) (c :: (cs ++ text)) = none := by
      rw [quoted, dropToken?, if_neg (h c List.mem_cons_self).symm]
    rw [List.cons_append, placesFrom, hnone, ih fun d hd => h d (List.mem_cons_of_mem c hd)]
    simp

/-- A quote that no key stands before begins no value. -/
theorem placesFrom_unstored (h : isStoredUnder key passed.reverse = false) (text : List Char) :
    placesFrom key value passed ('"' :: text) = placesFrom key value ('"' :: passed) text := by
  rw [placesFrom, h, Bool.and_false, if_neg Bool.false_ne_true]

theorem dropToken?_quoted {s : String} (hs : QuoteFree s.toList) (hvalue : QuoteFree value.toList)
    (text : List Char) :
    (dropToken? (quoted value) (quoted s ++ text)).isSome = true ↔ s = value := by
  constructor
  · intro h
    obtain ⟨rest, hrest⟩ := Option.isSome_iff_exists.mp h
    have htext : '"' :: (s.toList ++ '"' :: text) = '"' :: (value.toList ++ '"' :: rest) := by
      simpa [quoted] using dropToken?_eq_some.mp hrest
    exact String.toList_injective (append_quote_inj hs hvalue (List.cons.inj htext).2).1
  · rintro rfl
    rw [dropToken?_eq_some.mpr rfl]
    rfl

/-- **A string holds the value or nothing**, if no key ends before its first quote. -/
theorem placesFrom_quoted {s : String} (hs : QuoteFree s.toList) (hvalue : QuoteFree value.toList)
    (hkey : ∀ earlier, passed.reverse ≠ earlier ++ '"' :: key.toList) (text : List Char) :
    placesFrom key value passed (quoted s ++ text)
      = (if s = value ∧ isStoredUnder key passed.reverse = true then
          [spanBehind passed.reverse value] else [])
        ++ placesFrom key value ((quoted s).reverse ++ passed) text := by
  have hlast : isStoredUnder key (s.toList.reverse ++ '"' :: passed).reverse = false := by
    rw [Bool.eq_false_iff]
    intro h
    have hsplit : (s.toList.reverse ++ '"' :: passed).reverse
        = passed.reverse ++ '"' :: s.toList := by simp
    rw [hsplit] at h
    obtain ⟨-, earlier, he⟩ := stored_behind_quote hs h
    exact hkey earlier he
  have hquoted : quoted s ++ text = '"' :: (s.toList ++ '"' :: text) := by simp [quoted]
  have hbehind : placesFrom key value ('"' :: passed) (s.toList ++ '"' :: text)
      = placesFrom key value ((quoted s).reverse ++ passed) text := by
    rw [placesFrom_quoteFree hs, placesFrom_unstored hlast]
    simp [quoted]
  have hfound := dropToken?_quoted hs hvalue text
  rw [hquoted] at hfound
  rw [hquoted, placesFrom, hbehind]
  simp only [Bool.and_eq_true, hfound]
  split <;> rfl

theorem occurrencesFrom_append (token passed cs text : List Char) :
    occurrencesFrom token passed cs.length (cs ++ text)
      = occurrencesFrom token (cs.reverse ++ passed) 0 text := by
  induction cs generalizing passed with
  | nil => rfl
  | cons c cs ih =>
    rw [List.length_cons, List.cons_append, occurrencesFrom, ih]
    simp

/-- A value that is no colon is not followed by another that begins with its last quote. -/
theorem placesFrom_behind_value (hvalue : QuoteFree value.toList) (hcolon : ¬ IsColon value.toList)
    (passed text : List Char) :
    placesFrom key value ('"' :: passed) (value.toList ++ '"' :: text)
      = placesFrom key value ((quoted value).reverse ++ passed) text := by
  have hstored : isStoredUnder key (value.toList.reverse ++ '"' :: passed).reverse = false := by
    rw [Bool.eq_false_iff]
    intro h
    have hsplit : (value.toList.reverse ++ '"' :: passed).reverse
        = passed.reverse ++ '"' :: value.toList := by simp
    rw [hsplit] at h
    exact hcolon (stored_behind_quote hvalue h).1
  rw [placesFrom_quoteFree hvalue, placesFrom_unstored hstored]
  simp [quoted]

/-- **The search finds every place** of a value that is no colon. -/
theorem storedSpans_eq_placesFrom (hvalue : QuoteFree value.toList)
    (hcolon : ¬ IsColon value.toList) (passed : List Char) : ∀ text : List Char,
    storedSpans key value (occurrencesFrom (quoted value) passed 0 text)
      = placesFrom key value passed text
  | [] => rfl
  | c :: cs => by
    rw [occurrencesFrom, placesFrom]
    cases hfound : dropToken? (quoted value) (c :: cs) with
    | none => exact storedSpans_eq_placesFrom hvalue hcolon (c :: passed) cs
    | some behind =>
      have htext := dropToken?_eq_some.mp hfound
      have hshorter : behind.length < (c :: cs).length := by
        rw [htext, List.length_append, quoted, List.length_cons]
        omega
      rw [quoted, List.cons_append] at htext
      obtain ⟨rfl, rfl⟩ := List.cons.inj htext
      -- the search leaps over the rest of the value, where the other look finds nothing
      have hlength : (quoted value).length - 1 = (value.toList ++ ['"']).length := by simp [quoted]
      have hskip : occurrencesFrom (quoted value) ('"' :: passed) ((quoted value).length - 1)
          (value.toList ++ ['"'] ++ behind)
          = occurrencesFrom (quoted value) ((quoted value).reverse ++ passed) 0 behind := by
        rw [hlength, occurrencesFrom_append]
        simp [quoted]
      have hrest :=
        storedSpans_eq_placesFrom hvalue hcolon ((quoted value).reverse ++ passed) behind
      dsimp only
      rw [storedSpans_cons, hskip, hrest, Option.isSome_some, Bool.true_and, List.append_assoc,
        List.singleton_append, placesFrom_behind_value hvalue hcolon]
termination_by text => text.length

theorem valueSpans_eq_placesFrom (hvalue : QuoteFree value.toList)
    (hcolon : ¬ IsColon value.toList) (text : List Char) (key : String) :
    valueSpans text key value = placesFrom key value [] text :=
  storedSpans_eq_placesFrom hvalue hcolon [] text

end SchemaClass.Document
