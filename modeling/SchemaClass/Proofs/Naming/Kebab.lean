import Mathlib.Data.List.Basic
import SchemaClass.Proofs.Naming
/-!
# Where the words of a name begin

A name breaks at its separators and where its letter case starts a new word.  Breaks can be told from
the positions of two neighbours that are kept, without words, and they can be found in one pass over
the positions that looks at the character in front and the one behind.  Both give the same hyphens.

* `written_cons`: one more character in front of a text, and what becomes of its words;
* `Breaks`, `Spells`: a text spelled from the positions that are kept, with a hyphen at each break;
* `spells_written`: its words in lowercase spell it;
* `Scan`, `scan?_eq_words`: one pass finds the words and never looks outside of the text;
* `kebab_eq_self`: what is made of lowercase words already stays;
* `breaks_of_kebab`: the hyphens of a file name.
-/

namespace SchemaClass.Naming

open Text Text.LetterCase

/-! ## 1. Words, one character after the other -/

/-- The words of a text, in the case they were written in. -/
def written (cs : List Char) : List (List Char) := (cs.splitOnP isSeparator).flatMap humps

/-- Words in lowercase. -/
def lowered (ws : List (List Char)) : List (List Char) := ws.map (·.flatMap lower)

theorem words_eq (s : String) : words s = lowered (written s.toList) := rfl

theorem lowered_cons (w : List Char) (ws : List (List Char)) :
    lowered (w :: ws) = w.flatMap lower :: lowered ws := rfl

/-- Whether a word ends at a character, by what follows.  The last word needs no end. -/
def endsWord (c : Char) : List Char → Bool
  | [] => false
  | d :: cs => isSeparator d || startsWord c d cs.head?

@[simp] theorem written_nil : written [] = [] := rfl

theorem written_separator {c : Char} (h : isSeparator c = true) (cs : List Char) :
    written (c :: cs) = written cs := by
  rw [written, List.splitOnP_cons_eq_if_modifyHead, if_pos h]
  rfl

/-- A separator that follows is not lowercase, so a piece tells what it has to. -/
theorem startsWord_head?_eq (c d : Char) {piece cs : List Char} {pieces : List (List Char)}
    (h : cs.splitOnP isSeparator = piece :: pieces) :
    startsWord c d piece.head? = startsWord c d cs.head? := by
  cases cs with
  | nil =>
    rw [List.splitOnP_nil] at h
    rw [(List.cons.inj h).1]
  | cons e cs =>
    rw [List.splitOnP_cons_eq_if_modifyHead] at h
    split at h
    · next he =>
      have hlower : isLower e = false := by
        simp only [isSeparator, Bool.or_eq_true, beq_iff_eq] at he
        rcases he with (rfl | rfl) | rfl <;> decide
      rw [← (List.cons.inj h).1]
      simp [startsWord, hlower]
    · obtain ⟨first, rest, hsplit⟩ :=
        List.exists_cons_of_ne_nil (List.splitOnP_ne_nil isSeparator cs)
      rw [hsplit, List.modifyHead_cons] at h
      rw [← (List.cons.inj h).1]
      rfl

theorem humps_ne_nil (c : Char) (cs : List Char) : humps (c :: cs) ≠ [] := by
  intro h
  have hflat := flatten_humps (c :: cs)
  rw [h] at hflat
  cases hflat

theorem extendFirst_append {ws : List (List Char)} (h : ws ≠ []) (c : Char)
    (more : List (List Char)) : extendFirst c (ws ++ more) = extendFirst c ws ++ more := by
  obtain ⟨w, ws, rfl⟩ := List.exists_cons_of_ne_nil h
  rfl

/-- **One more character in front**: a word of its own, or the beginning of the first one. -/
theorem written_cons {c : Char} (hc : isSeparator c = false) (cs : List Char) :
    written (c :: cs)
      = if endsWord c cs then [c] :: written cs else extendFirst c (written cs) := by
  obtain ⟨piece, pieces, hsplit⟩ :=
    List.exists_cons_of_ne_nil (List.splitOnP_ne_nil isSeparator cs)
  have hfront : written (c :: cs) = humps (c :: piece) ++ pieces.flatMap humps := by
    rw [written, List.splitOnP_cons_eq_if_modifyHead, if_neg (Bool.eq_false_iff.mp hc), hsplit,
      List.modifyHead_cons, List.flatMap_cons]
  have hrest : written cs = humps piece ++ pieces.flatMap humps := by
    rw [written, hsplit, List.flatMap_cons]
  rw [hfront, hrest]
  cases cs with
  | nil =>
    rw [List.splitOnP_nil] at hsplit
    obtain ⟨rfl, rfl⟩ := List.cons.inj hsplit
    rfl
  | cons d cs =>
    rw [List.splitOnP_cons_eq_if_modifyHead] at hsplit
    split at hsplit
    · next hd =>
      rw [← (List.cons.inj hsplit).1, endsWord, hd]
      rfl
    · next hd =>
      obtain ⟨first, rest, hfirst⟩ :=
        List.exists_cons_of_ne_nil (List.splitOnP_ne_nil isSeparator cs)
      rw [hfirst, List.modifyHead_cons] at hsplit
      rw [← (List.cons.inj hsplit).1, endsWord, Bool.eq_false_iff.mpr hd, Bool.false_or, humps,
        startsWord_head?_eq c d hfirst]
      split
      · rfl
      · rw [extendFirst_append (humps_ne_nil d first)]

theorem written_eq_nil_iff {cs : List Char} : written cs = [] ↔ ∀ c ∈ cs, isSeparator c = true := by
  induction cs with
  | nil => simp
  | cons c cs ih =>
    rw [List.forall_mem_cons]
    cases hc : isSeparator c with
    | true => simp [written_separator hc, ih]
    | false =>
      rw [written_cons hc]
      split
      · simp
      · cases written cs <;> simp [extendFirst]

/-! ## 2. Positions -/

/-- The positions of a text where no separator stands. -/
def kept (cs : List Char) : List Nat :=
  (List.range cs.length).filter fun i => cs[i]?.any (!isSeparator ·)

/-- A text breaks between the characters at two positions that are kept, with nothing kept between
them. -/
inductive Breaks (cs : List Char) (i j : Nat) : Prop where
  | separated {k : Nat} {c : Char} (hik : i < k) (hkj : k < j) (hk : cs[k]? = some c)
      (separator : isSeparator c = true)
  | behindLower {a b : Char} (next : j = i + 1) (hi : cs[i]? = some a) (hj : cs[j]? = some b)
      (upper : isUpper b = true) (lower : isLower a = true)
  | behindDigit {a b : Char} (next : j = i + 1) (hi : cs[i]? = some a) (hj : cs[j]? = some b)
      (upper : isUpper b = true) (digit : a.isDigit = true)
  | beforeLower {a b c : Char} (next : j = i + 1) (hi : cs[i]? = some a) (hj : cs[j]? = some b)
      (upper : isUpper b = true) (uppers : isUpper a = true) (hk : cs[j + 1]? = some c)
      (lower : isLower c = true)

/-- The characters at positions of a text spell a text: each in lowercase, and a hyphen between two
neighbours where the text breaks. -/
inductive Spells (cs : List Char) : List Nat → List Char → Prop where
  | nil : Spells cs [] []
  | last {i : Nat} {c : Char} (hi : cs[i]? = some c) : Spells cs [i] (lower c)
  | apart {i j : Nat} {is : List Nat} {c : Char} {text : List Char} (hi : cs[i]? = some c)
      (breaks : Breaks cs i j) (rest : Spells cs (j :: is) text) :
      Spells cs (i :: j :: is) (lower c ++ '-' :: text)
  | together {i j : Nat} {is : List Nat} {c : Char} {text : List Char} (hi : cs[i]? = some c)
      (whole : ¬ Breaks cs i j) (rest : Spells cs (j :: is) text) :
      Spells cs (i :: j :: is) (lower c ++ text)

theorem kept_cons (c : Char) (cs : List Char) :
    kept (c :: cs) = (if isSeparator c then [] else [0]) ++ (kept cs).map (· + 1) := by
  rw [kept, List.length_cons, List.range_succ_eq_map, List.filter_cons, List.filter_map, kept]
  cases hc : isSeparator c <;> simp [hc, Function.comp_def]

theorem kept_eq_nil_iff {cs : List Char} : kept cs = [] ↔ ∀ c ∈ cs, isSeparator c = true := by
  induction cs with
  | nil => simp [kept]
  | cons c cs ih =>
    rw [kept_cons, List.forall_mem_cons]
    cases hc : isSeparator c <;> simp [ih]

theorem breaks_succ_iff {c : Char} {cs : List Char} {i j : Nat} :
    Breaks (c :: cs) (i + 1) (j + 1) ↔ Breaks cs i j := by
  constructor
  · rintro (⟨hik, hkj, hk, h⟩ | ⟨hn, hi, hj, h, h'⟩ | ⟨hn, hi, hj, h, h'⟩ |
      ⟨hn, hi, hj, h, h', hk, h''⟩)
    · obtain ⟨k, rfl⟩ := Nat.exists_eq_succ_of_ne_zero (Nat.ne_zero_of_lt hik)
      exact .separated (Nat.succ_lt_succ_iff.mp hik) (Nat.succ_lt_succ_iff.mp hkj) hk h
    · exact .behindLower (Nat.succ_inj.mp hn) hi hj h h'
    · exact .behindDigit (Nat.succ_inj.mp hn) hi hj h h'
    · exact .beforeLower (Nat.succ_inj.mp hn) hi hj h h' hk h''
  · rintro (⟨hik, hkj, hk, h⟩ | ⟨hn, hi, hj, h, h'⟩ | ⟨hn, hi, hj, h, h'⟩ |
      ⟨hn, hi, hj, h, h', hk, h''⟩)
    · exact .separated (Nat.succ_lt_succ hik) (Nat.succ_lt_succ hkj) hk h
    · exact .behindLower (congrArg (· + 1) hn) hi hj h h'
    · exact .behindDigit (congrArg (· + 1) hn) hi hj h h'
    · exact .beforeLower (congrArg (· + 1) hn) hi hj h h' hk h''

theorem startsWord_iff {a b : Char} {after : Option Char} : startsWord a b after = true ↔
    isUpper b = true ∧ (isLower a = true ∨ a.isDigit = true ∨
      isUpper a = true ∧ ∃ c, after = some c ∧ isLower c = true) := by
  simp [startsWord, Option.any_eq_true, or_assoc]

/-- Where nothing stands between two characters, letter case decides. -/
theorem breaks_next_iff {a b : Char} {cs : List Char} :
    Breaks (a :: b :: cs) 0 1 ↔ startsWord a b cs.head? = true := by
  rw [startsWord_iff]
  constructor
  · rintro (⟨hik, hkj, -, -⟩ | ⟨-, hi, hj, h, h'⟩ | ⟨-, hi, hj, h, h'⟩ | ⟨-, hi, hj, h, h', hk, h''⟩)
    · omega
    · cases hi
      cases hj
      exact ⟨h, Or.inl h'⟩
    · cases hi
      cases hj
      exact ⟨h, Or.inr (Or.inl h')⟩
    · cases hi
      cases hj
      exact ⟨h, Or.inr (Or.inr ⟨h', _, List.head?_eq_getElem? ▸ hk, h''⟩)⟩
  · rintro ⟨h, h' | h' | ⟨h', c, hc, h''⟩⟩
    · exact .behindLower rfl rfl rfl h h'
    · exact .behindDigit rfl rfl rfl h h'
    · exact .beforeLower rfl rfl rfl h h' (List.head?_eq_getElem? ▸ hc) h''

/-- **A text breaks behind its first character** just if that ends a word. -/
theorem breaks_first_iff {c : Char} {cs : List Char} {j : Nat} {js : List Nat}
    (h : kept cs = j :: js) : Breaks (c :: cs) 0 (j + 1) ↔ endsWord c cs = true := by
  cases cs with
  | nil => cases h
  | cons d cs =>
    rw [kept_cons] at h
    rw [endsWord]
    cases hd : isSeparator d with
    | true =>
      rw [hd, if_pos rfl, List.nil_append] at h
      obtain ⟨i, is, -, rfl, -⟩ := List.map_eq_cons_iff.mp h
      exact ⟨fun _ => rfl, fun _ => .separated (k := 1) (by omega) (by omega) rfl hd⟩
    | false =>
      rw [hd, if_neg Bool.false_ne_true, List.singleton_append] at h
      obtain ⟨rfl, -⟩ := List.cons.inj h
      rw [Bool.false_or]
      exact breaks_next_iff

/-- A text is spelled the same behind one more character. -/
theorem Spells.behind {cs text : List Char} {is : List Nat} (h : Spells cs is text) (c : Char) :
    Spells (c :: cs) (is.map (· + 1)) text := by
  induction h with
  | nil => exact .nil
  | last hi => exact .last hi
  | apart hi hbreaks _ ih => exact .apart hi (breaks_succ_iff.mpr hbreaks) ih
  | together hi hwhole _ ih => exact .together hi (mt breaks_succ_iff.mp hwhole) ih

/-! ## 3. The text of the words -/

/-- Words in lowercase, with a hyphen between neighbours. -/
def hyphenated (ws : List (List Char)) : List Char := ['-'].intercalate (lowered ws)

theorem toList_kebab (s : String) : (kebab s).toList = hyphenated (written s.toList) := by
  rw [kebab, String.toList_ofList, words_eq, hyphenated]

theorem hyphenated_singleton (w : List Char) : hyphenated [w] = w.flatMap lower := by
  rw [hyphenated, lowered, List.map_singleton, List.intercalate_singleton]

theorem hyphenated_cons {ws : List (List Char)} (h : ws ≠ []) (w : List Char) :
    hyphenated (w :: ws) = w.flatMap lower ++ '-' :: hyphenated ws := by
  have hlowered : lowered ws ≠ [] := mt List.map_eq_nil_iff.mp h
  rw [hyphenated, lowered_cons, List.intercalate_cons_of_ne_nil hlowered, List.append_assoc,
    List.singleton_append, hyphenated]

theorem hyphenated_extendFirst (c : Char) (ws : List (List Char)) :
    hyphenated (extendFirst c ws) = lower c ++ hyphenated ws := by
  cases ws with
  | nil => simp [extendFirst, hyphenated, lowered]
  | cons w ws =>
    cases ws with
    | nil => simp [extendFirst, hyphenated_singleton]
    | cons v ws =>
      rw [extendFirst, hyphenated_cons (List.cons_ne_nil v ws), List.flatMap_cons,
        List.append_assoc, ← hyphenated_cons (List.cons_ne_nil v ws)]

/-- **The words of a text, in lowercase and with hyphens, spell it.** -/
theorem spells_written (cs : List Char) : Spells cs (kept cs) (hyphenated (written cs)) := by
  induction cs with
  | nil => exact .nil
  | cons c cs ih =>
    rw [kept_cons]
    cases hc : isSeparator c with
    | true =>
      rw [written_separator hc]
      exact ih.behind c
    | false =>
      have hbehind := ih.behind c
      rw [written_cons hc, if_neg Bool.false_ne_true, List.singleton_append]
      cases hkept : kept cs with
      | nil =>
        -- only separators follow
        have hnone : written cs = [] := written_eq_nil_iff.mpr (kept_eq_nil_iff.mp hkept)
        have hlast : hyphenated [[c]] = lower c := by
          rw [hyphenated_singleton, List.flatMap_singleton]
        rw [hnone, extendFirst, ite_self, hlast]
        exact .last rfl
      | cons j js =>
        rw [hkept] at hbehind
        have hsome : written cs ≠ [] := by
          rw [Ne, written_eq_nil_iff, ← kept_eq_nil_iff, hkept]
          exact List.cons_ne_nil j js
        by_cases hends : endsWord c cs = true
        · rw [if_pos hends, hyphenated_cons hsome, List.flatMap_singleton]
          exact .apart rfl ((breaks_first_iff hkept).mpr hends) hbehind
        · rw [if_neg hends, hyphenated_extendFirst]
          exact .together rfl (mt (breaks_first_iff hkept).mp hends) hbehind

/-! ## 4. One pass over the positions -/

/-- What has been collected in front of a position: words, and the beginning of another. -/
structure Scan where
  words : List (List Char) := []
  current : List Char := []
  deriving DecidableEq, Repr

namespace Scan

/-- Ends the word that has been begun, if there is one. -/
def flush (s : Scan) : Scan :=
  if s.current.isEmpty then s else { words := s.words ++ [s.current] }

/-- Puts a character behind what has been collected. -/
def push (s : Scan) (c : Char) : Scan := { s with current := s.current ++ lower c }

end Scan

/-- The character in front of a position.  There is none in front of the text. -/
def before? (cs : List Char) : Nat → Option Char
  | 0 => none
  | i + 1 => cs[i]?

/-- Passes one position, with a look in front of it where a capital goes on with a word.  A look
outside of the text has no result. -/
def Scan.pass? (cs : List Char) (s : Scan) (i : Nat) : Option Scan := do
  let c ← cs[i]?
  if isSeparator c then return s.flush
  if isUpper c && !s.current.isEmpty then
    let before ← before? cs i
    return (if startsWord before c cs[i + 1]? then s.flush else s).push c
  return s.push c

/-- The words of a name by one pass over its positions. -/
def scan? (s : String) : Option (List (List Char)) :=
  ((List.range s.toList.length).foldlM (Scan.pass? s.toList) {}).map (·.flush.words)

/-- Puts characters in front of the first word. -/
def joinFirst (current : List Char) : List (List Char) → List (List Char)
  | [] => [current]
  | w :: ws => (current ++ w) :: ws

/-- The words of what follows a character, where the last one up to it has been begun. -/
def goOn (current : List Char) (a : Char) (rest : List Char) : List (List Char) :=
  if endsWord a rest then current :: lowered (written rest)
  else joinFirst current (lowered (written rest))

theorem lowered_extendFirst (c : Char) (ws : List (List Char)) :
    lowered (extendFirst c ws) = joinFirst (lower c) (lowered ws) := by
  cases ws <;> simp [extendFirst, lowered, joinFirst]

theorem lowered_written {c : Char} (hc : isSeparator c = false) (cs : List Char) :
    lowered (written (c :: cs)) = goOn (lower c) c cs := by
  rw [written_cons hc, goOn]
  split
  · rw [lowered_cons, List.flatMap_singleton]
  · exact lowered_extendFirst c _

theorem joinFirst_goOn (current front : List Char) (c : Char) (cs : List Char) :
    joinFirst current (goOn front c cs) = goOn (current ++ front) c cs := by
  rw [goOn, goOn]
  split
  · rfl
  · cases lowered (written cs) <;> simp [joinFirst]

/-- A character that is kept starts a word or goes on with the one in front. -/
theorem goOn_cons (current : List Char) (a : Char) {c : Char} (hc : isSeparator c = false)
    (cs : List Char) : goOn current a (c :: cs)
      = if startsWord a c cs.head? then current :: goOn (lower c) c cs
        else goOn (current ++ lower c) c cs := by
  rw [goOn, endsWord, hc, Bool.false_or, lowered_written hc, joinFirst_goOn]

theorem goOn_separator (current : List Char) (a : Char) {c : Char} (hc : isSeparator c = true)
    (cs : List Char) : goOn current a (c :: cs) = current :: lowered (written cs) := by
  rw [goOn, endsWord, hc, Bool.true_or, if_pos rfl, written_separator hc]

namespace Scan

/-- What has been collected in front of the rest of a text, and the words that there will be.  A
word that has been begun ends at the character in front. -/
inductive Expects (front rest : List Char) : Scan → List (List Char) → Prop where
  | between (ws : List (List Char)) :
      Expects front rest { words := ws } (ws ++ lowered (written rest))
  | within (ws : List (List Char)) {current before : List Char} {a : Char}
      (begun : current ≠ []) (front_eq : front = before ++ [a]) :
      Expects front rest { words := ws, current } (ws ++ goOn current a rest)

theorem flush_of_begun {ws : List (List Char)} {current : List Char} (h : current ≠ []) :
    flush { words := ws, current } = { words := ws ++ [current] } := by
  rw [flush, if_neg (mt List.isEmpty_iff.mp h)]

/-- **One step**: it looks inside of the text only, and leaves the words that there will be. -/
theorem pass?_of_expects {front cs : List Char} {c : Char} {s : Scan} {ws : List (List Char)}
    (h : Expects front (c :: cs) s ws) : ∃ s',
      pass? (front ++ c :: cs) s front.length = some s' ∧ Expects (front ++ [c]) cs s' ws := by
  have hafter : (front ++ c :: cs)[front.length + 1]? = cs.head? := by
    rw [List.getElem?_append_right (by omega), List.head?_eq_getElem?]
    simp
  have hlower : lower c ≠ [] := lower_ne_nil c
  cases hsep : isSeparator c with
  | true =>
    refine ⟨s.flush, by simp [pass?, hsep], ?_⟩
    cases h with
    | between ws =>
      rw [written_separator hsep]
      exact .between ws
    | within ws hbegun hfront =>
      rw [flush_of_begun hbegun, goOn_separator _ _ hsep, List.append_cons ws _ (lowered _)]
      exact .between _
  | false =>
    cases h with
    | between ws =>
      refine ⟨push { words := ws } c, by simp [pass?, hsep], ?_⟩
      rw [lowered_written hsep]
      exact .within ws hlower rfl
    | @within ws current before a hbegun hfront =>
      have hbefore : before? (front ++ c :: cs) front.length = some a := by
        rw [hfront, List.length_append, List.length_singleton, before?, List.append_assoc]
        simp
      rw [goOn_cons current a hsep]
      cases hstarts : startsWord a c cs.head? with
      | true =>
        have hupper : isUpper c = true := (startsWord_iff.mp hstarts).1
        refine ⟨push { words := ws ++ [current] } c, ?_, ?_⟩
        · simp [pass?, hsep, hupper, hbegun, hbefore, hafter, hstarts, flush_of_begun hbegun]
        · rw [if_pos rfl, List.append_cons ws _ (goOn _ _ _)]
          exact .within _ hlower rfl
      | false =>
        refine ⟨push { words := ws, current } c, ?_, ?_⟩
        · cases hupper : isUpper c <;>
            simp [pass?, hsep, hupper, hbegun, hbefore, hafter, hstarts]
        · rw [if_neg Bool.false_ne_true]
          exact .within ws (List.append_ne_nil_of_left_ne_nil hbegun _) rfl

/-- **The whole run**, from any position on. -/
theorem foldlM_of_expects : ∀ {rest front : List Char} {s : Scan} {ws : List (List Char)},
    Expects front rest s ws →
    ((List.range' front.length rest.length).foldlM (pass? (front ++ rest)) s).map (·.flush.words)
      = some ws
  | [], front, s, ws, h => by
    cases h with
    | between ws => simp [flush, lowered]
    | within ws hbegun _ => simp [flush_of_begun hbegun, goOn, endsWord, joinFirst, lowered]
  | c :: cs, front, s, ws, h => by
    obtain ⟨s', hpass, hnext⟩ := pass?_of_expects h
    have ih := foldlM_of_expects hnext
    rw [List.length_append, List.length_singleton, List.append_assoc, List.singleton_append] at ih
    rw [List.length_cons, List.range'_succ, List.foldlM_cons, hpass]
    exact ih

end Scan

/-- **One pass finds the words of a name**, and every look is at a character of it. -/
theorem scan?_eq_words (s : String) : scan? s = some (words s) := by
  have hstart : Scan.Expects [] s.toList {} ([] ++ lowered (written s.toList)) := .between []
  have hrun := Scan.foldlM_of_expects hstart
  rw [List.nil_append, List.length_nil, ← List.range_eq_range', List.nil_append] at hrun
  exact hrun

/-! ## 5. Hyphens -/

theorem ofNat_ne_hyphen {n : Nat} (h : n ≠ 45) : Char.ofNat n ≠ '-' := by
  intro heq
  by_cases hvalid : n.isValidChar
  · have hofNat : Char.ofNat n = Char.ofNatAux n hvalid := dif_pos hvalid
    exact h (congrArg Char.toNat (hofNat.symm.trans heq))
  · have hofNat : Char.ofNat n = '\x00' := dif_neg hvalid
    rw [hofNat] at heq
    cases heq

/-- No lowercase form beyond ASCII is a hyphen, or one of several characters that is. -/
theorem hyphen_notMem_respell {c : Char} (hc : c ≠ '-') :
    '-' ∉ respell lowerSpellings lowerShifts c := by
  have hspellings : ∀ e ∈ lowerSpellings, ∀ n ∈ e.2, n ≠ 45 := by decide
  have hshifts : ∀ run ∈ lowerShifts, 45 < (run.first : Int) + run.shift := by
    decide +kernel
  rw [respell]
  split
  · next n ns hlookup =>
    obtain ⟨front, behind, hsplit, -⟩ := List.lookup_eq_some_iff.mp hlookup
    have hmem := hspellings (c.toNat, n :: ns)
      (hsplit ▸ List.mem_append_right _ List.mem_cons_self)
    intro hhyphen
    rw [← List.map_cons] at hhyphen
    obtain ⟨m, hm, heq⟩ := List.mem_map.mp hhyphen
    exact ofNat_ne_hyphen (hmem m hm) heq
  · rw [List.mem_singleton, shift]
    split
    · next run hrun =>
      have hmem := hshifts run (List.mem_of_find?_eq_some hrun)
      have hcontains := List.find?_some hrun
      simp only [Run.contains, Bool.and_eq_true, decide_eq_true_eq] at hcontains
      refine (ofNat_ne_hyphen ?_).symm
      omega
    · exact hc.symm

/-- **Lowercase makes no hyphens.** -/
theorem hyphen_notMem_lower {c : Char} (hc : c ≠ '-') : '-' ∉ lower c := by
  cases hascii : isAscii c with
  | true =>
    rw [lower_ascii hascii, List.mem_singleton]
    exact forall_ascii (P := fun c => c ≠ '-' → '-' ≠ c.toLower) (by decide) hascii hc
  | false =>
    rw [lower, hascii, if_neg Bool.false_ne_true]
    exact hyphen_notMem_respell hc

theorem nil_notMem_words (s : String) : [] ∉ words s := by
  intro h
  obtain ⟨hump, hhump, hnil⟩ := List.mem_map.mp h
  obtain ⟨piece, -, hhump⟩ := List.mem_flatMap.mp hhump
  cases hump with
  | nil => exact humps_no_empty piece hhump
  | cons c cs => exact lower_ne_nil c (List.append_eq_nil_iff.mp hnil).1

theorem hyphen_notMem_words {s : String} {word : List Char} (h : word ∈ words s) : '-' ∉ word := by
  intro hhyphen
  obtain ⟨d, -, hseparator, hd⟩ := mem_words h hhyphen
  refine hyphen_notMem_lower ?_ hd
  rintro rfl
  cases hseparator

/-- A text whose pieces are not empty has its hyphens between two characters that are none. -/
theorem hyphens_of_splitOn {text : List Char} (h : [] ∉ text.splitOn '-') :
    text.head? ≠ some '-' ∧ text.getLast? ≠ some '-' ∧ ¬ ['-', '-'] <:+: text := by
  refine ⟨?_, ?_, ?_⟩
  · intro hhead
    obtain ⟨rest, rfl⟩ := List.head?_eq_some_iff.mp hhead
    have hsplit := List.splitOn_append_cons_self (a := '-') [] rest
    rw [List.nil_append] at hsplit
    exact h (hsplit ▸ List.mem_cons_self)
  · intro hlast
    obtain ⟨front, rfl⟩ := List.getLast?_eq_some_iff.mp hlast
    have hsplit := List.splitOn_append_cons_self (a := '-') front []
    exact h (hsplit ▸ List.mem_append_right _ List.mem_cons_self)
  · rintro ⟨front, rest, rfl⟩
    have hsplit := List.splitOn_append_cons_self (a := '-') front ('-' :: rest)
    have hrest := List.splitOn_append_cons_self (a := '-') [] rest
    rw [List.nil_append] at hrest
    rw [List.append_assoc, List.cons_append, List.singleton_append, hsplit, hrest] at h
    exact h (List.mem_append_right _ List.mem_cons_self)

/-- **Hyphens stand between words only.** -/
theorem hyphens_of_kebab (s : String) : (kebab s).toList.head? ≠ some '-' ∧
    (kebab s).toList.getLast? ≠ some '-' ∧ ¬ ['-', '-'] <:+: (kebab s).toList := by
  rw [kebab, String.toList_ofList]
  by_cases hwords : words s = []
  · rw [hwords, List.intercalate_nil]
    simp
  · refine hyphens_of_splitOn ?_
    rw [List.splitOn_intercalate '-' (fun word hword => hyphen_notMem_words hword) hwords]
    exact nil_notMem_words s

/-! ## 6. Names that stay -/

/-- A word that is in lowercase already. -/
structure IsSettled (word : List Char) : Prop where
  ne_nil : word ≠ []
  kept : ∀ c ∈ word, isSeparator c = false
  not_upper : ∀ c ∈ word, isUpper c = false
  lower_eq : ∀ c ∈ word, lower c = [c]

/-- Letter case starts no word where there is no capital. -/
theorem humps_eq_singleton : ∀ {word : List Char}, word ≠ [] →
    (∀ c ∈ word, isUpper c = false) → humps word = [word]
  | [], hne, _ => absurd rfl hne
  | [_], _, _ => rfl
  | c :: d :: word, _, h => by
    obtain ⟨-, hrest⟩ := List.forall_mem_cons.mp h
    have hstarts : startsWord c d word.head? = false := by
      simp [startsWord, hrest d List.mem_cons_self]
    rw [humps, hstarts, if_neg Bool.false_ne_true, humps_eq_singleton (List.cons_ne_nil d word)
      hrest, extendFirst]

theorem written_intercalate {ws : List (List Char)} (h : ∀ word ∈ ws, IsSettled word) :
    written (['-'].intercalate ws) = ws := by
  by_cases hne : ws = []
  · rw [hne, List.intercalate_nil, written_nil]
  · rw [written, splitOnP_intercalate rfl (fun word hword => (h word hword).kept) hne]
    have hhumps : ws.flatMap humps = ws.flatMap fun word => [word] :=
      List.flatMap_congr fun word hword =>
        humps_eq_singleton (h word hword).ne_nil (h word hword).not_upper
    rw [hhumps, List.flatMap_singleton']

theorem lowered_eq_self {ws : List (List Char)} (h : ∀ word ∈ ws, IsSettled word) :
    lowered ws = ws := by
  refine (List.map_congr_left fun word hword => ?_).trans (List.map_id ws)
  have hlower : word.flatMap lower = word.flatMap fun c => [c] :=
    List.flatMap_congr (h word hword).lower_eq
  rw [hlower, List.flatMap_singleton', id]

/-- **A name of settled words stays.** -/
theorem kebab_eq_self {s : String} (h : ∀ word ∈ words s, IsSettled word) :
    kebab (kebab s) = kebab s := by
  refine String.toList_inj.mp ?_
  rw [toList_kebab (kebab s), kebab, String.toList_ofList, written_intercalate h, hyphenated,
    lowered_eq_self h]

theorem isSettled_of_ascii {s : String} (h : ∀ c ∈ s.toList, isAscii c = true) :
    ∀ word ∈ words s, IsSettled word := by
  intro word hword
  have hlower : ∀ c ∈ word, isSeparator c = false ∧ isUpper c = false ∧ lower c = [c] := by
    intro c hc
    obtain ⟨d, hd, hseparator, hcd⟩ := mem_words hword hc
    rw [lower_ascii (h d hd), List.mem_singleton] at hcd
    rw [hcd]
    exact forall_ascii (P := fun d => isSeparator d = false → isSeparator d.toLower = false ∧
      isUpper d.toLower = false ∧ lower d.toLower = [d.toLower]) (by decide) (h d hd) hseparator
  exact {
    ne_nil := fun hnil => nil_notMem_words s (hnil ▸ hword)
    kept := fun c hc => (hlower c hc).1
    not_upper := fun c hc => (hlower c hc).2.1
    lower_eq := fun c hc => (hlower c hc).2.2 }

/-- **A file name breaks exactly where its name does.**  One pass over the positions finds its words
and never looks outside of the name; each character that is kept is there in lowercase, with a
hyphen between two neighbours just if the name breaks between them, and so no hyphen is at an end or
next to another.  In ASCII a file name is its own. -/
theorem breaks_of_kebab (s : String) :
    scan? s = some (words s) ∧
    Spells s.toList (kept s.toList) (kebab s).toList ∧
    ((kebab s).toList.head? ≠ some '-' ∧ (kebab s).toList.getLast? ≠ some '-' ∧
      ¬ ['-', '-'] <:+: (kebab s).toList) ∧
    ((∀ c ∈ s.toList, isAscii c = true) → kebab (kebab s) = kebab s) := by
  refine ⟨scan?_eq_words s, ?_, hyphens_of_kebab s, ?_⟩
  · rw [toList_kebab]
    exact spells_written s.toList
  · intro hascii
    exact kebab_eq_self (isSettled_of_ascii hascii)

/-- Capitals in a row, a digit in front of a capital, and separators in a row and at an end. -/
theorem breaks_of_kebab_mixed :
    (∀ c ∈ "APIKey_v2Beta -XML".toList, isAscii c = true) ∧
    scan? "APIKey_v2Beta -XML" = some [['a', 'p', 'i'], ['k', 'e', 'y'], ['v', '2'],
      ['b', 'e', 't', 'a'], ['x', 'm', 'l']] ∧
    kebab "APIKey_v2Beta -XML" = "api-key-v2-beta-xml" ∧
    kebab (kebab "APIKey_v2Beta -XML") = kebab "APIKey_v2Beta -XML" := by
  have hascii : ∀ c ∈ "APIKey_v2Beta -XML".toList, isAscii c = true :=
    List.all_eq_true.mp (by decide)
  obtain ⟨hscan, -, -, hstays⟩ := breaks_of_kebab "APIKey_v2Beta -XML"
  have hwords : words "APIKey_v2Beta -XML" = [['a', 'p', 'i'], ['k', 'e', 'y'], ['v', '2'],
      ['b', 'e', 't', 'a'], ['x', 'm', 'l']] := by decide
  exact ⟨hascii, hwords ▸ hscan, by rw [kebab, hwords]; rfl, hstays hascii⟩

end SchemaClass.Naming
