import SchemaClass.Proofs.Import.Resolution
/-!
# Resolution in place

`ImportList.resolveWith` gives a new list.  Where there is one list that is changed instead, the
answers are asked for first; then the records are taken out and their symbols are registered again,
one at a time.  A failure in between would leave a list that is neither the old nor the new one, so
it matters that all questions come before the first change.

* `rewrite`: the steps, where a failure keeps what has been changed before it;
* `run_rewrite`: they lead to the list of `resolveWith`, or fail with the same error and leave the
  list as it was.
-/

namespace SchemaClass.ImportList

open Outcome

variable {ε : Type}

/-! ## 1. The steps -/

/-- The origins that are placeholders, each with the entity it stands for. -/
def waiting (l : ImportList) : List (String × String) :=
  l.records.filterMap fun r => r.target?.map (r.origin, ·)

/-- An origin with what is answered for its target. -/
def answerFor (ask : String → Except ε String) (place : String × String) :
    Except ε (String × String) := do
  return (place.1, ← ask place.2)

/-- Registers the symbols of a record again, under what has been answered for its origin. -/
def reregister (answers : List (String × String)) (r : ImportRecord) :
    ExceptT ε (StateM ImportList) Unit :=
  r.symbols.forM fun symbol =>
    modify (·.register symbol ((answers.lookup r.origin).getD r.origin))

/-- Replaces the placeholders of the list; counts them. -/
def rewrite (ask : String → Except ε String) : ExceptT ε (StateM ImportList) Nat := do
  let l ← get
  let answers ← (l.waiting.mapM (answerFor ask) : Except ε (List (String × String)))
  if answers.isEmpty then return 0
  set ({} : ImportList)
  l.records.forM (reregister answers)
  return answers.length

/-! ## 2. Questions -/

variable {ask : String → Except ε String}

theorem mem_waiting {l : ImportList} {origin target : String} :
    (origin, target) ∈ l.waiting ↔
      ∃ r ∈ l.records, r.origin = origin ∧ r.target? = some target := by
  simp only [waiting, List.mem_filterMap, Option.map_eq_some_iff, Prod.mk.injEq]
  constructor
  · rintro ⟨r, hr, t, ht, rfl, rfl⟩
    exact ⟨r, hr, rfl, ht⟩
  · rintro ⟨r, hr, rfl, ht⟩
    exact ⟨r, hr, target, ht, rfl, rfl⟩

theorem waiting_cons_of_none {r : ImportRecord} (h : r.target? = none) (rs : List ImportRecord) :
    (ImportList.mk (r :: rs)).waiting = (ImportList.mk rs).waiting :=
  List.filterMap_cons_none (by rw [h]; rfl)

theorem waiting_cons_of_some {r : ImportRecord} {target : String} (h : r.target? = some target)
    (rs : List ImportRecord) :
    (ImportList.mk (r :: rs)).waiting = (r.origin, target) :: (ImportList.mk rs).waiting :=
  List.filterMap_cons_some (by rw [h]; rfl)

theorem length_waiting (l : ImportList) : l.waiting.length = l.unresolved.length := by
  obtain ⟨rs⟩ := l
  rw [unresolved]
  induction rs with
  | nil => rfl
  | cons r rs ih =>
    cases ht : r.target? with
    | none =>
      rw [waiting_cons_of_none ht, ih,
        List.filter_cons_of_neg (by simp [ImportRecord.isPlaceholder, ht])]
    | some target =>
      rw [waiting_cons_of_some ht, List.length_cons, ih,
        List.filter_cons_of_pos (by simp [ImportRecord.isPlaceholder, ht]), List.length_cons]

/-- There are no answers just if no record waits. -/
theorem isEmpty_answers (l : ImportList) (answer : String → String) :
    (l.waiting.map fun p => (p.1, answer p.2)).isEmpty = decide (l.unresolved.length = 0) := by
  rw [← length_waiting]
  cases l.waiting with
  | nil => rfl
  | cons p places => rfl

theorem answerFor_eq_error {place : String × String} {e : ε} :
    answerFor ask place = .error e ↔ ask place.2 = .error e := by
  rw [answerFor, bind_eq_error]
  exact or_iff_left fun ⟨_, _, h⟩ => nomatch h

theorem answerFor_eq_ok {origin target answer : String} (h : ask target = .ok answer) :
    answerFor ask (origin, target) = .ok (origin, answer) := by
  rw [answerFor, h]
  rfl

/-- The questions are asked in the order of the records, so the first that fails is the same. -/
theorem mapM_answerFor_error {e : ε} : ∀ rs : List ImportRecord,
    rs.mapM (resolveRecord ask) = .error e →
      (ImportList.mk rs).waiting.mapM (answerFor ask) = .error e
  | [], h => by cases h
  | r :: rs, h => by
    rw [mapM_cons_eq_error] at h
    cases ht : r.target? with
    | none =>
      rw [waiting_cons_of_none ht]
      rw [resolveRecord, ht] at h
      rcases h with h | ⟨-, h⟩
      · cases h
      · exact mapM_answerFor_error rs h
    | some target =>
      rw [waiting_cons_of_some ht, mapM_cons_eq_error, answerFor_eq_error]
      rw [resolveRecord, ht] at h
      rcases h with h | ⟨⟨b, hb⟩, h⟩
      · rcases bind_eq_error.mp h with h | ⟨_, _, h⟩
        · exact Or.inl h
        · cases h
      · obtain ⟨origin, horigin, -⟩ := bind_eq_ok.mp hb
        exact Or.inr ⟨⟨_, answerFor_eq_ok horigin⟩, mapM_answerFor_error rs h⟩

/-! ## 3. Changes -/

theorem run_reregister (answers : List (String × String)) (r : ImportRecord) (l : ImportList) :
    (reregister (ε := ε) answers r).run.run l = (.ok (), l.registerAll
        (r.symbols.map (·, (answers.lookup r.origin).getD r.origin))) := by
  unfold reregister
  generalize (answers.lookup r.origin).getD r.origin = origin
  induction r.symbols generalizing l with
  | nil => rfl
  | cons symbol symbols ih => exact ih (l.register symbol origin)

theorem run_reregisters (answers : List (String × String)) : ∀ (rs : List ImportRecord)
    (l : ImportList), (rs.forM (reregister (ε := ε) answers)).run.run l = (.ok (), l.registerAll
      (rs.flatMap fun r => r.symbols.map (·, (answers.lookup r.origin).getD r.origin)))
  | [], _ => rfl
  | r :: rs, l => by
    rw [List.flatMap_cons, registerAll_append, ← run_reregisters answers rs]
    exact run_bind_of_ok (run_reregister answers r l)

/-- A record is registered again under the answer for its target, or where it was. -/
theorem lookup_answers {l : ImportList} {answer : String → String} {r : ImportRecord}
    (hr : r ∈ l.records) :
    ((l.waiting.map fun p => (p.1, answer p.2)).lookup r.origin).getD r.origin
      = (r.redirect answer).origin := by
  -- what an origin waits for can be read off it
  have htarget : ∀ p ∈ l.waiting, p.1 = r.origin → r.target? = some p.2 := by
    rintro ⟨origin, target⟩ hp rfl
    obtain ⟨r', -, horigin, ht⟩ := mem_waiting.mp hp
    rw [← ht, ImportRecord.target?, ImportRecord.target?, horigin]
  cases hlookup : (l.waiting.map fun p => (p.1, answer p.2)).lookup r.origin with
  | none =>
    have hnone : r.target? = none := by
      rw [Option.eq_none_iff_forall_ne_some]
      intro target ht
      have hmem : (r.origin, target) ∈ l.waiting :=
        mem_waiting.mpr ⟨r, hr, rfl, ht⟩
      have h := List.lookup_eq_none_iff.mp hlookup _ (List.mem_map_of_mem hmem)
      simp at h
    rw [ImportRecord.redirect, hnone]
    rfl
  | some origin =>
    obtain ⟨before, behind, hsplit, -⟩ := List.lookup_eq_some_iff.mp hlookup
    have hmem : (r.origin, origin) ∈ l.waiting.map fun p => (p.1, answer p.2) := by
      rw [hsplit]
      exact List.mem_append_right _ List.mem_cons_self
    obtain ⟨p, hp, heq⟩ := List.mem_map.mp hmem
    obtain ⟨horigin, rfl⟩ := Prod.mk.inj heq
    rw [ImportRecord.redirect, htarget p hp horigin]
    rfl

theorem pairs_redirect (l : ImportList) (answer : String → String) :
    (l.records.flatMap fun r => r.symbols.map
        (·, ((l.waiting.map fun p => (p.1, answer p.2)).lookup r.origin).getD r.origin))
      = ImportList.pairs ⟨l.records.map (·.redirect answer)⟩ := by
  rw [ImportList.pairs, List.flatMap_map]
  refine List.flatMap_congr fun r hr => ?_
  rw [lookup_answers hr, ImportRecord.redirect_eq]

/-- The records of a list, registered again with an answer in place of every placeholder. -/
theorem run_reregister_redirected (l : ImportList) (answer : String → String) :
    (l.records.forM
        (reregister (ε := ε) (l.waiting.map fun p => (p.1, answer p.2)))).run.run {}
      = (.ok (), ({} : ImportList).registerAll
          (ImportList.pairs ⟨l.records.map (·.redirect answer)⟩)) := by
  rw [run_reregisters, pairs_redirect]

theorem run_rewrite_of_error {l : ImportList} {e : ε} (h : l.resolveWith ask = .error e) :
    (rewrite ask).run.run l = (.error e, l) := by
  rw [rewrite, run_bind_of_ok (run_get l)]
  rcases bind_eq_error.mp h with h | ⟨records, -, h⟩
  · refine run_bind_of_error ?_
    rw [mapM_answerFor_error l.records h]
    rfl
  · dsimp only at h
    split at h <;> cases h

theorem run_rewrite_of_answers {answer : String → String} {l : ImportList}
    (h : ∀ r ∈ l.records, ∀ target, r.target? = some target → ask target = .ok (answer target)) :
    (rewrite ask).run.run l = (.ok l.unresolved.length, l.redirected answer) := by
  have hanswers : l.waiting.mapM (answerFor ask)
      = .ok (l.waiting.map fun p => (p.1, answer p.2)) := by
    refine mapM_eq_ok_map fun p hp => ?_
    obtain ⟨r, hr, -, ht⟩ := mem_waiting.mp hp
    exact answerFor_eq_ok (h r hr _ ht)
  have hlift : ((liftM (.ok (l.waiting.map fun p => (p.1, answer p.2)) : Except ε _) :
      ExceptT ε (StateM ImportList) (List (String × String)))).run.run l = (.ok _, l) := rfl
  rw [rewrite, run_bind_of_ok (run_get l), hanswers, run_bind_of_ok hlift, redirected,
    isEmpty_answers]
  by_cases hcount : l.unresolved.length = 0
  · rw [if_pos hcount, hcount]
    rfl
  · rw [if_neg hcount, decide_eq_false hcount]
    refine (run_bind_of_ok (run_set l {})).trans
      ((run_bind_of_ok (run_reregister_redirected l answer)).trans ?_)
    rw [List.length_map, length_waiting]
    rfl

/-- **Resolution in place does what resolution does, and a failure leaves the list as it was.** -/
theorem run_rewrite (ask : String → Except ε String) (l : ImportList) :
    (rewrite ask).run.run l = match l.resolveWith ask with
      | .ok (resolved, count) => (.ok count, resolved)
      | .error e => (.error e, l) := by
  cases hresolve : l.resolveWith ask with
  | error e => exact run_rewrite_of_error hresolve
  | ok result =>
    obtain ⟨answer, hanswer⟩ := exists_answers hresolve
    rw [resolveWith_eq_redirected hanswer] at hresolve
    cases hresolve
    exact run_rewrite_of_answers hanswer

end SchemaClass.ImportList
