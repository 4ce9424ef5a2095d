import SchemaClass.Proofs.Import.InPlace
import SchemaClass.Proofs.Import.Merging
/-!
# Resolution by an oracle

The one who answers for placeholders may be anybody: he may remember what he has been asked, answer
otherwise the next time, and refuse.  So it matters which questions he gets, and in which order.
Every placeholder stands once in a list, so he is asked once for each, in the order of the list, and
no longer after he has refused.

What the list looks like then follows from the answers alone: it is as if each had been there from
the start, and everything had been registered again.

* `Oracle.Answers`: a round of questions that are all answered;
* `Session.rewrite`: the steps on a list that is changed in place;
* `mapM_resolveRecord`: the questions can be asked before anything else is done;
* `run_rewrite_answered`, `run_rewrite_refused`: what the steps lead to;
* `rewritten_registerAll`: the list that is left after every question has been answered;
* `rewriting_of_registered`: all of this for any sequence of registrations and any oracle.
-/

namespace SchemaClass

open OrderedSet Outcome

variable {ε σ : Type}

/-! ## 1. Questions -/

/-- Answers for a target or refuses, by what is remembered; this changes with every question. -/
abbrev Oracle (ε σ : Type) := String → σ → Except ε String × σ

/-- `Answers oracle targets s answers s'`: asked for `targets` one after the other, the oracle has an
answer for each.  It remembers `s` before and `s'` afterwards. -/
inductive Oracle.Answers (oracle : Oracle ε σ) : List String → σ → List String → σ → Prop
  /-- No question. -/
  | done (s : σ) : Answers oracle [] s [] s
  /-- One question, and then the others. -/
  | next {target answer : String} {targets answers : List String} {s s' s'' : σ}
      (first : oracle target s = (.ok answer, s')) (rest : Answers oracle targets s' answers s'') :
      Answers oracle (target :: targets) s (answer :: answers) s''

/-- `Refuses oracle before target s e s'`: the oracle has an answer for each of `before` and then
refuses one for `target`. -/
def Oracle.Refuses (oracle : Oracle ε σ) (before : List String) (target : String) (s : σ) (e : ε)
    (s' : σ) : Prop :=
  ∃ answers middle, oracle.Answers before s answers middle ∧ oracle target middle = (.error e, s')

namespace Oracle

variable {oracle : Oracle ε σ}

/-- Either all questions are answered, or there is one that is refused first. -/
theorem answers_or_refuses (oracle : Oracle ε σ) (targets : List String) (s : σ) :
    (∃ answers s', oracle.Answers targets s answers s') ∨
      ∃ before target rest e s', targets = before ++ target :: rest ∧
        oracle.Refuses before target s e s' := by
  induction targets generalizing s with
  | nil => exact Or.inl ⟨[], s, .done s⟩
  | cons target targets ih =>
    cases hfirst : oracle target s with
    | mk reply s' =>
      cases reply with
      | error e => exact Or.inr ⟨[], target, targets, e, s', rfl, [], s, .done s, hfirst⟩
      | ok answer =>
        rcases ih s' with ⟨answers, s'', hrest⟩ |
          ⟨before, refused, rest, e, s'', rfl, answers, middle, hbefore, hrefused⟩
        · exact Or.inl ⟨answer :: answers, s'', .next hfirst hrest⟩
        · exact Or.inr ⟨target :: before, refused, rest, e, s'', rfl, answer :: answers, middle,
            .next hfirst hbefore, hrefused⟩

/-- Where nothing is asked for twice, the answers are those of a function of the target. -/
theorem Answers.exists_answer {targets answers : List String} {s s' : σ}
    (h : oracle.Answers targets s answers s') (hnd : targets.Nodup) :
    ∃ answer : String → String, answers = targets.map answer := by
  induction h with
  | done s => exact ⟨id, rfl⟩
  | @next target first targets answers s s' s'' _ _ ih =>
    rw [List.nodup_cons] at hnd
    obtain ⟨answer, rfl⟩ := ih hnd.2
    refine ⟨Function.update answer target first, ?_⟩
    have hothers : targets.map (Function.update answer target first) = targets.map answer := by
      refine List.map_congr_left fun other hother => ?_
      have hne : other ≠ target := by
        rintro rfl
        exact hnd.1 hother
      exact Function.update_of_ne hne first answer
    rw [List.map_cons, Function.update_self, hothers]

end Oracle

/-- An origin with what is answered for its target. -/
def ImportList.answerOf {m : Type → Type} [Monad m] (ask : String → m String)
    (place : String × String) : m (String × String) := do
  return (place.1, ← ask place.2)

/-! ## 2. The steps on a list -/

/-- A list that is changed in place, with what the oracle remembers and what it has been asked. -/
structure Session (σ : Type) where
  list : ImportList
  memory : σ
  asked : List String := []

namespace Session

/-- Asks the oracle for a target. -/
def ask (oracle : Oracle ε σ) (target : String) : ExceptT ε (StateM (Session σ)) String :=
  ExceptT.mk fun s =>
    let (reply, memory) := oracle target s.memory
    (reply, { s with memory, asked := s.asked ++ [target] })

/-- A step that changes the list. -/
def onList {α : Type} (step : ExceptT ε (StateM ImportList) α) :
    ExceptT ε (StateM (Session σ)) α :=
  ExceptT.mk fun s =>
    let (result, list) := step.run.run s.list
    (result, { s with list })

/-- Replaces the placeholders of the list by what the oracle answers; counts them.  The records are
taken out after the last question and their symbols registered again, one at a time. -/
def rewrite (oracle : Oracle ε σ) : ExceptT ε (StateM (Session σ)) Nat := do
  let l := (← get).list
  let answers ← l.waiting.mapM (ImportList.answerOf (ask oracle))
  if answers.isEmpty then return 0
  onList (set ({} : ImportList))
  onList (l.records.forM (ImportList.reregister answers))
  return answers.length

end Session

/-! ## 3. Questions come first -/

namespace ImportList

/-- The entities that a list waits for, in the order of its records. -/
def targets (l : ImportList) : List String := l.records.filterMap (·.target?)

/-- Records with answers in place of their placeholders, one after the other. -/
def fill : List ImportRecord → List String → List ImportRecord
  | [], _ => []
  | r :: rs, answers =>
    match r.target?, answers with
    | some _, answer :: answers => { r with origin := answer } :: fill rs answers
    | _, answers => r :: fill rs answers

theorem fill_cons_of_none {r : ImportRecord} (h : r.target? = none) (rs : List ImportRecord)
    (answers : List String) : fill (r :: rs) answers = r :: fill rs answers := by
  simp [fill, h]

theorem fill_cons_of_some {r : ImportRecord} {target : String} (h : r.target? = some target)
    (rs : List ImportRecord) (answer : String) (answers : List String) :
    fill (r :: rs) (answer :: answers) = { r with origin := answer } :: fill rs answers := by
  simp [fill, h]

theorem fill_map (answer : String → String) : ∀ rs : List ImportRecord,
    fill rs ((rs.filterMap (·.target?)).map answer) = rs.map (·.redirect answer)
  | [] => rfl
  | r :: rs => by
    have ih := fill_map answer rs
    cases ht : r.target? with
    | none =>
      have hself : r.redirect answer = r := by rw [ImportRecord.redirect, ht]
      rw [List.filterMap_cons_none ht, fill_cons_of_none ht, List.map_cons, hself, ← ih]
    | some target =>
      have hanswer : r.redirect answer = { r with origin := answer target } := by
        rw [ImportRecord.redirect, ht]
      rw [List.filterMap_cons_some ht, List.map_cons, fill_cons_of_some ht, List.map_cons, hanswer,
        ← ih]

/-- **The questions can be asked before anything else is done**, in the order of the records. -/
theorem mapM_resolveRecord {m : Type → Type} [Monad m] [LawfulMonad m] (ask : String → m String)
    (rs : List ImportRecord) : rs.mapM (resolveRecord ask) = do
      let answers ← (rs.filterMap (·.target?)).mapM ask
      return fill rs answers := by
  induction rs with
  | nil => simp [fill]
  | cons r rs ih =>
    cases ht : r.target? with
    | none => simp [resolveRecord, ht, ih, fill_cons_of_none ht]
    | some target => simp [resolveRecord, ht, ih, fill_cons_of_some ht]

theorem mapM_answerOf {m : Type → Type} [Monad m] [LawfulMonad m] (ask : String → m String)
    (places : List (String × String)) : places.mapM (answerOf ask) = do
      let answers ← (places.map (·.2)).mapM ask
      return (places.map (·.1)).zip answers := by
  induction places with
  | nil => simp
  | cons place places ih => simp [answerOf, ih]

theorem map_snd_waiting (l : ImportList) : l.waiting.map (·.2) = l.targets := by
  rw [waiting, targets, List.map_filterMap]
  simp [Option.map_map, Function.comp_def]

/-- Nothing is asked for twice. -/
theorem nodup_targets_registered (pairs : List (String × String)) :
    (({} : ImportList).registerAll pairs).targets.Nodup := by
  have horigins : (({} : ImportList).registerAll pairs).targets
      = (({} : ImportList).registerAll pairs).origins.filterMap placeholderTarget? := by
    rw [targets, origins, List.filterMap_map]
    rfl
  rw [horigins, origins_registered]
  refine (nodup_distinct _).filterMap ?_
  intro a b target ha hb
  rw [Option.mem_def, placeholderTarget?_eq_some_iff] at ha hb
  rw [ha, hb]

end ImportList

/-! ## 4. What the steps lead to -/

namespace Session

variable {oracle : Oracle ε σ} {l : ImportList} {s s' : σ} {asked : List String}

/-- A round of questions that are answered leaves the list alone. -/
theorem run_mapM_answered {targets answers : List String}
    (h : oracle.Answers targets s answers s') :
    (targets.mapM (ask oracle)).run.run ⟨l, s, asked⟩
      = (.ok answers, ⟨l, s', asked ++ targets⟩) := by
  induction h generalizing asked with
  | done s => simp; rfl
  | @next target answer targets answers s s' s'' first rest ih =>
    have hask : (ask oracle target).run.run ⟨l, s, asked⟩
        = (.ok answer, ⟨l, s', asked ++ [target]⟩) := by
      simp only [ask, ExceptT.run_mk, StateT.run, first]
    rw [List.mapM_cons, run_bind_of_ok hask, run_bind_of_ok ih, List.append_assoc]
    rfl

/-- So does one that ends with a refusal. -/
theorem run_mapM_refused {before rest : List String} {target : String} {e : ε}
    (h : oracle.Refuses before target s e s') :
    ((before ++ target :: rest).mapM (ask oracle)).run.run ⟨l, s, asked⟩
      = (.error e, ⟨l, s', asked ++ (before ++ [target])⟩) := by
  obtain ⟨answers, middle, hbefore, hrefused⟩ := h
  have hask : (ask oracle target).run.run ⟨l, middle, asked ++ before⟩
      = (.error e, ⟨l, s', asked ++ before ++ [target]⟩) := by
    simp only [ask, ExceptT.run_mk, StateT.run, hrefused]
  rw [List.mapM_append, run_bind_of_ok (run_mapM_answered hbefore), List.mapM_cons, bind_assoc,
    run_bind_of_error hask, List.append_assoc]

theorem run_onList {α : Type} {step : ExceptT ε (StateM ImportList) α} {result : Except ε α}
    {l' : ImportList} (h : step.run.run l = (result, l')) :
    (onList step).run.run ⟨l, s, asked⟩ = (result, ⟨l', s, asked⟩) := by
  have h' : StateT.run (ExceptT.run step) l = (result, l') := h
  simp only [onList, ExceptT.run_mk, StateT.run] at h' ⊢
  rw [h']

/-- **If every question is answered**, the list is the one with the answers in place. -/
theorem run_rewrite_answered {answer : String → String}
    (h : oracle.Answers l.targets s (l.targets.map answer) s') :
    (rewrite oracle).run.run ⟨l, s, asked⟩
      = (.ok l.unresolved.length, ⟨l.redirected answer, s', asked ++ l.targets⟩) := by
  have hanswers : (l.waiting.mapM (ImportList.answerOf (ask oracle))).run.run ⟨l, s, asked⟩
      = (.ok (l.waiting.map fun p => (p.1, answer p.2)), ⟨l, s', asked ++ l.targets⟩) := by
    rw [ImportList.mapM_answerOf, ImportList.map_snd_waiting,
      run_bind_of_ok (run_mapM_answered h), ← ImportList.map_snd_waiting, List.map_map,
      List.zip_map']
    rfl
  rw [rewrite, run_bind_of_ok (run_get _), run_bind_of_ok hanswers, ImportList.redirected,
    ImportList.isEmpty_answers]
  by_cases hcount : l.unresolved.length = 0
  · rw [if_pos hcount, hcount]
    rfl
  · rw [if_neg hcount, decide_eq_false hcount]
    refine (run_bind_of_ok (run_onList (run_set l {}))).trans
      ((run_bind_of_ok (run_onList (ImportList.run_reregister_redirected l answer))).trans ?_)
    rw [List.length_map, ImportList.length_waiting]
    rfl

/-- **If a question is refused**, the list is what it was, and nothing is asked any more. -/
theorem run_rewrite_refused {before rest : List String} {target : String} {e : ε}
    (hl : l.targets = before ++ target :: rest) (h : oracle.Refuses before target s e s') :
    (rewrite oracle).run.run ⟨l, s, asked⟩
      = (.error e, ⟨l, s', asked ++ (before ++ [target])⟩) := by
  have hanswers : (l.waiting.mapM (ImportList.answerOf (ask oracle))).run.run ⟨l, s, asked⟩
      = (.error e, ⟨l, s', asked ++ (before ++ [target])⟩) := by
    rw [ImportList.mapM_answerOf, ImportList.map_snd_waiting, hl,
      run_bind_of_error (run_mapM_refused h)]
  rw [rewrite, run_bind_of_ok (run_get _), run_bind_of_error hanswers]

/-- The list that resolution gives is the one that is left when the steps are done in place. -/
theorem run_resolveWith_answered {answer : String → String} {held : ImportList}
    (h : oracle.Answers l.targets s (l.targets.map answer) s') :
    (l.resolveWith (ask oracle)).run.run ⟨held, s, asked⟩
      = (.ok (l.redirected answer, l.unresolved.length), ⟨held, s', asked ++ l.targets⟩) := by
  have hrecords : (l.records.mapM (ImportList.resolveRecord (ask oracle))).run.run ⟨held, s, asked⟩
      = (.ok (l.records.map (·.redirect answer)), ⟨held, s', asked ++ l.targets⟩) := by
    rw [ImportList.mapM_resolveRecord]
    refine (run_bind_of_ok (run_mapM_answered h)).trans ?_
    rw [ImportList.targets, ImportList.fill_map]
    rfl
  rw [ImportList.resolveWith, run_bind_of_ok hrecords, ImportList.redirected]
  by_cases hcount : l.unresolved.length = 0
  · rw [if_pos hcount, hcount]
    rfl
  · rw [if_neg hcount, if_neg hcount]
    rfl

theorem run_resolveWith_refused {held : ImportList} {before rest : List String} {target : String}
    {e : ε} (hl : l.targets = before ++ target :: rest) (h : oracle.Refuses before target s e s') :
    (l.resolveWith (ask oracle)).run.run ⟨held, s, asked⟩
      = (.error e, ⟨held, s', asked ++ (before ++ [target])⟩) := by
  have hrecords : (l.records.mapM (ImportList.resolveRecord (ask oracle))).run.run ⟨held, s, asked⟩
      = (.error e, ⟨held, s', asked ++ (before ++ [target])⟩) := by
    have htargets : l.records.filterMap (·.target?) = before ++ target :: rest := hl
    rw [ImportList.mapM_resolveRecord, htargets, run_bind_of_error (run_mapM_refused h)]
  rw [ImportList.resolveWith, run_bind_of_error hrecords]

end Session

/-! ## 5. What is left of a list -/

/-- A list after every question has been answered, and what it was before. -/
structure ImportList.Rewritten (answer : String → String) (l l' : ImportList) : Prop where
  /-- Everything is registered again, in the order of the list, under the answers. -/
  afresh : l' = ({} : ImportList).registerAll
    (l.pairs.map fun p => (p.1, redirectOrigin answer p.2))
  /-- The origins are the old ones with answers in place, where each stands first. -/
  origins : l'.origins = (l.origins.map (redirectOrigin answer)).eraseDups
  /-- There is one record for each. -/
  apart : l'.origins.Nodup
  /-- Every record is held under its own origin. -/
  keyed : ({} : KeyedImports).registerAll
    (l.pairs.map fun p => (p.1, redirectOrigin answer p.2)) = l'.keyed
  /-- Every record is found by its origin; it has symbols, and none of them twice. -/
  held : ∀ r ∈ l'.records, l'.get? r.origin = some r ∧ r.symbols ≠ [] ∧ r.symbols.Nodup
  /-- No symbol is lost, and none comes from elsewhere. -/
  kept : ∀ symbol origin, (symbol, origin) ∈ l'.pairs ↔
    ∃ place, (symbol, place) ∈ l.pairs ∧ redirectOrigin answer place = origin
  /-- Records that waited for nothing, and that no answer has met, are what they were, in the same
  order. -/
  untouched : l'.records.filter (fun r => r.origin ∉ l.targets.map answer)
    = l.records.filter (fun r => !r.isPlaceholder && decide (r.origin ∉ l.targets.map answer))

namespace ImportList

theorem origins_pairs_registered (pairs : List (String × String)) :
    distinct ((({} : ImportList).registerAll pairs).pairs.map (·.2))
      = (({} : ImportList).registerAll pairs).origins := by
  rw [origins_registered, registerAll_eq_grouped, distinct_origins_pairs_grouped]

/-- An origin is kept, or it is a placeholder and an answer takes its place. -/
theorem redirectOrigin_cases (answer : String → String) {l : ImportList} {symbol place : String}
    (h : (symbol, place) ∈ l.pairs) :
    (placeholderTarget? place).isSome = false ∧ redirectOrigin answer place = place ∨
      (placeholderTarget? place).isSome = true ∧
        redirectOrigin answer place ∈ l.targets.map answer := by
  obtain ⟨r, hr, rfl, -⟩ := mem_pairs.mp h
  rw [redirectOrigin]
  cases ht : placeholderTarget? r.origin with
  | none => exact Or.inl ⟨rfl, rfl⟩
  | some target =>
    have htarget : target ∈ l.targets := List.mem_filterMap.mpr ⟨r, hr, ht⟩
    exact Or.inr ⟨rfl, List.mem_map_of_mem htarget⟩

/-- What no answer meets has been there before, and has waited for nothing. -/
theorem filter_pairs_untouched (answer : String → String) (l : ImportList) :
    (l.pairs.map fun p => (p.1, redirectOrigin answer p.2)).filter
        (fun p => decide (p.2 ∉ l.targets.map answer))
      = l.pairs.filter fun p =>
          !(placeholderTarget? p.2).isSome && decide (p.2 ∉ l.targets.map answer) := by
  have hsame : ∀ p ∈ l.pairs.filter ((fun p => decide (p.2 ∉ l.targets.map answer)) ∘
      fun p => (p.1, redirectOrigin answer p.2)), (p.1, redirectOrigin answer p.2) = p := by
    intro p hp
    obtain ⟨hmem, hout⟩ := List.mem_filter.mp hp
    rcases redirectOrigin_cases answer hmem with ⟨-, hkept⟩ | ⟨-, hanswer⟩
    · rw [hkept]
    · simp only [Function.comp_apply, decide_eq_true_eq] at hout
      exact absurd hanswer hout
  rw [List.filter_map, List.map_congr_left hsame, List.map_id']
  refine List.filter_congr fun p hp => ?_
  rcases redirectOrigin_cases answer hp with ⟨hplain, hkept⟩ | ⟨hwaits, hanswer⟩
  · simp [hplain, hkept]
  · simp only [Function.comp_apply, hwaits, hanswer, not_true_eq_false, decide_false, Bool.not_true,
      Bool.false_and]

/-- The records that no answer meets are the old ones that neither waited nor were met. -/
theorem filter_untouched (answer : String → String) (pairs : List (String × String)) :
    let l := ({} : ImportList).registerAll pairs
    (({} : ImportList).registerAll
        (l.pairs.map fun p => (p.1, redirectOrigin answer p.2))).records.filter
          (fun r => r.origin ∉ l.targets.map answer)
      = l.records.filter
          (fun r => !r.isPlaceholder && decide (r.origin ∉ l.targets.map answer)) := by
  intro l
  have hself : ({} : ImportList).registerAll l.pairs = l := registerAll_append_pairs [] pairs
  have hold := filter_records_registered (fun origin =>
    !(placeholderTarget? origin).isSome && decide (origin ∉ l.targets.map answer)) l.pairs
  rw [hself, ← filter_pairs_untouched] at hold
  exact (filter_records_registered (fun origin => decide (origin ∉ l.targets.map answer)) _).trans
    hold.symm

/-- **What is left after every question has been answered.** -/
theorem rewritten_registerAll (answer : String → String) (pairs : List (String × String)) :
    (({} : ImportList).registerAll pairs).Rewritten answer
      ((({} : ImportList).registerAll pairs).redirected answer) := by
  have hafresh : (({} : ImportList).registerAll pairs).redirected answer
      = ({} : ImportList).registerAll ((({} : ImportList).registerAll pairs).pairs.map
          fun p => (p.1, redirectOrigin answer p.2)) := by
    rw [redirected_registerAll, pairs_map_redirect]
  rw [hafresh]
  constructor
  · rfl
  · have hmap := distinct_filterMap_distinct (some ∘ redirectOrigin answer)
      ((({} : ImportList).registerAll pairs).pairs.map (·.2))
    rw [List.filterMap_eq_map, origins_pairs_registered] at hmap
    rw [← distinct_eq_eraseDups, hmap, origins_registered, List.map_map, List.map_map]
    rfl
  · rw [origins_registered]
    exact nodup_distinct _
  · exact (keyed_registerAll _ {}).symm
  · intro r hr
    refine ⟨get?_of_mem_registered hr, symbols_ne_nil_of_mem_registered hr, ?_⟩
    rw [symbols_of_mem_registered hr]
    exact nodup_distinct _
  · intro symbol origin
    rw [mem_pairs_registered, List.mem_map]
    constructor
    · rintro ⟨⟨symbol, place⟩, hp, heq⟩
      cases heq
      exact ⟨place, hp, rfl⟩
    · rintro ⟨place, hp, rfl⟩
      exact ⟨(symbol, place), hp, rfl⟩
  · exact filter_untouched answer pairs

/-- An answer may meet a record further back, and takes it to where the placeholder was. -/
example : (({} : ImportList).registerAll [("Post", placeholder "Post"), ("Tag", "./tags"),
      ("Draft", "./models")]).redirected (fun _ => "./models")
    = ⟨[⟨"./models", ["Post", "Draft"]⟩, ⟨"./tags", ["Tag"]⟩]⟩ := by decide

/-- **Placeholders are replaced all or none, and nothing is lost.**  Whatever has been registered and
whoever is asked, the questions are those for the entities that the list waits for, in its order and
each of them once.  Either one is refused, then none is asked after it and the list is what it was;
or all are answered, then they are counted and everything is registered again under the answers. -/
theorem rewriting_of_registered (pairs : List (String × String)) (oracle : Oracle ε σ) (s : σ) :
    let l := ({} : ImportList).registerAll pairs
    l.targets.Nodup ∧
    ((∃ before target rest e s', l.targets = before ++ target :: rest ∧
        oracle.Refuses before target s e s' ∧
        (Session.rewrite oracle).run.run ⟨l, s, []⟩ = (.error e, ⟨l, s', before ++ [target]⟩) ∧
        (l.resolveWith (Session.ask oracle)).run.run ⟨l, s, []⟩
          = (.error e, ⟨l, s', before ++ [target]⟩)) ∨
      ∃ answer s' l', oracle.Answers l.targets s (l.targets.map answer) s' ∧
        (Session.rewrite oracle).run.run ⟨l, s, []⟩
          = (.ok l.unresolved.length, ⟨l', s', l.targets⟩) ∧
        (l.resolveWith (Session.ask oracle)).run.run ⟨l, s, []⟩
          = (.ok (l', l.unresolved.length), ⟨l, s', l.targets⟩) ∧
        l.Rewritten answer l') := by
  intro l
  have hnd : l.targets.Nodup := nodup_targets_registered pairs
  refine ⟨hnd, ?_⟩
  rcases oracle.answers_or_refuses l.targets s with
    ⟨answers, s', hanswers⟩ | ⟨before, target, rest, e, s', hl, hrefuses⟩
  · obtain ⟨answer, rfl⟩ := hanswers.exists_answer hnd
    refine Or.inr ⟨answer, s', l.redirected answer, hanswers, ?_, ?_,
      rewritten_registerAll answer pairs⟩
    · exact Session.run_rewrite_answered hanswers
    · exact Session.run_resolveWith_answered hanswers
  · refine Or.inl ⟨before, target, rest, e, s', hl, hrefuses, ?_, ?_⟩
    · exact Session.run_rewrite_refused hl hrefuses
    · exact Session.run_resolveWith_refused hl hrefuses

end ImportList

end SchemaClass
