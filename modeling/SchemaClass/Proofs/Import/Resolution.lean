import Mathlib.Data.List.Nodup
import SchemaClass.Proofs.Import.Registration
import SchemaClass.Proofs.Outcome
/-!
# Placeholders and what replaces them

An import of another class is registered under a placeholder, since the place of its file is not
known yet.  Later every placeholder is replaced by an answer, and the records are registered again.
This could reorder symbols: a record moves all its symbols to where its new origin stood first.  It
does not, because placeholders are registered before everything else and each has one symbol only.

* `placeholderTarget?_eq_none_iff`: names of modules are no placeholders;
* `unresolved_eq_nil_iff`: a list waits for nothing if no origin is a placeholder;
* `resolveWith_eq_redirected`: what resolution does to a list, if every target has an answer;
* `resolveWith_of_resolved`: nothing, if nothing waits;
* `redirected_registerAll`, `resolveWith_registerAll`: the same of a list that has been registered in
  one go;
* `resolveWith_between`: where no module is named on both sides of the placeholders, it is as if
  every answer had been known from the start;
* `resolveWith_deferred`: the same with the placeholders in front;
* `resolveWith_eq_answered`: what resolution leads to wherever the placeholders are, if it succeeds.
-/

namespace SchemaClass

open OrderedSet Outcome

/-! ## 1. Placeholders and names of modules -/

/-- Names that modules can have: a placeholder is none. -/
def IsModuleName (s : String) : Prop := ¬ placeholderPrefix.toList <+: s.toList

instance (s : String) : Decidable (IsModuleName s) :=
  inferInstanceAs (Decidable (¬ placeholderPrefix.toList <+: s.toList))

theorem placeholderTarget?_eq_none_iff {s : String} :
    placeholderTarget? s = none ↔ IsModuleName s := by
  rw [placeholderTarget?, Option.map_eq_none_iff, Text.dropToken?_eq_none_iff, IsModuleName]

/-- No relative specifier is a placeholder. -/
theorem isModuleName_of_dot {s : String} {rest : List Char} (h : s.toList = '.' :: rest) :
    IsModuleName s := by
  rintro ⟨behind, hbehind⟩
  rw [h] at hbehind
  exact absurd (List.cons.inj hbehind).1 (by decide)

theorem placeholderTarget?_eq_some_iff {s entity : String} :
    placeholderTarget? s = some entity ↔ s = placeholder entity := by
  constructor
  · intro h
    obtain ⟨rest, hrest, rfl⟩ := Option.map_eq_some_iff.mp h
    rw [← String.toList_inj, Text.dropToken?_eq_some.mp hrest, placeholder, String.toList_append,
      String.toList_ofList]
  · rintro rfl
    exact placeholderTarget?_placeholder entity

theorem placeholder_inj {a b : String} : placeholder a = placeholder b ↔ a = b := by
  constructor
  · intro h
    have ha := placeholderTarget?_placeholder a
    rw [h, placeholderTarget?_placeholder] at ha
    exact (Option.some.inj ha).symm
  · rintro rfl
    rfl

theorem not_isModuleName_placeholder (entity : String) : ¬ IsModuleName (placeholder entity) := by
  rw [← placeholderTarget?_eq_none_iff, placeholderTarget?_placeholder]
  exact Option.some_ne_none entity

namespace ImportRecord

/-- The record with an answer in place of its placeholder. -/
def redirect (answer : String → String) (r : ImportRecord) : ImportRecord :=
  match r.target? with
  | none => r
  | some target => { r with origin := answer target }

theorem redirect_placeholder (answer : String → String) (entity : String)
    (symbols : List String) :
    (ImportRecord.mk (placeholder entity) symbols).redirect answer = ⟨answer entity, symbols⟩ := by
  rw [redirect, target?_placeholder]

end ImportRecord

namespace ImportList

/-! ## 2. Resolution of any registered list -/

variable {ε : Type} {ask : String → Except ε String} {answer : String → String}

theorem resolveRecord_eq_ok {r : ImportRecord}
    (h : ∀ target, r.target? = some target → ask target = .ok (answer target)) :
    resolveRecord ask r = .ok (r.redirect answer) := by
  unfold resolveRecord ImportRecord.redirect
  cases ht : r.target? with
  | none => rfl
  | some target =>
    simp only [h target ht]
    rfl

/-- What a record that waits for an entity is registered under. -/
theorem isPlaceholder_iff {r : ImportRecord} :
    r.isPlaceholder = true ↔ ∃ entity, r.origin = placeholder entity := by
  rw [ImportRecord.isPlaceholder, Option.isSome_iff_exists]
  exact exists_congr fun entity => placeholderTarget?_eq_some_iff

/-- The other records come from modules. -/
theorem isPlaceholder_iff_not_isModuleName {r : ImportRecord} :
    r.isPlaceholder = true ↔ ¬ IsModuleName r.origin := by
  rw [← placeholderTarget?_eq_none_iff, ImportRecord.isPlaceholder, ImportRecord.target?,
    ← Option.not_isSome_iff_eq_none, not_not]

/-- A list waits for nothing if all its records come from modules. -/
theorem unresolved_eq_nil_iff_modules {l : ImportList} :
    l.unresolved = [] ↔ ∀ r ∈ l.records, IsModuleName r.origin := by
  rw [unresolved, List.filter_eq_nil_iff]
  refine forall₂_congr fun r _ => ?_
  rw [isPlaceholder_iff_not_isModuleName, not_not]

/-- **A list waits for nothing exactly if none of its origins is a placeholder.** -/
theorem unresolved_eq_nil_iff {l : ImportList} :
    l.unresolved = [] ↔ ∀ entity, placeholder entity ∉ l.origins := by
  rw [unresolved, List.filter_eq_nil_iff]
  constructor
  · intro h entity hmem
    obtain ⟨r, hr, horigin⟩ := List.mem_map.mp hmem
    exact h r hr (isPlaceholder_iff.mpr ⟨entity, horigin⟩)
  · intro h r hr hwaits
    obtain ⟨entity, horigin⟩ := isPlaceholder_iff.mp hwaits
    exact h entity (horigin ▸ List.mem_map_of_mem hr)

/-- A list that waits for nothing stays as it is when its placeholders are replaced. -/
theorem map_redirect_eq_self {l : ImportList} (h : l.unresolved.length = 0) :
    l.records.map (·.redirect answer) = l.records := by
  rw [List.length_eq_zero_iff, unresolved, List.filter_eq_nil_iff] at h
  refine (List.map_congr_left fun r hr => ?_).trans (List.map_id _)
  have ht : r.target? = none := by simpa [ImportRecord.isPlaceholder] using h r hr
  rw [ImportRecord.redirect, ht]
  rfl

/-- A list with answers in place of its placeholders, registered again if there are any. -/
def redirected (answer : String → String) (l : ImportList) : ImportList :=
  if l.unresolved.length = 0 then l
  else ({} : ImportList).registerAll (ImportList.pairs ⟨l.records.map (·.redirect answer)⟩)

/-- **What resolution does to a list**, if every target has an answer. -/
theorem resolveWith_eq_redirected {l : ImportList}
    (h : ∀ r ∈ l.records, ∀ target, r.target? = some target → ask target = .ok (answer target)) :
    l.resolveWith ask = .ok (l.redirected answer, l.unresolved.length) := by
  have hrecords := mapM_eq_ok_map fun r hr => resolveRecord_eq_ok (h r hr)
  rw [resolveWith, hrecords, redirected]
  by_cases hcount : l.unresolved.length = 0
  · simp only [hcount]
    rfl
  · simp only [hcount]
    rfl

/-- **A list that waits for nothing stays as it is.** -/
theorem resolveWith_of_resolved {l : ImportList} (h : l.unresolved = []) :
    l.resolveWith ask = .ok (l, 0) := by
  have hasked : ∀ r ∈ l.records, ∀ target, r.target? = some target →
      ask target = .ok (id target) := by
    intro r hr target ht
    have hwaits : r ∈ l.unresolved :=
      List.mem_filter.mpr ⟨hr, by rw [ImportRecord.isPlaceholder, ht]; rfl⟩
    rw [h] at hwaits
    exact absurd hwaits List.not_mem_nil
  rw [resolveWith_eq_redirected hasked, redirected, h, if_pos List.length_nil, List.length_nil]

/-- If resolution succeeds, every target has an answer. -/
theorem exists_answers {l : ImportList} {result : ImportList × Nat}
    (h : l.resolveWith ask = .ok result) :
    ∃ answer : String → String, ∀ r ∈ l.records, ∀ target, r.target? = some target →
      ask target = .ok (answer target) := by
  refine ⟨fun target => (ask target).toOption.getD "", fun r hr target ht => ?_⟩
  obtain ⟨records, hrecords, -⟩ := bind_eq_ok.mp h
  obtain ⟨resolved, hresolved⟩ := exists_ok_of_mapM hrecords r hr
  rw [resolveRecord, ht] at hresolved
  obtain ⟨origin, horigin, -⟩ := bind_eq_ok.mp hresolved
  simp only [horigin]
  rfl

/-- A list that has been registered in one go is registered again, whether anything waits or not. -/
theorem redirected_registerAll (answer : String → String) (pairs : List (String × String)) :
    (({} : ImportList).registerAll pairs).redirected answer
      = ({} : ImportList).registerAll (ImportList.pairs
          ⟨(({} : ImportList).registerAll pairs).records.map (·.redirect answer)⟩) := by
  rw [redirected]
  split
  · next hcount =>
    -- a list that has been registered is not changed by being registered again
    have hagain : ({} : ImportList).registerAll (({} : ImportList).registerAll pairs).pairs
        = ({} : ImportList).registerAll pairs := registerAll_append_pairs [] pairs
    rw [map_redirect_eq_self hcount, hagain]
  · rfl

/-- **Resolution takes a list apart, replaces the placeholders and registers everything again.** -/
theorem resolveWith_registerAll {pairs : List (String × String)}
    (h : ∀ r ∈ (({} : ImportList).registerAll pairs).records, ∀ target, r.target? = some target →
      ask target = .ok (answer target)) :
    (({} : ImportList).registerAll pairs).resolveWith ask
      = .ok (({} : ImportList).registerAll
          (ImportList.pairs
            ⟨(({} : ImportList).registerAll pairs).records.map (·.redirect answer)⟩),
        (({} : ImportList).registerAll pairs).unresolved.length) := by
  rw [resolveWith_eq_redirected h, redirected_registerAll]

/-! ## 3. Placeholders apart from everything else -/

section Deferred

variable (symbol : String → String) {targets : List String} {before rest : List (String × String)}

/-- Each entity has a record of its own, with the one symbol it was registered with. -/
theorem records_placeholders (targets : List String) :
    (({} : ImportList).registerAll (targets.map fun t => (symbol t, placeholder t))).records
      = (distinct targets).map fun t => ⟨placeholder t, [symbol t]⟩ := by
  have hplaces : (targets.map fun t => (symbol t, placeholder t)).map (·.2)
      = targets.map placeholder := by simp
  rw [registerAll_eq_grouped, grouped, hplaces,
    distinct_map fun _ _ h => placeholder_inj.mp h, List.map_map]
  refine List.map_congr_left fun t ht => ?_
  have hne : symbolsFrom (placeholder t) (targets.map fun t => (symbol t, placeholder t)) ≠ [] := by
    rw [Ne, symbolsFrom_eq_nil_iff, hplaces, not_not]
    exact List.mem_map_of_mem (mem_distinct.mp ht)
  have hone : ∀ s ∈ symbolsFrom (placeholder t) (targets.map fun t => (symbol t, placeholder t)),
      s = symbol t := by
    intro s hs
    obtain ⟨t', -, heq⟩ := List.mem_map.mp (mem_symbolsFrom.mp hs)
    obtain ⟨rfl, hplace⟩ := Prod.mk.inj heq
    rw [placeholder_inj.mp hplace]
  rw [Function.comp_apply, distinct_eq_singleton hne hone]

/-- Records of modules wait for nothing. -/
theorem target?_eq_none_of_modules (hrest : ∀ p ∈ rest, IsModuleName p.2) {r : ImportRecord}
    (hr : r ∈ (({} : ImportList).registerAll rest).records) : r.target? = none := by
  obtain ⟨p, hp, ho⟩ := exists_pair_of_mem_records hr
  exact placeholderTarget?_eq_none_iff.mpr (ho ▸ hrest p hp)

theorem unresolved_of_modules (hrest : ∀ p ∈ rest, IsModuleName p.2) :
    (({} : ImportList).registerAll rest).unresolved = [] := by
  rw [unresolved_eq_nil_iff_modules]
  intro r hr
  exact placeholderTarget?_eq_none_iff.mp (target?_eq_none_of_modules hrest hr)

theorem map_redirect_of_modules (hrest : ∀ p ∈ rest, IsModuleName p.2) :
    (({} : ImportList).registerAll rest).records.map (·.redirect answer)
      = (({} : ImportList).registerAll rest).records :=
  map_redirect_eq_self (List.length_eq_zero_iff.mpr (unresolved_of_modules hrest))

/-- The records, where no module is named both before and behind the placeholders. -/
theorem records_between (hbefore : ∀ p ∈ before, IsModuleName p.2)
    (hrest : ∀ p ∈ rest, IsModuleName p.2)
    (hapart : ∀ origin ∈ rest.map (·.2), origin ∉ before.map (·.2)) :
    (({} : ImportList).registerAll
        (before ++ (targets.map (fun t => (symbol t, placeholder t)) ++ rest))).records
      = (({} : ImportList).registerAll before).records
        ++ (((distinct targets).map fun t => ⟨placeholder t, [symbol t]⟩)
          ++ (({} : ImportList).registerAll rest).records) := by
  have hplace : ∀ origin ∈ (targets.map fun t => (symbol t, placeholder t)).map (·.2),
      ∃ t, origin = placeholder t := by
    intro origin ho
    obtain ⟨p, hp, rfl⟩ := List.mem_map.mp ho
    obtain ⟨t, -, rfl⟩ := List.mem_map.mp hp
    exact ⟨t, rfl⟩
  have hmodule : ∀ {pairs : List (String × String)}, (∀ p ∈ pairs, IsModuleName p.2) →
      ∀ t, placeholder t ∉ pairs.map (·.2) := by
    intro pairs hpairs t ht
    obtain ⟨p, hp, heq⟩ := List.mem_map.mp ht
    exact not_isModuleName_placeholder t (heq ▸ hpairs p hp)
  rw [records_registerAll_append, records_registerAll_append, records_placeholders]
  · intro origin ho hin
    obtain ⟨t, rfl⟩ := hplace origin hin
    exact hmodule hrest t ho
  · intro origin ho
    rw [List.map_append, List.mem_append] at ho
    rcases ho with ho | ho
    · obtain ⟨t, rfl⟩ := hplace origin ho
      exact hmodule hbefore t
    · exact hapart origin ho

/-- The pairs that are left when each placeholder has its answer. -/
theorem pairs_redirect_between (hbefore : ∀ p ∈ before, IsModuleName p.2)
    (hrest : ∀ p ∈ rest, IsModuleName p.2)
    (hapart : ∀ origin ∈ rest.map (·.2), origin ∉ before.map (·.2)) :
    ImportList.pairs ⟨(({} : ImportList).registerAll
        (before ++ (targets.map (fun t => (symbol t, placeholder t)) ++ rest))).records.map
          (·.redirect answer)⟩
      = (({} : ImportList).registerAll before).pairs
        ++ ((distinct targets).map (fun t => (symbol t, answer t))
          ++ (({} : ImportList).registerAll rest).pairs) := by
  have hredirect : (((distinct targets).map fun t => ImportRecord.mk (placeholder t) [symbol t])).map
        (·.redirect answer)
      = (distinct targets).map fun t => ⟨answer t, [symbol t]⟩ := by
    rw [List.map_map]
    exact List.map_congr_left fun t _ => ImportRecord.redirect_placeholder answer t [symbol t]
  have hpairs : ImportList.pairs ⟨(distinct targets).map fun t => ⟨answer t, [symbol t]⟩⟩
      = (distinct targets).map fun t => (symbol t, answer t) := by
    rw [ImportList.pairs, List.flatMap_map]
    exact List.map_eq_flatMap.symm
  rw [records_between symbol hbefore hrest hapart, List.map_append, List.map_append,
    map_redirect_of_modules hbefore, map_redirect_of_modules hrest, hredirect, pairs_append,
    pairs_append, hpairs]

/-- What waits is what has been registered under a placeholder. -/
theorem unresolved_between (hbefore : ∀ p ∈ before, IsModuleName p.2)
    (hrest : ∀ p ∈ rest, IsModuleName p.2)
    (hapart : ∀ origin ∈ rest.map (·.2), origin ∉ before.map (·.2)) :
    (({} : ImportList).registerAll
        (before ++ (targets.map (fun t => (symbol t, placeholder t)) ++ rest))).unresolved
      = (distinct targets).map fun t => ⟨placeholder t, [symbol t]⟩ := by
  have hbefore' : (({} : ImportList).registerAll before).records.filter (·.isPlaceholder) = [] :=
    unresolved_of_modules hbefore
  have hrest' : (({} : ImportList).registerAll rest).records.filter (·.isPlaceholder) = [] :=
    unresolved_of_modules hrest
  have hwait : ∀ r ∈ (distinct targets).map fun t => ImportRecord.mk (placeholder t) [symbol t],
      r.isPlaceholder = true := by
    intro r hr
    obtain ⟨t, -, rfl⟩ := List.mem_map.mp hr
    exact isPlaceholder_iff.mpr ⟨t, rfl⟩
  rw [unresolved, records_between symbol hbefore hrest hapart, List.filter_append,
    List.filter_append, hbefore', hrest', List.filter_eq_self.mpr hwait, List.append_nil,
    List.nil_append]

/-- **Two phases are as good as one.**  Where no module is named both before and behind the
placeholders, resolution gives what registration would have given if every answer had been known
from the start. -/
theorem resolveWith_between (hbefore : ∀ p ∈ before, IsModuleName p.2)
    (hrest : ∀ p ∈ rest, IsModuleName p.2)
    (hapart : ∀ origin ∈ rest.map (·.2), origin ∉ before.map (·.2))
    (hask : ∀ t ∈ targets, ask t = .ok (answer t)) :
    (({} : ImportList).registerAll
        (before ++ (targets.map (fun t => (symbol t, placeholder t)) ++ rest))).resolveWith ask
      = .ok (({} : ImportList).registerAll
          (before ++ (targets.map (fun t => (symbol t, answer t)) ++ rest)),
        (distinct targets).length) := by
  have hanswers : ∀ r ∈ (({} : ImportList).registerAll
      (before ++ (targets.map (fun t => (symbol t, placeholder t)) ++ rest))).records,
      ∀ target, r.target? = some target → ask target = .ok (answer target) := by
    intro r hr target ht
    rw [records_between symbol hbefore hrest hapart, List.mem_append, List.mem_append] at hr
    rcases hr with hr | hr | hr
    · rw [target?_eq_none_of_modules hbefore hr] at ht
      cases ht
    · obtain ⟨t, htm, rfl⟩ := List.mem_map.mp hr
      rw [ImportRecord.target?_placeholder] at ht
      exact Option.some.inj ht ▸ hask t (mem_distinct.mp htm)
    · rw [target?_eq_none_of_modules hrest hr] at ht
      cases ht
  have hfirst : distinct ((distinct targets).map fun t => (symbol t, answer t))
      = distinct (targets.map fun t => (symbol t, answer t)) := by
    simpa only [List.filterMap_eq_map] using
      distinct_filterMap_distinct (some ∘ fun t => (symbol t, answer t)) targets
  rw [resolveWith_registerAll hanswers, pairs_redirect_between symbol hbefore hrest hapart,
    unresolved_between symbol hbefore hrest hapart, List.length_map, registerAll_pairs_append,
    ← List.append_assoc, registerAll_append_pairs, List.append_assoc,
    registerAll_congr_between before rest hfirst]

/-- The same with the placeholders in front. -/
theorem resolveWith_deferred (hnd : targets.Nodup) (hrest : ∀ p ∈ rest, IsModuleName p.2)
    (hask : ∀ t ∈ targets, ask t = .ok (answer t)) :
    (({} : ImportList).registerAll
        ((targets.map fun t => (symbol t, placeholder t)) ++ rest)).resolveWith ask
      = .ok (({} : ImportList).registerAll
          ((targets.map fun t => (symbol t, answer t)) ++ rest), targets.length) := by
  have hnone : ∀ p ∈ ([] : List (String × String)), IsModuleName p.2 :=
    fun _ hp => absurd hp List.not_mem_nil
  have h := resolveWith_between symbol hnone hrest (fun _ _ => List.not_mem_nil) hask
  rwa [distinct_of_nodup hnd] at h

end Deferred

end ImportList

/-! ## 4. Placeholders anywhere

Nothing keeps a module from having the name of a placeholder.  Then its record is merged with that
of the entity and goes the same way, so what is left to say is where each origin leads. -/

/-- An origin with an answer in place of a placeholder. -/
def redirectOrigin (answer : String → String) (origin : String) : String :=
  match placeholderTarget? origin with
  | none => origin
  | some target => answer target

@[simp] theorem redirectOrigin_placeholder (answer : String → String) (entity : String) :
    redirectOrigin answer (placeholder entity) = answer entity := by
  rw [redirectOrigin, placeholderTarget?_placeholder]

theorem ImportRecord.redirect_eq (answer : String → String) (r : ImportRecord) :
    r.redirect answer = { r with origin := redirectOrigin answer r.origin } := by
  rw [redirect, redirectOrigin, target?]
  cases placeholderTarget? r.origin <;> rfl

namespace ImportList

variable {ε : Type} {ask : String → Except ε String} {answer : String → String}

/-- The pairs that have been registered, without placeholders. -/
def answered (answer : String → String) (pairs : List (String × String)) : List (String × String) :=
  (({} : ImportList).registerAll pairs).pairs.map fun p => (p.1, redirectOrigin answer p.2)

theorem mem_answered {pairs : List (String × String)} {symbol origin : String} :
    (symbol, origin) ∈ answered answer pairs ↔
      ∃ place, (symbol, place) ∈ pairs ∧ redirectOrigin answer place = origin := by
  have hmem : ∀ {place : String}, (symbol, place) ∈ (({} : ImportList).registerAll pairs).pairs ↔
      (symbol, place) ∈ pairs := mem_pairs.trans exists_record_iff
  rw [answered, List.mem_map]
  constructor
  · rintro ⟨⟨s, place⟩, hp, heq⟩
    cases heq
    exact ⟨place, hmem.mp hp, rfl⟩
  · rintro ⟨place, hp, rfl⟩
    exact ⟨(symbol, place), hmem.mpr hp, rfl⟩

theorem pairs_map_redirect (l : ImportList) :
    ImportList.pairs ⟨l.records.map (·.redirect answer)⟩
      = l.pairs.map fun p => (p.1, redirectOrigin answer p.2) := by
  simp only [ImportList.pairs, List.flatMap_map, List.map_flatMap, ImportRecord.redirect_eq,
    List.map_map, Function.comp_def]

/-- **Resolution leaves nothing that waits**, if no answer is a placeholder. -/
theorem unresolved_redirected (l : ImportList) (h : ∀ target, IsModuleName (answer target)) :
    (l.redirected answer).unresolved = [] := by
  rw [redirected]
  split
  · next hcount => exact List.length_eq_zero_iff.mp hcount
  · refine unresolved_of_modules fun p hp => ?_
    rw [pairs_map_redirect] at hp
    obtain ⟨q, -, rfl⟩ := List.mem_map.mp hp
    dsimp only
    rw [redirectOrigin]
    cases htarget : placeholderTarget? q.2 with
    | none => exact placeholderTarget?_eq_none_iff.mp htarget
    | some target => exact h target

/-- **If resolution succeeds, every placeholder has had its answer**, whatever the pairs are. -/
theorem resolveWith_eq_answered {pairs : List (String × String)} {l : ImportList} {count : Nat}
    (hanswer : ∀ target origin, ask target = .ok origin → origin = answer target)
    (h : (({} : ImportList).registerAll pairs).resolveWith ask = .ok (l, count)) :
    l = ({} : ImportList).registerAll (answered answer pairs) := by
  have hasked : ∀ r ∈ (({} : ImportList).registerAll pairs).records, ∀ target,
      r.target? = some target → ask target = .ok (answer target) := by
    intro r hr target ht
    obtain ⟨answered, hanswered⟩ := exists_answers h
    have horigin := hanswered r hr target ht
    rw [horigin, hanswer target _ horigin]
  rw [resolveWith_registerAll hasked, pairs_map_redirect] at h
  exact (Prod.mk.inj (Except.ok.inj h)).1.symm

end ImportList

end SchemaClass
