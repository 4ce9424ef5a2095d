import Mathlib.Data.List.Nodup
import Mathlib.Data.List.Pairwise
import SchemaClass.Import.Basic
import SchemaClass.Proofs.OrderedSet
/-!
# Registering imports one after the other

`ImportList.register` looks for the record of an origin and extends it, or begins one.  What a
sequence of registrations leads to can be said without any order of steps: the origins at their
first occurrence, and under each of them its symbols at their first occurrence (`grouped`).

From this closed form follows what the two phases of resolution rest on: a list may be taken apart
into its pairs and registered again, alone or behind other pairs, and nothing changes.

* `registerAll_eq_grouped`: the closed form;
* `registerAll_congr`: only the first occurrences of origins and symbols count;
* `origins_registerAll`: the origins of a list that goes on, whatever it was before;
* `nodup_symbols_registerAll_iff`: when no symbol stands twice in the list;
* `registerAll_append_pairs`: grouping pairs before they are registered changes nothing.
-/

namespace SchemaClass

open OrderedSet

namespace ImportList

/-- The symbols of the pairs with a given origin. -/
def symbolsFrom (origin : String) (pairs : List (String × String)) : List String :=
  (pairs.filter (·.2 == origin)).map (·.1)

/-- A record for every origin, with all symbols that come from it. -/
def grouped (pairs : List (String × String)) : ImportList :=
  ⟨(distinct (pairs.map (·.2))).map fun origin => ⟨origin, distinct (symbolsFrom origin pairs)⟩⟩

/-! ## 1. Symbols of an origin -/

@[simp] theorem symbolsFrom_append (origin : String) (as bs : List (String × String)) :
    symbolsFrom origin (as ++ bs) = symbolsFrom origin as ++ symbolsFrom origin bs := by
  simp [symbolsFrom]

@[simp] theorem symbolsFrom_map_self (origin : String) (symbols : List String) :
    symbolsFrom origin (symbols.map (·, origin)) = symbols := by
  induction symbols with
  | nil => rfl
  | cons symbol symbols ih => simpa [symbolsFrom] using ih

theorem symbolsFrom_eq_nil_iff {origin : String} {pairs : List (String × String)} :
    symbolsFrom origin pairs = [] ↔ origin ∉ pairs.map (·.2) := by
  simp only [symbolsFrom, List.map_eq_nil_iff, List.filter_eq_nil_iff, List.mem_map, beq_iff_eq]
  exact ⟨fun h ⟨pair, hp, he⟩ => h pair hp he, fun h pair hp he => h ⟨pair, hp, he⟩⟩

theorem symbolsFrom_map_of_ne {origin other : String} (h : origin ≠ other) (symbols : List String) :
    symbolsFrom origin (symbols.map (·, other)) = [] := by
  rw [symbolsFrom_eq_nil_iff]
  intro hmem
  obtain ⟨pair, hp, rfl⟩ := List.mem_map.mp hmem
  obtain ⟨symbol, -, rfl⟩ := List.mem_map.mp hp
  exact h rfl

theorem symbolsFrom_singleton_self (origin symbol : String) :
    symbolsFrom origin [(symbol, origin)] = [symbol] := symbolsFrom_map_self origin [symbol]

theorem symbolsFrom_singleton_of_ne {origin other : String} (h : origin ≠ other) (symbol : String) :
    symbolsFrom origin [(symbol, other)] = [] := symbolsFrom_map_of_ne h [symbol]

theorem mem_symbolsFrom {origin symbol : String} {pairs : List (String × String)} :
    symbol ∈ symbolsFrom origin pairs ↔ (symbol, origin) ∈ pairs := by
  simp [symbolsFrom]

/-! ## 2. The closed form -/

theorem registerAll_append (l : ImportList) (as bs : List (String × String)) :
    l.registerAll (as ++ bs) = (l.registerAll as).registerAll bs := List.foldl_append

theorem any_origin_grouped {origin : String} {pairs : List (String × String)} :
    (grouped pairs).records.any (·.origin == origin) = true ↔ origin ∈ pairs.map (·.2) := by
  simp [grouped]

/-- One more registration, if the origin has a record. -/
theorem register_grouped_of_mem {symbol origin : String} {pairs : List (String × String)}
    (h : origin ∈ pairs.map (·.2)) :
    (grouped pairs).register symbol origin = grouped (pairs ++ [(symbol, origin)]) := by
  have horigins : distinct ((pairs ++ [(symbol, origin)]).map (·.2))
      = distinct (pairs.map (·.2)) := by
    rw [List.map_append, List.map_singleton, distinct_append_singleton]
    exact insertNew_of_mem (mem_distinct.mpr h)
  rw [register, if_pos (any_origin_grouped.mpr h)]
  simp only [grouped, horigins, List.map_map]
  congr 1
  refine List.map_congr_left fun o _ => ?_
  by_cases ho : o = origin
  · subst ho
    simp [ImportRecord.merge, symbolsFrom_singleton_self, distinct_append_singleton]
  · simp [ho, symbolsFrom_singleton_of_ne ho]

/-- One more registration, if the origin has no record. -/
theorem register_grouped_of_not_mem {symbol origin : String} {pairs : List (String × String)}
    (h : origin ∉ pairs.map (·.2)) :
    (grouped pairs).register symbol origin = grouped (pairs ++ [(symbol, origin)]) := by
  have horigins : distinct ((pairs ++ [(symbol, origin)]).map (·.2))
      = distinct (pairs.map (·.2)) ++ [origin] := by
    rw [List.map_append, List.map_singleton, distinct_append_singleton]
    exact insertNew_of_not_mem (mt mem_distinct.mp h)
  have hnew : symbolsFrom origin pairs = [] := symbolsFrom_eq_nil_iff.mpr h
  rw [register, if_neg (mt any_origin_grouped.mp h)]
  simp only [grouped, horigins]
  rw [List.map_append, List.map_singleton, symbolsFrom_append, hnew,
    symbolsFrom_singleton_self]
  congr 2
  refine List.map_congr_left fun o ho => ?_
  have hne : o ≠ origin := fun he => h (he ▸ mem_distinct.mp ho)
  rw [symbolsFrom_append, symbolsFrom_singleton_of_ne hne, List.append_nil]

/-- **What a sequence of registrations leads to.** -/
theorem registerAll_eq_grouped (pairs : List (String × String)) :
    ({} : ImportList).registerAll pairs = grouped pairs := by
  induction pairs using List.reverseRecOn with
  | nil => rfl
  | append_singleton pairs pair ih =>
    obtain ⟨symbol, origin⟩ := pair
    rw [registerAll_append, ih]
    by_cases h : origin ∈ pairs.map (·.2)
    · exact register_grouped_of_mem h
    · exact register_grouped_of_not_mem h

/-- Only the first occurrences of origins, and of the symbols of each, count. -/
theorem registerAll_congr {as bs : List (String × String)}
    (ho : distinct (as.map (·.2)) = distinct (bs.map (·.2)))
    (hs : ∀ origin, distinct (symbolsFrom origin as) = distinct (symbolsFrom origin bs)) :
    ({} : ImportList).registerAll as = ({} : ImportList).registerAll bs := by
  simp only [registerAll_eq_grouped, grouped, ho, hs]

/-- Only the first occurrences of pairs count, wherever they are. -/
theorem registerAll_congr_between (as cs : List (String × String)) {bs bs' : List (String × String)}
    (h : distinct bs = distinct bs') :
    ({} : ImportList).registerAll (as ++ (bs ++ cs))
      = ({} : ImportList).registerAll (as ++ (bs' ++ cs)) := by
  have hmap : ∀ f : String × String → Option String,
      distinct (bs.filterMap f) = distinct (bs'.filterMap f) := fun f => by
    rw [← distinct_filterMap_distinct f bs, h, distinct_filterMap_distinct]
  refine registerAll_congr ?_ fun origin => ?_
  · simp only [List.map_append]
    refine distinct_append_congr rfl (distinct_append_congr ?_ rfl)
    simpa only [List.filterMap_eq_map] using hmap (some ∘ Prod.snd)
  · simp only [symbolsFrom_append]
    refine distinct_append_congr rfl (distinct_append_congr ?_ rfl)
    simp only [symbolsFrom, ← List.filterMap_eq_map, ← List.filterMap_eq_filter,
      List.filterMap_filterMap]
    exact hmap _

/-- What has been registered already changes nothing. -/
theorem registerAll_append_of_subset {as bs : List (String × String)} (h : ∀ p ∈ bs, p ∈ as) :
    ({} : ImportList).registerAll (as ++ bs) = ({} : ImportList).registerAll as := by
  refine registerAll_congr ?_ fun origin => ?_
  · rw [List.map_append, distinct_append_of_subset]
    intro origin hb
    obtain ⟨p, hp, rfl⟩ := List.mem_map.mp hb
    exact List.mem_map_of_mem (h p hp)
  · rw [symbolsFrom_append, distinct_append_of_subset]
    exact fun symbol hs => mem_symbolsFrom.mpr (h _ (mem_symbolsFrom.mp hs))

/-- Origins that have not been met before have records of their own. -/
theorem records_registerAll_append {as bs : List (String × String)}
    (h : ∀ origin ∈ bs.map (·.2), origin ∉ as.map (·.2)) :
    (({} : ImportList).registerAll (as ++ bs)).records
      = (({} : ImportList).registerAll as).records
        ++ (({} : ImportList).registerAll bs).records := by
  simp only [registerAll_eq_grouped, grouped]
  rw [List.map_append, distinct_append_of_disjoint h, List.map_append]
  congr 1
  · refine List.map_congr_left fun origin ho => ?_
    have hbs : symbolsFrom origin bs = [] :=
      symbolsFrom_eq_nil_iff.mpr fun hb => h origin hb (mem_distinct.mp ho)
    rw [symbolsFrom_append, hbs, List.append_nil]
  · refine List.map_congr_left fun origin ho => ?_
    have has : symbolsFrom origin as = [] :=
      symbolsFrom_eq_nil_iff.mpr (h origin (mem_distinct.mp ho))
    rw [symbolsFrom_append, has, List.nil_append]

/-- A record has the origin of some registration. -/
theorem exists_pair_of_mem_records {pairs : List (String × String)} {r : ImportRecord}
    (h : r ∈ (({} : ImportList).registerAll pairs).records) : ∃ p ∈ pairs, p.2 = r.origin := by
  rw [registerAll_eq_grouped, grouped] at h
  obtain ⟨origin, ho, rfl⟩ := List.mem_map.mp h
  exact List.mem_map.mp (mem_distinct.mp ho)

/-- **What the records say is what has been registered.** -/
theorem exists_record_iff {pairs : List (String × String)} {symbol origin : String} :
    (∃ r ∈ (({} : ImportList).registerAll pairs).records, r.origin = origin ∧ symbol ∈ r.symbols)
      ↔ (symbol, origin) ∈ pairs := by
  rw [registerAll_eq_grouped, grouped]
  constructor
  · rintro ⟨r, hr, rfl, hsymbol⟩
    obtain ⟨origin, -, rfl⟩ := List.mem_map.mp hr
    exact mem_symbolsFrom.mp (mem_distinct.mp hsymbol)
  · intro h
    have horigin : origin ∈ distinct (pairs.map (·.2)) :=
      mem_distinct.mpr (List.mem_map_of_mem (f := Prod.snd) h)
    exact ⟨_, List.mem_map_of_mem horigin, rfl, mem_distinct.mpr (mem_symbolsFrom.mpr h)⟩

/-- The origins of all records. -/
def origins (l : ImportList) : List String := l.records.map (·.origin)

theorem any_origin_iff {l : ImportList} {origin : String} :
    l.records.any (·.origin == origin) = true ↔ origin ∈ l.origins := by
  simp [origins]

theorem origins_register (l : ImportList) (symbol origin : String) :
    (l.register symbol origin).origins = insertNew l.origins origin := by
  by_cases h : origin ∈ l.origins
  · rw [register, if_pos (any_origin_iff.mpr h), insertNew_of_mem h, origins, List.map_map]
    refine List.map_congr_left fun r _ => ?_
    by_cases hr : r.origin = origin
    · simp [hr]
    · simp [hr]
  · rw [register, if_neg (mt any_origin_iff.mp h), insertNew_of_not_mem h, origins, List.map_append]
    rfl

/-- **The origins of a list that goes on**: those that it had, then the new ones. -/
theorem origins_registerAll (pairs : List (String × String)) (l : ImportList) :
    (l.registerAll pairs).origins = (pairs.map (·.2)).foldl insertNew l.origins := by
  induction pairs generalizing l with
  | nil => rfl
  | cons pair pairs ih =>
    obtain ⟨symbol, origin⟩ := pair
    have hrest : l.registerAll ((symbol, origin) :: pairs)
        = (l.register symbol origin).registerAll pairs := rfl
    rw [hrest, ih, origins_register, List.map_cons, List.foldl_cons]

theorem mem_origins_registerAll {pairs : List (String × String)} {l : ImportList}
    {origin : String} :
    origin ∈ (l.registerAll pairs).origins ↔ origin ∈ l.origins ∨ origin ∈ pairs.map (·.2) := by
  rw [origins_registerAll, mem_foldl_insertNew]

/-- The symbols of all records. -/
def symbols (l : ImportList) : List String := l.records.flatMap (·.symbols)

theorem mem_symbols {l : ImportList} {symbol : String} :
    symbol ∈ l.symbols ↔ ∃ r ∈ l.records, symbol ∈ r.symbols := List.mem_flatMap

/-- **No symbol stands twice exactly if none has been registered from two origins.** -/
theorem nodup_symbols_registerAll_iff {pairs : List (String × String)} :
    (({} : ImportList).registerAll pairs).symbols.Nodup ↔
      ∀ symbol origin origin', (symbol, origin) ∈ pairs → (symbol, origin') ∈ pairs →
        origin = origin' := by
  have hsymbols : (({} : ImportList).registerAll pairs).symbols
      = (distinct (pairs.map (·.2))).flatMap fun origin =>
          distinct (symbolsFrom origin pairs) := by
    rw [registerAll_eq_grouped, grouped, symbols, List.flatMap_map]
  have hmem : ∀ {symbol origin : String}, symbol ∈ distinct (symbolsFrom origin pairs) ↔
      (symbol, origin) ∈ pairs := mem_distinct.trans mem_symbolsFrom
  rw [hsymbols, List.nodup_flatMap]
  constructor
  · rintro ⟨-, hdisjoint⟩ symbol origin origin' h h'
    have hsymm : Std.Symm (Function.onFun List.Disjoint fun origin =>
        distinct (symbolsFrom origin pairs)) := ⟨fun _ _ h _ hs hs' => h hs' hs⟩
    have horigin := mem_distinct.mpr (List.mem_map_of_mem (f := Prod.snd) h)
    have horigin' := mem_distinct.mpr (List.mem_map_of_mem (f := Prod.snd) h')
    by_contra hne
    exact hdisjoint.forall horigin horigin' hne (hmem.mpr h) (hmem.mpr h')
  · intro h
    refine ⟨fun origin _ => nodup_distinct _, ?_⟩
    refine (nodup_distinct _).pairwise_of_forall_ne fun origin _ origin' _ hne symbol hs hs' => ?_
    exact hne (h symbol origin origin' (hmem.mp hs) (hmem.mp hs'))

/-! ## 3. Taking a list apart -/

/-- The pairs of a list are what its records say. -/
theorem mem_pairs {l : ImportList} {symbol origin : String} :
    (symbol, origin) ∈ l.pairs ↔ ∃ r ∈ l.records, r.origin = origin ∧ symbol ∈ r.symbols := by
  simp only [ImportList.pairs, List.mem_flatMap, List.mem_map, Prod.mk.injEq]
  constructor
  · rintro ⟨r, hr, s, hs, rfl, rfl⟩
    exact ⟨r, hr, rfl, hs⟩
  · rintro ⟨r, hr, rfl, hs⟩
    exact ⟨r, hr, symbol, hs, rfl, rfl⟩

theorem pairs_append (rs rs' : List ImportRecord) :
    ImportList.pairs ⟨rs ++ rs'⟩ = ImportList.pairs ⟨rs⟩ ++ ImportList.pairs ⟨rs'⟩ :=
  List.flatMap_append

/-- The symbols of an origin among the pairs of records whose origins do not repeat. -/
theorem symbolsFrom_flatMap {symbols : String → List String} {origins : List String}
    (hnd : origins.Nodup) (origin : String) :
    symbolsFrom origin (origins.flatMap fun o => (symbols o).map (·, o))
      = if origin ∈ origins then symbols origin else [] := by
  induction origins with
  | nil => rfl
  | cons o os ih =>
    rw [List.nodup_cons] at hnd
    rw [List.flatMap_cons, symbolsFrom_append, ih hnd.2]
    by_cases ho : origin = o
    · subst ho
      simp [hnd.1]
    · rw [symbolsFrom_map_of_ne ho]
      simp [ho]

/-- The origins of the pairs of records that are not empty. -/
theorem distinct_origins_flatMap {symbols : String → List String} {origins : List String}
    (hnd : origins.Nodup) (hne : ∀ o ∈ origins, symbols o ≠ []) :
    distinct ((origins.flatMap fun o => (symbols o).map (·, o)).map (·.2)) = origins := by
  induction origins using List.reverseRecOn with
  | nil => rfl
  | append_singleton os o ih =>
    rw [List.nodup_append] at hnd
    have ho : o ∉ os := fun h => hnd.2.2 o h o (by simp) rfl
    have hos := ih hnd.1 fun o' ho' => hne o' (by simp [ho'])
    have hlast : distinct ((symbols o).map fun _ => o) = [o] :=
      distinct_eq_singleton (by simpa using hne o (by simp)) (by simp)
    rw [List.flatMap_append, List.map_append, distinct_append, hos]
    congr 1
    simp only [List.flatMap_singleton, List.map_map, Function.comp_def, hlast]
    rw [List.filter_eq_self]
    intro b hb
    obtain rfl : b = o := List.mem_singleton.mp hb
    refine decide_eq_true fun hmem => ho ?_
    rw [← hos, mem_distinct]
    exact hmem

theorem pairs_grouped (pairs : List (String × String)) :
    (grouped pairs).pairs = (distinct (pairs.map (·.2))).flatMap fun origin =>
      (distinct (symbolsFrom origin pairs)).map (·, origin) := by
  simp [grouped, ImportList.pairs, List.flatMap_map]

theorem symbolsFrom_pairs_grouped (origin : String) (pairs : List (String × String)) :
    symbolsFrom origin (grouped pairs).pairs = distinct (symbolsFrom origin pairs) := by
  rw [pairs_grouped, symbolsFrom_flatMap (nodup_distinct _)]
  by_cases h : origin ∈ pairs.map (·.2)
  · rw [if_pos (mem_distinct.mpr h)]
  · rw [if_neg (mt mem_distinct.mp h), symbolsFrom_eq_nil_iff.mpr h, distinct_nil]

theorem distinct_origins_pairs_grouped (pairs : List (String × String)) :
    distinct ((grouped pairs).pairs.map (·.2)) = distinct (pairs.map (·.2)) := by
  rw [pairs_grouped]
  refine distinct_origins_flatMap (nodup_distinct _) fun origin ho hnil => ?_
  have hmem : origin ∈ pairs.map (·.2) := mem_distinct.mp ho
  rw [← distinct_nil] at hnil
  refine symbolsFrom_eq_nil_iff.mp ?_ hmem
  rw [List.eq_nil_iff_forall_not_mem]
  intro symbol hs
  rw [← mem_distinct, hnil] at hs
  exact absurd hs List.not_mem_nil

/-- **Grouping pairs before they are registered changes nothing**, whatever has been registered
before. -/
theorem registerAll_append_pairs (as bs : List (String × String)) :
    ({} : ImportList).registerAll (as ++ (({} : ImportList).registerAll bs).pairs)
      = ({} : ImportList).registerAll (as ++ bs) := by
  rw [registerAll_eq_grouped bs]
  refine registerAll_congr ?_ fun origin => ?_
  · simp only [List.map_append]
    exact distinct_append_congr rfl (distinct_origins_pairs_grouped bs)
  · rw [symbolsFrom_append, symbolsFrom_append, symbolsFrom_pairs_grouped]
    exact distinct_append_congr rfl (distinct_distinct _)

/-- The same for what is registered first. -/
theorem registerAll_pairs_append (as bs : List (String × String)) :
    ({} : ImportList).registerAll ((({} : ImportList).registerAll as).pairs ++ bs)
      = ({} : ImportList).registerAll (as ++ bs) := by
  have has : ({} : ImportList).registerAll (({} : ImportList).registerAll as).pairs
      = ({} : ImportList).registerAll as := registerAll_append_pairs [] as
  rw [registerAll_append, has, ← registerAll_append]

end ImportList

end SchemaClass
