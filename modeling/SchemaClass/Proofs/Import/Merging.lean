import SchemaClass.Proofs.Import.Registration
/-!
# What registration merges

Registrations may come in any order, with repetitions and with origins that take turns.  The list
that they lead to shows the origins in the order in which each was first named, and under each of
them the symbols in the order in which each was first asked for; of everything else that there was
in the sequence, nothing is left.

The records can also be held under keys of their own, where only the steps of registration see to it
that a record has the origin that it is held under (`KeyedImports`).

* `keyed_registerAll`: every record is held under its own origin;
* `get?_registerAll`: the record of an origin;
* `filter_records_registered`: records of different origins do not touch one another;
* `perm_pairs_iff`: two lists say the same exactly if the same has been registered;
* `registerAll_again_iff`: what changes nothing is what has been registered before;
* `registerAll_eq_iff`: when two sequences lead to one list;
* `merge_on_insert`: all of this of any sequence of registrations.
-/

namespace SchemaClass

open OrderedSet

/-! ## 1. Records under keys -/

/-- Records, each under a key, in the order in which the keys were first used. -/
structure KeyedImports where
  entries : List (String × ImportRecord) := []
  deriving DecidableEq, Repr

namespace KeyedImports

/-- Adds a symbol to the record under a key.  Where there is none, one is put that has the key as
its origin. -/
def register (k : KeyedImports) (symbol key : String) : KeyedImports :=
  if k.entries.any (·.1 == key) then
    ⟨k.entries.map fun e => if e.1 == key then (e.1, e.2.merge symbol) else e⟩
  else ⟨k.entries ++ [(key, (ImportRecord.mk key []).merge symbol)]⟩

/-- Adds several symbols, each under its key. -/
def registerAll (k : KeyedImports) (pairs : List (String × String)) : KeyedImports :=
  pairs.foldl (fun k (symbol, key) => k.register symbol key) k

end KeyedImports

namespace ImportList

/-- The records of a list, each under its own origin. -/
def keyed (l : ImportList) : KeyedImports := ⟨l.records.map fun r => (r.origin, r)⟩

theorem any_key_keyed (l : ImportList) (origin : String) :
    l.keyed.entries.any (·.1 == origin) = l.records.any (·.origin == origin) := by
  simp [keyed, List.any_map, Function.comp_def]

/-- One registration keeps every record under its own origin. -/
theorem keyed_register (l : ImportList) (symbol origin : String) :
    (l.register symbol origin).keyed = l.keyed.register symbol origin := by
  rw [KeyedImports.register, any_key_keyed, register]
  split
  · simp only [keyed, List.map_map]
    congr 1
    refine List.map_congr_left fun r _ => ?_
    by_cases h : r.origin = origin
    · simp [h]
    · simp [h]
  · simp [keyed, ImportRecord.merge]

/-- **Every record is held under its own origin**, however often and in whatever order symbols are
registered. -/
theorem keyed_registerAll (pairs : List (String × String)) (l : ImportList) :
    (l.registerAll pairs).keyed = l.keyed.registerAll pairs := by
  induction pairs generalizing l with
  | nil => rfl
  | cons pair pairs ih =>
    obtain ⟨symbol, origin⟩ := pair
    have hfirst : l.keyed.registerAll ((symbol, origin) :: pairs)
        = (l.keyed.register symbol origin).registerAll pairs := rfl
    rw [hfirst, ← keyed_register]
    exact ih (l.register symbol origin)

/-! ## 2. What a list says -/

/-- The origins of a new list, in the order in which they were first named. -/
theorem origins_registered (pairs : List (String × String)) :
    (({} : ImportList).registerAll pairs).origins = distinct (pairs.map (·.2)) :=
  origins_registerAll pairs {}

/-- The symbols of a record. -/
theorem symbols_of_mem_registered {pairs : List (String × String)} {r : ImportRecord}
    (h : r ∈ (({} : ImportList).registerAll pairs).records) :
    r.symbols = distinct (symbolsFrom r.origin pairs) := by
  rw [registerAll_eq_grouped, grouped] at h
  obtain ⟨origin, -, rfl⟩ := List.mem_map.mp h
  rfl

/-- No record is empty. -/
theorem symbols_ne_nil_of_mem_registered {pairs : List (String × String)} {r : ImportRecord}
    (h : r ∈ (({} : ImportList).registerAll pairs).records) : r.symbols ≠ [] := by
  obtain ⟨⟨symbol, origin⟩, hp, horigin⟩ := exists_pair_of_mem_records h
  obtain rfl : origin = r.origin := horigin
  have hsymbol : symbol ∈ r.symbols := by
    rw [symbols_of_mem_registered h, mem_distinct]
    exact mem_symbolsFrom.mpr hp
  exact List.ne_nil_of_mem hsymbol

/-- **The record of an origin**, if anything has been registered from there. -/
theorem get?_registerAll (pairs : List (String × String)) (origin : String) :
    (({} : ImportList).registerAll pairs).get? origin
      = if origin ∈ pairs.map (·.2) then some ⟨origin, distinct (symbolsFrom origin pairs)⟩
        else none := by
  rw [registerAll_eq_grouped, grouped, get?, List.find?_map]
  by_cases h : origin ∈ pairs.map (·.2)
  · obtain ⟨other, hother⟩ : ∃ other,
        (distinct (pairs.map (·.2))).find? (· == origin) = some other := by
      rw [← Option.isSome_iff_exists, List.find?_isSome]
      exact ⟨origin, mem_distinct.mpr h, beq_self_eq_true origin⟩
    have hsame : other = origin := by simpa using List.find?_some hother
    rw [hsame] at hother
    rw [if_pos h]
    exact congrArg (Option.map _) hother
  · have hnone : (distinct (pairs.map (·.2))).find? (· == origin) = none := by
      rw [List.find?_eq_none]
      intro other hother heq
      exact h (beq_iff_eq.mp heq ▸ mem_distinct.mp hother)
    rw [if_neg h]
    exact congrArg (Option.map _) hnone

theorem get?_of_mem_registered {pairs : List (String × String)} {r : ImportRecord}
    (h : r ∈ (({} : ImportList).registerAll pairs).records) :
    (({} : ImportList).registerAll pairs).get? r.origin = some r := by
  obtain ⟨p, hp, horigin⟩ := exists_pair_of_mem_records h
  rw [get?_registerAll, ← symbols_of_mem_registered h,
    if_pos (List.mem_map.mpr ⟨p, hp, horigin⟩)]

/-- What a list says is what has been registered. -/
theorem mem_pairs_registered {pairs : List (String × String)} {p : String × String} :
    p ∈ (({} : ImportList).registerAll pairs).pairs ↔ p ∈ pairs :=
  mem_pairs.trans exists_record_iff

/-- A list says nothing twice. -/
theorem nodup_pairs_registered (pairs : List (String × String)) :
    (({} : ImportList).registerAll pairs).pairs.Nodup := by
  rw [registerAll_eq_grouped, pairs_grouped, List.nodup_flatMap]
  constructor
  · intro origin _
    exact (nodup_distinct _).map fun a b h => (Prod.mk.inj h).1
  · refine (nodup_distinct _).imp ?_
    intro origin other hne p hp hp'
    obtain ⟨a, -, rfl⟩ := List.mem_map.mp hp
    obtain ⟨b, -, hb⟩ := List.mem_map.mp hp'
    exact hne (Prod.mk.inj hb).2.symm

/-- The records of some of the origins are those that the registrations from there lead to. -/
theorem filter_records_registered (p : String → Bool) (pairs : List (String × String)) :
    (({} : ImportList).registerAll pairs).records.filter (fun r => p r.origin)
      = (({} : ImportList).registerAll (pairs.filter fun pair => p pair.2)).records := by
  have horigins : distinct ((pairs.filter fun pair => p pair.2).map (·.2))
      = (distinct (pairs.map (·.2))).filter p := by
    rw [← distinct_filter, List.filter_map]
    rfl
  simp only [registerAll_eq_grouped, grouped, List.filter_map, horigins]
  refine List.map_congr_left fun origin horigin => ?_
  have hp : p origin = true := (List.mem_filter.mp horigin).2
  have hsymbols : symbolsFrom origin (pairs.filter fun pair => p pair.2)
      = symbolsFrom origin pairs := by
    rw [symbolsFrom, symbolsFrom, List.filter_filter]
    congr 1
    refine List.filter_congr fun pair _ => ?_
    by_cases h : pair.2 = origin
    · simp [h, hp]
    · simp [h]
  rw [hsymbols]

/-! ## 3. Two sequences -/

/-- **Two lists say the same exactly if the same has been registered**, in whatever order. -/
theorem perm_pairs_iff {as bs : List (String × String)} :
    (({} : ImportList).registerAll as).pairs.Perm (({} : ImportList).registerAll bs).pairs
      ↔ ∀ p, p ∈ as ↔ p ∈ bs := by
  rw [List.perm_ext_iff_of_nodup (nodup_pairs_registered as) (nodup_pairs_registered bs)]
  exact forall_congr' fun p => iff_congr mem_pairs_registered mem_pairs_registered

/-- **What changes nothing is what has been registered before.** -/
theorem registerAll_again_iff {as again : List (String × String)} :
    (({} : ImportList).registerAll as).registerAll again = ({} : ImportList).registerAll as
      ↔ ∀ p ∈ again, p ∈ as := by
  rw [← registerAll_append]
  constructor
  · intro h p hp
    have hall : p ∈ (({} : ImportList).registerAll (as ++ again)).pairs :=
      mem_pairs_registered.mpr (List.mem_append_right as hp)
    rw [h] at hall
    exact mem_pairs_registered.mp hall
  · exact registerAll_append_of_subset

/-- **Two sequences lead to one list exactly if they first name the origins in one order**, and the
symbols of each origin as well. -/
theorem registerAll_eq_iff {as bs : List (String × String)} :
    ({} : ImportList).registerAll as = ({} : ImportList).registerAll bs
      ↔ distinct (as.map (·.2)) = distinct (bs.map (·.2)) ∧
        ∀ origin, distinct (symbolsFrom origin as) = distinct (symbolsFrom origin bs) := by
  constructor
  · intro h
    refine ⟨?_, ?_⟩
    · rw [← origins_registered, h, origins_registered]
    · intro origin
      rw [← symbolsFrom_pairs_grouped, ← registerAll_eq_grouped, h, registerAll_eq_grouped,
        symbolsFrom_pairs_grouped]
  · rintro ⟨horigins, hsymbols⟩
    exact registerAll_congr horigins hsymbols

/-- **The law of registration**, for any sequence of symbols and origins: the records are those of
the origins at their first occurrence, each under its own origin, and each has the symbols of that
origin at their first occurrence.  So the order of the sequence decides about the order of the list
and nothing else, and what has been registered once may be registered again. -/
theorem merge_on_insert (pairs : List (String × String)) :
    let l := ({} : ImportList).registerAll pairs
    l.origins = (pairs.map (·.2)).eraseDups ∧
    ({} : KeyedImports).registerAll pairs = l.keyed ∧
    (∀ r ∈ l.records, l.get? r.origin = some r ∧ r.symbols ≠ [] ∧
      r.symbols = ((pairs.filter (·.2 == r.origin)).map (·.1)).eraseDups) ∧
    (∀ others, (({} : ImportList).registerAll others).pairs.Perm l.pairs ↔
      ∀ p, p ∈ others ↔ p ∈ pairs) ∧
    (∀ again, l.registerAll again = l ↔ ∀ p ∈ again, p ∈ pairs) ∧
    (∀ others, ({} : ImportList).registerAll others = l ↔
      (others.map (·.2)).eraseDups = (pairs.map (·.2)).eraseDups ∧
      ∀ origin, ((others.filter (·.2 == origin)).map (·.1)).eraseDups
        = ((pairs.filter (·.2 == origin)).map (·.1)).eraseDups) := by
  intro l
  refine ⟨?_, (keyed_registerAll pairs {}).symm, ?_, fun _ => perm_pairs_iff,
    fun _ => registerAll_again_iff, ?_⟩
  · rw [← distinct_eq_eraseDups]
    exact origins_registered pairs
  · intro r hr
    rw [← distinct_eq_eraseDups]
    exact ⟨get?_of_mem_registered hr, symbols_ne_nil_of_mem_registered hr,
      symbols_of_mem_registered hr⟩
  · intro others
    simp only [← distinct_eq_eraseDups]
    exact registerAll_eq_iff

/-- The origins take turns and a symbol is asked for again. -/
theorem merge_on_insert_interleaved :
    let pairs := [("Role", "@prisma/client"), ("ApiProperty", "@nestjs/swagger"),
      ("Status", "@prisma/client"), ("ApiProperty", "@nestjs/swagger")]
    let l := ({} : ImportList).registerAll pairs
    ImportRecord.mk "@prisma/client" ["Role", "Status"] ∈ l.records ∧
    l.get? "@prisma/client" = some ⟨"@prisma/client", ["Role", "Status"]⟩ ∧
    l.registerAll (pairs.drop 1) = l ∧
    (({} : ImportList).registerAll pairs.reverse).pairs.Perm l.pairs ∧
    ({} : ImportList).registerAll pairs.reverse ≠ l := by
  intro pairs l
  have hmem : ImportRecord.mk "@prisma/client" ["Role", "Status"] ∈ l.records := by decide
  obtain ⟨-, -, hrecords, hperm, hagain, heq⟩ := merge_on_insert pairs
  refine ⟨hmem, (hrecords _ hmem).1, (hagain _).mpr fun p hp => List.mem_of_mem_drop hp,
    (hperm _).mpr fun p => List.mem_reverse, ?_⟩
  intro h
  exact absurd ((heq _).mp h).1 (by decide)

end ImportList

end SchemaClass
