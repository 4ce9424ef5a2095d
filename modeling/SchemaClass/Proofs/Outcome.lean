/-!
# Steps that may fail

A check either accepts or gives a finding; a conversion gives a result or an error.  Both are built
from smaller ones with `>>=`, and what is said of the whole is put together from what is said of the
parts.

* `Decides`: what a check accepts and what its findings mean, in one statement;
* `Decides.bind`, `Decides.guardThen`: one check after another, and a check for one condition;
* `mapM_eq_ok_map`, `exists_ok_of_mapM`: a conversion that succeeds on every element of a list
  succeeds on the list, and the other way round;
* `mapM_faultOr`: a conversion fails on a list with the first fault of its elements;
* `run_get`, `run_set`: the steps that read the state and replace it;
* `run_bind_of_ok`, `run_bind_of_error`: one step after another, where steps change a state and a
  failure keeps what has been changed.
-/

namespace SchemaClass.Outcome

variable {ε σ α β : Type}

/-! ## 1. Checks -/

/-- `Decides r good bad`: the check `r` accepts exactly if `good` holds, and everything that it
refuses with satisfies `bad`. -/
structure Decides (r : Except ε Unit) (good : Prop) (bad : ε → Prop) : Prop where
  ok_iff : r = .ok () ↔ good
  bad_of_error : ∀ e, r = .error e → bad e

namespace Decides

variable {x y : Except ε Unit} {good good' : Prop} {bad : ε → Prop} {e : ε}

theorem ok (h : good) : Decides (.ok () : Except ε Unit) good bad :=
  ⟨⟨fun _ => h, fun _ => rfl⟩, nofun⟩

theorem error (h : ¬ good) (he : bad e) : Decides (.error e) good bad :=
  ⟨⟨nofun, fun hg => absurd hg h⟩, fun _ heq => Except.error.inj heq ▸ he⟩

/-- The condition may be said in other words. -/
theorem congr (h : Decides x good bad) (hg : good ↔ good') : Decides x good' bad :=
  ⟨h.ok_iff.trans hg, h.bad_of_error⟩

/-- One check after another: both conditions have to hold, and the second check may rely on the
first. -/
theorem bind (hx : Decides x good bad) (hy : good → Decides y good' bad) :
    Decides (x >>= fun _ => y) (good ∧ good') bad := by
  cases x with
  | error e =>
    have hbad : ¬ good := fun hg => nomatch hx.ok_iff.mpr hg
    exact error (fun h => hbad h.1) (hx.bad_of_error e rfl)
  | ok u =>
    have hgood : good := hx.ok_iff.mp rfl
    exact congr (hy hgood) ⟨fun h => ⟨hgood, h⟩, fun h => h.2⟩

/-- A check that refuses with `e` under a condition and goes on with `y` otherwise. -/
theorem guardThen {c : Prop} [Decidable c] (he : c → bad e) (hy : ¬ c → Decides y good bad) :
    Decides (if c then (do throw e; y) else y) (¬ c ∧ good) bad := by
  by_cases hc : c
  · rw [if_pos hc]
    exact error (fun h => h.1 hc) (he hc)
  · rw [if_neg hc]
    exact congr (hy hc) ⟨fun h => ⟨hc, h⟩, fun h => h.2⟩

/-- A check that only refuses with `e` under a condition. -/
theorem guardOnly {c : Prop} [Decidable c] (he : c → bad e) :
    Decides (if c then throw e else pure ()) (¬ c) bad := by
  by_cases hc : c
  · rw [if_pos hc]
    exact error (fun h => h hc) (he hc)
  · rw [if_neg hc]
    exact ok hc

end Decides

/-! ## 2. Conversions -/

theorem bind_eq_ok {x : Except ε α} {f : α → Except ε β} {b : β} :
    (x >>= f) = .ok b ↔ ∃ a, x = .ok a ∧ f a = .ok b := by
  cases x <;> simp [bind, Except.bind]

theorem bind_eq_error {x : Except ε α} {f : α → Except ε β} {e : ε} :
    (x >>= f) = .error e ↔ x = .error e ∨ ∃ a, x = .ok a ∧ f a = .error e := by
  cases x <;> simp [bind, Except.bind]

theorem map_eq_ok {x : Except ε α} {f : α → β} {b : β} :
    x.map f = .ok b ↔ ∃ a, x = .ok a ∧ f a = b := by
  cases x <;> simp [Except.map]

theorem mapError_eq_ok {ε' : Type} {x : Except ε α} {f : ε → ε'} {a : α} :
    x.mapError f = .ok a ↔ x = .ok a := by
  cases x with
  | ok b => exact ⟨fun h => congrArg _ (Except.ok.inj h), fun h => congrArg _ (Except.ok.inj h)⟩
  | error e => exact ⟨nofun, nofun⟩

theorem mapError_eq_error {ε' : Type} {x : Except ε α} {f : ε → ε'} {e' : ε'} :
    x.mapError f = .error e' ↔ ∃ e, x = .error e ∧ f e = e' := by
  cases x with
  | ok a => exact ⟨nofun, nofun⟩
  | error e =>
    constructor
    · intro h
      exact ⟨e, rfl, Except.error.inj h⟩
    · rintro ⟨_, h, rfl⟩
      cases h
      rfl

/-- A conversion that gives `g a` for every element `a` of a list gives their list. -/
theorem mapM_eq_ok_map {f : α → Except ε β} {g : α → β} {as : List α}
    (h : ∀ a ∈ as, f a = .ok (g a)) : as.mapM f = .ok (as.map g) := by
  induction as with
  | nil => rfl
  | cons a as ih =>
    have ha : f a = .ok (g a) := h a (by simp)
    have has : as.mapM f = .ok (as.map g) := ih fun b hb => h b (by simp [hb])
    rw [List.mapM_cons, ha, has]
    rfl

/-- A conversion that succeeds on a list succeeds on every element. -/
theorem exists_ok_of_mapM {f : α → Except ε β} {as : List α} {bs : List β}
    (h : as.mapM f = .ok bs) : ∀ a ∈ as, ∃ b, f a = .ok b := by
  induction as generalizing bs with
  | nil => exact fun a ha => absurd ha List.not_mem_nil
  | cons a as ih =>
    rw [List.mapM_cons, bind_eq_ok] at h
    obtain ⟨b, hb, h⟩ := h
    obtain ⟨bs', hbs, -⟩ := bind_eq_ok.mp h
    rw [List.forall_mem_cons]
    exact ⟨⟨b, hb⟩, ih hbs⟩

/-- **A conversion succeeds on a list just if it does on every element.** -/
theorem mapM_succeeds_iff {f : α → Except ε β} {as : List α} :
    (∃ bs, as.mapM f = .ok bs) ↔ ∀ a ∈ as, ∃ b, f a = .ok b := by
  constructor
  · rintro ⟨bs, h⟩
    exact exists_ok_of_mapM h
  · intro h
    induction as with
    | nil => exact ⟨[], rfl⟩
    | cons a as ih =>
      obtain ⟨b, hb⟩ := h a List.mem_cons_self
      obtain ⟨bs, hbs⟩ := ih fun a ha => h a (List.mem_cons_of_mem _ ha)
      exact ⟨b :: bs, by rw [List.mapM_cons, hb, hbs]; rfl⟩

/-- What is read off each result can be read off the elements, if their conversions say so. -/
theorem map_of_mapM {γ : Type} {f : α → Except ε β} {g : β → γ} {g' : α → γ}
    (hg : ∀ a b, f a = .ok b → g b = g' a) {as : List α} {bs : List β}
    (h : as.mapM f = .ok bs) : bs.map g = as.map g' := by
  induction as generalizing bs with
  | nil =>
    cases h
    rfl
  | cons a as ih =>
    rw [List.mapM_cons, bind_eq_ok] at h
    obtain ⟨b, hb, h⟩ := h
    obtain ⟨bs', hbs, heq⟩ := bind_eq_ok.mp h
    cases heq
    rw [List.map_cons, List.map_cons, hg a b hb, ih hbs]

/-- A conversion fails on a list with the error of the first element on which it fails. -/
theorem mapM_cons_eq_error {f : α → Except ε β} {a : α} {as : List α} {e : ε} :
    (a :: as).mapM f = .error e ↔
      f a = .error e ∨ (∃ b, f a = .ok b) ∧ as.mapM f = .error e := by
  rw [List.mapM_cons, bind_eq_error]
  refine or_congr_right ?_
  constructor
  · rintro ⟨b, hb, h⟩
    rcases bind_eq_error.mp h with h | ⟨bs, -, h⟩
    · exact ⟨⟨b, hb⟩, h⟩
    · cases h
  · rintro ⟨⟨b, hb⟩, h⟩
    exact ⟨b, hb, bind_eq_error.mpr (Or.inl h)⟩

/-- What a conversion gives: the fault, if there is one. -/
def faultOr (fault : Option ε) (b : β) : Except ε β :=
  match fault with
  | some e => .error e
  | none => .ok b

@[simp] theorem faultOr_some (e : ε) (b : β) : faultOr (some e) b = .error e := rfl

@[simp] theorem faultOr_none (b : β) : faultOr (none : Option ε) b = .ok b := rfl

/-- **A conversion fails on a list with the first fault of its elements**, and gives what it gives
for each of them if there is none. -/
theorem mapM_faultOr {f : α → Except ε β} {fault : α → Option ε} {g : α → β}
    (h : ∀ a, f a = faultOr (fault a) (g a)) (as : List α) :
    as.mapM f = faultOr (as.findSome? fault) (as.map g) := by
  induction as with
  | nil => rfl
  | cons a as ih =>
    rw [List.mapM_cons, h a, ih, List.findSome?_cons]
    cases fault a with
    | some e => rfl
    | none =>
      cases as.findSome? fault with
      | some e => rfl
      | none => rfl

/-! ## 3. Steps that change a state -/

section State

theorem run_get (s : σ) : (get : ExceptT ε (StateM σ) σ).run.run s = (.ok s, s) := rfl

theorem run_set (s s' : σ) :
    (set s' : ExceptT ε (StateM σ) PUnit).run.run s = (.ok ⟨⟩, s') := rfl

variable {x : ExceptT ε (StateM σ) α} {f : α → ExceptT ε (StateM σ) β} {s s' : σ}

theorem run_bind_of_ok {a : α} (h : x.run.run s = (.ok a, s')) :
    (x >>= f).run.run s = (f a).run.run s' := by
  rw [ExceptT.run_bind, StateT.run_bind, h]
  rfl

theorem run_bind_of_error {e : ε} (h : x.run.run s = (.error e, s')) :
    (x >>= f).run.run s = (.error e, s') := by
  rw [ExceptT.run_bind, StateT.run_bind, h]
  rfl

end State

end SchemaClass.Outcome
