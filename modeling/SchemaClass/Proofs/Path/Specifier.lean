import SchemaClass.Proofs.Path.Normal
/-!
# Ways from one file to another

A way climbs from the directory of a file to one it shares with another file, then goes down to that
file, by its names as they are shown.  Its text depends on nothing else, and followed from any place
of the right depth it leads where it says.

* `exists_dot_specifier`: a specifier begins with a dot;
* `way_eq`: a way goes up and then down;
* `specifier_eq`: the specifier is the text of the way;
* `reach_wayText`: where the steps of that text lead;
* `dropSourceExtension_cases`: what is left of a name without its source extension;
* `withoutExtension`, `followed`: a file without its source extension, and what an origin in a file
  leads to.
-/

namespace SchemaClass.Path

open PathChar (slash dot)

/-! ## 1. The text of a way -/

/-- The text of a way that climbs `n` times and then goes through `names`. -/
def wayText (n : Nat) (names : List String) : String :=
  let joined := "/".intercalate (List.replicate n ".." ++ names)
  if n = 0 then "./" ++ joined else joined

theorem specifier_eq_ite (source target : Path) : source.specifier target
    = if ['.', '.'] <+: ("/".intercalate (way source target)).toList
      then "/".intercalate (way source target)
      else "./" ++ "/".intercalate (way source target) := by
  unfold specifier
  generalize "/".intercalate (way source target) = joined
  dsimp only
  split
  · next rest heq =>
    have hdots : ['.', '.'] <+: joined.toList := ⟨rest, heq.symm⟩
    rw [if_pos hdots]
  · next hother =>
    have hdots : ¬ ['.', '.'] <+: joined.toList := fun ⟨rest, hrest⟩ => hother rest hrest.symm
    rw [if_neg hdots]

/-- **A specifier begins with a dot**, whatever the files are. -/
theorem exists_dot_specifier (source target : Path) :
    ∃ rest, (source.specifier target).toList = '.' :: rest := by
  rw [specifier_eq_ite]
  split
  · next h =>
    obtain ⟨rest, hrest⟩ := h
    exact ⟨'.' :: rest, hrest.symm⟩
  · rw [String.toList_append]
    exact ⟨_, rfl⟩

theorem Resolver.exists_dot_specifier (r : Resolver) (source target : Path) :
    ∃ rest, (r.specifier source target).toList = '.' :: rest := by
  rw [Resolver.specifier]
  exact Path.exists_dot_specifier _ _

theorem mapLast_append {α : Type} (f : α → α) {bs : List α} (hbs : bs ≠ []) :
    ∀ (as : List α), mapLast f (as ++ bs) = as ++ mapLast f bs
  | [] => rfl
  | a :: as => by
    obtain ⟨c, cs, hc⟩ := List.exists_cons_of_ne_nil (l := as ++ bs) (by simp [hbs])
    rw [List.cons_append, hc, mapLast, ← hc, mapLast_append f hbs as, List.cons_append]

theorem mapLast_ne_nil {α : Type} {f : α → α} : ∀ {as : List α}, as ≠ [] → mapLast f as ≠ []
  | [], h => absurd rfl h
  | [_], _ => List.cons_ne_nil _ _
  | _ :: _ :: _, _ => List.cons_ne_nil _ _

theorem mapLast_singleton {α : Type} (f : α → α) (as : List α) (a : α) :
    mapLast f (as ++ [a]) = as ++ [f a] := mapLast_append f (List.cons_ne_nil a []) as

theorem dropCommon_append {α : Type} [DecidableEq α] (as bs : List α) :
    ∀ (common : List α), dropCommon (common ++ as) (common ++ bs) = dropCommon as bs
  | [] => rfl
  | c :: common => by
    rw [List.cons_append, List.cons_append, dropCommon, if_pos rfl, dropCommon_append as bs common]

/-- Names with different first names have nothing in common. -/
theorem dropCommon_names : ∀ {above below : List (List PathChar)},
    (∀ s, above.head? = some s → below.head? ≠ some s) →
    dropCommon (above.map Part.name) (below.map Part.name)
      = (above.map Part.name, below.map Part.name)
  | [], _, _ => rfl
  | _ :: _, [], _ => rfl
  | a :: above, b :: below, h => by
    have hne : Part.name a ≠ Part.name b := by
      intro heq
      cases heq
      exact h a rfl rfl
    rw [List.map_cons, List.map_cons, dropCommon, if_neg hne]

/-- Joined names begin as the first of them does. -/
theorem dots_prefix_intercalate {s : String} {names : List String}
    (h : ¬ ['.', '.'] <+: s.toList) :
    ¬ ['.', '.'] <+: ("/".intercalate (s :: names)).toList := by
  by_cases hnames : names = []
  · rwa [hnames, String.intercalate_singleton]
  · rw [String.intercalate_cons_of_ne_nil hnames, String.toList_append, String.toList_append,
      List.append_assoc]
    rintro ⟨rest, hrest⟩
    match hs : s.toList with
    | [] =>
      rw [hs] at hrest
      cases hrest
    | [c] =>
      rw [hs] at hrest
      cases hrest
    | c :: d :: cs =>
      rw [hs] at hrest h
      cases hrest
      exact h ⟨cs, rfl⟩

/-- **A way goes up** to where the directory of `source` and `target` part, **then down**: the names
are written as they are shown, and the last has no source extension. -/
theorem way_eq {source target : Path} {base : List Part} {above below : List (List PathChar)}
    (hsource : source.directory.parts = base ++ above.map .name)
    (htarget : target.normalize.parts = base ++ below.map .name)
    (hpart : ∀ s, above.head? = some s → below.head? ≠ some s) (hbelow : below ≠ []) :
    way source target = List.replicate above.length ".."
      ++ mapLast dropSourceExtension (below.map PathChar.text) := by
  have hups : (above.map Part.name).map (fun _ => "..") = List.replicate above.length ".." := by
    rw [List.map_map]
    exact List.map_const' ..
  have hnames : (below.map Part.name).map Part.text = below.map PathChar.text := by
    rw [List.map_map]
    rfl
  rw [way, hsource, htarget, dropCommon_append, dropCommon_names hpart]
  dsimp only
  rw [hups, hnames, mapLast_append _ (by simpa using hbelow)]

/-- **The specifier is the text of the way**, if nothing on the way down looks like a climb. -/
theorem specifier_eq {source target : Path} {base : List Part}
    {above below : List (List PathChar)}
    (hsource : source.directory.parts = base ++ above.map .name)
    (htarget : target.normalize.parts = base ++ below.map .name)
    (hpart : ∀ s, above.head? = some s → below.head? ≠ some s) (hbelow : below ≠ [])
    (hdots : ∀ s ∈ mapLast dropSourceExtension (below.map PathChar.text),
      ¬ ['.', '.'] <+: s.toList) :
    source.specifier target
      = wayText above.length (mapLast dropSourceExtension (below.map PathChar.text)) := by
  have hne : mapLast dropSourceExtension (below.map PathChar.text) ≠ [] :=
    mapLast_ne_nil (by simpa using hbelow)
  rw [specifier_eq_ite, way_eq hsource htarget hpart hbelow, wayText]
  cases above with
  | nil =>
    obtain ⟨s, names, hcons⟩ := List.exists_cons_of_ne_nil hne
    have hs : ¬ ['.', '.'] <+: s.toList := hdots s (hcons ▸ List.mem_cons_self)
    rw [List.length_nil, List.replicate_zero, List.nil_append, hcons,
      if_neg (dots_prefix_intercalate hs), if_pos rfl]
  | cons a above =>
    have hclimb : ['.', '.'] <+: ("/".intercalate (List.replicate (a :: above).length ".." ++
        mapLast dropSourceExtension (below.map PathChar.text))).toList := by
      rw [List.length_cons, List.replicate_succ, List.cons_append,
        String.intercalate_cons_of_ne_nil (by simp [hne]), String.toList_append,
        String.toList_append, List.append_assoc]
      exact List.prefix_append ..
    have hlength : (a :: above).length ≠ 0 := Nat.succ_ne_zero above.length
    rw [if_pos hclimb, if_neg hlength]

/-! ## 2. Following a way -/

/-- What a way begins with: a dot, or climbs. -/
def wayLead (n : Nat) : List String := if n = 0 then ["."] else List.replicate n ".."

theorem wayLead_ne_nil (n : Nat) : wayLead n ≠ [] := by
  cases n <;> exact List.cons_ne_nil _ _

theorem mem_wayLead {n : Nat} {s : String} (h : s ∈ wayLead n) : s = "." ∨ s = ".." := by
  rw [wayLead] at h
  split at h
  · exact Or.inl (List.mem_singleton.mp h)
  · exact Or.inr (List.eq_of_mem_replicate h)

theorem steps_wayLead (n : Nat) :
    steps ((wayLead n).map PathChar.ofText) = List.replicate n .up := by
  have hup : Part.ofSegment? ".." = some .up := by decide
  rw [wayLead]
  split
  · next hn =>
    rw [hn]
    decide
  · rw [List.map_replicate, steps, List.filterMap_replicate_of_some hup]

theorem steps_names : ∀ {names : List String}, (∀ s ∈ names, IsComponent s) →
    steps (names.map PathChar.ofText) = (names.map PathChar.ofText).map .name
  | [], _ => rfl
  | s :: names, h => by
    rw [List.map_cons, steps_cons, steps_component (h s List.mem_cons_self),
      steps_names fun t ht => h t (List.mem_cons_of_mem _ ht)]
    rfl

theorem wayText_eq_intercalate (n : Nat) {names : List String} (hne : names ≠ []) :
    wayText n names = "/".intercalate (wayLead n ++ names) := by
  rw [wayText, wayLead]
  split
  · next hn =>
    rw [hn, List.replicate_zero, List.nil_append, List.singleton_append,
      String.intercalate_cons_of_ne_nil hne]
    rfl
  · rfl

theorem ofText_intercalate : ∀ (texts : List String), PathChar.ofText ("/".intercalate texts)
    = [slash].intercalate (texts.map PathChar.ofText)
  | [] => rfl
  | [s] => by rw [String.intercalate_singleton, List.map_singleton, List.intercalate_singleton]
  | s :: t :: texts => by
    have hslash : PathChar.ofText "/" = [slash] := by decide
    rw [String.intercalate_cons_of_ne_nil (List.cons_ne_nil t texts), List.map_cons,
      List.intercalate_cons_of_ne_nil (by simp), PathChar.ofText_append, PathChar.ofText_append,
      ofText_intercalate (t :: texts), hslash]

/-- What stands between the slashes of joined texts. -/
theorem segments_intercalate {texts : List String} (hne : texts ≠ [])
    (h : ∀ s ∈ texts, '/' ∉ s.toList) :
    (⟨"/".intercalate texts⟩ : Path).segments = texts.map PathChar.ofText := by
  rw [segments, ofText_intercalate]
  refine List.splitOn_intercalate slash ?_ (by simpa using hne)
  intro cs hcs
  obtain ⟨s, hs, rfl⟩ := List.mem_map.mp hcs
  exact mt PathChar.char_mem_ofText.mp (h s hs)

/-- Joined texts that begin with one that is not empty are no absolute path. -/
theorem isAbsolute_intercalate {s : String} {texts : List String} (hs : s ≠ "")
    (h : ∀ t ∈ s :: texts, '/' ∉ t.toList) :
    (⟨"/".intercalate (s :: texts)⟩ : Path).isAbsolute = false := by
  rw [← Bool.not_eq_true, isAbsolute_iff, segments_intercalate (List.cons_ne_nil s texts) h]
  rintro ⟨next, rest, hsplit⟩
  rw [List.map_cons, List.cons.injEq] at hsplit
  exact hs (PathChar.ofText_inj.mp hsplit.1)

theorem no_slash_wayLead {n : Nat} {s : String} (h : s ∈ wayLead n) : '/' ∉ s.toList := by
  rcases mem_wayLead h with rfl | rfl
  · decide
  · decide

theorem no_slash_way (n : Nat) {names : List String} (hnames : ∀ s ∈ names, IsComponent s) :
    ∀ s ∈ wayLead n ++ names, '/' ∉ s.toList := by
  intro s hs
  rcases List.mem_append.mp hs with hs | hs
  · exact no_slash_wayLead hs
  · exact mt PathChar.char_mem_ofText.mpr (hnames s hs).no_slash

theorem isAbsolute_wayText (n : Nat) {names : List String} (hne : names ≠ [])
    (hnames : ∀ s ∈ names, IsComponent s) : (⟨wayText n names⟩ : Path).isAbsolute = false := by
  obtain ⟨first, rest, hlead⟩ := List.exists_cons_of_ne_nil (wayLead_ne_nil n)
  have hfirst : first ≠ "" := by
    rcases mem_wayLead (hlead ▸ List.mem_cons_self : first ∈ wayLead n) with rfl | rfl
    · decide
    · decide
  have hslash := no_slash_way n hnames
  rw [hlead, List.cons_append] at hslash
  rw [wayText_eq_intercalate n hne, hlead, List.cons_append]
  exact isAbsolute_intercalate hfirst hslash

theorem steps_wayText (n : Nat) {names : List String} (hne : names ≠ [])
    (hnames : ∀ s ∈ names, IsComponent s) :
    steps (⟨wayText n names⟩ : Path).segments
      = List.replicate n .up ++ (names.map PathChar.ofText).map .name := by
  rw [wayText_eq_intercalate n hne,
    segments_intercalate (List.append_ne_nil_of_left_ne_nil (wayLead_ne_nil n) _)
      (no_slash_way n hnames),
    List.map_append, steps_append, steps_wayLead, steps_names hnames]

/-- **The steps of a way lead where it says**, from any place that is deep enough. -/
theorem reach_wayText (place : List Part) (above : List (List PathChar)) {names : List String}
    (hne : names ≠ []) (hnames : ∀ s ∈ names, IsComponent s) :
    reach (place ++ above.map .name) (steps (⟨wayText above.length names⟩ : Path).segments)
      = place ++ (names.map PathChar.ofText).map .name := by
  rw [steps_wayText _ hne hnames, reach_append, reach_climb, reach_names]

/-! ## 3. Leaving an extension out -/

theorem eq_of_cutAtLastDot? {name stem extension : List Char}
    (h : cutAtLastDot? name = some (stem, extension)) : name = stem ++ '.' :: extension := by
  rw [cutAtLastDot?] at h
  split at h
  · cases h
  · next c rest hdrop =>
    have hdot : c = '.' := by
      have hhead := List.head?_dropWhile_not (· != '.') name.reverse
      rw [hdrop] at hhead
      simpa using hhead
    have hreverse : name.reverse = name.reverse.takeWhile (· != '.') ++ '.' :: rest := by
      rw [hdot] at hdrop
      rw [← hdrop, List.takeWhile_append_dropWhile]
    cases h
    rw [← List.reverse_inj, List.reverse_append, List.reverse_cons, List.reverse_reverse,
      List.reverse_reverse, List.append_assoc, List.singleton_append]
    exact hreverse

/-- **A name is what is left of it, or that with a source extension behind it.** -/
theorem dropSourceExtension_cases (s : String) :
    dropSourceExtension s = s ∨ dropSourceExtension s ≠ "" ∧
      ∃ extension ∈ sourceExtensions, s = dropSourceExtension s ++ "." ++ extension := by
  rw [dropSourceExtension]
  split
  · next stem extension hcut =>
    split
    · next hsource =>
      rw [Bool.and_eq_true, Bool.not_eq_true', List.isEmpty_eq_false_iff,
        List.contains_iff_mem] at hsource
      refine Or.inr ⟨?_, String.ofList extension, hsource.2, ?_⟩
      · intro hempty
        exact hsource.1 (by simpa using congrArg String.toList hempty)
      · rw [← String.toList_inj, eq_of_cutAtLastDot? hcut]
        simp
    · exact Or.inl rfl
  · exact Or.inl rfl

theorem no_slash_dropSourceExtension {s : String} (h : '/' ∉ s.toList) :
    '/' ∉ (dropSourceExtension s).toList := by
  rcases dropSourceExtension_cases s with heq | ⟨-, extension, -, heq⟩
  · rwa [heq]
  · intro hslash
    refine h ?_
    rw [heq, String.toList_append, String.toList_append, List.append_assoc]
    exact List.mem_append_left _ hslash

/-- A name without its source extension, whatever else it is made of. -/
def dropExtension (name : List PathChar) : List PathChar :=
  name.take (dropSourceExtension (PathChar.text name)).length

theorem dropSourceExtension_isPrefix (s : String) :
    (dropSourceExtension s).toList <+: s.toList := by
  rcases dropSourceExtension_cases s with heq | ⟨-, extension, -, heq⟩
  · exact ⟨[], by rw [heq, List.append_nil]⟩
  · rw [← String.toList_inj, String.append_assoc, String.toList_append] at heq
    exact ⟨_, heq.symm⟩

@[simp] theorem dropExtension_ofText (s : String) :
    dropExtension (PathChar.ofText s) = PathChar.ofText (dropSourceExtension s) := by
  rw [dropExtension, PathChar.text_ofText, PathChar.ofText, PathChar.ofText, ← List.map_take,
    ← String.length_toList, ← List.prefix_iff_eq_take.mp (dropSourceExtension_isPrefix s)]

/-- A component without its source extension. -/
def Part.dropExtension : Part → Part
  | .name s => .name (Path.dropExtension s)
  | part => part

/-- A path in normal form, without the source extension of its last component. -/
def withoutExtension (p : Path) : Path :=
  ofParts (mapLast Part.dropExtension (normalizeParts p.parts))

/-- What an origin in a file leads to, on paper. -/
def followed (source : Path) (origin : String) : Path :=
  ((source.parent?.getD ⟨[]⟩).join ⟨origin⟩).normalize

end SchemaClass.Path
