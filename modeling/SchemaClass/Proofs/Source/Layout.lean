import SchemaClass.Proofs.Source.Rows
/-!
# The lines of a class

A class is laid out line by line: its decorators, its header, its properties one unit deeper, each
below its own decorators, and the closing line.  Between two neighbours stands an empty line if one
of them is decorated, and there is no other empty line.  What decides is each pair of neighbours on
its own, wherever it stands among the properties.

* `innerLines`: the lines of properties; `innerLines_append`: they come apart between neighbours;
* `innerLines_eq_iff`: where the empty lines are;
* `layout_of_class`: the lines of a class, all of them, and the empty ones among them.
-/

namespace SchemaClass.Source

open Text

/-! ## 1. Places of an element -/

section Places

variable {α : Type} {a : α} {as bs before behind : List α}

/-- What is not in the first part of a list is behind it. -/
theorem append_eq_split_iff_right (h : a ∉ as) : as ++ bs = before ++ a :: behind ↔
    ∃ between, before = as ++ between ∧ bs = between ++ a :: behind := by
  constructor
  · intro heq
    rcases List.append_eq_append_iff.mp heq with ⟨between, rfl, hbs⟩ | ⟨rest, rfl, hrest⟩
    · exact ⟨between, rfl, hbs⟩
    · cases rest with
      | nil => exact ⟨[], by rw [List.append_nil, List.append_nil], hrest.symm⟩
      | cons b rest =>
        obtain ⟨rfl, -⟩ := List.cons.inj hrest
        exact absurd (List.mem_append_right before List.mem_cons_self) h
  · rintro ⟨between, rfl, rfl⟩
    rw [List.append_assoc]

/-- What is not in the last part of a list is in front of it. -/
theorem append_eq_split_iff_left (h : a ∉ bs) : as ++ bs = before ++ a :: behind ↔
    ∃ between, behind = between ++ bs ∧ as = before ++ a :: between := by
  constructor
  · intro heq
    rcases List.append_eq_append_iff.mp heq with ⟨front, -, hbs⟩ | ⟨rest, has, hrest⟩
    · exact absurd (hbs ▸ List.mem_append_right front List.mem_cons_self) h
    · cases rest with
      | nil =>
        rw [List.nil_append] at hrest
        exact absurd (hrest ▸ List.mem_cons_self) h
      | cons b rest =>
        obtain ⟨rfl, rfl⟩ := List.cons.inj hrest
        exact ⟨rest, rfl, has⟩
  · rintro ⟨between, rfl, rfl⟩
    rw [List.append_assoc, List.cons_append]

end Places

/-! ## 2. Properties -/

namespace PropertyDeclaration

/-- The lines of a property inside of a class: its decorators and the property itself. -/
def ownLines (i : Indentation) (p : PropertyDeclaration) : List String :=
  (p.decorators.map (·.text) ++ [p.name ++ ": " ++ p.type ++ ";"]).map
    (String.ofList (i.text 1) ++ ·)

/-- The lines of properties inside of a class. -/
def innerLines (i : Indentation) (ps : List PropertyDeclaration) : List String :=
  (allRows ps).map fun r => (r.indented (i.text 1)).content

/-- The lines between a property and the next one. -/
def gapLines (p : PropertyDeclaration) : Option PropertyDeclaration → List String
  | none => []
  | some q => if p.isDecorated || q.isDecorated then [""] else []

variable (i : Indentation)

@[simp] theorem innerLines_nil : innerLines i [] = [] := rfl

theorem innerLines_cons (p : PropertyDeclaration) (ps : List PropertyDeclaration) :
    innerLines i (p :: ps) = p.ownLines i ++ gapLines p ps.head? ++ innerLines i ps := by
  have hrows : p.rows.map (fun r => (r.indented (i.text 1)).content) = p.ownLines i := by
    simp [rows, ownLines, text]
  cases ps with
  | nil => rw [innerLines, allRows, hrows, List.head?_nil, gapLines, innerLines_nil,
      List.append_nil, List.append_nil]
  | cons q ps =>
    have hgap : (gap p q).map (fun r => (r.indented (i.text 1)).content) = gapLines p (some q) := by
      rw [gap, gapLines]
      split <;> rfl
    rw [innerLines, allRows, List.map_append, List.map_append, hrows, hgap]
    rfl

theorem empty_notMem_ownLines (p : PropertyDeclaration) : "" ∉ p.ownLines i := by
  intro h
  obtain ⟨s, hs, hempty⟩ := List.mem_map.mp h
  have hnil : s = "" := (String.append_eq_empty_iff.mp hempty).2
  rcases List.mem_append.mp hs with hs | hs
  · obtain ⟨d, -, rfl⟩ := List.mem_map.mp hs
    simp [Decorator.text] at hnil
  · rw [List.mem_singleton.mp hs] at hnil
    simp at hnil

/-- **No line of a property is lost**, and nothing stands between them but empty lines. -/
theorem filter_innerLines (ps : List PropertyDeclaration) :
    (innerLines i ps).filter (· ≠ "") = ps.flatMap (·.ownLines i) := by
  induction ps with
  | nil => rfl
  | cons p ps ih =>
    have hown : (p.ownLines i).filter (· ≠ "") = p.ownLines i := by
      rw [List.filter_eq_self]
      intro l hl
      exact decide_eq_true fun hempty => empty_notMem_ownLines i p (hempty ▸ hl)
    have hgap : (gapLines p ps.head?).filter (· ≠ "") = [] := by
      cases ps.head? with
      | none => rfl
      | some q =>
        rw [gapLines]
        split <;> rfl
    rw [innerLines_cons, List.filter_append, List.filter_append, hown, hgap, ih, List.append_nil,
      List.flatMap_cons]

/-- **The lines come apart between any two neighbours.** -/
theorem innerLines_append (front : List PropertyDeclaration) (p q : PropertyDeclaration)
    (back : List PropertyDeclaration) : innerLines i (front ++ p :: q :: back)
      = innerLines i (front ++ [p]) ++ gapLines p (some q) ++ innerLines i (q :: back) := by
  induction front with
  | nil =>
    rw [List.nil_append, List.nil_append, innerLines_cons i p, innerLines_cons i p [],
      innerLines_nil, List.head?_nil, List.head?_cons, gapLines, List.append_nil, List.append_nil]
  | cons r front ih =>
    have hhead : (front ++ p :: q :: back).head? = (front ++ [p]).head? := by
      cases front <;> rfl
    rw [List.cons_append, List.cons_append, innerLines_cons, innerLines_cons, ih, hhead]
    simp only [List.append_assoc]

theorem innerLines_cons_append {q : PropertyDeclaration} {front ps back : List PropertyDeclaration}
    {r : PropertyDeclaration} (h : q :: ps = front ++ r :: back) (p : PropertyDeclaration) :
    innerLines i (p :: front ++ [r])
      = p.ownLines i ++ (gapLines p (some q) ++ innerLines i (front ++ [r])) := by
  have hhead : (front ++ [r]).head? = some q := by
    have hq := congrArg List.head? h
    cases front <;> exact hq.symm
  rw [List.cons_append, innerLines_cons, hhead, List.append_assoc]

/-- The lines that stand behind those of a property have an empty one in front of the next property,
or further behind. -/
theorem exists_of_innerLines {before behind : List String} : ∀ {ps : List PropertyDeclaration},
    innerLines i ps = before ++ "" :: behind → ∃ front p q back, ps = front ++ p :: q :: back ∧
      (p.isDecorated = true ∨ q.isDecorated = true) ∧ before = innerLines i (front ++ [p]) ∧
      behind = innerLines i (q :: back)
  | [], h => by simp at h
  | [p], h => by
    rw [innerLines_cons, List.append_assoc,
      append_eq_split_iff_right (empty_notMem_ownLines i p)] at h
    obtain ⟨between, -, h⟩ := h
    simp [gapLines] at h
  | p :: q :: ps, h => by
    rw [innerLines_cons, List.append_assoc,
      append_eq_split_iff_right (empty_notMem_ownLines i p), List.head?_cons] at h
    obtain ⟨between, rfl, h⟩ := h
    -- an empty line behind the next property is one behind this property
    have hlater : ∀ {rest}, innerLines i (q :: ps) = rest ++ "" :: behind →
        ∃ front p' q' back, p :: q :: ps = front ++ p' :: q' :: back ∧
          (p'.isDecorated = true ∨ q'.isDecorated = true) ∧
          p.ownLines i ++ (gapLines p (some q) ++ rest) = innerLines i (front ++ [p']) ∧
          behind = innerLines i (q' :: back) := by
      intro rest hrest
      obtain ⟨front, p', q', back, hps, hdecorated, rfl, hbehind⟩ := exists_of_innerLines hrest
      exact ⟨p :: front, p', q', back, by rw [hps]; rfl, hdecorated,
        (innerLines_cons_append i hps p).symm, hbehind⟩
    by_cases hpq : (p.isDecorated || q.isDecorated) = true
    · have hgap : gapLines p (some q) = [""] := if_pos hpq
      rw [hgap] at h hlater
      rcases List.cons_eq_append_iff.mp h with ⟨rfl, hfirst⟩ | ⟨rest, rfl, hrest⟩
      · refine ⟨[], p, q, ps, rfl, (Bool.or_eq_true _ _).mp hpq, ?_, (List.cons.inj hfirst).2⟩
        rw [List.nil_append, innerLines_cons, innerLines_nil, List.head?_nil, gapLines,
          List.append_nil, List.append_nil]
      · exact hlater hrest
    · have hgap : gapLines p (some q) = [] := if_neg hpq
      rw [hgap] at h hlater
      exact hlater h

/-- **Where the empty lines are**: between two neighbours of which one is decorated. -/
theorem innerLines_eq_iff {ps : List PropertyDeclaration} {before behind : List String} :
    innerLines i ps = before ++ "" :: behind ↔ ∃ front p q back, ps = front ++ p :: q :: back ∧
      (p.isDecorated = true ∨ q.isDecorated = true) ∧ before = innerLines i (front ++ [p]) ∧
      behind = innerLines i (q :: back) := by
  constructor
  · exact exists_of_innerLines i
  · rintro ⟨front, p, q, back, rfl, hdecorated, rfl, rfl⟩
    have hgap : gapLines p (some q) = [""] := if_pos ((Bool.or_eq_true _ _).mpr hdecorated)
    rw [innerLines_append, hgap, List.append_assoc, List.singleton_append]

theorem isDecorated_iff {p : PropertyDeclaration} : p.isDecorated = true ↔ p.decorators ≠ [] := by
  simp [isDecorated]

end PropertyDeclaration

/-! ## 3. Classes -/

namespace ClassDeclaration

open PropertyDeclaration

/-- The lines of a class. -/
def layout (i : Indentation) (c : ClassDeclaration) : List String := (c.rows i).map Row.content

/-- What stands in front of the properties of a class. -/
def opening (c : ClassDeclaration) : List String := c.decorators.map (·.text) ++ [c.header]

theorem layout_eq (i : Indentation) (c : ClassDeclaration) :
    c.layout i = c.opening ++ (innerLines i c.properties ++ ["\x7d"]) := by
  simp [layout, rows, Builder.blockRows, opening, innerLines, Function.comp_def]

theorem empty_notMem_opening (c : ClassDeclaration) : "" ∉ c.opening := by
  intro h
  rcases List.mem_append.mp h with h | h
  · obtain ⟨d, -, hempty⟩ := List.mem_map.mp h
    simp [Decorator.text] at hempty
  · have hempty := List.mem_singleton.mp h
    simp [header] at hempty

/-- **The layout of a class.**  Its text has these lines: the decorators and the header, each
property below its decorators and one unit deeper, the closing line, and empty lines.  An empty line
stands between two neighbours of which one is decorated, and nowhere else. -/
theorem layout_of_class {c : ClassDeclaration} (h : c.FitsLines) (i : Indentation) :
    (c.write { indentation := i }).text.splitOn '\n' = (c.layout i).map String.toList ++ [[]] ∧
    (c.layout i).filter (· ≠ "")
      = c.opening ++ (c.properties.flatMap (·.ownLines i) ++ ["\x7d"]) ∧
    ∀ before behind, c.layout i = before ++ "" :: behind ↔
      ∃ front p q back, c.properties = front ++ p :: q :: back ∧
        (p.decorators ≠ [] ∨ q.decorators ≠ []) ∧
        before = c.opening ++ innerLines i (front ++ [p]) ∧
        behind = innerLines i (q :: back) ++ ["\x7d"] := by
  refine ⟨?_, ?_, fun before behind => ?_⟩
  · have htext : (c.write { indentation := i }).text = ofRows (c.rows i) := by
      rw [write_eq_put, Builder.text_put_start]
    rw [htext, splitOn_ofRows (c.isLine_rows h), layout, List.map_map]
    rfl
  · have hopening : c.opening.filter (· ≠ "") = c.opening := by
      rw [List.filter_eq_self]
      intro l hl
      exact decide_eq_true fun hempty => c.empty_notMem_opening (hempty ▸ hl)
    rw [layout_eq, List.filter_append, List.filter_append, hopening, filter_innerLines]
    rfl
  · have hclose : "" ∉ ["\x7d"] := by decide
    rw [layout_eq, append_eq_split_iff_right c.empty_notMem_opening]
    constructor
    · rintro ⟨between, rfl, hclosed⟩
      obtain ⟨rest, rfl, hinner⟩ := (append_eq_split_iff_left hclose).mp hclosed
      obtain ⟨front, p, q, back, hps, hdecorated, rfl, rfl⟩ := (innerLines_eq_iff i).mp hinner
      exact ⟨front, p, q, back, hps, hdecorated.imp isDecorated_iff.mp isDecorated_iff.mp, rfl, rfl⟩
    · rintro ⟨front, p, q, back, hps, hdecorated, rfl, rfl⟩
      refine ⟨_, rfl, (append_eq_split_iff_left hclose).mpr ⟨_, rfl, ?_⟩⟩
      exact (innerLines_eq_iff i).mpr ⟨front, p, q, back, hps,
        hdecorated.imp isDecorated_iff.mpr isDecorated_iff.mpr, rfl, rfl⟩

/-- A decorated property between two that are not, and one more behind them. -/
theorem layout_of_class_article :
    (⟨"Article", [⟨"ApiExtraModels", ["Article"]⟩], [⟨"id", "number", []⟩,
      ⟨"tags", "Tag[]", [⟨"ApiProperty", []⟩, ⟨"IsArray", []⟩]⟩, ⟨"title", "string", []⟩,
      ⟨"body", "string", []⟩]⟩ : ClassDeclaration).FitsLines ∧
    ((⟨"Article", [⟨"ApiExtraModels", ["Article"]⟩], [⟨"id", "number", []⟩,
      ⟨"tags", "Tag[]", [⟨"ApiProperty", []⟩, ⟨"IsArray", []⟩]⟩, ⟨"title", "string", []⟩,
      ⟨"body", "string", []⟩]⟩ : ClassDeclaration).write { indentation := .standard }).text.splitOn
        '\n' =
      ["@ApiExtraModels(Article)", "export class Article \x7b", "  id: number;", "",
        "  @ApiProperty()", "  @IsArray()", "  tags: Tag[];", "", "  title: string;",
        "  body: string;", "\x7d"].map String.toList ++ [[]] := by
  have hfits : ClassDeclaration.FitsLines ⟨"Article", [⟨"ApiExtraModels", ["Article"]⟩],
      [⟨"id", "number", []⟩, ⟨"tags", "Tag[]", [⟨"ApiProperty", []⟩, ⟨"IsArray", []⟩]⟩,
        ⟨"title", "string", []⟩, ⟨"body", "string", []⟩]⟩ := ⟨by decide, by decide, by decide⟩
  exact ⟨hfits, (layout_of_class hfits .standard).1⟩

end ClassDeclaration

end SchemaClass.Source
