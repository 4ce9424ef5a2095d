import SchemaClass.Placement
import SchemaClass.Proofs.Naming
import SchemaClass.Proofs.Path.Relative
import SchemaClass.Proofs.Path.Specifier
/-!
# Where class files are

A placed file is the output directory and one or two components behind it, which come from the name
of the entity alone.  So no two files of different names meet, and the way from one to the other
does not depend on where the output directory is.

* `parts_location`: the steps to a placed file;
* `kebab_of_samePlace`: files at one place have one name;
* `specifier_placed`, `specifier_moved`: the specifier between two placed files;
* `followed_specifier`: followed from the one, it leads to the other;
* `relativeTo?_location`: a file read from the output directory on.
-/

namespace SchemaClass

open SchemaClass.Path
open PathChar (ofText)

namespace Layout

/-! ## 1. The components behind the output directory -/

/-- The directories of a file of the given name, from the output directory on. -/
def folders : Layout → String → List String
  | flat, _ => []
  | nested, k => if k = "" then [] else [k]

/-- What stands before the extension of a file. -/
def stem : Layout → String → String
  | flat, k => k
  | nested, k => k ++ ".entity"

/-- The name of a file with its extension. -/
def fileName (l : Layout) (k extension : String) : String := l.stem k ++ "." ++ extension

/-- The name that the file is imported under. -/
def moduleName (l : Layout) (k extension : String) : String :=
  dropSourceExtension (l.fileName k extension)

variable {l : Layout} {k extension : String}

theorem mem_folders {s : String} (h : s ∈ l.folders k) : s = k ∧ k ≠ "" := by
  cases l with
  | flat => exact absurd h List.not_mem_nil
  | nested =>
    rw [folders] at h
    split at h
    · exact absurd h List.not_mem_nil
    · next hne => exact ⟨List.mem_singleton.mp h, hne⟩

theorem isComponent_folders (hk : IsPlain k) : ∀ s ∈ l.folders k, IsComponent s := by
  intro s hs
  obtain ⟨rfl, hne⟩ := mem_folders hs
  exact isComponent_of_isPlain hk hne

theorem isComponent_stem (hk : IsPlain k) (hne : l.stem k ≠ "") : IsComponent (l.stem k) := by
  cases l with
  | flat => exact isComponent_of_isPlain hk hne
  | nested =>
    have hslash : '/' ∉ (k ++ ".").toList := by
      rw [String.toList_append, List.mem_append, not_or]
      exact ⟨hk.1, by decide⟩
    have h : IsComponent (k ++ "." ++ "entity" : String) :=
      isComponent_append hslash (by decide) (by decide)
    rwa [String.append_assoc] at h

theorem no_slash_stem_dot (hk : IsPlain k) : '/' ∉ (l.stem k ++ ".").toList := by
  cases l with
  | flat =>
    rw [String.toList_append, List.mem_append, not_or]
    exact ⟨hk.1, by decide⟩
  | nested =>
    rw [stem, String.append_assoc, String.toList_append, List.mem_append, not_or]
    exact ⟨hk.1, by decide⟩

theorem isComponent_fileName (hk : IsPlain k) (hext : IsPlain extension) (hne : extension ≠ "") :
    IsComponent (l.fileName k extension) :=
  isComponent_append (no_slash_stem_dot hk) hext hne

theorem moduleName_eq (l : Layout) (k : String) (hext : IsPlain extension) :
    l.moduleName k extension
      = if l.stem k ≠ "" ∧ extension ∈ sourceExtensions then l.stem k
        else l.fileName k extension :=
  dropSourceExtension_dotted (l.stem k) hext.2

theorem isComponent_moduleName (hk : IsPlain k) (hext : IsPlain extension)
    (hne : extension ≠ "") : IsComponent (l.moduleName k extension) := by
  rw [moduleName_eq l k hext]
  split
  · next h => exact isComponent_stem hk h.1
  · exact isComponent_fileName hk hext hne

/-- No name of a module looks like a climb. -/
theorem not_dots_moduleName (hk : IsPlain k) (hext : IsPlain extension) :
    ¬ ['.', '.'] <+: (l.moduleName k extension).toList := by
  have hdotted : ¬ ['.', '.'] <+: ("." ++ extension).toList := by
    rw [String.toList_append]
    rintro ⟨rest, hrest⟩
    have hhead : '.' :: rest = extension.toList := (List.cons.inj hrest).2
    exact hext.2 (hhead ▸ List.mem_cons_self)
  have hentity (t : String) : ¬ ['.', '.'] <+: (".entity" ++ t).toList := by
    rw [String.toList_append]
    rintro ⟨rest, hrest⟩
    exact absurd (List.cons.inj (List.cons.inj hrest).2).1 (by decide)
  rw [moduleName_eq l k hext, fileName]
  cases l with
  | flat =>
    split
    · have h := not_dots_append (t := "") hk (by decide)
      rwa [String.append_empty] at h
    · rw [stem, String.append_assoc]
      exact not_dots_append hk hdotted
  | nested =>
    split
    · have h := not_dots_append hk (hentity "")
      rwa [String.append_empty] at h
    · rw [stem, String.append_assoc, String.append_assoc]
      exact not_dots_append hk (hentity _)

theorem dot_mem_fileName : '.' ∈ (l.fileName k extension).toList := by
  have hdot : '.' ∈ ".".toList := by decide
  rw [fileName, String.toList_append, String.toList_append]
  exact List.mem_append_left _ (List.mem_append_right _ hdot)

theorem not_dots_folders (hk : IsPlain k) : ∀ s ∈ l.folders k, ¬ ['.', '.'] <+: s.toList := by
  intro s hs
  obtain ⟨rfl, -⟩ := mem_folders hs
  rw [← String.append_empty (s := s)]
  exact not_dots_append hk (by decide)

/-- Files of different names do not share their first component. -/
theorem head_folders_ne {k' : String} (hk : IsPlain k) (hne : k ≠ k') : ∀ s,
    ((l.folders k).map ofText).head? = some s →
    ((l.folders k' ++ [l.fileName k' extension]).map ofText).head? ≠ some s := by
  intro s hs hs'
  obtain ⟨a, ha, rfl⟩ := List.mem_map.mp (List.mem_of_head? hs)
  obtain ⟨rfl, -⟩ := mem_folders ha
  obtain ⟨b, hb, hab⟩ := List.mem_map.mp (List.mem_of_head? hs')
  obtain rfl := PathChar.ofText_inj.mp hab
  rcases List.mem_append.mp hb with hmem | hmem
  · exact hne (mem_folders hmem).1
  · exact hk.2 (List.mem_singleton.mp hmem ▸ dot_mem_fileName)

theorem stem_injective {k k' : String} (h : l.stem k = l.stem k') : k = k' := by
  cases l with
  | flat => exact h
  | nested => exact (String.append_left_inj _).mp h

theorem fileName_injective {k' : String}
    (h : l.fileName k extension = l.fileName k' extension) : k = k' := by
  rw [fileName, fileName, String.append_left_inj, String.append_left_inj] at h
  exact stem_injective h

/-! ## 2. Places -/

/-- The directory of the file of the given name. -/
def directory : Layout → Path → String → Path
  | flat, output, _ => output
  | nested, output, k => output.join ⟨k⟩

/-- The place of the file of an entity, by the name of the entity. -/
def location (l : Layout) (output : Path) (extension name : String) : Location :=
  ⟨l.directory output (Naming.kebab name), l.fileName (Naming.kebab name) extension⟩

theorem ofLayout_eq_location (l : Layout) (output : Path) (extension : String) (e : Entity) :
    Placement.ofLayout l output extension e = l.location output extension e.name := by
  cases l with
  | flat => rfl
  | nested =>
    have hfile : nested.fileName (Naming.kebab e.name) extension
        = Naming.kebab e.name ++ ".entity." ++ extension := by
      rw [fileName, stem, String.append_assoc, String.append_assoc, String.append_assoc]
      rfl
    rw [location, hfile]
    rfl

/-- The place of a file follows from the name of its entity. -/
theorem ofLayout_congr {l : Layout} {output : Path} {extension : String} {e e' : Entity}
    (h : e.name = e'.name) :
    Placement.ofLayout l output extension e = Placement.ofLayout l output extension e' := by
  rw [ofLayout_eq_location, ofLayout_eq_location, h]

/-- Reading places from a root moves the output directory. -/
theorem join_location (root : Path) (l : Layout) (output : Path) (extension name : String) :
    root.join (l.location output extension name).path
      = (l.location (root.join output) extension name).path := by
  cases l with
  | flat => exact join_assoc ..
  | nested =>
    simp only [location, Location.path, directory]
    rw [join_assoc, join_assoc]

/-- A file is where it would be without an output directory, read from the output directory. -/
theorem location_eq_join (l : Layout) (output : Path) (extension name : String) :
    (l.location output extension name).path
      = output.join (l.location ⟨[]⟩ extension name).path := by
  cases l with
  | flat => simp only [location, Location.path, directory, empty_join]
  | nested =>
    simp only [location, Location.path, directory]
    rw [empty_join, join_assoc]

theorem parts_folder (output : Path) (hk : IsPlain k) :
    (l.directory output k).parts = output.parts ++ ((l.folders k).map ofText).map .name := by
  cases l with
  | flat => exact (List.append_nil _).symm
  | nested =>
    rw [directory, folders]
    split
    · next hempty =>
      rw [hempty, PathChar.ofText_empty, parts_join_empty, List.map_nil, List.map_nil,
        List.append_nil]
    · next hne => exact parts_join_component _ (isComponent_of_isPlain hk hne)

section Placed

variable {output : Path} {extension a b : String} (ha : IsPlain (Naming.kebab a))
  (hb : IsPlain (Naming.kebab b)) (hext : IsPlain extension) (hne : extension ≠ "")

include ha hext hne

/-- **A placed file is the output directory and components behind it.** -/
theorem parts_location : (l.location output extension a).path.parts
    = output.parts ++ ((l.folders (Naming.kebab a)).map ofText).map .name
      ++ [.name (l.fileName (Naming.kebab a) extension)] := by
  rw [Location.path, location, parts_join_component _ (isComponent_fileName ha hext hne),
    parts_folder output ha]

theorem parts_parent_location : (l.location output extension a).path.parts.dropLast
    = output.parts ++ ((l.folders (Naming.kebab a)).map ofText).map .name := by
  rw [parts_location ha hext hne, List.dropLast_concat]

include hb

/-- **Files at one place have one name.** -/
theorem kebab_of_samePlace
    (h : (l.location output extension a).path.SamePlace (l.location output extension b).path) :
    Naming.kebab a = Naming.kebab b := by
  rw [SamePlace, parts_location ha hext hne, parts_location hb hext hne] at h
  have hlast : [Part.name (l.fileName (Naming.kebab a) extension)]
      = [Part.name (l.fileName (Naming.kebab b) extension)] :=
    List.append_inj_right' h (by rw [List.length_singleton, List.length_singleton])
  exact fileName_injective (PathChar.ofText_inj.mp (Part.name.inj (List.cons.inj hlast).1))

/-! ## 3. The way between two places -/

omit hb in
/-- The output directory is normalized and the components behind it stay. -/
theorem normalizeParts_location : normalizeParts (l.location output extension a).path.parts
    = normalizeParts output.parts ++ ((l.folders (Naming.kebab a)).map ofText).map .name
      ++ [.name (l.fileName (Naming.kebab a) extension)] := by
  rw [parts_location ha hext hne, ← normalizeParts_append_names]
  exact normalizeParts_append_names _ [l.fileName (Naming.kebab a) extension]

omit hb in
theorem parts_anchor (r : Resolver) : (r.anchor (l.location output extension a).path).parts
    = normalizeParts (r.root.join output).parts
      ++ ((l.folders (Naming.kebab a)).map ofText).map .name
      ++ [.name (l.fileName (Naming.kebab a) extension)] := by
  rw [Resolver.anchor, join_location, parts_normalize, normalizeParts_location ha hext hne]

/-- **The specifier between two placed files** does not depend on where the output directory is. -/
theorem specifier_placed (r : Resolver) (hab : Naming.kebab a ≠ Naming.kebab b) :
    r.specifier (l.location output extension a).path (l.location output extension b).path
      = wayText (l.folders (Naming.kebab a)).length
        (l.folders (Naming.kebab b) ++ [l.moduleName (Naming.kebab b) extension]) := by
  have hnormal : normalizeParts (normalizeParts (r.root.join output).parts)
      = normalizeParts (r.root.join output).parts :=
    normalizeParts_eq_self (isNormal_normalizeParts _)
  have hsource : (r.anchor (l.location output extension a).path).directory.parts
      = normalizeParts (r.root.join output).parts
        ++ ((l.folders (Naming.kebab a)).map ofText).map .name := by
    rw [parts_directory, parts_anchor ha hext hne, List.dropLast_concat,
      normalizeParts_append_names, hnormal]
  have htarget : (r.anchor (l.location output extension b).path).normalize.parts
      = normalizeParts (r.root.join output).parts
        ++ ((l.folders (Naming.kebab b) ++ [l.fileName (Naming.kebab b) extension]).map ofText).map
          .name := by
    rw [Resolver.anchor, normalize_normalize, ← Resolver.anchor, parts_anchor hb hext hne,
      List.append_assoc, List.map_append, List.map_append, List.map_singleton,
      List.map_singleton]
  have hlast : mapLast dropSourceExtension
      (((l.folders (Naming.kebab b) ++ [l.fileName (Naming.kebab b) extension]).map ofText).map
        PathChar.text)
        = l.folders (Naming.kebab b) ++ [l.moduleName (Naming.kebab b) extension] := by
    rw [PathChar.map_text_ofText]
    exact mapLast_singleton ..
  have hdots : ∀ s ∈ l.folders (Naming.kebab b) ++ [l.moduleName (Naming.kebab b) extension],
      ¬ ['.', '.'] <+: s.toList := by
    intro s hs
    rcases List.mem_append.mp hs with hs | hs
    · exact not_dots_folders hb s hs
    · rw [List.mem_singleton.mp hs]
      exact not_dots_moduleName hb hext
  rw [Resolver.specifier, specifier_eq hsource htarget (head_folders_ne ha hab) (by simp)
    (hlast ▸ hdots), hlast, List.length_map]

/-- The files may be in another output directory, and be read from another root. -/
theorem specifier_moved (r r' : Resolver) (output' : Path)
    (hab : Naming.kebab a ≠ Naming.kebab b) :
    r.specifier (l.location output extension a).path (l.location output extension b).path
      = r'.specifier (l.location output' extension a).path (l.location output' extension b).path :=
  (specifier_placed ha hb hext hne r hab).trans (specifier_placed ha hb hext hne r' hab).symm

/-- **Followed from the one file, the specifier leads to the other**, whose source extension is left
out. -/
theorem followed_specifier (r : Resolver) (hab : Naming.kebab a ≠ Naming.kebab b) :
    followed (l.location output extension a).path
        (r.specifier (l.location output extension a).path (l.location output extension b).path)
      = (l.location output extension b).path.withoutExtension := by
  have hnames : ∀ s ∈ l.folders (Naming.kebab b) ++ [l.moduleName (Naming.kebab b) extension],
      IsComponent s := by
    intro s hs
    rcases List.mem_append.mp hs with hs | hs
    · exact isComponent_folders hb s hs
    · rw [List.mem_singleton.mp hs]
      exact isComponent_moduleName hb hext hne
  rw [specifier_placed ha hb hext hne r hab, followed, Path.normalize, withoutExtension,
    normalizeParts_join _ (isAbsolute_wayText _ (by simp) hnames), parts_parent,
    parts_parent_location ha hext hne, normalizeParts_append_names]
  have hlength : ((l.folders (Naming.kebab a)).map ofText).length
      = (l.folders (Naming.kebab a)).length := List.length_map _
  rw [← hlength, reach_wayText _ _ (by simp) hnames, normalizeParts_location hb hext hne,
    mapLast_singleton, Part.dropExtension, dropExtension_ofText, List.map_append, List.map_append,
    ← List.append_assoc]
  rfl

/-! ## 4. From the output directory on -/

omit hb in
/-- Without an output directory, the place of a file is relative and has no segment that is no
step. -/
theorem segments_location_empty : (l.location ⟨[]⟩ extension a).path.isAbsolute = false ∧
    ∀ cs ∈ (l.location ⟨[]⟩ extension a).path.segments, isIdle cs = false := by
  have hfile := isComponent_fileName (l := l) ha hext hne
  have hfileOnly : (⟨l.fileName (Naming.kebab a) extension⟩ : Path).isAbsolute = false ∧
      ∀ cs ∈ (⟨l.fileName (Naming.kebab a) extension⟩ : Path).segments, isIdle cs = false := by
    refine ⟨isAbsolute_component hfile, fun cs hcs => ?_⟩
    rw [segments_component hfile, List.mem_singleton] at hcs
    exact hcs ▸ isIdle_component hfile
  rw [location, Location.path]
  dsimp only
  cases l with
  | flat =>
    rw [directory, empty_join]
    exact hfileOnly
  | nested =>
    rw [directory, empty_join]
    by_cases hk : Naming.kebab a = ""
    · rw [hk, PathChar.ofText_empty, empty_join, ← hk]
      exact hfileOnly
    · have hfolder := isComponent_of_isPlain ha hk
      refine ⟨(isAbsolute_join hfolder.chars_ne_nil hfileOnly.1).trans
        (isAbsolute_component hfolder), ?_⟩
      intro cs hcs
      rw [segments_join_component hfolder hfile] at hcs
      simp only [List.mem_cons, List.not_mem_nil, or_false] at hcs
      rcases hcs with hcs | hcs
      · rw [hcs]
        exact isIdle_component hfolder
      · rw [hcs]
        exact isIdle_component hfile

omit hb in
/-- **From the output directory on**, the place of a file does not depend on that directory. -/
theorem relativeTo?_location : (l.location output extension a).path.relativeTo? output
    = some (l.location ⟨[]⟩ extension a).path := by
  obtain ⟨hrelative, hidle⟩ := segments_location_empty (l := l) ha hext hne
  rw [location_eq_join, relativeTo?_join output hrelative hidle]

end Placed

end Layout

end SchemaClass
