import SchemaClass.Proofs.Entity.Conversion
/-!
# Documentation of properties

The type of a property and its documentation are computed apart, each by looking at the same field:
whether its base type names a scalar, whether it is a relation, whether it is of the kind of an
enum, whether it is a list.  They agree in every combination of these, also where a relation or an
enum has the name of a scalar, and where a field of the kind of an object is no relation.

* `Field.Says`: what documentation says of a field, one rule for each member;
* `Field.says_of_mem`, `Field.mem_of_says`: the documentation of a field says this and nothing else;
* `Field.Agrees`: when a property and its documentation are about one type;
* `Field.documentation_agrees`: so the documentation of a property never contradicts its type.
-/

namespace SchemaClass.Field

variable {mapper : TypeMapper} {f : Field} {base : String}

/-! ## 1. The members of a documentation -/

/-- What documentation says of a field, where `inner` is the type of the field without the marker of
a list. -/
inductive Says (mapper : TypeMapper) (f : Field) (base inner : String) :
    String → TagValue → Prop where
  | list (h : f.isList = true) : Says mapper f base inner "isArray" (.boolean true)
  | scalar {s : Scalar} (h : Scalar.ofName? base = some s) :
      Says mapper f base inner "type" (.identifier (mapper.doc s))
  | relation (h : Scalar.ofName? base = none) (hrel : f.isRelation = true) :
      Says mapper f base inner "type" (.deferred inner)
  | enum (h : Scalar.ofName? base = none) (hrel : f.isRelation = false) (henum : f.isEnum = true) :
      Says mapper f base inner "enum" (.identifier inner)
  | enumName (h : Scalar.ofName? base = none) (hrel : f.isRelation = false)
      (henum : f.isEnum = true) : Says mapper f base inner "enumName" (.text inner)

theorem mem_listMark {key : String} {value : TagValue} :
    (key, value) ∈ f.listMark ↔ f.isList = true ∧ key = "isArray" ∧ value = .boolean true := by
  rw [listMark]
  split <;> simp_all

theorem documentation_of_scalar {s : Scalar} (h : Scalar.ofName? base = some s) :
    f.documentation mapper base = ("type", .identifier (mapper.doc s)) :: f.listMark := by
  rw [documentation, h]

theorem documentation_of_relation (h : Scalar.ofName? base = none) (hrel : f.isRelation = true) :
    f.documentation mapper base = f.listMark ++ [("type", .deferred (Naming.pascal base))] := by
  simp only [documentation, h, hrel, if_true]

theorem documentation_of_enum (h : Scalar.ofName? base = none) (hrel : f.isRelation = false)
    (henum : f.isEnum = true) : f.documentation mapper base
      = f.listMark ++ [("enum", .identifier base), ("enumName", .text base)] := by
  simp only [documentation, h, hrel, henum, Bool.false_eq_true, if_false, if_true]

theorem documentation_of_name (h : Scalar.ofName? base = none) (hrel : f.isRelation = false)
    (henum : f.isEnum = false) : f.documentation mapper base = f.listMark := by
  simp only [documentation, h, hrel, henum, Bool.false_eq_true, if_false, List.append_nil]

/-- Every member of the documentation follows one of the rules. -/
theorem says_of_mem {key : String} {value : TagValue}
    (h : (key, value) ∈ f.documentation mapper base) :
    f.Says mapper base (f.elementType mapper base) key value := by
  have hmark (hmem : (key, value) ∈ f.listMark) :
      f.Says mapper base (f.elementType mapper base) key value := by
    obtain ⟨hlist, rfl, rfl⟩ := mem_listMark.mp hmem
    exact .list hlist
  cases hscalar : Scalar.ofName? base with
  | some s =>
    rw [documentation_of_scalar hscalar] at h
    rcases List.mem_cons.mp h with h | h
    · cases h
      exact .scalar hscalar
    · exact hmark h
  | none =>
    cases hrel : f.isRelation with
    | true =>
      rw [documentation_of_relation hscalar hrel] at h
      rcases List.mem_append.mp h with h | h
      · exact hmark h
      · cases List.mem_singleton.mp h
        rw [elementType_of_relation hscalar hrel]
        exact .relation hscalar hrel
    | false =>
      rw [elementType_of_name hscalar hrel] at hmark ⊢
      cases henum : f.isEnum with
      | true =>
        rw [documentation_of_enum hscalar hrel henum] at h
        simp only [List.mem_append, List.mem_cons, List.not_mem_nil, or_false, Prod.mk.injEq] at h
        rcases h with h | ⟨rfl, rfl⟩ | ⟨rfl, rfl⟩
        · exact hmark h
        · exact .enum hscalar hrel henum
        · exact .enumName hscalar hrel henum
      | false =>
        rw [documentation_of_name hscalar hrel henum] at h
        exact hmark h

/-- Every rule gives a member. -/
theorem mem_of_says {key : String} {value : TagValue}
    (h : f.Says mapper base (f.elementType mapper base) key value) :
    (key, value) ∈ f.documentation mapper base := by
  cases h with
  | list hlist =>
    have hmark : ("isArray", TagValue.boolean true) ∈ f.listMark :=
      mem_listMark.mpr ⟨hlist, rfl, rfl⟩
    rw [documentation]
    split
    · exact List.mem_cons_of_mem _ hmark
    · exact List.mem_append_left _ hmark
  | scalar hscalar =>
    rw [documentation_of_scalar hscalar]
    exact List.mem_cons_self
  | relation hscalar hrel =>
    rw [documentation_of_relation hscalar hrel, elementType_of_relation hscalar hrel]
    exact List.mem_append_right _ (List.mem_singleton_self _)
  | enum hscalar hrel henum =>
    rw [documentation_of_enum hscalar hrel henum, elementType_of_name hscalar hrel]
    simp
  | enumName hscalar hrel henum =>
    rw [documentation_of_enum hscalar hrel henum, elementType_of_name hscalar hrel]
    simp

/-- No key stands twice. -/
theorem keys_documentation_nodup : ((f.documentation mapper base).map Prod.fst).Nodup := by
  cases hscalar : Scalar.ofName? base with
  | some s =>
    rw [documentation_of_scalar hscalar, listMark]
    split <;> simp
  | none =>
    cases hrel : f.isRelation with
    | true =>
      rw [documentation_of_relation hscalar hrel, listMark]
      split <;> simp
    | false =>
      cases henum : f.isEnum with
      | true =>
        rw [documentation_of_enum hscalar hrel henum, listMark]
        split <;> simp
      | false =>
        rw [documentation_of_name hscalar hrel henum, listMark]
        split <;> simp

/-! ## 2. Properties and their documentation -/

/-- A property and the members of its documentation say the same of the field: both are about one
type, the type of its elements if it is a list. -/
structure Agrees (mapper : TypeMapper) (f : Field) (base inner : String) (p : Property)
    (members : List (String × TagValue)) : Prop where
  type_eq : p.type = if f.isList then mapper.list inner else inner
  of_scalar : ∀ s, Scalar.ofName? base = some s → inner = mapper.scalar s
  of_relation : Scalar.ofName? base = none → f.isRelation = true → inner = Naming.pascal base
  of_name : Scalar.ofName? base = none → f.isRelation = false → inner = base
  keys_nodup : (members.map Prod.fst).Nodup
  mem_iff : ∀ key value, (key, value) ∈ members ↔ f.Says mapper base inner key value

theorem agrees_documentation (h : f.baseType = some base) (decoration : Decoration) :
    f.Agrees mapper base (f.elementType mapper base) (f.converted mapper decoration)
      (f.documentation mapper base) where
  type_eq := by rw [converted, h, Option.getD_some, targetType]
  of_scalar _ hs := elementType_of_scalar hs
  of_relation := elementType_of_relation
  of_name := elementType_of_name
  keys_nodup := keys_documentation_nodup
  mem_iff _ _ := ⟨says_of_mem, mem_of_says⟩

/-- **The documentation of a property never contradicts its type.**  With documentation on, the
property of a field with a base type has one tag with one object, whose members are just what the
type of the field calls for.  (Scalars that are documented by one name cannot be told apart by it.)
With documentation off it is the same property without a tag. -/
theorem documentation_agrees (f : Field) {base : String} (h : f.baseType = some base)
    (mapper : TypeMapper) (model module : String) :
    ∃ p inner members, f.property mapper ⟨true, module⟩ model = .ok p ∧
      p.name = f.name ∧ p.kind = f.kind ∧
      p.tags = [{ name := "ApiProperty", origin := module, arguments := [.object members] }] ∧
      f.Agrees mapper base inner p members ∧
      ∀ module', f.property mapper ⟨false, module'⟩ model = .ok { p with tags := [] } := by
  have htyped : f.IsTyped := ⟨base, h⟩
  refine ⟨f.converted mapper ⟨true, module⟩, f.elementType mapper base,
    f.documentation mapper base, property_eq_ok htyped model, rfl, rfl, ?_,
    agrees_documentation h _, fun module' => ?_⟩
  · simp [converted, h, tags, fieldTagName]
  · rw [property_eq_ok htyped model]
    rfl

/-- A list that relates to a model with the name of a scalar. -/
theorem documentation_agrees_scores :
    let f : Field := { name := "scores", kind := .object, baseType := some "Int", isList := true,
                       relationName := some "UserScores" }
    f.baseType = some "Int" ∧
      ∃ p inner members, f.property .typeScript ⟨true, "@nestjs/swagger"⟩ "User" = .ok p ∧
        p.tags = [{ name := "ApiProperty", origin := "@nestjs/swagger",
                    arguments := [.object members] }] ∧
        f.Agrees .typeScript "Int" inner p members ∧ inner = "number" ∧ p.type = "number[]" ∧
        ("type", .identifier "Number") ∈ members ∧ ("isArray", .boolean true) ∈ members ∧
        ∀ name, ("type", .deferred name) ∉ members := by
  intro f
  have hbase : f.baseType = some "Int" := rfl
  obtain ⟨p, inner, members, hp, -, -, htags, hagrees, -⟩ :=
    documentation_agrees f hbase .typeScript "User" "@nestjs/swagger"
  have hint : Scalar.ofName? "Int" = some .int := by decide
  have hinner : inner = "number" := hagrees.of_scalar .int hint
  refine ⟨hbase, p, inner, members, hp, htags, hagrees, hinner, ?_,
    (hagrees.mem_iff _ _).mpr (.scalar hint), (hagrees.mem_iff _ _).mpr (.list rfl), ?_⟩
  · rw [hagrees.type_eq, hinner]
    rfl
  · intro name hname
    have hsays := (hagrees.mem_iff _ _).mp hname
    generalize "type" = key at hsays
    cases hsays with
    | relation hnone => cases hint.symm.trans hnone

end SchemaClass.Field
