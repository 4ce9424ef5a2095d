import Mathlib.Data.Bool.AllAny
import Mathlib.Data.List.TakeWhile
import SchemaClass.Config.Parser
import SchemaClass.Proofs.Naming
import SchemaClass.Proofs.Source.StringLiteral
import SchemaClass.Source.Template
/-!
# Reading import statements back

A statement tells which symbols it imports, and from which module: the symbols are separated by
commas and the module is a string literal.  The name of the module is written between the quotes as
it is, so a literal with the same value is read only if every character of the name stands for
itself.  A quote in the name ends the literal too early, a backslash begins an escape, and a line
end does not belong into a literal at all.  The modules of a configuration are not checked for any
of them.

* `readNames?`, `readOrigin?`, `readImport?`: the reader of a text that is one import;
* `readNames?_listed`: the symbols are read back;
* `readOrigin?_eq_units_iff`: when the module is;
* `statement_reads_back_iff`: when a statement is;
* `statement_torn`: the module of an accepted configuration that is not.
-/

namespace SchemaClass.ImportRecord

open Text Source

/-! ## 1. The reader -/

/-- Words that no import binds: modules are in strict mode. -/
def unboundWords : List String := reservedWords ++ ["arguments", "await", "eval"]

/-- A name, and what stands behind it and the blanks that follow. -/
def readName? (text : List Char) : Option (String × List Char) :=
  match trimStart text with
  | [] => none
  | c :: rest =>
    if isIdentifierStart c then
      some (String.ofList (c :: rest.takeWhile isIdentifierPart),
        trimStart (rest.dropWhile isIdentifierPart))
    else none

theorem length_trimStart_le (text : List Char) : (trimStart text).length ≤ text.length :=
  (List.dropWhile_suffix isBlank).length_le

theorem length_lt_of_readName? {text rest : List Char} {name : String}
    (h : readName? text = some (name, rest)) : rest.length < text.length := by
  have htrim : (trimStart text).length ≤ text.length := length_trimStart_le text
  rw [readName?] at h
  split at h
  · cases h
  · next c behind hbehind =>
    split at h
    · cases h
      have hrest : (trimStart (behind.dropWhile isIdentifierPart)).length
          ≤ (behind.dropWhile isIdentifierPart).length := length_trimStart_le _
      have hname : (behind.dropWhile isIdentifierPart).length ≤ behind.length :=
        (List.dropWhile_suffix isIdentifierPart).length_le
      rw [hbehind, List.length_cons] at htrim
      omega
    · cases h

/-- The names up to a brace, with commas between them, and what stands behind the brace. -/
def readNames? (text : List Char) : Option (List String × List Char) :=
  if (trimStart text).head? = some '\x7d' then some ([], (trimStart text).tail)
  else
    match h : readName? text with
    | some (name, '\x7d' :: rest) => some ([name], rest)
    | some (name, ',' :: rest) =>
      have := length_lt_of_readName? h
      (readNames? rest).map fun (names, behind) => (name :: names, behind)
    | _ => none
termination_by text.length
decreasing_by simp_all; omega

/-- The module that a statement ends with, by its code units. -/
def readOrigin? (text : List Char) : Option (List Nat) :=
  match trimStart text with
  | '"' :: rest => do
    let (origin, behind) ← readLiteral? rest
    if isBlankText ((dropToken? [';'] (trimStart behind)).getD behind) then some origin else none
  | _ => none

/-- The symbols between braces, and what stands behind them and the word that follows.  There may be
none. -/
def readSymbols? (text : List Char) : Option (List String × List Char) :=
  if text.head? = some '\x7b' then do
    let (names, rest) ← readNames? text.tail
    return (names, ← dropToken? "from".toList (trimStart rest))
  else some ([], text)

/-- The symbols and the module of a text that is one import, without comments.  Every symbol keeps
its name. -/
def readImport? (text : List Char) : Option (List String × List Nat) := do
  let rest ← dropToken? "import".toList (trimStart text)
  let (symbols, rest) ← readSymbols? (trimStart rest)
  let origin ← readOrigin? rest
  if symbols.any unboundWords.contains then none else some (symbols, origin)

/-! ## 2. Symbols -/

theorem trimStart_blank {c : Char} (h : isBlank c = true) (text : List Char) :
    trimStart (c :: text) = trimStart text := by
  rw [trimStart_cons, if_pos h]

theorem trimStart_visible {c : Char} (h : isBlank c = false) (text : List Char) :
    trimStart (c :: text) = c :: text := by
  rw [trimStart_cons, if_neg (Bool.eq_false_iff.mp h)]

theorem isBlank_of_continues {c : Char} (h : ContinuesIdentifier c) : isBlank c = false := by
  refine Naming.forall_ascii (P := fun c => ContinuesIdentifier c → isBlank c = false) ?_
    (Naming.isAscii_of_continues h) h
  unfold ContinuesIdentifier
  decide

theorem starts_of_isIdentifier {s : String} (h : IsIdentifier s) :
    ∃ c cs, s.toList = c :: cs ∧ isIdentifierStart c = true ∧
      (∀ d ∈ cs, isIdentifierPart d = true) ∧ isBlank c = false ∧ c ≠ '\x7d' := by
  obtain ⟨c, cs, hs, hc, hcs⟩ := isIdentifier_iff.mp h
  have hcontinues : ContinuesIdentifier c :=
    Naming.continues_of_spelled (identifierFault?_eq_none_iff.mp h) c (hs ▸ List.mem_cons_self)
  refine ⟨c, cs, hs, hc, hcs, isBlank_of_continues hcontinues, ?_⟩
  rintro rfl
  revert hc
  decide

/-- **A name is read back** from between a blank and a character that belongs to no name. -/
theorem readName?_identifier {s : String} (h : IsIdentifier s) {d : Char}
    (hd : isIdentifierPart d = false) (rest : List Char) :
    (trimStart (' ' :: (s.toList ++ d :: rest))).head? ≠ some '\x7d' ∧
      readName? (' ' :: (s.toList ++ d :: rest)) = some (s, trimStart (d :: rest)) := by
  obtain ⟨c, cs, hs, hstart, hcs, hblank, hbrace⟩ := starts_of_isIdentifier h
  have htrim : trimStart (' ' :: (s.toList ++ d :: rest)) = c :: (cs ++ d :: rest) := by
    rw [trimStart_blank (by decide), hs]
    exact trimStart_visible hblank _
  rw [htrim]
  refine ⟨fun hhead => hbrace (Option.some.inj hhead), ?_⟩
  rw [readName?, htrim]
  dsimp only
  rw [if_pos hstart, takeWhile_stopped hcs hd, dropWhile_stopped hcs hd, ← hs, String.ofList_toList]

theorem readNames?_last {s : String} (h : IsIdentifier s) (rest : List Char) :
    readNames? (' ' :: (s.toList ++ ' ' :: '\x7d' :: rest)) = some ([s], rest) := by
  obtain ⟨hhead, hname⟩ := readName?_identifier h (d := ' ') (by decide) ('\x7d' :: rest)
  rw [readNames?, if_neg hhead]
  split
  · next he =>
    cases he.symm.trans hname
    rfl
  · next he => cases he.symm.trans hname
  · next hbrace hcomma => exact absurd hname (hbrace _ _)

theorem readNames?_comma {s : String} (h : IsIdentifier s) (rest : List Char) :
    readNames? (' ' :: (s.toList ++ ',' :: rest))
      = (readNames? rest).map fun (names, behind) => (s :: names, behind) := by
  obtain ⟨hhead, hname⟩ := readName?_identifier h (d := ',') (by decide) rest
  rw [readNames?, if_neg hhead]
  split
  · next he => cases he.symm.trans hname
  · next he =>
    cases he.symm.trans hname
    rfl
  · next hbrace hcomma => exact absurd hname (hcomma _ _)

/-- **Symbols are read back**, in their order. -/
theorem readNames?_listed {symbols : List String} (hne : symbols ≠ [])
    (h : ∀ s ∈ symbols, IsIdentifier s) (rest : List Char) :
    readNames? (' ' :: ((", ".intercalate symbols).toList ++ ' ' :: '\x7d' :: rest))
      = some (symbols, rest) := by
  induction symbols with
  | nil => exact absurd rfl hne
  | cons s symbols ih =>
    obtain ⟨hs, hsymbols⟩ := List.forall_mem_cons.mp h
    cases symbols with
    | nil =>
      rw [String.intercalate_singleton]
      exact readNames?_last hs rest
    | cons next symbols =>
      have hnext : next :: symbols ≠ [] := List.cons_ne_nil next symbols
      have hlist : (", ".intercalate (s :: next :: symbols)).toList ++ ' ' :: '\x7d' :: rest
          = s.toList ++ ',' :: ' ' :: ((", ".intercalate (next :: symbols)).toList
              ++ ' ' :: '\x7d' :: rest) := by
        rw [String.intercalate_cons_of_ne_nil hnext]
        simp
      rw [hlist, readNames?_comma hs, ih hnext hsymbols]
      rfl

theorem readSymbols?_named {symbols : List String} (hne : symbols ≠ [])
    (h : ∀ s ∈ symbols, IsIdentifier s) (text : List Char) :
    readSymbols? ("\x7b ".toList ++ ((", ".intercalate symbols).toList
        ++ (" \x7d from ".toList ++ text)))
      = some (symbols, ' ' :: text) := by
  have hread : readSymbols? ("\x7b ".toList ++ ((", ".intercalate symbols).toList
        ++ (" \x7d from ".toList ++ text)))
      = (readNames? (' ' :: ((", ".intercalate symbols).toList
          ++ ' ' :: '\x7d' :: (" from ".toList ++ text)))).bind fun (names, rest) =>
        (dropToken? "from".toList (trimStart rest)).bind fun rest => some (names, rest) := rfl
  rw [hread, readNames?_listed hne h]
  rfl

/-! ## 3. Modules -/

theorem readOrigin?_quote (text : List Char) :
    readOrigin? ('"' :: text) = (readLiteral? text).bind fun (origin, behind) =>
      if isBlankText ((dropToken? [';'] (trimStart behind)).getD behind) then some origin
      else none := rfl

/-- The first quote of a closed literal stands behind the name or in it. -/
theorem prefix_of_closed {origin body behind : List Char}
    (h : origin ++ ['"', ';'] = body ++ '"' :: behind) : body <+: origin := by
  rcases List.append_eq_append_iff.mp h with ⟨more, hbody, hend⟩ | ⟨more, horigin, -⟩
  · cases more with
    | nil => exact ⟨[], by rw [hbody, List.append_nil, List.append_nil]⟩
    | cons c more =>
      have hquote : '"' ∈ [';'] := (List.cons.inj hend).2 ▸ by simp
      exact absurd hquote (by decide)
  · exact ⟨more, horigin.symm⟩

/-- **A module is read back** exactly if every character of its name stands for itself.  The text
ends with a semicolon, so the literal that is read ends with the last quote or before it.  Hence it
is no longer than the name, and only then as long as the value if nothing in it is an escape. -/
theorem readOrigin?_eq_units_iff {origin : List Char} :
    readOrigin? ('"' :: (origin ++ ['"', ';'])) = some (units origin) ↔
      ∀ c ∈ origin, IsVerbatim c := by
  constructor
  · intro h
    rw [readOrigin?_quote] at h
    obtain ⟨⟨value, behind⟩, hread, hvalue⟩ := Option.bind_eq_some_iff.mp h
    obtain rfl : value = units origin := by
      dsimp only at hvalue
      split at hvalue
      · exact Option.some.inj hvalue
      · cases hvalue
    obtain ⟨body, htext, hspells⟩ := exists_of_readLiteral? hread
    obtain ⟨more, rfl⟩ := prefix_of_closed htext
    -- the value is as long as the whole name, so nothing of the name is left behind the quote
    have hle : (units (body ++ more)).length ≤ (units body).length := hspells.length_le
    have hmore : more.length ≤ (units more).length := length_le_length_units more
    rw [units_append, List.length_append] at hle
    obtain rfl : more = [] := List.length_eq_zero_iff.mp (by omega)
    rw [List.append_nil] at hspells ⊢
    exact hspells.verbatim_of_eq rfl
  · intro h
    rw [readOrigin?_quote, readLiteral?_verbatim h]
    rfl

/-- A module that is written the way texts in decorators are, is read back unless it has a line
end. -/
theorem readOrigin?_literal {origin : String}
    (h : ∀ c ∈ origin.toList, c ≠ '\n' ∧ c ≠ '\r') :
    readOrigin? (literal origin ++ ";").toList = some (units origin.toList) := by
  have htext : (literal origin ++ ";").toList
      = '"' :: (escape origin.toList ++ '"' :: [';']) := by simp [literal]
  rw [htext, readOrigin?_quote, readLiteral?_escape h]
  rfl

/-! ## 4. Statements -/

theorem readImport?_of_symbols {symbols : List String} {clause text : List Char}
    (hclause : trimStart clause = clause) (h : readSymbols? clause = some (symbols, text)) :
    readImport? ("import ".toList ++ clause) = (readOrigin? text).bind fun origin =>
      if symbols.any unboundWords.contains then none else some (symbols, origin) := by
  have hread : readImport? ("import ".toList ++ clause)
      = (readSymbols? (trimStart clause)).bind fun (symbols, rest) =>
        (readOrigin? rest).bind fun origin =>
          if symbols.any unboundWords.contains then none else some (symbols, origin) := rfl
  rw [hread, hclause, h]
  rfl

variable {r : ImportRecord}

/-- **What is read of a statement** is its symbols and what is read of its module. -/
theorem readImport?_statement (h : ∀ s ∈ r.symbols, IsIdentifier s) :
    readImport? r.statement.toList
      = (readOrigin? ('"' :: (r.origin.toList ++ ['"', ';']))).bind fun origin =>
          if r.symbols.any unboundWords.contains then none else some (r.symbols, origin) := by
  by_cases hne : r.symbols = []
  · have htext : r.statement.toList
        = "import ".toList ++ '"' :: (r.origin.toList ++ ['"', ';']) := by
      simp [statement, hne]
    rw [htext, hne]
    exact readImport?_of_symbols rfl rfl
  · have htext : r.statement.toList
        = "import ".toList ++ ("\x7b ".toList ++ ((", ".intercalate r.symbols).toList
          ++ (" \x7d from ".toList ++ '"' :: (r.origin.toList ++ ['"', ';'])))) := by
      simp [statement, hne]
    rw [htext, readImport?_of_symbols rfl (readSymbols?_named hne h _)]
    rfl

/-- **When a statement is read back**, as one import of its symbols in their order from its module:
none of the symbols is a word that cannot be bound, and every character of the name of the module
stands for itself. -/
theorem statement_reads_back_iff (h : ∀ s ∈ r.symbols, IsIdentifier s) :
    readImport? r.statement.toList = some (r.symbols, units r.origin.toList) ↔
      (∀ s ∈ r.symbols, s ∉ unboundWords) ∧ ∀ c ∈ r.origin.toList, IsVerbatim c := by
  have hbound : r.symbols.any unboundWords.contains = false ↔
      ∀ s ∈ r.symbols, s ∉ unboundWords := by simp
  rw [readImport?_statement h, ← readOrigin?_eq_units_iff, ← hbound, Option.bind_eq_some_iff]
  constructor
  · rintro ⟨origin, horigin, hread⟩
    split at hread
    · cases hread
    · next hany =>
      cases hread
      exact ⟨Bool.eq_false_iff.mpr hany, horigin⟩
  · rintro ⟨hany, horigin⟩
    exact ⟨_, horigin, if_neg (Bool.eq_false_iff.mp hany)⟩

/-- The decorators of a documented class. -/
def decorators : ImportRecord := ⟨"@nestjs/swagger", ["ApiExtraModels", "ApiProperty"]⟩

theorem statement_reads_back_decorators : (∀ s ∈ decorators.symbols, IsIdentifier s) ∧
    decorators.statement
      = "import \x7b ApiExtraModels, ApiProperty \x7d from \"@nestjs/swagger\";" ∧
    readImport? decorators.statement.toList
      = some (["ApiExtraModels", "ApiProperty"], units "@nestjs/swagger".toList) := by
  have hsymbols : ∀ s ∈ decorators.symbols, IsIdentifier s := by decide
  have horigin : ∀ c ∈ decorators.origin.toList, IsVerbatim c :=
    List.all_iff_forall_prop.mp (by decide)
  exact ⟨hsymbols, by decide, (statement_reads_back_iff hsymbols).mpr ⟨by decide, horigin⟩⟩

/-- **A statement that is torn.** A configuration may name a module with a quote in it, which ends
the literal.  Between the quotes of a decorator the same text is read back. -/
theorem statement_torn :
    ∃ c, Config.parse "kiln.toml"
        "generator = [\"schema.json\", \"generated\", \"flat\", false, \"a\\\"b\"]" = .ok c ∧
      isBlankText c.enumModule.toList = false ∧ IsIdentifier "Role" ∧ "Role" ∉ unboundWords ∧
      (ImportRecord.mk c.enumModule ["Role"]).statement
        = "import \x7b Role \x7d from \"a\"b\";" ∧
      readImport? (ImportRecord.mk c.enumModule ["Role"]).statement.toList
        ≠ some (["Role"], units c.enumModule.toList) ∧
      readOrigin? (literal c.enumModule ++ ";").toList = some (units c.enumModule.toList) := by
  have hrole : ∀ s ∈ ["Role"], IsIdentifier s := by decide
  have hends : ∀ c ∈ "a\"b".toList, c ≠ '\n' ∧ c ≠ '\r' :=
    List.all_iff_forall_prop.mp (by decide)
  refine ⟨{ input := ⟨"schema.json"⟩, enumModule := "a\"b" }, by decide +kernel, by decide,
    by decide, by decide, by decide, fun hread => ?_, readOrigin?_literal hends⟩
  rw [readImport?_statement hrole] at hread
  -- the symbol could be bound, so it is the module that is not read back
  obtain ⟨origin, horigin, hsymbols⟩ := Option.bind_eq_some_iff.mp hread
  rw [if_neg (by decide)] at hsymbols
  cases hsymbols
  obtain ⟨hquote, -⟩ := readOrigin?_eq_units_iff.mp horigin '"' (by decide)
  exact hquote rfl

end SchemaClass.ImportRecord
