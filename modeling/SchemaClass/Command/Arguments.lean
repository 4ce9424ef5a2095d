import SchemaClass.Layout
import SchemaClass.Path.Basic
/-!
# Command lines

The words behind the name of the program, read from left to right: flags of the program itself, the
name of a command, and the options of the command, as `clap` splits them.  A flag or an option is
given once at each of the two levels.

Left out are the command `completions` and the flags and the command for help.  What they print is
made by `clap` from its description of the command line, and nothing of it depends on a project or a
document; here they end as misused.

* `readShorts`: a word of short flags, the last of which may take the rest of the word as its value;
* `Request.ofWords`: what a command line asks for.
-/

namespace SchemaClass.Command

/-! ## 1. Options of a command -/

/-- A command line that is not understood. -/
structure Misuse where
  deriving DecidableEq, Repr

/-- What a flag or an option does to the settings of a command. -/
inductive Effect (σ : Type) where
  | flag (set : σ → Except Misuse σ)
  | option (set : σ → String → Except Misuse σ)

/-- The flags and options of a command, under their short and long names. -/
structure Options (σ : Type) where
  short? : Char → Option (Effect σ)
  long? : List Char → Option (Effect σ)

/-- A setting, or an option that waits for the next word. -/
inductive Progress (σ : Type) where
  | ready (settings : σ)
  | waiting (settings : σ) (set : σ → String → Except Misuse σ)

/-- The value behind a short option in the same word, if there is one. -/
def attached? : List Char → Option String
  | [] => none
  | '=' :: value => some (String.ofList value)
  | value => some (String.ofList value)

/-- Reads the short flags of a word. -/
def readShorts {σ : Type} (o : Options σ) (settings : σ) :
    List Char → Except Misuse (Progress σ)
  | [] => .ok (.ready settings)
  | c :: cs =>
    match o.short? c with
    | none => .error {}
    | some (.flag set) => do readShorts o (← set settings) cs
    | some (.option set) =>
      match attached? cs with
      | some value => do return .ready (← set settings value)
      | none => .ok (.waiting settings set)

/-- Reads a long flag or option, without its dashes. -/
def readLong {σ : Type} (o : Options σ) (settings : σ) (word : List Char) :
    Except Misuse (Progress σ) :=
  let name := word.takeWhile (· != '=')
  let value? : Option String :=
    match word.drop name.length with
    | [] => none
    | _ :: value => some (String.ofList value)
  match o.long? name, value? with
  | some (.flag set), none => do return .ready (← set settings)
  | some (.option set), none => .ok (.waiting settings set)
  | some (.option set), some value => do return .ready (← set settings value)
  | _, _ => .error {}

/-- Reads one word, which may be the value that is waited for. -/
def readWord {σ : Type} (o : Options σ) (progress : Progress σ) (word : List Char) :
    Except Misuse (Progress σ) :=
  match progress, word with
  | .ready settings, '-' :: '-' :: name => readLong o settings name
  | .ready settings, '-' :: c :: cs => readShorts o settings (c :: cs)
  | .waiting settings set, ['-'] => do return .ready (← set settings "-")
  | .waiting settings set, word =>
    if word.head? = some '-' then .error {}
    else do return .ready (← set settings (String.ofList word))
  | _, _ => .error {}

/-- Reads the words of a command.  Behind `--` nothing may stand, as no command takes words of its
own. -/
def readOptions {σ : Type} (o : Options σ) : Progress σ → List String → Except Misuse σ
  | .ready settings, [] => .ok settings
  | .waiting .., [] => .error {}
  | .ready settings, ["--"] => .ok settings
  | progress, word :: words => do
    if word = "--" then throw {}
    else readOptions o (← readWord o progress word.toList) words

/-! ## 2. Commands -/

/-- Gives a setting its only value. -/
def once {σ β : Type} (old : Option β) (set : σ) : Except Misuse σ :=
  if old.isSome then .error {} else .ok set

/-- Sets a flag that has not been set. -/
def setOnce {σ : Type} (old : Bool) (set : σ) : Except Misuse σ :=
  if old then .error {} else .ok set

/-- A path on a command line, which must not be empty. -/
def pathOf (word : String) : Except Misuse Path :=
  if word.isEmpty then .error {} else .ok ⟨word⟩

/-- The name of a configuration that is not given. -/
def defaultConfig : Path := ⟨"kiln.toml"⟩

/-- The settings of generation, as far as they are given (`GenerateCommand`). -/
structure GenerateOptions where
  config : Option Path := none
  input : Option Path := none
  output : Option Path := none
  layout : Option Layout := none
  swagger : Bool := false
  dryRun : Bool := false
  verbose : Bool := false
  deriving DecidableEq, Repr

namespace GenerateOptions

def setConfig (o : GenerateOptions) (word : String) : Except Misuse GenerateOptions := do
  once o.config { o with config := some (← pathOf word) }

def setInput (o : GenerateOptions) (word : String) : Except Misuse GenerateOptions := do
  once o.input { o with input := some (← pathOf word) }

def setOutput (o : GenerateOptions) (word : String) : Except Misuse GenerateOptions := do
  once o.output { o with output := some (← pathOf word) }

def setLayout (o : GenerateOptions) (word : String) : Except Misuse GenerateOptions :=
  match Layout.ofName? word with
  | some l => once o.layout { o with layout := some l }
  | none => .error {}

def setSwagger (o : GenerateOptions) : Except Misuse GenerateOptions :=
  setOnce o.swagger { o with swagger := true }

def setDryRun (o : GenerateOptions) : Except Misuse GenerateOptions :=
  setOnce o.dryRun { o with dryRun := true }

def setVerbose (o : GenerateOptions) : Except Misuse GenerateOptions :=
  setOnce o.verbose { o with verbose := true }

/-- The flags and options of generation. -/
def options : Options GenerateOptions where
  short?
    | 'c' => some (.option setConfig)
    | 'i' => some (.option setInput)
    | 'o' => some (.option setOutput)
    | 'v' => some (.flag setVerbose)
    | _ => none
  long? name :=
    [("config", Effect.option setConfig), ("input", .option setInput),
      ("output", .option setOutput), ("layout", .option setLayout), ("swagger", .flag setSwagger),
      ("dry-run", .flag setDryRun), ("verbose", .flag setVerbose)].lookup (String.ofList name)

end GenerateOptions

/-- The settings of a check, as far as they are given (`CheckCommand`). -/
structure CheckOptions where
  config : Option Path := none
  verbose : Bool := false
  deriving DecidableEq, Repr

namespace CheckOptions

def setConfig (o : CheckOptions) (word : String) : Except Misuse CheckOptions := do
  once o.config { o with config := some (← pathOf word) }

def setVerbose (o : CheckOptions) : Except Misuse CheckOptions :=
  setOnce o.verbose { o with verbose := true }

/-- The flags and options of a check. -/
def options : Options CheckOptions where
  short?
    | 'c' => some (.option setConfig)
    | 'v' => some (.flag setVerbose)
    | _ => none
  long? name :=
    [("config", Effect.option setConfig), ("verbose", .flag setVerbose)].lookup
      (String.ofList name)

end CheckOptions

/-! ## 3. The program -/

/-- What a command line asks for (`Commands`), but for help and the scripts of `completions`. -/
inductive Request where
  | version
  | generate (o : GenerateOptions)
  | check (o : CheckOptions)
  deriving DecidableEq, Repr

/-- Reads the words behind the name of a command.  Besides the two commands here there are `help`
and `completions`, which are left out and end as misused. -/
def readCommand (name : String) (verbose : Bool) (words : List String) :
    Except Misuse (Bool × Request) :=
  if name = "generate" then do
    let o ← readOptions GenerateOptions.options (.ready {}) words
    return (verbose || o.verbose, .generate o)
  else if name = "check" then do
    let o ← readOptions CheckOptions.options (.ready {}) words
    return (verbose || o.verbose, .check o)
  else .error {}

/-- The flags that a word in front of the command stands for; `none` is a command's name. -/
def rootFlags? (word : List Char) : Option (List Char) :=
  match word with
  | '-' :: '-' :: name =>
    some (if name = "verbose".toList then ['v'] else if name = "version".toList then ['V'] else ['-'])
  | '-' :: c :: cs => some (c :: cs)
  | _ => none

/-- Reads flags in front of the command; `none` says that the version is asked for. -/
def readRootFlags (verbose : Bool) : List Char → Except Misuse (Option Bool)
  | [] => .ok (some verbose)
  | c :: cs =>
    if c = 'V' then .ok none
    else if c = 'v' && !verbose then readRootFlags true cs
    else .error {}

/-- What the words of a command line ask for, and whether the log is to be verbose. -/
def Request.ofWords (verbose : Bool) : List String → Except Misuse (Bool × Request)
  | [] => .error {}
  | word :: words =>
    match rootFlags? word.toList with
    | none => readCommand word verbose words
    | some flags => do
      match ← readRootFlags verbose flags with
      | none => return (verbose, .version)
      | some verbose => ofWords verbose words

end SchemaClass.Command
