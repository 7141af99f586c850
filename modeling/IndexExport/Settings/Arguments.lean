import IndexExport.Settings.Basic
import IndexExport.Text.Split
/-!
# Settings from arguments

Options are written `--name value`, `--name=value`, `-n value`, `-nvalue` or `-n=value`,
each at most once; there are no other arguments. The value that follows an option is kept
pending and looked at when the next option comes or the arguments end, so an argument that
has no place at all is complained of first.
-/
set_option autoImplicit false

namespace IndexExport.Settings

inductive Flag where
  | apiKey
  | filtersFile
  | core
  | format
  | outputDirectory
  | rowsPerPage
  | endpoint
  | filterMode
  | timeoutSeconds
  | logLevel
  | logFormat
  deriving DecidableEq, Repr

inductive ArgumentFault where
  | unknownArgument
  | unusableValue
  | notANumber
  | repeatedOption
  | helpWanted
  | unneededValue
  deriving DecidableEq, Repr

inductive Spelled where
  | flag (flag : Flag)
  | help
  deriving DecidableEq, Repr

def longName? (name : String) : Option Spelled :=
  match name with
  | "apikey" => some (.flag .apiKey)
  | "filtersfile" => some (.flag .filtersFile)
  | "core" => some (.flag .core)
  | "format" => some (.flag .format)
  | "outputdir" => some (.flag .outputDirectory)
  | "rows-per-page" => some (.flag .rowsPerPage)
  | "endpoint" => some (.flag .endpoint)
  | "filter-mode" => some (.flag .filterMode)
  | "timeout-seconds" => some (.flag .timeoutSeconds)
  | "log-level" => some (.flag .logLevel)
  | "log-format" => some (.flag .logFormat)
  | "help" => some .help
  | _ => none

def letter? (c : Char) : Option Spelled :=
  if c = 'a' then some (.flag .apiKey)
  else if c = 'f' then some (.flag .filtersFile)
  else if c = 'c' then some (.flag .core)
  else if c = 'o' then some (.flag .outputDirectory)
  else if c = 'h' then some .help
  else none

/-! ## Values -/

structure Given where
  apiKey : Option String
  filtersFile : Option String
  core : Option Core
  format : Option Export.Format
  outputDirectory : Option String
  rowsPerPage : Option Nat
  endpoint : Option String
  filterMode : Option Filter.Mode
  timeoutSeconds : Option Nat
  logLevel : Option Log.Level
  logFormat : Option Log.Format
  deriving Repr, Inhabited

def Given.nothing : Given :=
  ⟨none, none, none, none, none, none, none, none, none, none, none⟩

def Given.has (g : Given) : Flag → Bool
  | .apiKey => g.apiKey.isSome
  | .filtersFile => g.filtersFile.isSome
  | .core => g.core.isSome
  | .format => g.format.isSome
  | .outputDirectory => g.outputDirectory.isSome
  | .rowsPerPage => g.rowsPerPage.isSome
  | .endpoint => g.endpoint.isSome
  | .filterMode => g.filterMode.isSome
  | .timeoutSeconds => g.timeoutSeconds.isSome
  | .logLevel => g.logLevel.isSome
  | .logFormat => g.logFormat.isSome

def path (value : String) : Except ArgumentFault String :=
  if value = "" then .error .unusableValue else .ok value

/-- The first choice that has this name. -/
def choice {α : Type} (name : α → String) (choices : List α) (value : String) :
    Except ArgumentFault α :=
  match choices.find? fun x => name x = value with
  | some x => .ok x
  | none => .error .unusableValue

def greatestRows : Nat := 4294967295

def greatestSeconds : Nat := 18446744073709551615

/-- A number of rows; zero may have a minus sign. -/
def rows (value : String) : Except ArgumentFault Nat :=
  match Text.integer? value.toList with
  | some n => if 0 ≤ n ∧ n ≤ greatestRows then .ok n.toNat else .error .notANumber
  | none => .error .notANumber

def seconds (value : String) : Except ArgumentFault Nat :=
  let digits :=
    match value.toList with
    | '+' :: cs => cs
    | cs => cs
  match Text.natural? digits with
  | some n => if n ≤ greatestSeconds then .ok n else .error .notANumber
  | none => .error .notANumber

def levels : List Log.Level := [.error, .warn, .info, .debug, .trace]

def levelName (level : Log.Level) : String :=
  String.ofList (level.name.toList.map Char.toLower)

def logFormatName : Log.Format → String
  | .plain => "plain"
  | .json => "json"

def Given.add (g : Given) (flag : Flag) (value : String) : Except ArgumentFault Given :=
  match flag with
  | .apiKey => .ok { g with apiKey := some value }
  | .filtersFile => (path value).map fun v => { g with filtersFile := some v }
  | .core =>
    (choice Core.name [.activity, .transaction, .budget] value).map fun v =>
      { g with core := some v }
  | .format =>
    (choice Export.Format.name [.solr, .xml, .json, .csv, .flatCsv] value).map fun v =>
      { g with format := some v }
  | .outputDirectory => (path value).map fun v => { g with outputDirectory := some v }
  | .rowsPerPage => (rows value).map fun v => { g with rowsPerPage := some v }
  | .endpoint => .ok { g with endpoint := some value }
  | .filterMode =>
    (choice Filter.Mode.name [.structured, .legacy] value).map fun v =>
      { g with filterMode := some v }
  | .timeoutSeconds => (seconds value).map fun v => { g with timeoutSeconds := some v }
  | .logLevel => (choice levelName levels value).map fun v => { g with logLevel := some v }
  | .logFormat =>
    (choice logFormatName [.plain, .json] value).map fun v => { g with logFormat := some v }

/-! ## Reading -/

structure Pending where
  flag : Flag
  value : Option String
  deriving Repr

/-- Looks at an option: it needs a value, and may be given once. -/
def Given.settle (g : Given) : Option Pending → Except ArgumentFault Given
  | none => .ok g
  | some ⟨_, none⟩ => .error .unusableValue
  | some ⟨flag, some value⟩ =>
    if g.has flag then .error .repeatedOption else g.add flag value

inductive Argument where
  | endOfOptions
  | unknown
  | option (spelled : Spelled) (value : Option String)
  | value (text : String)
  deriving Repr

def attached : List Char → Option String
  | [] => none
  | '=' :: cs => some (String.ofList cs)
  | cs => some (String.ofList cs)

def argument (text : String) : Argument :=
  match text.toList with
  | ['-', '-'] => .endOfOptions
  | '-' :: '-' :: cs =>
    let (name, rest) := Text.breakAt (· = '=') cs
    match longName? (String.ofList name) with
    | none => .unknown
    | some spelled => .option spelled (attached rest)
  | '-' :: c :: cs =>
    match letter? c with
    | none => .unknown
    | some .help => .option .help none
    | some spelled => .option spelled (attached cs)
  | _ => .value text

def readFrom (g : Given) (pending : Option Pending) :
    List String → Except ArgumentFault Given
  | [] => g.settle pending
  | text :: rest =>
    match argument text with
    | .endOfOptions => if rest = [] then g.settle pending else .error .unknownArgument
    | .unknown => .error .unknownArgument
    | .option .help (some _) => .error .unneededValue
    | .option .help none =>
      match g.settle pending with
      | .error e => .error e
      | .ok _ => .error .helpWanted
    | .option (.flag flag) none =>
      match g.settle pending with
      | .error e => .error e
      | .ok more => readFrom more (some ⟨flag, none⟩) rest
    | .option (.flag flag) (some value) =>
      match g.settle pending with
      | .error e => .error e
      | .ok more =>
        match more.settle (some ⟨flag, some value⟩) with
        | .error e => .error e
        | .ok final => readFrom final none rest
    | .value v =>
      match pending with
      | some ⟨flag, none⟩ => readFrom g (some ⟨flag, some v⟩) rest
      | _ => .error .unknownArgument

/-- What the arguments say; the key may come from the environment instead. -/
def Given.read (arguments : List String) (environmentKey : Option String) :
    Except ArgumentFault Given :=
  (readFrom .nothing none arguments).map fun g =>
    { g with apiKey := g.apiKey.or environmentKey }

def Given.settings (g : Given) : Settings :=
  { default with
    apiKey := g.apiKey.getD default.apiKey
    filtersFile := g.filtersFile
    core := g.core.getD default.core
    format := g.format.getD default.format
    outputDirectory := g.outputDirectory.getD default.outputDirectory
    rowsPerPage := g.rowsPerPage.getD default.rowsPerPage
    endpoint := g.endpoint.getD default.endpoint
    filterMode := g.filterMode.getD default.filterMode
    timeoutSeconds := g.timeoutSeconds.getD default.timeoutSeconds
    logLevel := g.logLevel.getD default.logLevel
    logFormat := g.logFormat.getD default.logFormat }

end IndexExport.Settings
