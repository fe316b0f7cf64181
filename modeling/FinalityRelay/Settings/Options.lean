import FinalityRelay.Foreign.Url
import FinalityRelay.Settings.Span

/-! The settings as they are given to the program: by arguments, where these are silent by environment
variables, and else by defaults. -/

namespace FinalityRelay

inductive UsageError
  | missingRequired
  | unknownArgument
  | conflict
  | invalidValue
  | tooManyValues
  | valueValidation
  | helpWanted
  | versionWanted
deriving DecidableEq

/-- The options, in the order in which their variables are read. -/
inductive OptionKey
  | bridgeAccount
  | tokenContract
  | dataDir
  | purgeHistory
  | ledgerCapacity
  | dispatchInterval
  | foreignEndpoint
  | foreignAccount
  | requestTimeout
  | hostFeed
deriving DecidableEq

namespace OptionKey

def all : List OptionKey :=
  [bridgeAccount, tokenContract, dataDir, purgeHistory, ledgerCapacity, dispatchInterval,
    foreignEndpoint, foreignAccount, requestTimeout, hostFeed]

def argument : OptionKey → String
  | bridgeAccount => "bridge-account"
  | tokenContract => "token-contract"
  | dataDir => "data-dir"
  | purgeHistory => "purge-history"
  | ledgerCapacity => "ledger-capacity"
  | dispatchInterval => "dispatch-interval"
  | foreignEndpoint => "foreign-endpoint"
  | foreignAccount => "foreign-account"
  | requestTimeout => "foreign-request-timeout"
  | hostFeed => "host-feed"

def environment : OptionKey → String
  | bridgeAccount => "BRIDGE_ACCOUNT"
  | tokenContract => "TOKEN_CONTRACT"
  | dataDir => "DATA_DIR"
  | purgeHistory => "PURGE_HISTORY"
  | ledgerCapacity => "LEDGER_CAPACITY"
  | dispatchInterval => "DISPATCH_INTERVAL"
  | foreignEndpoint => "FOREIGN_ENDPOINT"
  | foreignAccount => "FOREIGN_ACCOUNT"
  | requestTimeout => "REQUEST_TIMEOUT"
  | hostFeed => "HOST_FEED"

end OptionKey

/-- What the program runs with. Without a feed file it reads its standard input. -/
structure Options where
  settings : Settings
  requestTimeout : Span
  hostFeed : Option String
deriving DecidableEq

/-- Options in the making, and which of them are given so far. -/
structure Given where
  keys : List OptionKey
  options : Options

namespace Given

def none : Given where
  keys := []
  options :=
    { settings := { Settings.defaults with foreignEndpoint := Settings.defaultEndpoint ++ "/" }
      requestTimeout := ⟨30, 0⟩
      hostFeed := .none }

/-- A count: digits, perhaps after a plus sign. -/
def count? (s : String) : Option Nat :=
  let ds := match s.toList with
    | '+' :: r => r
    | cs => cs
  if ds = [] ∨ ¬ds.all Span.isDigit then .none else Span.word? (Nat.ofDigitChars 10 ds 0)

def valid {α : Type} (a : Option α) : Except UsageError α :=
  match a with
  | some a => .ok a
  | .none => .error .valueValidation

def path (s : String) : Except UsageError String :=
  if s.isEmpty then .error .invalidValue else .ok s

def read (o : Options) (s : String) : OptionKey → Except UsageError Options
  | .bridgeAccount => do
    return { o with settings.bridgeAccount := ← valid (Name.parse s).toOption }
  | .tokenContract => do
    return { o with settings.tokenContract := ← valid (Name.parse s).toOption }
  | .dataDir => do return { o with settings.dataDir := ← path s }
  | .purgeHistory =>
    if s = "true" then .ok { o with settings.purgeHistory := true }
    else if s = "false" then .ok { o with settings.purgeHistory := false }
    else .error .invalidValue
  | .ledgerCapacity => do return { o with settings.ledgerCapacity := ← valid (count? s) }
  | .dispatchInterval => do return { o with settings.dispatchInterval := ← valid (Span.parse? s) }
  | .foreignEndpoint => do
    return { o with settings.foreignEndpoint := (← valid (Url.parse s).toOption).text }
  | .foreignAccount => .ok { o with settings.foreignAccount := s }
  | .requestTimeout => do return { o with requestTimeout := ← valid (Span.parse? s) }
  | .hostFeed => do return { o with hostFeed := some (← path s) }

def add (g : Given) (k : OptionKey) (s : String) : Except UsageError Given := do
  if g.keys.contains k then throw .conflict
  return ⟨k :: g.keys, ← read g.options s k⟩

/-- Adds the option of a variable, unless an argument gave it. -/
def addVariable (environment : String → Option String) (g : Given) (k : OptionKey) :
    Except UsageError Given :=
  if g.keys.contains k then .ok g
  else match environment k.environment with
    | some s => g.add k s
    | .none => .ok g

end Given

/-- Arguments half read. The last option may still wait for its value, or for being read. -/
structure Reading where
  given : Given
  held : Option (OptionKey × Option String)

namespace Reading

def settle (r : Reading) : Except UsageError Given :=
  match r.held with
  | none => .ok r.given
  | some (_, none) => .error .invalidValue
  | some (k, some s) => r.given.add k s

def splitValue (cs : List Char) : String × Option String :=
  let name := String.ofList (cs.takeWhile (· != '='))
  match cs.dropWhile (· != '=') with
  | [] => (name, none)
  | _ :: r => (name, some (String.ofList r))

def finish (r : Reading) (e : UsageError) : Except UsageError Reading := do
  let _ ← r.settle
  throw e

def long (r : Reading) (cs : List Char) : Except UsageError Reading :=
  let (name, value) := splitValue cs
  if name = "help" then if value.isSome then .error .tooManyValues else r.finish .helpWanted
  else if name = "version" then
    if value.isSome then .error .tooManyValues else r.finish .versionWanted
  else match OptionKey.all.find? (·.argument = name), value with
    | none, _ => .error .unknownArgument
    | some .purgeHistory, some _ => .error .tooManyValues
    | some .purgeHistory, none => do return ⟨← (← r.settle).add .purgeHistory "true", none⟩
    | some k, some s => do return ⟨← (← r.settle).add k s, none⟩
    | some k, none => do return ⟨← r.settle, some (k, none)⟩

def short (r : Reading) (c : Char) : Except UsageError Reading :=
  if c = 'h' then r.finish .helpWanted
  else if c = 'V' then r.finish .versionWanted
  else .error .unknownArgument

/-- Takes in a word, which has to be the value of the option before it. -/
def word (r : Reading) (s : String) : Except UsageError Reading :=
  match r.held with
  | some (k, none) => .ok ⟨r.given, some (k, some s)⟩
  | _ => .error .unknownArgument

/-- Reads the arguments. After two dashes alone none may follow. -/
def run (r : Reading) : List String → Except UsageError Given
  | [] => r.settle
  | s :: rest =>
    match s.toList with
    | ['-', '-'] => if rest.isEmpty then r.settle else .error .unknownArgument
    | '-' :: '-' :: cs => do (← r.long cs).run rest
    | '-' :: c :: _ => do (← r.short c).run rest
    | _ => do (← r.word s).run rest

end Reading

/-- The options from the arguments and the environment variables. Two of them have to be given. -/
def Options.ofArguments (arguments : List String) (environment : String → Option String) :
    Except UsageError Options := do
  let g ← Reading.run ⟨.none, none⟩ arguments
  let g ← OptionKey.all.foldlM (Given.addVariable environment) g
  if [OptionKey.bridgeAccount, .foreignAccount].all g.keys.contains then return g.options
  else throw .missingRequired

end FinalityRelay
