import LoginVault.Environment
import LoginVault.Number.Display
import LoginVault.Number.Reading
import LoginVault.Text.Quoted

/-!
# Config — how the store is reached

A configuration is built by `Config.make?`, which refuses an empty address, a timeout that is
zero or less and a page size below one. The address is kept without the slashes at its end.
-/

namespace LoginVault

/-- A time limit in seconds, as it was given. -/
inductive Seconds where
  | whole (n : Int)
  | real (x : Binary64)
  deriving DecidableEq, Repr

/-- Whether the limit compares as at most zero. -/
def Seconds.isNonPositive : Seconds → Bool
  | .whole n => n ≤ 0
  | .real x => x.isNonPositive

/-- The text of a time limit. -/
def Seconds.text : Seconds → String
  | .whole n => toString n
  | .real x => x.text

/-- The address of the store, the time limit of a request, and the count of logins asked for at
a time. -/
structure Config where
  baseUrl : String
  timeout : Seconds
  pageSize : Nat
  pageSize_pos : 0 < pageSize
  deriving DecidableEq

/-- The kinds of numbers that a setting can be. -/
inductive NumberKind where
  | integer
  | real
  deriving DecidableEq, Repr

/-- The name of a kind of numbers in messages. -/
def NumberKind.name : NumberKind → String
  | .integer => "int"
  | .real => "float"

/-- Why a configuration is refused. -/
inductive ConfigFault where
  | emptyBaseUrl
  | nonPositiveTimeout (timeout : Seconds)
  | pageSizeBelowOne (pageSize : Int)
  | notANumber (variableName : String) (kind : NumberKind) (given : String)
  deriving DecidableEq, Repr

/-- The text of a refusal. -/
def ConfigFault.message : ConfigFault → String
  | .emptyBaseUrl => "base_url cannot be empty"
  | .nonPositiveTimeout t => s!"timeout must be positive, got {t.text}"
  | .pageSizeBelowOne n => s!"page_size must be at least 1, got {n}"
  | .notANumber name kind given => s!"{name} must be a {kind.name}, got {Text.quoted given}"

namespace Config

/-- The address that is used when none is given. -/
def defaultBaseUrl : String := "http://localhost:3625"

/-- The time limit that is used when none is given, thirty seconds. -/
def defaultTimeout : Seconds := .real (Binary64.ofDecimal false 30 0)

/-- The page size that is used when none is given. -/
def defaultPageSize : Int := 100

/-- The address without the slashes at its end. -/
def dropSlashes (address : String) : String :=
  String.ofList (address.toList.reverse.dropWhile (· == '/')).reverse

/-- The configuration with these values. The address, the time limit and the page size are
checked in this order. -/
def make? (baseUrl : String) (timeout : Seconds) (pageSize : Int) : Except ConfigFault Config :=
  if baseUrl.isEmpty then .error .emptyBaseUrl
  else if timeout.isNonPositive then .error (.nonPositiveTimeout timeout)
  else if h : pageSize < 1 then .error (.pageSizeBelowOne pageSize)
  else .ok ⟨dropSlashes baseUrl, timeout, pageSize.toNat, by omega⟩

/-- The number that a variable gives, or the default if it is not set. -/
def numberSetting {α : Type} (env : Environment) (name : String) (kind : NumberKind)
    (read? : String → Option α) (default : α) : Except ConfigFault α :=
  match env.setting? name with
  | none => .ok default
  | some given => match read? given with
    | some value => .ok value
    | none => .error (.notANumber name kind given)

/-- The configuration that the environment gives. The two numbers are read before any value is
checked. -/
def ofEnvironment (env : Environment) : Except ConfigFault Config := do
  let timeout ← numberSetting env "GPASS_TIMEOUT" .real
    (fun s => (Number.realSetting? s).map .real) defaultTimeout
  let pageSize ← numberSetting env "GPASS_PAGE_SIZE" .integer Number.integerSetting? defaultPageSize
  make? ((env.setting? "GPASS_API_URL").getD defaultBaseUrl) timeout pageSize

/-- The configuration with another address. -/
def withBaseUrl (c : Config) (baseUrl : String) : Except ConfigFault Config :=
  make? baseUrl c.timeout c.pageSize

end Config

end LoginVault
