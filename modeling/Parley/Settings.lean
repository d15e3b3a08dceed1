import Parley.Text.Blank
import Parley.Text.Decimal
import Parley.Text.Quoted
import Parley.Text.Utf8

/-!
# Settings

The settings are read from ten variables of the environment. Two of them must be
set to something that is not blank; the others have defaults. A variable whose
value is not UTF-8 counts as unset. The first fault in a fixed order is reported,
with the value as it was given.
-/
namespace Parley

/-- The levels of the log, from the fewest entries to the most. -/
inductive LogLevel where
  | error
  | warn
  | info
  | debug
  | trace
  deriving DecidableEq, Repr

namespace LogLevel

def name : LogLevel → String
  | error => "ERROR"
  | warn => "WARN"
  | info => "INFO"
  | debug => "DEBUG"
  | trace => "TRACE"

/-- All levels, from the quietest to the loudest, which are numbered from one. -/
def all : List LogLevel := [error, warn, info, debug, trace]

def ofNumber? (n : Nat) : Option LogLevel :=
  if n = 0 then none else all[n - 1]?

/-- The level of that number or that name in any case. -/
def parse? (s : String) : Option LogLevel :=
  match (Decimal.readNat? Decimal.max64 s.toList).bind ofNumber? with
  | some level => some level
  | none => all.find? fun level => Text.sameLetters level.name s

end LogLevel

/-- Reads a truth value: one of four words for each, in any case, between blanks
(`parse_bool`). -/
def readFlag? (raw : String) : Option Bool :=
  let word := Text.lower (Text.trim raw)
  if ["1", "true", "yes", "on"].contains word then some true
  else if ["0", "false", "no", "off"].contains word then some false
  else none

/-- What the service is configured with (`Config`). -/
structure Settings where
  databaseUrl : String
  /-- The key under which passports are signed. -/
  secretKey : String
  tcpPort : Nat
  maxConnections : Nat
  accessTokenMinutes : Int
  refreshTokenDays : Int
  loginErrorLimit : Nat
  loginErrorWindowSeconds : Nat
  logLevel : LogLevel
  secureCookies : Bool
  deriving DecidableEq, Repr

/-- Why the settings cannot be used (`ConfigError`). -/
inductive SettingsError where
  | missing (key : String)
  | invalid (key value : String)
  deriving DecidableEq, Repr

namespace SettingsError

def message : SettingsError → String
  | missing key => key ++ " required"
  | invalid key value => "invalid " ++ key ++ ": " ++ Quoted.quote value

end SettingsError

/-- The variables that are set, with the bytes of their values. -/
abbrev Environment := String → Option (List UInt8)

namespace Environment

/-- The value of a variable that is set to text. -/
def get? (env : Environment) (key : String) : Option String :=
  (env key).bind Utf8.toString?

/-- The value of a variable that has to be set. -/
def required (env : Environment) (key : String) : Except SettingsError String :=
  match env.get? key with
  | some value => if Text.blank value then .error (.missing key) else .ok value
  | none => .error (.missing key)

/-- The value that a variable denotes, or a default where it is unset (`env_parse`). -/
def optional {α : Type} (env : Environment) (key : String) (read? : String → Option α)
    (default : α) : Except SettingsError α :=
  match env.get? key with
  | none => .ok default
  | some value =>
    match read? value with
    | some a => .ok a
    | none => .error (.invalid key value)

/-- The whole number that a variable denotes, from zero to `max`. -/
def natural (env : Environment) (key : String) (max default : Nat) : Except SettingsError Nat :=
  env.optional key (fun value => Decimal.readNat? max (Text.trimChars value.toList)) default

/-- The whole number that a variable denotes, of at most 64 bits with its sign. -/
def integer (env : Environment) (key : String) (default : Int) : Except SettingsError Int :=
  env.optional key
    (fun value => Decimal.readInt? Decimal.max63 (Text.trimChars value.toList)) default

end Environment

namespace Settings

/-- Reads the settings (`from_env`). -/
def read (env : Environment) : Except SettingsError Settings := do
  let databaseUrl ← env.required "DATABASE_URL"
  let secretKey ← env.required "SECRET_KEY"
  let tcpPort ← env.natural "PORT" Decimal.max16 3000
  let maxConnections ← env.natural "DB_MAX_CONNECTIONS" Decimal.max32 5
  let accessTokenMinutes ← env.integer "ACCESS_TOKEN_EXPIRE_MINUTES" 60
  let refreshTokenDays ← env.integer "REFRESH_TOKEN_EXPIRE_DAYS" 30
  let loginErrorLimit ← env.natural "LOGIN_ERROR_LIMIT" Decimal.max64 5
  let loginErrorWindowSeconds ← env.natural "LOGIN_ERROR_WINDOW_SECS" Decimal.max64 86400
  let logLevel ← env.optional "LOG_LEVEL" (fun value => LogLevel.parse? (Text.trim value)) .info
  let secureCookies ← env.optional "COOKIE_SECURE" readFlag? false
  return { databaseUrl, secretKey, tcpPort, maxConnections, accessTokenMinutes, refreshTokenDays,
           loginErrorLimit, loginErrorWindowSeconds, logLevel, secureCookies }

end Settings

end Parley
