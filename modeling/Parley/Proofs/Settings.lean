import Parley.Proofs.Account.Password
import Parley.Proofs.Text.Numeral
import Parley.Settings

/-!
# Settings are settled by their own variables

Every setting has one variable and every variable one setting. A variable settles its setting by
the text that it is set to, if that is written as the setting demands, or by being unset where
there is a default; what is not text counts as unset. Settings are read if every variable settles
its own; else the fault of the first variable that does not is reported.

* `Variable.read_eq_ok_iff`, `Variable.read_eq_error_iff`: what is read from one variable.
* `read_eq_ok_iff`: the settings that are read.
* `read_eq_error_iff`: the fault that is reported.
* `settings_read_exactly`: both for all environments, with what decides whether there is a fault.
-/
namespace Parley

/-! ## Levels and truth values -/

namespace LogLevel

def number : LogLevel → Nat
  | error => 1
  | warn => 2
  | info => 3
  | debug => 4
  | trace => 5

/-- A level as it may be written: by its number, or by its name in any case. -/
inductive Written (s : String) (level : LogLevel) : Prop
  | number (digits : Decimal.Unsigned Decimal.max64 s.toList level.number)
  | name (letters : Text.lower s = Text.lower level.name)

theorem ofNumber?_eq_some_iff {n : Nat} {level : LogLevel} :
    ofNumber? n = some level ↔ n = level.number := by
  constructor
  · intro h
    match n, h with
    | 1, h | 2, h | 3, h | 4, h | 5, h =>
      obtain rfl := Option.some.inj h
      rfl
  · rintro rfl
    cases level <;> rfl

theorem find?_name (level : LogLevel) :
    (all.find? fun other => Text.lower other.name == Text.lower level.name) = some level := by
  cases level <;> decide +kernel

theorem toLower_of_isDigit {c : Char} (h : c.isDigit = true) : c.toLower = c := by
  simp only [Char.isDigit, Bool.and_eq_true, decide_eq_true_eq] at h
  refine dif_neg ?_
  rintro ⟨hA, -⟩
  exact absurd (UInt32.le_trans hA h.2) (by decide)

/-- A number is no name: it begins with a plus sign or a digit. -/
theorem lower_ne_of_unsigned {max n : Nat} {s : String} (level : LogLevel)
    (h : Decimal.Unsigned max s.toList n) : Text.lower s ≠ Text.lower level.name := by
  obtain ⟨c, rest, hs, hc⟩ := h.exists_head
  have hlower : c.toLower = c := by
    rcases hc with rfl | hc
    · rfl
    · exact toLower_of_isDigit hc
  intro heq
  rw [Text.lower, Text.lower, String.ofList_inj, hs] at heq
  have hletter : (level.name.toList.map Char.toLower).head?.all
      (fun d => d != '+' && !d.isDigit) = true := by
    cases level <;> decide +kernel
  rw [← heq, List.map_cons, hlower, List.head?_cons] at hletter
  obtain ⟨hplus, hdigit⟩ : c ≠ '+' ∧ c.isDigit = false := by simpa using hletter
  simp [hplus, hdigit] at hc

theorem parse?_eq_some_iff {s : String} {level : LogLevel} :
    parse? s = some level ↔ Written s level := by
  have hnumber : ∀ other, (Decimal.readNat? Decimal.max64 s.toList).bind ofNumber? = some other ↔
      Decimal.Unsigned Decimal.max64 s.toList other.number := by
    intro other
    simp only [Option.bind_eq_some_iff, Decimal.readNat?_eq_some_iff, ofNumber?_eq_some_iff,
      exists_eq_right]
  unfold parse?
  constructor
  · intro h
    split at h
    · next other hother =>
      obtain rfl := Option.some.inj h
      exact .number ((hnumber _).mp hother)
    · have hfound := List.find?_some h
      rw [Text.sameLetters, beq_iff_eq] at hfound
      exact .name hfound.symm
  · rintro (hdigits | hletters)
    · rw [(hnumber level).mpr hdigits]
    · split
      · next other hother =>
        exact absurd hletters (lower_ne_of_unsigned level ((hnumber other).mp hother))
      · simp only [Text.sameLetters, hletters]
        exact find?_name level

end LogLevel

/-- The words for a truth value. -/
def flagWords : Bool → List String
  | true => ["1", "true", "yes", "on"]
  | false => ["0", "false", "no", "off"]

theorem readFlag?_eq_some_iff {raw : String} {flag : Bool} :
    readFlag? raw = some flag ↔ Text.lower (Text.trim raw) ∈ flagWords flag := by
  have hread : readFlag? raw = if Text.lower (Text.trim raw) ∈ flagWords true then some true
      else if Text.lower (Text.trim raw) ∈ flagWords false then some false else none := by
    simp only [readFlag?, List.contains_iff_mem]
    rfl
  have hapart : Text.lower (Text.trim raw) ∈ flagWords true →
      Text.lower (Text.trim raw) ∉ flagWords false := by
    intro h
    simp only [flagWords, List.mem_cons, List.not_mem_nil, or_false] at h
    rcases h with h | h | h | h <;> rw [h] <;> decide
  rw [hread]
  by_cases htrue : Text.lower (Text.trim raw) ∈ flagWords true
  · rw [if_pos htrue]
    cases flag <;> simp [htrue, hapart htrue]
  · rw [if_neg htrue]
    cases flag <;> simp [htrue]

namespace Environment

variable {env : Environment} {key raw : String} {α : Type} {read? : String → Option α}

theorem required_of_get? (h : env.get? key = some raw) : env.required key =
    (if Text.blank raw then none else some raw).elim (.error (.missing key)) .ok := by
  by_cases hblank : Text.blank raw = true <;> simp [required, h, hblank]

theorem optional_of_get? (h : env.get? key = some raw) (default : α) :
    env.optional key read? default = (read? raw).elim (.error (.invalid key raw)) .ok := by
  cases hread : read? raw <;> simp [optional, h, hread]

end Environment

namespace Settings

/-! ## Variables -/

/-- The variables of the environment that settings are read from. -/
inductive Variable where
  | databaseUrl
  | secretKey
  | tcpPort
  | maxConnections
  | accessTokenMinutes
  | refreshTokenDays
  | loginErrorLimit
  | loginErrorWindowSeconds
  | logLevel
  | secureCookies
  deriving DecidableEq, Repr

namespace Variable

/-- The name of the variable. -/
def key : Variable → String
  | databaseUrl => "DATABASE_URL"
  | secretKey => "SECRET_KEY"
  | tcpPort => "PORT"
  | maxConnections => "DB_MAX_CONNECTIONS"
  | accessTokenMinutes => "ACCESS_TOKEN_EXPIRE_MINUTES"
  | refreshTokenDays => "REFRESH_TOKEN_EXPIRE_DAYS"
  | loginErrorLimit => "LOGIN_ERROR_LIMIT"
  | loginErrorWindowSeconds => "LOGIN_ERROR_WINDOW_SECS"
  | logLevel => "LOG_LEVEL"
  | secureCookies => "COOKIE_SECURE"

/-- All variables, in the order in which their faults are looked for. -/
def all : List Variable :=
  [databaseUrl, secretKey, tcpPort, maxConnections, accessTokenMinutes, refreshTokenDays,
    loginErrorLimit, loginErrorWindowSeconds, logLevel, secureCookies]

@[reducible]
def Value : Variable → Type
  | databaseUrl | secretKey => String
  | accessTokenMinutes | refreshTokenDays => Int
  | tcpPort | maxConnections | loginErrorLimit | loginErrorWindowSeconds => Nat
  | logLevel => LogLevel
  | secureCookies => Bool

/-- The setting of a variable. -/
def field (s : Settings) : (v : Variable) → v.Value
  | databaseUrl => s.databaseUrl
  | secretKey => s.secretKey
  | tcpPort => s.tcpPort
  | maxConnections => s.maxConnections
  | accessTokenMinutes => s.accessTokenMinutes
  | refreshTokenDays => s.refreshTokenDays
  | loginErrorLimit => s.loginErrorLimit
  | loginErrorWindowSeconds => s.loginErrorWindowSeconds
  | logLevel => s.logLevel
  | secureCookies => s.secureCookies

/-- What holds where the variable is unset. Two variables have to be set. -/
def default? : (v : Variable) → Option v.Value
  | databaseUrl | secretKey => none
  | tcpPort => some (3000 : Nat)
  | maxConnections => some (5 : Nat)
  | accessTokenMinutes => some (60 : Int)
  | refreshTokenDays => some (30 : Int)
  | loginErrorLimit => some (5 : Nat)
  | loginErrorWindowSeconds => some (86400 : Nat)
  | logLevel => some LogLevel.info
  | secureCookies => some false

/-- What a text stands for. It is taken as it is where the variable has to be set, and may not be
blank; the other texts are taken without the blanks around them. -/
def Denotes : (v : Variable) → String → v.Value → Prop
  | databaseUrl, raw, value | secretKey, raw, value =>
    value = raw ∧ ∃ c ∈ raw.toList, Text.isBlank c = false
  | tcpPort, raw, n => Decimal.Unsigned Decimal.max16 (Text.trim raw).toList n
  | maxConnections, raw, n => Decimal.Unsigned Decimal.max32 (Text.trim raw).toList n
  | accessTokenMinutes, raw, z | refreshTokenDays, raw, z =>
    Decimal.Signed Decimal.max63 (Text.trim raw).toList z
  | loginErrorLimit, raw, n | loginErrorWindowSeconds, raw, n =>
    Decimal.Unsigned Decimal.max64 (Text.trim raw).toList n
  | logLevel, raw, level => LogLevel.Written (Text.trim raw) level
  | secureCookies, raw, flag => Text.lower (Text.trim raw) ∈ flagWords flag

/-- The variable is set to this text. -/
def IsSetTo (env : Environment) (v : Variable) (raw : String) : Prop :=
  env v.key = some (Utf8.ofString raw)

/-- The variable settles its setting: by the text that it is set to, or by being unset. -/
inductive Settles (env : Environment) (v : Variable) (value : v.Value) : Prop
  | text {raw : String} (set : v.IsSetTo env raw) (denotes : v.Denotes raw value)
  | default (unset : ∀ raw, ¬ v.IsSetTo env raw) (default : v.default? = some value)

/-- The variable does not settle its setting. Where it has to be set, the fault is that nothing
that would do is there; else it is the text that stands for nothing, as it was given. -/
inductive Faulty (env : Environment) (v : Variable) : SettingsError → Prop
  | missing (required : v.default? = none)
    (unfit : ∀ raw, v.IsSetTo env raw → ∀ value, ¬ v.Denotes raw value) :
    Faulty env v (.missing v.key)
  | invalid {raw : String} (optional : v.default? ≠ none) (set : v.IsSetTo env raw)
    (unfit : ∀ value, ¬ v.Denotes raw value) : Faulty env v (.invalid v.key raw)

/-! ## Reading one variable -/

/-- What a text is read as. -/
def parse? : (v : Variable) → String → Option v.Value
  | databaseUrl, raw | secretKey, raw => if Text.blank raw then none else some raw
  | tcpPort, raw => Decimal.readNat? Decimal.max16 (Text.trimChars raw.toList)
  | maxConnections, raw => Decimal.readNat? Decimal.max32 (Text.trimChars raw.toList)
  | accessTokenMinutes, raw | refreshTokenDays, raw =>
    Decimal.readInt? Decimal.max63 (Text.trimChars raw.toList)
  | loginErrorLimit, raw | loginErrorWindowSeconds, raw =>
    Decimal.readNat? Decimal.max64 (Text.trimChars raw.toList)
  | logLevel, raw => LogLevel.parse? (Text.trim raw)
  | secureCookies, raw => readFlag? raw

theorem parse?_eq_some_iff {raw : String} {v : Variable} {value : v.Value} :
    v.parse? raw = some value ↔ v.Denotes raw value := by
  have htrim : (Text.trim raw).toList = Text.trimChars raw.toList := String.toList_ofList
  cases v with
  | databaseUrl | secretKey =>
    have hblank : Text.blank raw = true ↔ ¬ ∃ c ∈ raw.toList, Text.isBlank c = false := by
      simp [Text.blank, List.all_eq_true]
    simp only [parse?, Denotes, hblank]
    by_cases h : ∃ c ∈ raw.toList, Text.isBlank c = false
    · rw [if_neg (not_not.mpr h)]
      exact ⟨fun heq => ⟨(Option.some.inj heq).symm, h⟩, fun heq => congrArg some heq.1.symm⟩
    · rw [if_pos h]
      exact ⟨fun heq => absurd heq (by simp), fun heq => absurd heq.2 h⟩
  | tcpPort | maxConnections | loginErrorLimit | loginErrorWindowSeconds =>
    simp only [parse?, Denotes, htrim, Decimal.readNat?_eq_some_iff]
  | accessTokenMinutes | refreshTokenDays =>
    simp only [parse?, Denotes, htrim, Decimal.readInt?_eq_some_iff]
  | logLevel => simp only [parse?, Denotes, LogLevel.parse?_eq_some_iff]
  | secureCookies => simp only [parse?, Denotes, readFlag?_eq_some_iff]

def read (env : Environment) : (v : Variable) → Except SettingsError v.Value
  | databaseUrl => env.required (key databaseUrl)
  | secretKey => env.required (key secretKey)
  | tcpPort => env.natural (key tcpPort) Decimal.max16 3000
  | maxConnections => env.natural (key maxConnections) Decimal.max32 5
  | accessTokenMinutes => env.integer (key accessTokenMinutes) 60
  | refreshTokenDays => env.integer (key refreshTokenDays) 30
  | loginErrorLimit => env.natural (key loginErrorLimit) Decimal.max64 5
  | loginErrorWindowSeconds => env.natural (key loginErrorWindowSeconds) Decimal.max64 86400
  | logLevel => env.optional (key logLevel) (fun raw => LogLevel.parse? (Text.trim raw)) .info
  | secureCookies => env.optional (key secureCookies) readFlag? false

/-- The fault of the variable where it is set to a text that stands for nothing. -/
def fault (v : Variable) (raw : String) : SettingsError :=
  if v.default?.isNone then .missing v.key else .invalid v.key raw

theorem read_of_get? {env : Environment} {v : Variable} {raw : String}
    (h : env.get? v.key = some raw) :
    v.read env = (v.parse? raw).elim (.error (v.fault raw)) .ok := by
  cases v with
  | databaseUrl | secretKey => exact Environment.required_of_get? h
  | tcpPort | maxConnections | loginErrorLimit | loginErrorWindowSeconds =>
    exact Environment.optional_of_get? h _
  | accessTokenMinutes | refreshTokenDays => exact Environment.optional_of_get? h _
  | logLevel => exact Environment.optional_of_get? h _
  | secureCookies =>
    rw [read, parse?, Environment.optional_of_get? h]
    rfl

theorem read_of_get?_eq_none {env : Environment} {v : Variable} (h : env.get? v.key = none) :
    v.read env = v.default?.elim (.error (.missing v.key)) .ok := by
  cases v with
  | databaseUrl | secretKey => simp only [read, Environment.required, h, default?, Option.elim]
  | _ =>
    simp only [read, Environment.natural, Environment.integer, Environment.optional, h, default?,
      Option.elim]

theorem isSetTo_iff {env : Environment} {v : Variable} {raw : String} :
    v.IsSetTo env raw ↔ env.get? v.key = some raw := by
  simp only [IsSetTo, Environment.get?, Option.bind_eq_some_iff, Utf8.toString?_eq_some_iff,
    exists_eq_right]

theorem parse?_eq_none_iff {raw : String} {v : Variable} :
    v.parse? raw = none ↔ ∀ value, ¬ v.Denotes raw value := by
  simp only [Option.eq_none_iff_forall_ne_some, ne_eq, parse?_eq_some_iff]

variable {env : Environment} {v : Variable}

theorem get?_eq_none_iff {env : Environment} {v : Variable} :
    env.get? v.key = none ↔ ∀ raw, ¬ v.IsSetTo env raw := by
  simp only [Option.eq_none_iff_forall_ne_some, ne_eq, isSetTo_iff]

variable {env : Environment} {v : Variable}

theorem read_eq_ok_iff {value : v.Value} : v.read env = .ok value ↔ Settles env v value := by
  constructor
  · intro h
    cases hget : env.get? v.key with
    | some raw =>
      rw [read_of_get? hget] at h
      cases hparse : v.parse? raw with
      | some a =>
        rw [hparse] at h
        exact .text (isSetTo_iff.mpr hget) (parse?_eq_some_iff.mp (Except.ok.inj h ▸ hparse))
      | none =>
        rw [hparse] at h
        cases h
    | none =>
      rw [read_of_get?_eq_none hget] at h
      cases hdefault : v.default? with
      | some a =>
        rw [hdefault] at h
        exact .default (get?_eq_none_iff.mp hget) (Except.ok.inj h ▸ hdefault)
      | none =>
        rw [hdefault] at h
        cases h
  · rintro (⟨set, denotes⟩ | ⟨unset, default⟩)
    · rw [read_of_get? (isSetTo_iff.mp set), parse?_eq_some_iff.mpr denotes]
      rfl
    · rw [read_of_get?_eq_none (get?_eq_none_iff.mpr unset), default]
      rfl

theorem fault_of_required (h : v.default? = none) (raw : String) :
    v.fault raw = .missing v.key := by
  rw [fault, h]
  rfl

theorem fault_of_optional (h : v.default? ≠ none) (raw : String) :
    v.fault raw = .invalid v.key raw := by
  rw [fault, if_neg (by simpa using h)]

theorem faulty_of_unfit {raw : String} (hset : v.IsSetTo env raw)
    (hunfit : ∀ value, ¬ v.Denotes raw value) : Faulty env v (v.fault raw) := by
  by_cases hdefault : v.default? = none
  · rw [fault_of_required hdefault]
    refine .missing hdefault fun raw' hset' => ?_
    obtain rfl : raw = raw' :=
      Option.some.inj ((isSetTo_iff.mp hset).symm.trans (isSetTo_iff.mp hset'))
    exact hunfit
  · rw [fault_of_optional hdefault]
    exact .invalid hdefault hset hunfit

theorem faulty_of_read {e : SettingsError} (h : v.read env = .error e) : Faulty env v e := by
  cases hget : env.get? v.key with
  | some raw =>
    rw [read_of_get? hget] at h
    cases hparse : v.parse? raw with
    | some a =>
      rw [hparse] at h
      cases h
    | none =>
      rw [hparse] at h
      exact Except.error.inj h ▸
        faulty_of_unfit (isSetTo_iff.mpr hget) (parse?_eq_none_iff.mp hparse)
  | none =>
    rw [read_of_get?_eq_none hget] at h
    cases hdefault : v.default? with
    | some a =>
      rw [hdefault] at h
      cases h
    | none =>
      rw [hdefault] at h
      obtain rfl := Except.error.inj h
      exact .missing hdefault fun raw hset => absurd hset (get?_eq_none_iff.mp hget raw)

/-- The fault of a variable is found if it does not settle its setting. -/
theorem read_eq_error_iff {e : SettingsError} : v.read env = .error e ↔ Faulty env v e := by
  refine ⟨faulty_of_read, ?_⟩
  rintro (⟨required, unfit⟩ | ⟨optional, set, unfit⟩)
  · cases hget : env.get? v.key with
    | some raw =>
      have hparse := parse?_eq_none_iff.mpr (unfit raw (isSetTo_iff.mpr hget))
      rw [read_of_get? hget, hparse, fault_of_required required]
      rfl
    | none =>
      rw [read_of_get?_eq_none hget, required]
      rfl
  · rw [read_of_get? (isSetTo_iff.mp set), parse?_eq_none_iff.mpr unfit,
      fault_of_optional optional]
    rfl

/-! ## Reading all variables -/

/-- The fault that is found at a variable. -/
def fault? (env : Environment) (v : Variable) : Option SettingsError :=
  match v.read env with
  | .ok _ => none
  | .error e => some e

theorem fault?_eq_some_iff {e : SettingsError} : v.fault? env = some e ↔ Faulty env v e := by
  rw [← read_eq_error_iff, fault?]
  cases v.read env <;> simp

theorem fault?_eq_none_iff : v.fault? env = none ↔ ∃ value, Settles env v value := by
  simp only [← read_eq_ok_iff, fault?]
  cases v.read env <;> simp

/-- What is found in one variable after the other: the first fault, or none. -/
theorem bind_eq_error_iff {α : Type} {vs : List Variable} {k : v.Value → Except SettingsError α}
    {e : SettingsError} (h : ∀ value, k value = .error e ↔ vs.findSome? (fault? env) = some e) :
    v.read env >>= k = .error e ↔ (v :: vs).findSome? (fault? env) = some e := by
  rw [List.findSome?_cons, fault?]
  cases v.read env with
  | error e' =>
    show Except.error e' = .error e ↔ some e' = some e
    simp
  | ok value => exact h value

end Variable

variable {env : Environment}

open Variable (bind_eq_error_iff fault? fault?_eq_some_iff fault?_eq_none_iff)

theorem read_eq (env : Environment) : read env = (do
    let databaseUrl ← Variable.read env .databaseUrl
    let secretKey ← Variable.read env .secretKey
    let tcpPort ← Variable.read env .tcpPort
    let maxConnections ← Variable.read env .maxConnections
    let accessTokenMinutes ← Variable.read env .accessTokenMinutes
    let refreshTokenDays ← Variable.read env .refreshTokenDays
    let loginErrorLimit ← Variable.read env .loginErrorLimit
    let loginErrorWindowSeconds ← Variable.read env .loginErrorWindowSeconds
    let logLevel ← Variable.read env .logLevel
    let secureCookies ← Variable.read env .secureCookies
    return { databaseUrl, secretKey, tcpPort, maxConnections, accessTokenMinutes, refreshTokenDays,
             loginErrorLimit, loginErrorWindowSeconds, logLevel, secureCookies }) :=
  rfl

theorem bind_eq_ok_iff {α β : Type} {r : Except SettingsError α} {k : α → Except SettingsError β}
    {b : β} : r >>= k = .ok b ↔ ∃ a, r = .ok a ∧ k a = .ok b := by
  cases r <;> simp [bind, Except.bind]

/-- Settings are read if every variable settles its own. -/
theorem read_eq_ok_iff {s : Settings} :
    read env = .ok s ↔ ∀ v : Variable, v.Settles env (v.field s) := by
  simp only [← Variable.read_eq_ok_iff, read_eq, bind_eq_ok_iff]
  constructor
  · rintro ⟨_, h₁, _, h₂, _, h₃, _, h₄, _, h₅, _, h₆, _, h₇, _, h₈, _, h₉, _, h₁₀, ⟨⟩⟩ v
    cases v <;> assumption
  · intro h
    exact ⟨_, h .databaseUrl, _, h .secretKey, _, h .tcpPort, _, h .maxConnections, _,
      h .accessTokenMinutes, _, h .refreshTokenDays, _, h .loginErrorLimit, _,
      h .loginErrorWindowSeconds, _, h .logLevel, _, h .secureCookies, rfl⟩

/-- The fault that is reported is that of the first variable that does not settle its setting. -/
theorem read_eq_error_iff {e : SettingsError} : read env = .error e ↔
    ∃ before v after, Variable.all = before ++ v :: after ∧ v.Faulty env e ∧
      ∀ u ∈ before, ∃ value, u.Settles env value := by
  have hfirst : read env = .error e ↔ Variable.all.findSome? (fault? env) = some e := by
    rw [read_eq]
    refine bind_eq_error_iff fun _ => bind_eq_error_iff fun _ => bind_eq_error_iff fun _ =>
      bind_eq_error_iff fun _ => bind_eq_error_iff fun _ => bind_eq_error_iff fun _ =>
      bind_eq_error_iff fun _ => bind_eq_error_iff fun _ => bind_eq_error_iff fun _ =>
      bind_eq_error_iff fun _ => ?_
    simp [pure, Except.pure]
  rw [hfirst, List.findSome?_eq_some_iff]
  simp only [fault?_eq_some_iff, fault?_eq_none_iff]

/-- A variable settles one setting, and no other variable has a part in it. -/
theorem Variable.Settles.unique {env env' : Environment} {v : Variable} {value value' : v.Value}
    (h : v.Settles env value) (h' : v.Settles env' value') (heq : env v.key = env' v.key) :
    value = value' := by
  have hset : ∀ raw, v.IsSetTo env raw ↔ v.IsSetTo env' raw := by
    simp only [IsSetTo, heq, implies_true]
  have h' : v.Settles env value' := by
    cases h' with
    | text set denotes => exact .text ((hset _).mpr set) denotes
    | default unset default => exact .default (fun raw h => unset raw ((hset raw).mp h)) default
  rw [← Variable.read_eq_ok_iff] at h h'
  exact Except.ok.inj (h.symm.trans h')

theorem Variable.exists_settles_iff {v : Variable} : (∃ value, v.Settles env value) ↔
    (v.default? = none → ∃ raw value, v.IsSetTo env raw ∧ v.Denotes raw value) ∧
      ∀ raw, v.default? ≠ none → v.IsSetTo env raw → ∃ value, v.Denotes raw value := by
  rw [← fault?_eq_none_iff, Option.eq_none_iff_forall_ne_some]
  simp only [ne_eq, fault?_eq_some_iff]
  constructor
  · intro h
    constructor
    · intro hrequired
      by_contra hnone
      push Not at hnone
      exact h _ (.missing hrequired fun raw hset value => hnone raw value hset)
    · intro raw hoptional hset
      by_contra hnone
      exact h _ (.invalid hoptional hset (not_exists.mp hnone))
  · rintro ⟨hrequired, hoptional⟩ e (⟨hnone, hunfit⟩ | ⟨hsome, hset, hunfit⟩)
    · obtain ⟨raw, value, hset, hdenotes⟩ := hrequired hnone
      exact hunfit raw hset value hdenotes
    · obtain ⟨value, hdenotes⟩ := hoptional _ hsome hset
      exact hunfit value hdenotes

/-- There are settings if every variable that has to be set is set to a text that will do, and every
other variable is, if it is set to a text at all. -/
theorem exists_read_eq_ok_iff : (∃ s, read env = .ok s) ↔
    (∀ v : Variable, v.default? = none → ∃ raw value, v.IsSetTo env raw ∧ v.Denotes raw value) ∧
      ∀ (v : Variable) (raw : String), v.default? ≠ none → v.IsSetTo env raw →
        ∃ value, v.Denotes raw value := by
  have hall : (∃ s, read env = .ok s) ↔ ∀ v : Variable, ∃ value, v.Settles env value := by
    constructor
    · rintro ⟨s, hs⟩ v
      exact ⟨_, read_eq_ok_iff.mp hs v⟩
    · intro h
      cases hread : read env with
      | ok s => exact ⟨s, rfl⟩
      | error e =>
        obtain ⟨-, v, -, -, hfaulty, -⟩ := read_eq_error_iff.mp hread
        have hnone := fault?_eq_none_iff.mpr (h v)
        rw [fault?_eq_some_iff.mpr hfaulty] at hnone
        cases hnone
  rw [hall, ← forall_and]
  simp only [Variable.exists_settles_iff]

/-- Settings are read if every variable settles its own, and no other variable has a part in one.
Else the fault of the first variable that does not is reported. -/
theorem settings_read_exactly (env : Environment) :
    (∀ s, read env = .ok s ↔ ∀ v : Variable, v.Settles env (v.field s)) ∧
    ((∃ s, read env = .ok s) ↔
      (∀ v : Variable, v.default? = none → ∃ raw value, v.IsSetTo env raw ∧ v.Denotes raw value) ∧
        ∀ (v : Variable) (raw : String), v.default? ≠ none → v.IsSetTo env raw →
          ∃ value, v.Denotes raw value) ∧
    (∀ e, read env = .error e ↔ ∃ before v after, Variable.all = before ++ v :: after ∧
      v.Faulty env e ∧ ∀ u ∈ before, ∃ value, u.Settles env value) ∧
    ∀ (env' : Environment) (s s' : Settings), read env = .ok s → read env' = .ok s' →
      ∀ v : Variable, env v.key = env' v.key → v.field s = v.field s' :=
  ⟨fun _ => read_eq_ok_iff, exists_read_eq_ok_iff, fun _ => read_eq_error_iff,
    fun _ _ _ h h' v heq => (read_eq_ok_iff.mp h v).unique (read_eq_ok_iff.mp h' v) heq⟩

/-- Blanks around what is written, a sign, a word in odd case, and a level that is no text. -/
def paddedEnvironment : Environment := fun key =>
  [("DATABASE_URL", Utf8.ofString " postgres://db"), ("SECRET_KEY", Utf8.ofString "key\n"),
    ("PORT", Utf8.ofString "\u3000+00443 "), ("ACCESS_TOKEN_EXPIRE_MINUTES", Utf8.ofString "-0"),
    ("REFRESH_TOKEN_EXPIRE_DAYS", Utf8.ofString "-9223372036854775808"),
    ("LOG_LEVEL", [0xFF]), ("COOKIE_SECURE", Utf8.ofString "oN\t")].lookup key

def paddedSettings : Settings where
  databaseUrl := " postgres://db"
  secretKey := "key\n"
  tcpPort := 443
  maxConnections := 5
  accessTokenMinutes := 0
  refreshTokenDays := -9223372036854775808
  loginErrorLimit := 5
  loginErrorWindowSeconds := 86400
  logLevel := .info
  secureCookies := true

/-- The same, but for a number that is one too large and a word that is none of the eight. -/
def overfullEnvironment : Environment := fun key =>
  if key = "COOKIE_SECURE" then some (Utf8.ofString "maybe")
  else if key = "PORT" then some (Utf8.ofString " 65536")
  else paddedEnvironment key

theorem settings_read_from_paddedEnvironment :
    (read paddedEnvironment = .ok paddedSettings ∧
      Variable.Settles paddedEnvironment .logLevel LogLevel.info) ∧
    read overfullEnvironment = .error (.invalid "PORT" " 65536") ∧
      ∃ before v after, Variable.all = before ++ v :: after ∧
        v.Faulty overfullEnvironment (.invalid "PORT" " 65536") ∧
        ∀ u ∈ before, ∃ value, u.Settles overfullEnvironment value := by
  have hread : read paddedEnvironment = .ok paddedSettings := by decide +kernel
  have herror : read overfullEnvironment = .error (.invalid "PORT" " 65536") := by decide +kernel
  obtain ⟨hsettled, -, -, -⟩ := settings_read_exactly paddedEnvironment
  obtain ⟨-, -, hfault, -⟩ := settings_read_exactly overfullEnvironment
  exact ⟨⟨hread, (hsettled _).mp hread .logLevel⟩, herror, (hfault _).mp herror⟩

end Settings
end Parley
