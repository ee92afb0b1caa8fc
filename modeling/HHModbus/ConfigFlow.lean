import HHModbus.ClientManager
import HHModbus.SolisConfig
import Mathlib.Data.List.DropRight

/-!
# The flows that configure a Solis entry

The user step, the reconfigure step and the options flow, with the forms whose submissions they
get and the check of the fast poll interval, and what a setup makes of the entry. The brand is set
by the user step, and no form of a Solis entry has it, so what the flows do for other brands is left
out.
-/
namespace HHModbus

open Transition

def ConfigKey.all : List ConfigKey := [
  .inverterBrand, .connectionType, .inverterSerial, .slave, .identification, .pollIntervalFast,
  .pollIntervalNormal, .pollIntervalSlow, .pollProfile, .essentialOnly, .extremeIncludeBattery,
  .extremeIncludeSmartPort, .suppressNightOfflineIssue, .clockSync, .model, .type, .connection,
  .hasV2, .hasPv, .hasBattery, .hasHvBattery, .hasGenerator, .hasAcCoupling, .hasParallel,
  .hasDualMeter, .hasEpm, .host, .port, .serialPort, .baudrate, .bytesize, .parity, .stopbits]

theorem ConfigKey.mem_all (k : ConfigKey) : k ∈ all := by
  cases k <;> decide

/-! ### Forms -/

namespace ConfigValue

def isText : ConfigValue → Bool
  | text _ => true
  | _ => false

def isFlag : ConfigValue → Bool
  | flag _ => true
  | _ => false

def isNumber : ConfigValue → Bool
  | number _ => true
  | _ => false

/-- `vol.All(int, vol.Range(min=...))`. -/
def atLeast (min : Int) : ConfigValue → Bool
  | number i => min ≤ i
  | _ => false

/-- `vol.In` for strings, and for numbers. -/
def isIn (options : List String) : ConfigValue → Bool
  | text s => s ∈ options
  | _ => false

def isNumberIn (options : List Int) : ConfigValue → Bool
  | number i => i ∈ options
  | _ => false

end ConfigValue

open ConfigValue

/-- The fields of a form. All of them are in what the form returns: those that are not required have
a default. Other keys are refused. -/
abbrev Schema := List (ConfigKey × (ConfigValue → Bool))

/-- Whether the form can return the dictionary. -/
def Schema.fits (schema : Schema) (input : Config) : Bool :=
  ConfigKey.all.all fun k =>
    match schema.lookup k, input k with
    | some valid, some v => valid v
    | none, none => true
    | _, _ => false

theorem Schema.fits_some {schema : Schema} {input : Config} (fits : schema.fits input = true)
    {k : ConfigKey} {valid : ConfigValue → Bool} (field : schema.lookup k = some valid) :
    ∃ v, input k = some v ∧ valid v = true := by
  have here := List.all_eq_true.mp fits k k.mem_all
  rw [field] at here
  split at here
  next valid' v same given =>
    cases same
    exact ⟨v, given, here⟩
  next same _ => cases same
  next => cases here

def connTypeTcp : String := "tcp"

def connTypeSerial : String := "serial"

def pollIntervalFastMin : Int := 10

def pollIntervalFastMinExtreme : Int := 2

def pollProfiles : List String := [PollProfile.full, .essential, .extreme].map PollProfile.key

/-- The fields about the inverter that the configuration and the options have in common. -/
def inverterFields : Schema := [
  (.pollIntervalFast, atLeast pollIntervalFastMinExtreme),
  (.pollIntervalNormal, atLeast 15),
  (.pollIntervalSlow, atLeast 30),
  (.pollProfile, isIn pollProfiles),
  (.extremeIncludeBattery, isFlag),
  (.extremeIncludeSmartPort, isFlag),
  (.suppressNightOfflineIssue, isFlag),
  (.clockSync, isFlag),
  (.model, isIn solisModels),
  (.hasV2, isFlag),
  (.hasPv, isFlag),
  (.hasBattery, isFlag),
  (.hasHvBattery, isFlag),
  (.hasGenerator, isFlag),
  (.hasAcCoupling, isFlag),
  (.hasParallel, isFlag),
  (.hasDualMeter, isFlag),
  (.hasEpm, isFlag)]

/-- The keys of `CONNECTION_METHOD`. -/
def connectionMethods : List String := ["S2_WL_ST", "WAVESHARE"]

/-- `_solis_config_schema`. -/
def solisConfigSchema (connectionType : String) : Schema :=
  [(.inverterSerial, isText), (.slave, isNumber), (.identification, isText)] ++ inverterFields ++
    if connectionType = connTypeTcp then
      [(.host, isText), (.port, isNumber), (.connection, isIn connectionMethods)]
    else
      [(.serialPort, isText), (.baudrate, isNumberIn [9600, 19200, 38400, 57600, 115200]),
        (.bytesize, isNumberIn [7, 8]), (.parity, isIn ["N", "E", "O"]),
        (.stopbits, isNumberIn [1, 2])]

/-- The form of the options flow. -/
def solisOptionsSchema : Schema := inverterFields ++ [(.connection, isIn connectionMethods)]

/-! ### The flows -/

/-- `entry.data` and `entry.options`. -/
structure ConfigEntry where
  data : Config
  options : Config

namespace ConfigEntry

def config (e : ConfigEntry) : Config := e.data.merge e.options

end ConfigEntry

/-- `_validate_poll_interval`, true where there is no error. -/
def validPollInterval (config : Config) : Bool :=
  let profile := (config.text? .pollProfile).getD PollProfile.full.key
  let floor := if profile = PollProfile.extreme.key then pollIntervalFastMinExtreme
    else pollIntervalFastMin
  match config .pollIntervalFast with
  | some (.number interval) => floor ≤ interval
  | _ => true

/-- What `str.strip` removes. -/
def pySpaces : List Char :=
  ['\t', '\n', '\x0b', '\x0c', '\r', '\x1c', '\x1d', '\x1e', '\x1f', ' ', '\u0085', '\u00a0',
    '\u1680', '\u2000', '\u2001', '\u2002', '\u2003', '\u2004', '\u2005', '\u2006', '\u2007',
    '\u2008', '\u2009', '\u200a', '\u2028', '\u2029', '\u202f', '\u205f', '\u3000']

/-- The characters without those at both ends that satisfy the test. -/
def stripWhere (p : Char → Bool) (s : List Char) : List Char :=
  (s.dropWhile p).rdropWhile p

def pyStrip (s : String) : String := String.ofList (stripWhere (· ∈ pySpaces) s.toList)

/-- What `clean_identification` makes of a character. Of the characters beyond ASCII only two have an
ASCII letter in what `str.lower` makes of them. -/
def cleanChar (c : Char) : List Char :=
  if c = '\u212a' then ['k']
  else if c = '\u0130' then ['i', '_']
  else if c.toLower.isLower || c.isDigit || c = '_' then [c.toLower]
  else ['_']

/-- Runs of underscores become one. -/
def collapseUnderscores : List Char → List Char
  | '_' :: '_' :: rest => collapseUnderscores ('_' :: rest)
  | c :: rest => c :: collapseUnderscores rest
  | [] => []

/-- `clean_identification`. -/
def cleanIdentification (iden : Option String) : Option String :=
  match iden with
  | none => none
  | some s =>
    if pyStrip s = "" then none
    else
      some (String.ofList (stripWhere (· = '_')
        (collapseUnderscores ((pyStrip s).toList.flatMap cleanChar))))

example : cleanIdentification (some " Garage-Nord 2 ") = some "garage_nord_2" := by decide +kernel

example : cleanIdentification (some "!!") = some "" := by decide +kernel

section Flows

-- `str.upper`.
variable (upper : String → String)

/-- A serial is stripped and put in capitals. -/
def normalizeSerial (config : Config) : Config :=
  match config.text? .inverterSerial with
  | some serial => config.set .inverterSerial (.text (upper (pyStrip serial)))
  | none => config

/-- What a flow makes of the identification and the serial it was given. -/
def normalize (config : Config) : Config :=
  normalizeSerial upper (config.set .identification
    (match cleanIdentification (config.text? .identification) with
      | some s => .text s
      | none => .null))

/-- `_validate_config`; `answers` says whether the inverter can be reached and answers the probe. -/
def validateConfig (config : Config) (answers : Bool) : Bool :=
  (inverterConfigOf config).isSome && validPollInterval config && answers

/-- What the first two steps of the user flow have fixed. -/
def chosen (connectionType : String) : Config
  | .inverterBrand => some (.text "solis")
  | .connectionType => some (.text connectionType)
  | _ => none

/-- `async_step_config` of a Solis entry that is being added. No other entry has its serial unless
`configured`. -/
def asyncStepConfig (connectionType : String) (input : Config) (answers configured : Bool) :
    Option ConfigEntry :=
  let fullConfig := normalize upper ((chosen connectionType).merge input)
  if (solisConfigSchema connectionType).fits input && validateConfig fullConfig answers &&
      !configured then
    some { data := fullConfig, options := fun _ => none }
  else none

/-- `async_step_reconfigure`. -/
def asyncStepReconfigure (e : ConfigEntry) (input : Config) (answers configured : Bool) :
    Option ConfigEntry :=
  let data := normalize upper (e.config.merge input)
  let connType := (e.config.text? .connectionType).getD connTypeTcp
  if (solisConfigSchema connType).fits input &&
      pyStrip ((data.text? .inverterSerial).getD "") != "" && data.flag .model false &&
      !configured && validPollInterval data && validateConfig data answers then
    -- The options lose what the form has set.
    some { data, options := fun k => if (input k).isSome then none else e.options k }
  else none

/-- `async_step_init` of the options flow. -/
def asyncStepInit (e : ConfigEntry) (input : Config) : Option ConfigEntry :=
  let merged := e.options.merge input
  if solisOptionsSchema.fits input && validPollInterval merged then
    some { e with options := merged }
  else none

inductive Submission where
  | reconfigure (input : Config) (answers configured : Bool)
  | options (input : Config)

/-- A submission; `none` if the flow does not accept it. -/
def submit (e : ConfigEntry) : Submission → Option ConfigEntry
  | .reconfigure input answers configured => asyncStepReconfigure upper e input answers configured
  | .options input => asyncStepInit e input

end Flows

/-! ### The setup -/

/-- What the setup of an entry uses. -/
structure SolisSetup where
  inverter : InverterConfig
  connection : Connection
  pollIntervalFast : Int
  /-- The profile in effect. -/
  pollProfile : PollProfile

/-- What the controller of an entry is constructed with. -/
def entryConnection (config : Config) : Connection :=
  let connectionType := (config.text? .connectionType).getD
    (if (config .host).isSome then connTypeTcp else connTypeSerial)
  if connectionType = connTypeTcp then
    .tcp ((config.text? .host).getD "") (match config .port with
      | some (.number port) => port.toNat
      | _ => 502)
  else .serial ((config.text? .serialPort).getD "/dev/ttyUSB0")

/-- `async_setup_entry` with `_setup_solis_entry`; `none` where it raises. -/
def asyncSetupEntry (e : ConfigEntry) : Option SolisSetup :=
  let config := e.config
  if (config.text? .inverterSerial).getD "" = "" || !(entryConnection config).valid then none
  else
    (inverterConfigOf config).map fun inverter =>
      { inverter
        connection := entryConnection config
        pollIntervalFast := match config .pollIntervalFast with
          | some (.number interval) => interval
          | _ => 5
        pollProfile := effectiveProfile inverter (getPollProfile config) }

/-- The floor that goes with a profile. -/
def PollProfile.floor : PollProfile → Int
  | .extreme => pollIntervalFastMinExtreme
  | _ => pollIntervalFastMin

/-! ### The floor of the fast poll interval -/

/-- The two keys that the check of the interval is about. -/
def intervalKeys : List ConfigKey := [.pollIntervalFast, .pollProfile]

theorem normalizeSerial_of_ne (upper : String → String) (config : Config) {k : ConfigKey}
    (other : k ≠ .inverterSerial) : normalizeSerial upper config k = config k := by
  rw [normalizeSerial]
  cases config.text? .inverterSerial with
  | none => rfl
  | some => exact Config.set_of_ne _ other _

theorem normalize_intervalKeys (upper : String → String) (config : Config) {k : ConfigKey}
    (member : k ∈ intervalKeys) : normalize upper config k = config k := by
  have identification : k ≠ .identification := by
    rintro rfl
    revert member
    decide
  have serial : k ≠ .inverterSerial := by
    rintro rfl
    revert member
    decide
  rw [normalize, normalizeSerial_of_ne upper _ serial, Config.set_of_ne _ identification]

/-- A profile and an interval that is long enough for it. -/
def Floored (config : Config) : Prop :=
  ∃ (profile : PollProfile) (interval : Int), config .pollProfile = some (.text profile.key) ∧
    config .pollIntervalFast = some (.number interval) ∧ profile.floor ≤ interval

theorem floored_of_valid {config : Config} (profile : PollProfile) (interval : Int)
    (chosen : config .pollProfile = some (.text profile.key))
    (given : config .pollIntervalFast = some (.number interval))
    (valid : validPollInterval config = true) : Floored config := by
  refine ⟨profile, interval, chosen, given, ?_⟩
  simp only [validPollInterval, Config.text?, chosen, given, Option.getD_some,
    decide_eq_true_eq] at valid
  cases profile with
  | full => exact valid
  | essential => exact valid
  | extreme => exact valid

/-- A form with the two fields returns values for them. -/
theorem intervalKeys_of_fits {schema : Schema} {input : Config} (fits : schema.fits input = true)
    (interval : schema.lookup .pollIntervalFast = some (atLeast pollIntervalFastMinExtreme))
    (profile : schema.lookup .pollProfile = some (isIn pollProfiles)) :
    ∃ (profile : PollProfile) (interval : Int), input .pollProfile = some (.text profile.key) ∧
      input .pollIntervalFast = some (.number interval) := by
  obtain ⟨v, given, number⟩ := Schema.fits_some fits interval
  obtain ⟨w, chosen, known⟩ := Schema.fits_some fits profile
  cases v with
  | number i =>
    cases w with
    | text s =>
      obtain ⟨p, _, rfl⟩ := List.mem_map.mp (of_decide_eq_true known)
      exact ⟨p, i, chosen, given⟩
    | number => cases known
    | flag => cases known
    | null => cases known
  | text => cases number
  | flag => cases number
  | null => cases number

theorem Floored.congr {config after : Config} (floored : Floored config)
    (same : ∀ k ∈ intervalKeys, after k = config k) : Floored after := by
  obtain ⟨profile, interval, chosen, given, floor⟩ := floored
  refine ⟨profile, interval, ?_, ?_, floor⟩
  · rw [same _ (by decide), chosen]
  · rw [same _ (by decide), given]

/-- What a form sets of the two keys is what has been checked. -/
theorem floored_of_fits {schema : Schema} {input checked : Config}
    (fits : schema.fits input = true)
    (interval : schema.lookup .pollIntervalFast = some (atLeast pollIntervalFastMinExtreme))
    (profile : schema.lookup .pollProfile = some (isIn pollProfiles))
    (valid : validPollInterval checked = true)
    (sets : ∀ k ∈ intervalKeys, (input k).isSome = true → checked k = input k) :
    Floored checked ∧ ∀ k ∈ intervalKeys, (input k).isSome = true := by
  obtain ⟨p, i, chosen, given⟩ := intervalKeys_of_fits fits interval profile
  have set_ : ∀ k ∈ intervalKeys, (input k).isSome = true := by
    intro k member
    rcases List.mem_pair.mp member with rfl | rfl
    · rw [given]
      rfl
    · rw [chosen]
      rfl
  refine ⟨floored_of_valid p i ?_ ?_ valid, set_⟩
  · rw [sets _ (by decide) (set_ _ (by decide)), chosen]
  · rw [sets _ (by decide) (set_ _ (by decide)), given]

variable {upper : String → String}

theorem asyncStepConfig_floored {connectionType : String} {input : Config}
    {answers configured : Bool} {e : ConfigEntry}
    (created : asyncStepConfig upper connectionType input answers configured = some e) :
    Floored e.config := by
  simp only [asyncStepConfig] at created
  split at created
  next accepted =>
    simp only [Bool.and_eq_true, validateConfig] at accepted
    obtain ⟨⟨fits, ⟨_, valid⟩, _⟩, _⟩ := accepted
    cases created
    refine (floored_of_fits fits rfl rfl valid fun k member given => ?_).1
    rw [normalize_intervalKeys upper _ member, Config.merge_apply, Option.or_of_isSome given]
  next => cases created

theorem submit_floored {e after : ConfigEntry} {submission : Submission}
    (accepted : submit upper e submission = some after) : Floored after.config := by
  cases submission with
  | reconfigure input answers configured =>
    simp only [submit, asyncStepReconfigure] at accepted
    split at accepted
    next checks =>
      simp only [Bool.and_eq_true] at checks
      obtain ⟨⟨⟨⟨⟨fits, _⟩, _⟩, _⟩, valid⟩, _⟩ := checks
      cases accepted
      have ⟨floored, given⟩ := floored_of_fits fits rfl rfl valid fun k member given => by
        rw [normalize_intervalKeys upper _ member, Config.merge_apply, Option.or_of_isSome given]
      -- The options no longer have the keys of the form.
      refine floored.congr fun k member => ?_
      simp only [ConfigEntry.config, Config.merge_apply, given k member, if_true, Option.none_or]
    next => cases accepted
  | options input =>
    simp only [submit, asyncStepInit] at accepted
    split at accepted
    next checks =>
      rw [Bool.and_eq_true] at checks
      cases accepted
      have sets (k : ConfigKey) (given : (input k).isSome = true) :
          e.options.merge input k = input k := by
        rw [Config.merge_apply, Option.or_of_isSome given]
      have ⟨floored, given⟩ := floored_of_fits checks.1 rfl rfl checks.2 fun k _ => sets k
      refine floored.congr fun k member => ?_
      have set_ := given k member
      simp only [ConfigEntry.config, Config.merge_apply, Option.or_of_isSome set_]
    next => cases accepted

theorem run_floored {connectionType : String} {input : Config} {answers configured : Bool}
    {e₀ e : ConfigEntry} {submissions : List Submission}
    (created : asyncStepConfig upper connectionType input answers configured = some e₀)
    (run : exec (submit upper) e₀ submissions = some e) : Floored e.config :=
  invariant (I := fun e => Floored e.config) (fun _ _ _ _ accepted => submit_floored accepted)
    (asyncStepConfig_floored created) run

theorem asyncSetupEntry_eq {e : ConfigEntry} {s : SolisSetup} (setup : asyncSetupEntry e = some s) :
    inverterConfigOf e.config = some s.inverter ∧
      s.pollProfile = effectiveProfile s.inverter (getPollProfile e.config) ∧
      ∀ interval, e.config .pollIntervalFast = some (.number interval) →
        s.pollIntervalFast = interval := by
  simp only [asyncSetupEntry] at setup
  split at setup
  next => cases setup
  next =>
    obtain ⟨inverter, found, rfl⟩ := Option.map_eq_some_iff.mp setup
    refine ⟨found, rfl, fun interval given => ?_⟩
    simp only [given]

/-- The extreme profile with a short interval, on an inverter that has no groups for it. -/
def ConfigEntry.TightString (e : ConfigEntry) : Prop :=
  getPollProfile e.config = .extreme ∧
    (∃ interval, e.config .pollIntervalFast = some (.number interval) ∧
      interval < pollIntervalFastMin) ∧
    ∃ inverter, inverterConfigOf e.config = some inverter ∧ inverter.isString = true

/-- **When the fast polls keep their floor**: a setup after any submissions keeps the floor of the
profile in effect unless the extreme profile with a short interval was chosen for a string
inverter. -/
theorem fastPoll_floored_iff {connectionType : String} {input : Config} {answers configured : Bool}
    {e₀ e : ConfigEntry} {submissions : List Submission} {s : SolisSetup}
    (created : asyncStepConfig upper connectionType input answers configured = some e₀)
    (run : exec (submit upper) e₀ submissions = some e) (setup : asyncSetupEntry e = some s) :
    s.pollProfile.floor ≤ s.pollIntervalFast ↔ ¬ e.TightString := by
  -- What was checked is the profile that was chosen; only the setup may fall back from it.
  obtain ⟨profile, interval, chosen, given, floor⟩ := run_floored created run
  obtain ⟨found, effective, uses⟩ := asyncSetupEntry_eq setup
  have profile_ : getPollProfile e.config = profile := by
    simp only [getPollProfile, Config.text?, chosen, Option.bind_some, PollProfile.ofKey?_key]
  have tight : e.TightString ↔
      profile = .extreme ∧ interval < pollIntervalFastMin ∧ s.inverter.isString = true := by
    simp only [ConfigEntry.TightString, profile_, given, found, Option.some.injEq,
      ConfigValue.number.injEq, exists_eq_left']
  rw [uses interval given, effective, profile_, effectiveProfile_eq, tight]
  cases profile with
  | full => simpa using floor
  | essential => simpa using floor
  | extreme =>
    by_cases string : s.inverter.isString = true
    · -- The profile in effect is the essential one, whose floor is higher.
      simp [string, PollProfile.floor]
    · simpa [string] using floor

/-- What the form returns for a hybrid or string inverter with the defaults left as they are. -/
def solisInput (model profile : String) (interval : Int) : Config
  | .inverterSerial => some (.text "110CA2213090008")
  | .slave => some (.number 1)
  | .identification => some (.text "")
  | .pollIntervalFast => some (.number interval)
  | .pollIntervalNormal => some (.number 15)
  | .pollIntervalSlow => some (.number 30)
  | .pollProfile => some (.text profile)
  | .extremeIncludeBattery | .extremeIncludeSmartPort | .suppressNightOfflineIssue =>
    some (.flag false)
  | .model => some (.text model)
  | .clockSync | .hasV2 | .hasPv | .hasBattery | .hasGenerator | .hasEpm => some (.flag true)
  | .hasHvBattery | .hasAcCoupling | .hasParallel | .hasDualMeter => some (.flag false)
  | .host => some (.text "192.168.1.20")
  | .port => some (.number 502)
  | .connection => some (.text "S2_WL_ST")
  | _ => none

/-- A string inverter, first added with the full profile, then reconfigured. -/
theorem fastPoll_floored_iff_reconfigured : ∃ e₀ e s,
    asyncStepConfig id "tcp" (solisInput "S6-GR1P" "full" 10) true false = some e₀ ∧
      exec (submit id) e₀ [.reconfigure (solisInput "S6-GR1P" "extreme" 12) true false] = some e ∧
      asyncSetupEntry e = some s ∧
      (s.pollProfile.floor ≤ s.pollIntervalFast ↔ ¬ e.TightString) := by
  have whole : ((asyncStepConfig id "tcp" (solisInput "S6-GR1P" "full" 10) true false).bind fun e =>
      (exec (submit id) e [.reconfigure (solisInput "S6-GR1P" "extreme" 12) true false]).bind
        asyncSetupEntry).isSome = true := by decide +kernel
  obtain ⟨s, made⟩ := Option.isSome_iff_exists.mp whole
  obtain ⟨e₀, created, made⟩ := Option.bind_eq_some_iff.mp made
  obtain ⟨e, run, setup⟩ := Option.bind_eq_some_iff.mp made
  exact ⟨e₀, e, s, created, run, setup, fastPoll_floored_iff created run setup⟩

/-- Added with the extreme profile, a string inverter is polled every two seconds. -/
theorem extreme_string_fast : ∃ e s,
    asyncStepConfig id "tcp" (solisInput "S6-GR1P" "extreme" 2) true false = some e ∧
      asyncSetupEntry e = some s ∧ s.pollProfile = .essential ∧ s.pollIntervalFast = 2 ∧
      ¬ s.pollProfile.floor ≤ s.pollIntervalFast := by
  have whole : ((asyncStepConfig id "tcp" (solisInput "S6-GR1P" "extreme" 2) true false).bind
      asyncSetupEntry).map (fun s => (s.pollProfile, s.pollIntervalFast)) =
        some (.essential, 2) := by decide +kernel
  obtain ⟨s, made, same⟩ := Option.map_eq_some_iff.mp whole
  obtain ⟨e, created, setup⟩ := Option.bind_eq_some_iff.mp made
  obtain ⟨profile, interval⟩ := Prod.mk.inj same
  refine ⟨e, s, created, setup, profile, interval, ?_⟩
  rw [profile, interval]
  decide

end HHModbus
