import GpuControl.Config.Settings
import GpuControl.Proofs.Ring.Space
import GpuControl.Proofs.Text.Rendering

namespace GpuControl

open Text

/-- The settings that are numbers. -/
inductive NumericSetting where
  | computeRing
  | ringMargin
  | maxStreamWords
  | pollInterval
  | linkRetries
deriving DecidableEq, Repr

namespace NumericSetting

def all : List NumericSetting :=
  [.computeRing, .ringMargin, .maxStreamWords, .pollInterval, .linkRetries]

/-- The variable that sets it. -/
def name : NumericSetting → String
  | .computeRing => "NAVI_COMPUTE_RING"
  | .ringMargin => "NAVI_RING_MARGIN"
  | .maxStreamWords => "NAVI_MAX_STREAM_WORDS"
  | .pollInterval => "NAVI_POLL_INTERVAL_US"
  | .linkRetries => "NAVI_LINK_RETRIES"

/-- The largest number that the variable may hold. -/
def largest : NumericSetting → Nat
  | .computeRing => UInt8.size - 1
  | .ringMargin | .linkRetries => UInt32.size - 1
  | .maxStreamWords | .pollInterval => UInt64.size - 1

/-- What becomes of the number read from the variable. -/
def kept : NumericSetting → Nat → Nat
  | .ringMargin, n => max n 4
  | _, n => n

/-- The number in the configuration. -/
def get : NumericSetting → DriverConfig → Nat
  | .computeRing, config => config.computeRing.toNat
  | .ringMargin, config => config.ringMargin.toNat
  | .maxStreamWords, config => config.maxStreamWords
  | .pollInterval, config => config.pollMicroseconds
  | .linkRetries, config => config.linkRetries.toNat

/-- The number that the variable holds, if it is set to one in range. -/
def value? (setting : NumericSetting) (lookup : String → Option String) : Option Nat :=
  numericVariable (readNat 10 setting.largest) (lookup setting.name)

end NumericSetting

/-- The words for a yes and for a no. -/
def switchWords : Bool → List String
  | true => ["1", "true", "yes", "on"]
  | false => ["0", "false", "no", "off"]

/-- The text is one of the words for `set`, in any case and with blanks around it. -/
def Switches (text : List Char) (set : Bool) : Prop :=
  ∃ word, Padded word text ∧ String.ofList (word.map Char.toLower) ∈ switchWords set

/-- The variable for the strict alignment of base addresses. -/
def strictAlignmentName : String := "NAVI_STRICT_ALIGNMENT"

namespace DriverConfig

/-- The settings as variables: numbers in decimal, the poll interval in whole microseconds, and a
yes or no as a word. -/
def printed (config : DriverConfig) (name : String) : Option String :=
  if name = strictAlignmentName then some (toString config.strictAlignment)
  else (NumericSetting.all.find? (·.name = name)).map fun setting => (setting.get config).repr

/-- No variable sets these fields: register layout and window sizes are the defaults. -/
structure DefaultLayout (config : DriverConfig) : Prop where
  registers : config.registers = ({} : DriverConfig).registers
  registerWindowSize : config.registerWindowSize = ({} : DriverConfig).registerWindowSize
  apertureSize : config.apertureSize = ({} : DriverConfig).apertureSize
  doorbellSize : config.doorbellSize = ({} : DriverConfig).doorbellSize

end DriverConfig

variable {lookup other : String → Option String} {setting : NumericSetting} {value : Option String}
  {config config' : DriverConfig} {largest n : Nat} {word : List Char} {set : Bool}

theorem numericVariable_map {α : Type} (f : Nat → α) :
    numericVariable (fun cs => (readNat 10 largest cs).map f) value =
      (numericVariable (readNat 10 largest) value).map f := by
  cases value with
  | none => rfl
  | some text =>
    simp only [numericVariable, Option.bind_some]
    cases readNat 10 largest (trim text.toList) with
    | error e => rfl
    | ok n => rfl

/-- A variable holds the numbers in range that its text renders. -/
theorem numericVariable_eq_some_iff :
    numericVariable (readNat 10 largest) value = some n ↔
      ∃ text, value = some text ∧ Renders text.toList n ∧ n ≤ largest := by
  simp only [numericVariable, Option.bind_eq_some_iff, ← readNat_trim_eq_ok_iff]
  refine exists_congr fun text => and_congr_right fun _ => ?_
  cases readNat 10 largest (trim text.toList) with
  | error e => exact iff_of_false nofun nofun
  | ok m => simp [Except.toOption]

/-- What a setting takes from its variable: a value in range that the text renders. -/
theorem NumericSetting.value?_eq_some_iff :
    setting.value? lookup = some n ↔
      ∃ text, lookup setting.name = some text ∧ Renders text.toList n ∧ n ≤ setting.largest :=
  numericVariable_eq_some_iff

theorem NumericSetting.value?_le (hvalue : setting.value? lookup = some n) :
    n ≤ setting.largest := by
  obtain ⟨text, -, -, hle⟩ := value?_eq_some_iff.1 hvalue
  exact hle

theorem numericVariable_readUInt8 :
    numericVariable readUInt8 value =
      (numericVariable (readNat 10 (UInt8.size - 1)) value).map UInt8.ofNat :=
  numericVariable_map UInt8.ofNat

theorem numericVariable_readUInt32 :
    numericVariable readUInt32 value =
      (numericVariable (readNat 10 (UInt32.size - 1)) value).map UInt32.ofNat :=
  numericVariable_map UInt32.ofNat

/-- Every number in a configuration is the one that its variable holds, else the default. -/
theorem NumericSetting.get_fromLookup (setting : NumericSetting) (lookup : String → Option String) :
    setting.get (.fromLookup lookup) =
      ((setting.value? lookup).map setting.kept).getD (setting.get {}) := by
  cases hvalue : setting.value? lookup with
  | none =>
    cases setting <;> simp only [value?, name, largest] at hvalue <;>
      simp only [get, DriverConfig.fromLookup, numericVariable_readUInt8,
        numericVariable_readUInt32, hvalue, Option.map_none, Option.getD_none]
  | some n =>
    -- the word of a field holds every number that its variable may hold
    have hle := value?_le hvalue
    cases setting <;> simp only [value?, name, largest] at hvalue hle <;>
      simp only [get, kept, DriverConfig.fromLookup, numericVariable_readUInt8,
        numericVariable_readUInt32, hvalue, Option.map_some, Option.getD_some,
        toNat_atLeastOneDword]
    case computeRing => exact UInt8.toNat_ofNat_of_lt' (Nat.lt_of_le_pred (by decide) hle)
    case ringMargin =>
      rw [UInt32.toNat_ofNat_of_lt' (Nat.lt_of_le_pred (by decide) hle)]
    case linkRetries => exact UInt32.toNat_ofNat_of_lt' (Nat.lt_of_le_pred (by decide) hle)

/-- Whatever way a value is rendered, the setting keeps it. -/
theorem NumericSetting.get_of_renders {text : String} (hset : lookup setting.name = some text)
    (hrenders : Renders text.toList n) (hle : n ≤ setting.largest) :
    setting.get (.fromLookup lookup) = setting.kept n := by
  have hvalue : setting.value? lookup = some n := value?_eq_some_iff.2 ⟨text, hset, hrenders, hle⟩
  rw [get_fromLookup, hvalue, Option.map_some, Option.getD_some]

/-- A variable that renders no value in range is as good as unset. -/
theorem NumericSetting.get_of_not_renders
    (hnone : ∀ text n, lookup setting.name = some text → n ≤ setting.largest →
      ¬Renders text.toList n) :
    setting.get (.fromLookup lookup) = setting.get {} := by
  have hvalue : setting.value? lookup = none := by
    rw [Option.eq_none_iff_forall_ne_some]
    intro n hsome
    obtain ⟨text, hset, hrenders, hle⟩ := value?_eq_some_iff.1 hsome
    exact hnone text n hset hle hrenders
  rw [get_fromLookup, hvalue, Option.map_none, Option.getD_none]

/-- Whatever the variables hold, every number of the configuration is in range of its own variable
and stays as it is when it is set again. -/
theorem NumericSetting.get_fromLookup_settled (setting : NumericSetting)
    (lookup : String → Option String) :
    setting.get (.fromLookup lookup) ≤ setting.largest ∧
      setting.kept (setting.get (.fromLookup lookup)) = setting.get (.fromLookup lookup) := by
  rw [get_fromLookup]
  cases hvalue : setting.value? lookup with
  | none => cases setting <;> decide
  | some n =>
    have hle := value?_le hvalue
    rw [Option.map_some, Option.getD_some]
    cases setting with
    | ringMargin =>
      have hfloor : 4 ≤ NumericSetting.ringMargin.largest := by decide
      exact ⟨Nat.max_le.2 ⟨hle, hfloor⟩, Nat.max_eq_left (Nat.le_max_right n 4)⟩
    | computeRing | maxStreamWords | pollInterval | linkRetries => exact ⟨hle, rfl⟩

/-- The words for yes and no have no blanks in them, so trimming leaves them whole. -/
theorem not_blank_of_switchWords (hword : String.ofList (word.map Char.toLower) ∈ switchWords set) :
    (∀ c ∈ word, isBlank c = false) ∧ word ≠ [] := by
  have hwords : ∀ set, ∀ known ∈ switchWords set,
      known.toList.any isBlank = false ∧ known.toList.isEmpty = false := by decide
  obtain ⟨hvisible, hne⟩ := hwords set _ hword
  rw [String.toList_ofList] at hvisible hne
  refine ⟨fun c hc => ?_, ?_⟩
  -- a blank is no capital letter, so it would still stand in the word in small letters
  · by_contra hblank
    rw [Bool.not_eq_false] at hblank
    have hlower := List.any_eq_false.1 hvisible c.toLower (List.mem_map_of_mem hc)
    rw [toLower_of_isBlank hblank] at hlower
    exact hlower hblank
  · rintro rfl
    cases hne

theorem readSwitch_eq_some_iff_mem {text : List Char} :
    readSwitch text = some set ↔
      String.ofList ((trim text).map Char.toLower) ∈ switchWords set := by
  have hapart : ∀ known ∈ switchWords false, known ∉ switchWords true := by decide
  unfold readSwitch
  dsimp only
  split
  case isTrue hyes =>
    cases set with
    | true => exact iff_of_true rfl hyes
    | false => exact iff_of_false nofun fun hno => hapart _ hno hyes
  case isFalse hyes =>
  split
  case isTrue hno =>
    cases set with
    | true => exact iff_of_false nofun hyes
    | false => exact iff_of_true rfl hno
  case isFalse hno =>
    cases set with
    | true => exact iff_of_false nofun hyes
    | false => exact iff_of_false nofun hno

/-- A yes or no is read from its words and from nothing else. -/
theorem readSwitch_eq_some_iff {text : List Char} :
    readSwitch text = some set ↔ Switches text set := by
  rw [readSwitch_eq_some_iff_mem]
  constructor
  · intro hknown
    exact ⟨_, padded_trim text, hknown⟩
  · rintro ⟨word, hpadded, hknown⟩
    obtain ⟨hvisible, hne⟩ := not_blank_of_switchWords hknown
    rwa [trim_eq_of_padded hpadded hvisible hne]

namespace DriverConfig

theorem strictAlignment_fromLookup (lookup : String → Option String) :
    (fromLookup lookup).strictAlignment =
      ((lookup strictAlignmentName).bind fun text => readSwitch text.toList).getD false :=
  rfl

/-- Each of the words for yes and no sets the switch. -/
theorem strictAlignment_of_switches {text : String} (hset : lookup strictAlignmentName = some text)
    (hswitches : Switches text.toList set) : (fromLookup lookup).strictAlignment = set := by
  rw [strictAlignment_fromLookup, hset, Option.bind_some, readSwitch_eq_some_iff.2 hswitches,
    Option.getD_some]

/-- Any other text leaves the switch at its default. -/
theorem strictAlignment_of_not_switches
    (hnone : ∀ text set, lookup strictAlignmentName = some text → ¬Switches text.toList set) :
    (fromLookup lookup).strictAlignment = false := by
  have hunread : ((lookup strictAlignmentName).bind fun text => readSwitch text.toList) = none := by
    rw [Option.eq_none_iff_forall_ne_some]
    intro set hsome
    obtain ⟨text, hset, hread⟩ := Option.bind_eq_some_iff.1 hsome
    exact hnone text set hset (readSwitch_eq_some_iff.1 hread)
  rw [strictAlignment_fromLookup, hunread, Option.getD_none]

/-- No variable reaches the register layout or the sizes of the windows. -/
theorem defaultLayout_fromLookup (lookup : String → Option String) :
    (fromLookup lookup).DefaultLayout :=
  ⟨rfl, rfl, rfl, rfl⟩

/-- A number of microseconds leaves nothing below one. -/
theorem pollNanoseconds_fromLookup (lookup : String → Option String) :
    (fromLookup lookup).pollNanoseconds = 0 :=
  rfl

/-- Every setting is printed under its own name. -/
theorem printed_name (config : DriverConfig) (setting : NumericSetting) :
    config.printed setting.name = some (setting.get config).repr := by
  cases setting <;> rfl

theorem printed_strictAlignmentName (config : DriverConfig) :
    config.printed strictAlignmentName = some (toString config.strictAlignment) :=
  rfl

/-- The numbers, the yes or no and the layout make up a configuration. -/
theorem eq_of_get (hget : ∀ setting : NumericSetting, setting.get config = setting.get config')
    (hstrict : config.strictAlignment = config'.strictAlignment)
    (hwhole : config.pollNanoseconds = config'.pollNanoseconds) (hlayout : config.DefaultLayout)
    (hlayout' : config'.DefaultLayout) : config = config' := by
  cases config
  cases config'
  rw [mk.injEq]
  exact ⟨UInt8.toNat_inj.1 (hget .computeRing), UInt32.toNat_inj.1 (hget .ringMargin),
    hget .maxStreamWords, hget .pollInterval, hwhole, UInt32.toNat_inj.1 (hget .linkRetries),
    hstrict, hlayout.registerWindowSize.trans hlayout'.registerWindowSize.symm,
    hlayout.apertureSize.trans hlayout'.apertureSize.symm,
    hlayout.doorbellSize.trans hlayout'.doorbellSize.symm,
    hlayout.registers.trans hlayout'.registers.symm⟩

/-- A switch is printed as a word that it is read from. -/
theorem switches_toString (set : Bool) : Switches (toString set).toList set := by
  rw [← readSwitch_eq_some_iff]
  cases set <;> rfl

theorem minRingMargin_le_iff {margin : UInt32} :
    minRingMargin ≤ margin ↔ NumericSetting.ringMargin.kept margin.toNat = margin.toNat := by
  rw [UInt32.le_iff_toNat_le]
  exact max_eq_left_iff.symm

/-- The types of most fields keep their values in range; stream words and poll interval are not so
bounded. -/
theorem get_le_largest (hwords : config.maxStreamWords < UInt64.size)
    (hpoll : config.pollMicroseconds < UInt64.size) (setting : NumericSetting) :
    setting.get config ≤ setting.largest := by
  cases setting with
  | computeRing => exact Nat.le_pred_of_lt config.computeRing.toNat_lt
  | ringMargin => exact Nat.le_pred_of_lt config.ringMargin.toNat_lt
  | maxStreamWords => exact Nat.le_pred_of_lt hwords
  | pollInterval => exact Nat.le_pred_of_lt hpoll
  | linkRetries => exact Nat.le_pred_of_lt config.linkRetries.toNat_lt

/-- A configuration is reproduced by printing it and reading it back if and only if the variables
can say all of it. -/
theorem fromLookup_printed_iff :
    fromLookup config.printed = config ↔
      config.DefaultLayout ∧ minRingMargin ≤ config.ringMargin ∧
        config.maxStreamWords < UInt64.size ∧ config.pollMicroseconds < UInt64.size ∧
        config.pollNanoseconds = 0 := by
  constructor
  · intro hsame
    have hsettled := fun setting => NumericSetting.get_fromLookup_settled setting config.printed
    have hlayout := defaultLayout_fromLookup config.printed
    have hwhole := pollNanoseconds_fromLookup config.printed
    rw [hsame] at hsettled hlayout hwhole
    exact ⟨hlayout, minRingMargin_le_iff.2 (hsettled .ringMargin).2,
      Nat.lt_of_le_pred (by decide) (hsettled .maxStreamWords).1,
      Nat.lt_of_le_pred (by decide) (hsettled .pollInterval).1, hwhole⟩
  · rintro ⟨hlayout, hmargin, hwords, hpoll, hwhole⟩
    have hkept : ∀ setting : NumericSetting,
        setting.kept (setting.get config) = setting.get config := by
      intro setting
      cases setting with
      | ringMargin => exact minRingMargin_le_iff.1 hmargin
      | computeRing | maxStreamWords | pollInterval | linkRetries => rfl
    have hget : ∀ setting : NumericSetting,
        setting.get (fromLookup config.printed) = setting.get config := by
      intro setting
      rw [NumericSetting.get_of_renders (config.printed_name setting) (renders_repr _)
        (get_le_largest hwords hpoll setting), hkept]
    have hstrict : (fromLookup config.printed).strictAlignment = config.strictAlignment :=
      strictAlignment_of_switches config.printed_strictAlignmentName (switches_toString _)
    exact eq_of_get hget hstrict hwhole.symm (defaultLayout_fromLookup _) hlayout

end DriverConfig

/-- A call that makes a configuration or changes one. -/
inductive ConfigCall where
  | fromLookup (lookup : String → Option String)
  | computeRing (ring : UInt8)
  | ringMargin (margin : UInt32)
  | maxStreamWords (words : Nat)
  | pollInterval (nanoseconds : Nat)
  | linkRetries (retries : UInt32)
  | strictAlignment (strict : Bool)
  | windowSizes (registerWindow aperture doorbell : Nat)
  | registers (map : RegisterMap)

namespace ConfigCall

def perform (config : DriverConfig) : ConfigCall → DriverConfig
  | .fromLookup lookup => .fromLookup lookup
  | .computeRing ring => config.withComputeRing ring
  | .ringMargin margin => config.withRingMargin margin
  | .maxStreamWords words => config.withMaxStreamWords words
  | .pollInterval nanoseconds => config.withPollInterval nanoseconds
  | .linkRetries retries => config.withLinkRetries retries
  | .strictAlignment strict => config.withStrictAlignment strict
  | .windowSizes registerWindow aperture doorbell =>
    config.withWindowSizes registerWindow aperture doorbell
  | .registers map => config.withRegisters map

/-- The configuration after the calls, which begin with the defaults. -/
def run (calls : List ConfigCall) : DriverConfig :=
  calls.foldl perform {}

/-- No single call takes the margin below one dword, whatever it is given. -/
theorem minRingMargin_le_perform (hmargin : minRingMargin ≤ config.ringMargin) (call : ConfigCall) :
    minRingMargin ≤ (perform config call).ringMargin := by
  cases call with
  | fromLookup lookup =>
    exact DriverConfig.minRingMargin_le_iff.2
      (NumericSetting.get_fromLookup_settled .ringMargin lookup).2
  | ringMargin margin =>
    rw [UInt32.le_iff_toNat_le]
    exact (Nat.le_max_right margin.toNat 4).trans_eq (toNat_atLeastOneDword margin).symm
  | computeRing | maxStreamWords | pollInterval | linkRetries | strictAlignment | windowSizes
  | registers => exact hmargin

theorem minRingMargin_le_run (calls : List ConfigCall) :
    minRingMargin ≤ (run calls).ringMargin := by
  have hfold : ∀ config : DriverConfig, minRingMargin ≤ config.ringMargin →
      minRingMargin ≤ (calls.foldl perform config).ringMargin := by
    induction calls with
    | nil => exact fun config hmargin => hmargin
    | cons call calls ih => exact fun config hmargin => ih _ (minRingMargin_le_perform hmargin call)
  exact hfold {} (by decide)

end ConfigCall

/-- The settings made from variables, for every source of variables: a field depends on its own
variable alone and on nothing if it has none; a number comes from every rendering of a value in
range and from nothing else, a yes or no from its words and from nothing else. Printed settings are
read back as they are, if and only if the variables can say them. No series of calls takes the
margin below one dword. -/
theorem DriverConfig.fromLookup_exact (lookup : String → Option String) :
    (∀ other,
      (∀ setting : NumericSetting, lookup setting.name = other setting.name →
        setting.get (fromLookup lookup) = setting.get (fromLookup other)) ∧
      (lookup strictAlignmentName = other strictAlignmentName →
        (fromLookup lookup).strictAlignment = (fromLookup other).strictAlignment)) ∧
    (fromLookup lookup).DefaultLayout ∧ (fromLookup lookup).pollNanoseconds = 0 ∧
    (∀ setting : NumericSetting,
      (∀ text n, lookup setting.name = some text → Renders text.toList n → n ≤ setting.largest →
        setting.get (fromLookup lookup) = setting.kept n) ∧
      ((∀ text n, lookup setting.name = some text → n ≤ setting.largest → ¬Renders text.toList n) →
        setting.get (fromLookup lookup) = setting.get {})) ∧
    (∀ text set, lookup strictAlignmentName = some text → Switches text.toList set →
      (fromLookup lookup).strictAlignment = set) ∧
    ((∀ text set, lookup strictAlignmentName = some text → ¬Switches text.toList set) →
      (fromLookup lookup).strictAlignment = ({} : DriverConfig).strictAlignment) ∧
    (∀ config : DriverConfig, fromLookup config.printed = config ↔
      config.DefaultLayout ∧ minRingMargin ≤ config.ringMargin ∧
        config.maxStreamWords < UInt64.size ∧ config.pollMicroseconds < UInt64.size ∧
        config.pollNanoseconds = 0) ∧
    ∀ calls, minRingMargin ≤ (ConfigCall.run calls).ringMargin := by
  refine ⟨fun other => ⟨fun setting hname => ?_, fun hname => ?_⟩, defaultLayout_fromLookup lookup,
    pollNanoseconds_fromLookup lookup,
    fun setting => ⟨fun text n hset hrenders hle => ?_, fun hnone => ?_⟩,
    fun text set hset hswitches => ?_, strictAlignment_of_not_switches,
    fun config => fromLookup_printed_iff, ConfigCall.minRingMargin_le_run⟩
  · rw [setting.get_fromLookup, setting.get_fromLookup, NumericSetting.value?,
      NumericSetting.value?, hname]
  · rw [strictAlignment_fromLookup, strictAlignment_fromLookup, hname]
  · exact NumericSetting.get_of_renders hset hrenders hle
  · exact NumericSetting.get_of_not_renders hnone
  · exact strictAlignment_of_switches hset hswitches

/-- A margin of three bytes, written with blanks, a sign and zeros. -/
theorem DriverConfig.fromLookup_exact_sample :
    let lookup : String → Option String := fun name =>
      if name = "NAVI_RING_MARGIN" then some "\t+0003 " else none
    Renders "\t+0003 ".toList 3 ∧ NumericSetting.ringMargin.get (fromLookup lookup) = 4 ∧
      NumericSetting.computeRing.get (fromLookup lookup) = 1 := by
  intro lookup
  have hrenders : Renders "\t+0003 ".toList 3 :=
    ⟨['+'], 3, .inr rfl, ['\t'], [' '], List.forall_mem_singleton.2 rfl,
      List.forall_mem_singleton.2 rfl, rfl⟩
  obtain ⟨-, -, -, hnumber, -⟩ := fromLookup_exact lookup
  refine ⟨hrenders, (hnumber .ringMargin).1 _ 3 rfl hrenders (by decide), ?_⟩
  exact (hnumber .computeRing).2 fun text n hset => absurd hset nofun

/-- A poll interval of 2^64 microseconds is a setting like any other, but its variable does not take
it. -/
theorem DriverConfig.fromLookup_long_poll_sample :
    let config : DriverConfig := { pollMicroseconds := 2 ^ 64 }
    config.DefaultLayout ∧ minRingMargin ≤ config.ringMargin ∧
      (fromLookup config.printed).pollMicroseconds = 1000 ∧ fromLookup config.printed ≠ config := by
  intro config
  refine ⟨⟨rfl, rfl, rfl, rfl⟩, by decide, by decide +kernel, ?_⟩
  intro hsame
  have hpoll := (fromLookup_printed_iff.1 hsame).2.2.2.1
  exact absurd hpoll (by decide)

end GpuControl
