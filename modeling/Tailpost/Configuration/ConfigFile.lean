import Mathlib.Algebra.Group.Nat.Defs
import Mathlib.Data.List.Nodup
import Tailpost.Configuration.LoadConfig
import Tailpost.Text.Yaml

/-!
# Config files of one line per setting

What the YAML library is assumed to do with a config file whose lines each give
one setting at the top level, as a plain scalar and perhaps with a comment behind
it.  The settings are the ones an operator writes and the type of the source.  A
text field takes the scalar as it stands, or nothing when the scalar stands for no
value; an integer is read in decimal; an interval is a number with a unit, and one
that does not fit into a duration is an error.

Where a text with a newline or a further key got into such a file, less is assumed: a
second key in a line is an error, and the value of a text field ends with its line.
Nothing is assumed about any other file.

`unmarshal` is a function that behaves like this.
-/

namespace Tailpost.Configuration

open Tailpost.Yaml

/-! ## Intervals -/

/-- The units of a duration, without those below a millisecond. -/
inductive TimeUnit
  | ms
  | s
  | m
  | h
  deriving DecidableEq

namespace TimeUnit

/-- The unit as it is written. -/
def text : TimeUnit → List Char
  | ms => ['m', 's']
  | s => ['s']
  | m => ['m']
  | h => ['h']

/-- The duration of one unit. -/
def nanoseconds : TimeUnit → Nat
  | ms => 1000000
  | s => 1000000000
  | m => 60000000000
  | h => 3600000000000

/-- The unit with a text. -/
def parse (text : List Char) : Option TimeUnit :=
  [ms, s, m, h].find? fun unit => unit.text == text

@[simp]
theorem parse_text (unit : TimeUnit) : parse unit.text = some unit := by
  cases unit <;> rfl

end TimeUnit

/-- A decimal number with a unit. -/
structure Interval where
  digits : List Char
  unit : TimeUnit
  given : digits ≠ []
  decimal : ∀ c ∈ digits, c.isDigit = true

namespace Interval

/-- The duration as it is written: a number and its unit. -/
def text (interval : Interval) : List Char :=
  interval.digits ++ interval.unit.text

/-- The duration the interval denotes. -/
def nanoseconds (interval : Interval) : Nat :=
  Nat.ofDigitChars 10 interval.digits 0 * interval.unit.nanoseconds

end Interval

/-! ## Settings -/

/-- The fields below that hold a text. -/
inductive TextField
  | logPath
  | serverURL
  | logSourceType
  deriving DecidableEq

namespace TextField

/-- The key of the field in the file. -/
def key : TextField → String
  | logPath => "log_path"
  | serverURL => "server_url"
  | logSourceType => "log_source_type"

/-- The field is set to a text. -/
def set (config : Config) (text : String) : TextField → Config
  | logPath => { config with logPath := text }
  | serverURL => { config with serverURL := text }
  | logSourceType => { config with logSourceType := text }

/-- The text of the field. -/
def get (config : Config) : TextField → String
  | logPath => config.logPath
  | serverURL => config.serverURL
  | logSourceType => config.logSourceType

/-- Every text field. -/
def all : List TextField :=
  [logPath, serverURL, logSourceType]

end TextField

/-- What a scalar gives a text field. -/
def scalar (text : String) : String :=
  if isNull text.toList then "" else text

/-- One entry of the file. -/
inductive Setting
  | text (field : TextField) (value : String)
  | batchSize (value : Nat)
  | flushInterval (interval : Interval)

namespace Setting

/-- The key of the entry. -/
def key : Setting → String
  | text field _ => field.key
  | batchSize _ => "batch_size"
  | flushInterval _ => "flush_interval"

/-- The text behind the key. -/
def value : Setting → List Char
  | text _ value => value.toList
  | batchSize value => (toString value).toList
  | flushInterval interval => interval.text

/-- Durations and integers have 64 bits. -/
def Fits : Setting → Prop
  | text _ _ => True
  | batchSize value => value < 2 ^ 63
  | flushInterval interval => interval.nanoseconds < 2 ^ 63

instance : (setting : Setting) → Decidable setting.Fits
  | text _ _ => inferInstanceAs (Decidable True)
  | batchSize value => inferInstanceAs (Decidable (value < 2 ^ 63))
  | flushInterval interval => inferInstanceAs (Decidable (interval.nanoseconds < 2 ^ 63))

/-- The configuration with the setting. -/
def apply (config : Config) : Setting → Config
  | text field value => field.set config (scalar value)
  | batchSize value => { config with batchSize := value }
  | flushInterval interval => { config with flushInterval := interval.nanoseconds }

/-- The line that gives the setting. -/
def line (setting : Setting) (comment : Option String) : Line where
  key := setting.key.toList
  value := setting.value
  comment := comment.map String.toList

end Setting

/-- The settings of a file, each with the comment behind it. -/
abbrev Settings :=
  List (Setting × Option String)

namespace Settings

/-- The text of the file. -/
def document (settings : Settings) : String :=
  .ofList (render (settings.map fun entry => (entry.1.line entry.2).body))

/-- No key is given twice and every line is well formed. -/
structure WellFormed (settings : Settings) : Prop where
  distinct : (settings.map fun entry => entry.1.key).Nodup
  lines : ∀ entry ∈ settings, (entry.1.line entry.2).WellFormed

/-- The settings as one configuration. -/
def config (settings : Settings) : Config :=
  settings.foldl (fun config entry => entry.1.apply config) {}

end Settings

/-! ## The order of the lines -/

/-- Settings of different fields can be applied in either order. -/
theorem Setting.apply_comm {first second : Setting} (differ : first.key ≠ second.key)
    (config : Config) :
    second.apply (first.apply config) = first.apply (second.apply config) := by
  cases first with
  | text field value =>
      cases second with
      | text other text =>
          have differentFields : field ≠ other := by
            rintro rfl
            exact differ rfl
          cases field <;> cases other <;> first | contradiction | rfl
      | batchSize size => cases field <;> rfl
      | flushInterval interval => cases field <;> rfl
  | batchSize value =>
      cases second with
      | text field text => cases field <;> rfl
      | batchSize size => contradiction
      | flushInterval interval => rfl
  | flushInterval interval =>
      cases second with
      | text field text => cases field <;> rfl
      | batchSize size => rfl
      | flushInterval other => contradiction

namespace Settings

variable {settings arranged : Settings}

/-- The order of the lines does not matter. -/
theorem config_perm (perm : arranged.Perm settings)
    (distinct : (settings.map fun entry => entry.1.key).Nodup) :
    arranged.config = settings.config := by
  have distinctArranged : (arranged.map fun entry => entry.1.key).Nodup :=
    (perm.map fun entry => entry.1.key).nodup_iff.mpr distinct
  apply perm.foldl_eq'
  intro first inFirst second inSecond config
  by_cases same : first.1.key = second.1.key
  · rw [List.inj_on_of_nodup_map distinctArranged inFirst inSecond same]
  · exact Setting.apply_comm same config

theorem WellFormed.of_perm (wellFormed : settings.WellFormed)
    (perm : arranged.Perm settings) : arranged.WellFormed where
  distinct := (perm.map fun entry => entry.1.key).nodup_iff.mpr wellFormed.distinct
  lines := fun entry member => wellFormed.lines entry (perm.mem_iff.mp member)

end Settings

/-! ## The YAML library -/

/-- The library reads files of one line per setting. -/
structure StandardYaml (unmarshal : String → Except String Config) : Prop where
  reads : ∀ settings : Settings, settings.WellFormed →
    (∀ entry ∈ settings, entry.1.Fits) → unmarshal settings.document = .ok settings.config
  overflows : ∀ settings : Settings, settings.WellFormed →
    (∃ entry ∈ settings, ¬ entry.1.Fits) →
    ∃ message, unmarshal settings.document = .error message

/-- No text field holds a newline. -/
def OneLined (config : Config) : Prop :=
  ∀ field : TextField, '\n' ∉ (field.get config).toList

/-- The library also goes row by row through files with other rows between the settings: a
second key in a row is an error, and a text ends with its row. -/
structure RowwiseYaml (unmarshal : String → Except String Config) : Prop
    extends StandardYaml unmarshal where
  refuses : ∀ rows, Rowwise rows →
    (∃ line : Line, line.Proper ∧ hasKey line.value = true ∧ line.body ∈ rows) →
    ∃ message, unmarshal (.ofList (render rows)) = .error message
  oneLined : ∀ rows config, Rowwise rows →
    unmarshal (.ofList (render rows)) = .ok config → OneLined config

namespace StandardYaml

variable {unmarshal : String → Except String Config} {settings arranged : Settings}

theorem reads_perm (standard : StandardYaml unmarshal) (wellFormed : settings.WellFormed)
    (perm : arranged.Perm settings) (fits : ∀ entry ∈ settings, entry.1.Fits) :
    unmarshal arranged.document = .ok settings.config := by
  rw [standard.reads arranged (wellFormed.of_perm perm)
      fun entry member => fits entry (perm.mem_iff.mp member),
    Settings.config_perm perm wellFormed.distinct]

theorem overflows_perm (standard : StandardYaml unmarshal) (wellFormed : settings.WellFormed)
    (perm : arranged.Perm settings) (unfit : ∃ entry ∈ settings, ¬ entry.1.Fits) :
    ∃ message, unmarshal arranged.document = .error message := by
  rcases unfit with ⟨entry, member, unfit⟩
  exact standard.overflows arranged (wellFormed.of_perm perm)
    ⟨entry, perm.mem_iff.mpr member, unfit⟩

end StandardYaml

/-! ## A library -/

/-- Read an interval. -/
def parseInterval (text : List Char) : Option Nat :=
  (TimeUnit.parse (text.dropWhile Char.isDigit)).map fun unit =>
    Nat.ofDigitChars 10 (text.takeWhile Char.isDigit) 0 * unit.nanoseconds

/-- Store the value of one key; other keys are ignored. -/
def decode (config : Config) (pair : List Char × List Char) : Except String Config :=
  match TextField.all.find? fun field => field.key.toList == pair.1 with
  | some field => .ok (field.set config (scalar (.ofList pair.2)))
  | none =>
      if pair.1 = "batch_size".toList then
        let value := Nat.ofDigitChars 10 pair.2 0
        if value < 2 ^ 63 then .ok { config with batchSize := value }
        else .error "cannot unmarshal into int"
      else if pair.1 = "flush_interval".toList then
        match parseInterval pair.2 with
        | some duration =>
            if duration < 2 ^ 63 then .ok { config with flushInterval := duration }
            else .error "cannot unmarshal into time.Duration"
        | none => .error "cannot unmarshal into time.Duration"
      else
        .ok config

/-- Read the lines of a file and store their values one after the other. -/
def unmarshal (text : String) : Except String Config :=
  match Yaml.read text.toList with
  | none => .error "could not find expected ':'"
  | some pairs => pairs.foldlM decode {}

theorem parseInterval_text (interval : Interval) :
    parseInterval interval.text = some interval.nanoseconds := by
  have unitLetters : ∀ unit : TimeUnit, ∃ letter rest, unit.text = letter :: rest ∧
      letter.isDigit = false := by
    intro unit
    cases unit <;> exact ⟨_, _, rfl, rfl⟩
  rcases unitLetters interval.unit with ⟨letter, rest, spelled, notDigit⟩
  have digits : interval.text.takeWhile Char.isDigit = interval.digits := by
    rw [Interval.text, List.takeWhile_append_of_pos interval.decimal, spelled,
      List.takeWhile_cons_of_neg (by simp [notDigit]), List.append_nil]
  have letters : interval.text.dropWhile Char.isDigit = interval.unit.text := by
    rw [Interval.text, List.dropWhile_append_of_pos interval.decimal, spelled,
      List.dropWhile_cons_of_neg (by simp [notDigit])]
  rw [parseInterval, letters, digits, TimeUnit.parse_text]
  rfl

/-- Storing a line of a setting applies the setting when it fits. -/
theorem decode_setting (config : Config) (setting : Setting) :
    (setting.Fits → decode config (setting.key.toList, setting.value) =
      .ok (setting.apply config)) ∧
    (¬ setting.Fits → ∃ message,
      decode config (setting.key.toList, setting.value) = .error message) := by
  cases setting with
  | text field value =>
      constructor
      · intro _
        cases field <;> simp [decode, TextField.all, TextField.key, Setting.key, Setting.value,
          Setting.apply]
      · intro unfit
        exact absurd trivial unfit
  | batchSize value =>
      have stored : decode config ((Setting.batchSize value).key.toList,
          (Setting.batchSize value).value) =
          if value < 2 ^ 63 then .ok { config with batchSize := value }
          else .error "cannot unmarshal into int" := by
        simp [decode, TextField.all, TextField.key, Setting.key, Setting.value]
      rw [stored]
      constructor
      · intro fits
        exact if_pos fits
      · intro unfit
        exact ⟨_, if_neg unfit⟩
  | flushInterval interval =>
      have stored : decode config ((Setting.flushInterval interval).key.toList,
          (Setting.flushInterval interval).value) =
          if interval.nanoseconds < 2 ^ 63 then
            .ok { config with flushInterval := interval.nanoseconds }
          else .error "cannot unmarshal into time.Duration" := by
        simp [decode, TextField.all, TextField.key, Setting.key, Setting.value,
          parseInterval_text]
      rw [stored]
      constructor
      · intro fits
        exact if_pos fits
      · intro unfit
        exact ⟨_, if_neg unfit⟩

namespace Settings

variable {settings : Settings}

/-- The pairs of key and value the file gives. -/
def pairs (settings : Settings) : List (List Char × List Char) :=
  settings.map fun entry => (entry.1.key.toList, entry.1.value)

theorem unmarshal_document (wellFormed : settings.WellFormed) :
    unmarshal settings.document = settings.pairs.foldlM decode {} := by
  have lines : ∀ line ∈ settings.map fun entry => entry.1.line entry.2, line.WellFormed := by
    intro line member
    rcases List.mem_map.mp member with ⟨entry, given, rfl⟩
    exact wellFormed.lines entry given
  have reading := read_render lines
  rw [List.map_map, List.map_map] at reading
  rw [unmarshal, document, String.toList_ofList]
  simp only [Function.comp_def] at reading
  rw [reading]
  rfl

theorem foldlM_decode_of_fits (fits : ∀ entry ∈ settings, entry.1.Fits) (config : Config) :
    settings.pairs.foldlM decode config =
      .ok (settings.foldl (fun config entry => entry.1.apply config) config) := by
  induction settings generalizing config with
  | nil => rfl
  | cons entry settings ih =>
      have first := (decode_setting config entry.1).1 (fits entry List.mem_cons_self)
      have later := ih (fun other member => fits other (List.mem_cons_of_mem entry member))
        (entry.1.apply config)
      rw [pairs, List.map_cons, List.foldlM_cons, first]
      exact later

theorem foldlM_decode_of_unfit (unfit : ∃ entry ∈ settings, ¬ entry.1.Fits) (config : Config) :
    ∃ message, settings.pairs.foldlM decode config = .error message := by
  induction settings generalizing config with
  | nil =>
      rcases unfit with ⟨_, member, _⟩
      contradiction
  | cons entry settings ih =>
      rw [pairs, List.map_cons, List.foldlM_cons]
      by_cases first : entry.1.Fits
      · have rest : ∃ entry ∈ settings, ¬ entry.1.Fits := by
          rcases unfit with ⟨other, member, unfit⟩
          rcases List.mem_cons.mp member with rfl | member
          · contradiction
          · exact ⟨other, member, unfit⟩
        rw [(decode_setting config entry.1).1 first]
        exact ih rest (entry.1.apply config)
      · rcases (decode_setting config entry.1).2 first with ⟨message, failed⟩
        rw [failed]
        exact ⟨message, rfl⟩

end Settings

/-- The assumptions on the library can be met. -/
theorem standardYaml_unmarshal : StandardYaml unmarshal where
  reads := by
    intro settings wellFormed fits
    rw [settings.unmarshal_document wellFormed]
    exact settings.foldlM_decode_of_fits fits {}
  overflows := by
    intro settings wellFormed unfit
    rw [settings.unmarshal_document wellFormed]
    exact settings.foldlM_decode_of_unfit unfit {}

/-- A text that is stored is the one of its field, and the others stay. -/
theorem TextField.get_set (config : Config) (text : String) (field other : TextField) :
    other.get (field.set config text) = if other = field then text else other.get config := by
  cases field <;> cases other <;> rfl

theorem oneLined_scalar {text : List Char} (oneLine : '\n' ∉ text) :
    '\n' ∉ (scalar (.ofList text)).toList := by
  unfold scalar
  split
  · exact List.not_mem_nil
  · rwa [String.toList_ofList]

/-- Storing a value of one line leaves the texts at one line each. -/
theorem oneLined_decode {config after : Config} {pair : List Char × List Char}
    (oneLined : OneLined config) (oneLine : '\n' ∉ pair.2)
    (decoded : decode config pair = .ok after) : OneLined after := by
  unfold decode at decoded
  split at decoded
  next field _ =>
    cases decoded
    intro other
    rw [TextField.get_set]
    split
    · exact oneLined_scalar oneLine
    · exact oneLined other
  next =>
    -- the other settings leave the texts alone
    have kept : ∀ field : TextField, field.get after = field.get config := by
      intro field
      split at decoded
      next =>
        dsimp only at decoded
        split at decoded <;> cases decoded
        cases field <;> rfl
      next =>
        split at decoded
        next =>
          split at decoded
          next =>
            split at decoded <;> cases decoded
            cases field <;> rfl
          next => contradiction
        next =>
          cases decoded
          rfl
    intro field
    rw [kept field]
    exact oneLined field

theorem oneLined_foldlM_decode {pairs : List (List Char × List Char)} {config after : Config}
    (oneLined : OneLined config) (oneLine : ∀ pair ∈ pairs, '\n' ∉ pair.2)
    (decoded : pairs.foldlM decode config = .ok after) : OneLined after := by
  induction pairs generalizing config with
  | nil =>
      cases decoded
      exact oneLined
  | cons pair pairs ih =>
      rw [List.foldlM_cons] at decoded
      cases first : decode config pair with
      | error message =>
          rw [first] at decoded
          contradiction
      | ok next =>
          rw [first] at decoded
          exact ih (oneLined_decode oneLined (oneLine pair List.mem_cons_self) first)
            (fun other member => oneLine other (List.mem_cons_of_mem pair member)) decoded

/-- So can those on files with other rows. -/
theorem rowwiseYaml_unmarshal : RowwiseYaml unmarshal where
  toStandardYaml := standardYaml_unmarshal
  refuses := by
    rintro rows rowwise ⟨line, proper, nested, member⟩
    refine ⟨"could not find expected ':'", ?_⟩
    rw [unmarshal, String.toList_ofList, read_eq_none rowwise proper nested member]
  oneLined := by
    intro rows config rowwise parsed
    rw [unmarshal, String.toList_ofList] at parsed
    split at parsed
    next => contradiction
    next pairs taken =>
      refine oneLined_foldlM_decode (fun field => ?_) (fun pair member broken => ?_) parsed
      · cases field <;> exact List.not_mem_nil
      · exact absurd (isBreak_of_read rowwise taken pair member '\n' broken) (by decide)

/-! ## Texts without quotes -/

theorem isAlphanum_of_isDigit {c : Char} (digit : c.isDigit = true) : c.isAlphanum = true := by
  rw [Char.isAlphanum, digit, Bool.or_true]

theorem Interval.plain (interval : Interval) : Plain interval.text := by
  have unitLetters : ∀ c ∈ interval.unit.text, c.isAlphanum = true := by
    rw [← List.all_eq_true]
    cases interval.unit <;> decide
  apply plain_of_isAlphanum (List.append_ne_nil_of_left_ne_nil interval.given _)
  intro c member
  rcases List.mem_append.mp member with inDigits | inUnit
  · exact isAlphanum_of_isDigit (interval.decimal c inDigits)
  · exact unitLetters c inUnit

theorem plain_toString (value : Nat) : Plain (toString value).toList := by
  rw [Nat.toString_eq_repr, Nat.toList_repr]
  apply plain_of_isAlphanum Nat.toDigits_ne_nil
  intro c member
  exact isAlphanum_of_isDigit (Nat.isDigit_of_mem_toDigits (by decide) (by decide) member)

/-- Keys are written in letters and underscores. -/
theorem Setting.key_letters (setting : Setting) :
    setting.key.toList ≠ [] ∧ ∀ c ∈ setting.key.toList, (c.isAlpha || c == '_') = true := by
  have letters : ∀ key ∈ "batch_size" :: "flush_interval" :: TextField.all.map TextField.key,
      key.toList ≠ [] ∧ ∀ c ∈ key.toList, (c.isAlpha || c == '_') = true := by
    simp only [← List.all_eq_true]
    decide
  have listed : setting.key ∈
      "batch_size" :: "flush_interval" :: TextField.all.map TextField.key := by
    cases setting with
    | text field value => cases field <;> simp [Setting.key, TextField.all]
    | batchSize value => simp [Setting.key]
    | flushInterval interval => simp [Setting.key]
  exact letters setting.key listed

/-- The line of a setting is well formed when its text needs no quotes. -/
theorem Setting.wellFormed_line {setting : Setting} {comment : Option String}
    (plain : ∀ field value, setting = .text field value → value = "" ∨ Plain value.toList)
    (printable : ∀ remark, comment = some remark → remark.toList.all isPrintable = true) :
    (setting.line comment).WellFormed := by
  apply Line.WellFormed.of_plain setting.key_letters.1 setting.key_letters.2
  · cases setting with
    | text field value =>
        rcases plain field value rfl with empty | plain
        · exact .inl (by simp [Setting.line, Setting.value, empty])
        · exact .inr plain
    | batchSize value => exact .inr (plain_toString value)
    | flushInterval interval => exact .inr interval.plain
  · intro text given
    rcases Option.map_eq_some_iff.mp given with ⟨remark, remarked, rfl⟩
    exact printable remark remarked

theorem Setting.wellFormed_batchSize (value : Nat) :
    ((Setting.batchSize value).line none).WellFormed := by
  apply Setting.wellFormed_line
  · rintro _ _ ⟨⟩
  · rintro _ ⟨⟩

theorem Setting.wellFormed_flushInterval (interval : Interval) :
    ((Setting.flushInterval interval).line none).WellFormed := by
  apply Setting.wellFormed_line
  · rintro _ _ ⟨⟩
  · rintro _ ⟨⟩

end Tailpost.Configuration
