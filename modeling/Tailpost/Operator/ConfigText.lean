import Mathlib.Data.List.Perm.Basic
import Tailpost.Configuration.ConfigFile
import Tailpost.Operator.Convergence
import Tailpost.Operator.HostPaths

/-!
# The config file as the agent reads it

The operator writes the config file without quotes, in an order that the runtime
chooses, and the agent parses it and fills in defaults.  As long as YAML takes every text
of the spec for a plain scalar, perhaps with a comment behind it, the file consists of one
line for each setting, and what the agent loads is known.
-/

namespace Tailpost.Operator

open Tailpost.Configuration
open Tailpost.Text
open Tailpost.Yaml

/-! ## What the schema admits -/

/-- The limits that the schema of the resource puts on the fields; a field that is
missing is empty. -/
structure Admitted (spec : TailpostAgentSpec) : Prop where
  sources : ∀ source ∈ spec.logSources, source.type ∈ ["file", "container", "pod"]
  batchSize : ∀ size, spec.batchSize = some size → 1 ≤ size
  flushInterval : spec.flushInterval ≠ "" →
    ∃ interval : Interval, interval.text = spec.flushInterval.toList

/-- The interval that stands for a missing one. -/
def fiveSeconds : Interval where
  digits := ['5']
  unit := .s
  given := by decide
  decimal := List.all_eq_true.mp (by decide)

namespace Admitted

variable {r : TailpostAgentReconciler} {cr : TailpostAgent}

theorem filled_batchSize (admitted : Admitted cr.spec) :
    ∃ size, (filled r cr).spec.batchSize = some size ∧ 1 ≤ size := by
  cases size : cr.spec.batchSize with
  | none => exact ⟨defaultBatchSize, by simp [filled, withDefaults, size], by decide⟩
  | some given =>
      exact ⟨given, by simp [filled, withDefaults, size], admitted.batchSize given size⟩

theorem filled_flushInterval (admitted : Admitted cr.spec) :
    ∃ interval : Interval, interval.text = (filled r cr).spec.flushInterval.toList := by
  by_cases missing : cr.spec.flushInterval = ""
  · exact ⟨fiveSeconds, by simp [filled, withDefaults, orDefault, missing]; decide⟩
  · have kept : (filled r cr).spec.flushInterval = cr.spec.flushInterval :=
      if_neg missing
    rw [kept]
    exact admitted.flushInterval missing

end Admitted

/-! ## Lines -/

/-- YAML takes a text at the end of a line for a value, perhaps with a comment
behind it. -/
structure TakenAs (text value : String) (comment : Option String) : Prop where
  spelled : text.toList = value.toList ++ note (comment.map String.toList)
  plain : value = "" ∨ Plain value.toList
  printable : ∀ remark, comment = some remark → remark.toList.all isPrintable = true

theorem TakenAs.of_plain {text : String} (plain : Plain text.toList) : TakenAs text text none where
  spelled := (List.append_nil _).symm
  plain := .inr plain
  printable := nofun

/-- An entry of the config data is written as the line of a setting. -/
structure Spells (entry : String × ConfigValue) (given : Setting × Option String) : Prop where
  key : entry.1 = given.1.key
  value : entry.2.format.toList = given.1.value ++ note (given.2.map String.toList)

theorem Spells.toList_yamlLine {entry : String × ConfigValue}
    {given : Setting × Option String} (spells : Spells entry given) :
    (yamlLine entry).toList = (given.1.line given.2).body ++ ['\n'] := by
  simp [yamlLine, spells.key, spells.value, Line.body, Setting.line]

theorem join_yamlLine {data : ConfigData} {settings : Settings}
    (spells : List.Forall₂ Spells data settings) :
    String.join (data.map yamlLine) = settings.document := by
  apply String.toList_injective
  induction spells with
  | nil => rfl
  | cons first _ ih =>
      rw [Settings.document, String.toList_ofList] at ih ⊢
      rw [List.map_cons, String.join_cons, String.toList_append, first.toList_yamlLine, ih]
      rfl

/-- The file is the one of the settings, in some order. -/
theorem exists_perm_yaml {data : ConfigData} {settings : Settings} (order : Iteration)
    (spells : List.Forall₂ Spells data settings) :
    ∃ arranged : Settings, arranged.Perm settings ∧ yaml order data = arranged.document := by
  rcases List.perm_comp_forall₂ (order.perm data) spells with ⟨arranged, lines, perm⟩
  exact ⟨arranged, perm, join_yamlLine lines⟩

/-! ## The settings of an agent -/

/-- The parts of a config file, each text with the comment behind it. -/
structure Parts where
  url : String × Option String
  size : Nat
  interval : Interval
  path : Option (String × Option String)

namespace Parts

/-- The entries of the file with their comments. -/
def settings (parts : Parts) : Settings :=
  [(.text .serverURL parts.url.1, parts.url.2), (.batchSize parts.size, none),
    (.flushInterval parts.interval, none)] ++
    (parts.path.map fun path => (Setting.text .logPath path.1, path.2)).toList

/-- The path that the agent is given. -/
def logPath (parts : Parts) : String :=
  (parts.path.map fun path => scalar path.1).getD ""

/-- What the file says. -/
def config (parts : Parts) : Config where
  serverURL := scalar parts.url.1
  batchSize := parts.size
  flushInterval := parts.interval.nanoseconds
  logPath := parts.logPath

theorem settings_config (parts : Parts) : parts.settings.config = parts.config := by
  rcases parts with ⟨url, size, interval, path⟩
  cases path <;> rfl

end Parts

/-- The parts are those of the config data. -/
structure Describes (parts : Parts) (cr : TailpostAgent) (size : Int32) : Prop where
  url : TakenAs cr.spec.serverURL parts.url.1 parts.url.2
  size : size.toInt = parts.size
  interval : parts.interval.text = cr.spec.flushInterval.toList
  path : Option.Rel (fun text path => TakenAs text path.1 path.2)
    (Operator.logPath cr.spec.logSources) parts.path

theorem TakenAs.spells {text value : String} {comment : Option String}
    (taken : TakenAs text value comment) (field : TextField) :
    Spells (field.key, .string text) (.text field value, comment) where
  key := rfl
  value := taken.spelled

theorem TakenAs.wellFormed_line {text value : String} {comment : Option String}
    (taken : TakenAs text value comment) (field : TextField) :
    ((Setting.text field value).line comment).WellFormed := by
  apply Setting.wellFormed_line
  · rintro _ _ same
    cases same
    exact taken.plain
  · exact taken.printable

theorem toString_natCast (value : Nat) : toString (value : Int) = toString value :=
  rfl

theorem spells_batchSize {size : Int32} {count : Nat} (counted : size.toInt = count) :
    Spells ("batch_size", .int32 size) (.batchSize count, none) where
  key := rfl
  value := by
    rw [ConfigValue.format, counted, toString_natCast]
    simp [Setting.value, note]

theorem spells_flushInterval {text : String} {interval : Interval}
    (spelled : interval.text = text.toList) :
    Spells ("flush_interval", .string text) (.flushInterval interval, none) where
  key := rfl
  value := by simp [ConfigValue.format, Setting.value, note, spelled]

namespace Describes

variable {parts : Parts} {cr : TailpostAgent} {size : Int32}

theorem spells (describes : Describes parts cr size) :
    List.Forall₂ Spells (configData cr size) parts.settings := by
  have batch := spells_batchSize describes.size
  have flush := spells_flushInterval describes.interval
  have path : List.Forall₂ Spells
      ((logPath cr.spec.logSources).map fun path => ("log_path", .string path)).toList
      (parts.path.map fun path => (Setting.text .logPath path.1, path.2)).toList := by
    have related := describes.path
    generalize logPath cr.spec.logSources = source, parts.path = path at related
    cases related with
    | none => exact .nil
    | some taken => exact .cons (taken.spells .logPath) .nil
  exact .cons (describes.url.spells .serverURL) (.cons batch (.cons flush path))

theorem wellFormed (describes : Describes parts cr size) : parts.settings.WellFormed where
  distinct := by
    rcases parts with ⟨url, size, interval, path⟩
    cases path <;> simp [Parts.settings, Setting.key, TextField.key]
  lines := by
    intro entry member
    simp only [Parts.settings, List.cons_append, List.nil_append, List.mem_cons,
      Option.mem_toList, Option.map_eq_some_iff] at member
    rcases member with rfl | rfl | rfl | ⟨path, given, rfl⟩
    · exact describes.url.wellFormed_line .serverURL
    · exact Setting.wellFormed_batchSize parts.size
    · exact Setting.wellFormed_flushInterval parts.interval
    · have related := describes.path
      rw [given] at related
      generalize logPath cr.spec.logSources = source at related
      cases related with
      | some taken => exact taken.wellFormed_line .logPath

/-- Only the interval can be too large. -/
theorem fits_iff (describes : Describes parts cr size) :
    (∀ entry ∈ parts.settings, entry.1.Fits) ↔ parts.interval.nanoseconds < 2 ^ 63 := by
  constructor
  · intro fits
    exact fits (.flushInterval parts.interval, none) (by simp [Parts.settings])
  · intro short entry member
    simp only [Parts.settings, List.cons_append, List.nil_append, List.mem_cons,
      Option.mem_toList, Option.map_eq_some_iff] at member
    rcases member with rfl | rfl | rfl | ⟨path, given, rfl⟩
    · trivial
    · have small : size.toInt < 2 ^ 31 := size.toInt_lt
      rw [describes.size] at small
      exact (by omega : parts.size < 2 ^ 63)
    · exact short
    · trivial

end Describes

/-! ## Loading the file -/

/-- The configuration in which these fields are set and every other one has its
default. -/
def defaultsWith (url : String) (size duration : Int) (path : String) : Config :=
  { Configuration.setDefaults .linux {} with
    serverURL := url
    batchSize := size
    flushInterval := duration
    logPath := path }

theorem validate_defaultsWith {url path : String} {size duration : Int} (named : path ≠ "") :
    validate .linux (defaultsWith url size duration path) =
      require (url != "") "server_url is required in config" := by
  have source : validateSource .linux (defaultsWith url size duration path) = .ok () := by
    have typed : (defaultsWith url size duration path).logSourceType = fileLogSource := by
      rfl
    rw [validateSource, if_pos typed, require_eq_ok_iff]
    exact bne_iff_ne.mpr named
  rw [validate, source]
  rfl

theorem resolved_config (parts : Parts) :
    resolved .linux parts.config =
      defaultsWith (scalar parts.url.1) (orElse 0 (parts.size : Int) 10)
        (orElse 0 (parts.interval.nanoseconds : Int) Configuration.defaultFlushInterval)
        (resolveLogPath .linux parts.logPath) := by
  rfl

theorem complete_config (parts : Parts) :
    complete .linux parts.config =
      if scalar parts.url.1 = "" then .error "server_url is required in config"
      else .ok (defaultsWith (scalar parts.url.1) (orElse 0 (parts.size : Int) 10)
        (orElse 0 (parts.interval.nanoseconds : Int) Configuration.defaultFlushInterval)
        (resolveLogPath .linux parts.logPath)) := by
  have named := resolveLogPath_linux_ne_empty parts.logPath
  rw [complete, resolved_config, validate_defaultsWith named, require]
  by_cases empty : scalar parts.url.1 = ""
  · simp [empty, bind, Except.bind]
  · simp [empty, bind, Except.bind, pure, Except.pure]

/-- What the agent makes of the config file in a ConfigMap. -/
def load (unmarshal : String → Except String Config) (configMap : ConfigMap) :
    Except String Config :=
  loadConfig .linux unmarshal
    (match configMap.data.bind (Finmap.lookup configFileName) with
    | some text => .ok text
    | none => .error "no such file or directory")

theorem load_configMapOf (unmarshal : String → Except String Config) (order : Iteration)
    (cr : TailpostAgent) (size : Int32) :
    load unmarshal (configMapOf order cr size) =
      loadConfig .linux unmarshal (.ok (yaml order (configData cr size))) := by
  simp [load, configMapOf, configFile]

namespace Describes

variable {unmarshal : String → Except String Config} {order : Iteration} {parts : Parts}
  {cr : TailpostAgent} {size : Int32}

theorem load_of_short (standard : StandardYaml unmarshal) (describes : Describes parts cr size)
    (short : parts.interval.nanoseconds < 2 ^ 63) :
    load unmarshal (configMapOf order cr size) = complete .linux parts.config := by
  rcases exists_perm_yaml order describes.spells with ⟨arranged, perm, written⟩
  have parsed := standard.reads_perm describes.wellFormed perm (describes.fits_iff.mpr short)
  rw [load_configMapOf, written, loadConfig_ok_eq parsed, Parts.settings_config]

theorem load_of_long (standard : StandardYaml unmarshal) (describes : Describes parts cr size)
    (long : ¬ parts.interval.nanoseconds < 2 ^ 63) :
    ∃ message, load unmarshal (configMapOf order cr size) = .error message := by
  rcases exists_perm_yaml order describes.spells with ⟨arranged, perm, written⟩
  have unfit : ∃ entry ∈ parts.settings, ¬ entry.1.Fits :=
    ⟨(.flushInterval parts.interval, none), by simp [Parts.settings], long⟩
  rcases standard.overflows_perm describes.wellFormed perm unfit with ⟨message, failed⟩
  exact ⟨"error parsing config file: " ++ message, by
    simp [load_configMapOf, written, loadConfig, failed, wrap, bind, Except.bind]⟩

end Describes

/-! ## Admitted specs -/

/-- The size and the interval of an admitted spec, as the file gives them. -/
theorem Admitted.exists_numbers {r : TailpostAgentReconciler} {cr : TailpostAgent}
    {size : Int32} (admitted : Admitted cr.spec)
    (sized : (filled r cr).spec.batchSize = some size) :
    ∃ count : Nat, ∃ interval : Interval, size.toInt = count ∧ 0 < count ∧
      interval.text = (filled r cr).spec.flushInterval.toList := by
  rcases admitted.filled_batchSize (r := r) with ⟨size', sized', positive⟩
  obtain rfl : size = size' := Option.some.inj (sized.symm.trans sized')
  rcases admitted.filled_flushInterval (r := r) with ⟨interval, spelled⟩
  have atLeast : 1 ≤ size.toInt := Int32.le_iff_toInt_le.mp positive
  exact ⟨size.toInt.toNat, interval, (Int.toNat_of_nonneg (by omega)).symm, by omega, spelled⟩

/-- The parts of the config file of an admitted spec. -/
theorem Admitted.exists_describes {r : TailpostAgentReconciler} {cr : TailpostAgent}
    {size : Int32} {urlValue : String} {urlComment : Option String}
    {path : Option (String × Option String)} (admitted : Admitted cr.spec)
    (sized : (filled r cr).spec.batchSize = some size)
    (url : TakenAs cr.spec.serverURL urlValue urlComment)
    (file : Option.Rel (fun text path => TakenAs text path.1 path.2)
      (logPath cr.spec.logSources) path) :
    ∃ parts : Parts, Describes parts (filled r cr) size ∧ parts.url = (urlValue, urlComment) ∧
      parts.path = path ∧ 0 < parts.size := by
  rcases admitted.exists_numbers sized with ⟨count, interval, counted, positive, spelled⟩
  exact ⟨⟨(urlValue, urlComment), count, interval, path⟩, ⟨url, counted, spelled, file⟩, rfl, rfl,
    positive⟩

theorem Describes.parseInterval_eq {parts : Parts} {cr : TailpostAgent} {size : Int32}
    (describes : Describes parts cr size) :
    parseInterval cr.spec.flushInterval.toList = some parts.interval.nanoseconds := by
  rw [← describes.interval, parseInterval_text]

theorem admitted_fileAgent (image serverURL : String) :
    Admitted (fileAgent image serverURL).spec where
  sources := by
    intro source member
    cases List.mem_singleton.mp member
    decide
  batchSize := by
    intro size given
    cases given
    decide
  flushInterval := fun _ => ⟨⟨['1', '0'], .s, by decide, List.all_eq_true.mp (by decide)⟩,
    by simp [fileAgent, Interval.text, TimeUnit.text]⟩

end Tailpost.Operator
