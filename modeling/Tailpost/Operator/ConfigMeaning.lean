import Tailpost.Operator.ConfigText

/-!
# What the config file means

The operator copies the address of the server and the path of the log into the config file
without quotes.  A text of the spec arrives as it is when it is a plain scalar of YAML that
is not a word for no value, and when the agent does not replace it by a default afterwards.

That no other text arrives is shown for texts that YAML takes row by row.  A newline in one
of them starts a row of its own, which may be a setting; a colon with a space starts a
further key; and a space with a number sign starts a comment.
-/

namespace Tailpost.Operator

open Tailpost.Configuration
open Tailpost.Text
open Tailpost.Yaml

/-! ## The rows of the file -/

/-- The text of an entry in front of the newline that ends it. -/
def entryText (entry : String × ConfigValue) : List Char :=
  entry.1.toList ++ ':' :: ' ' :: entry.2.format.toList

/-- YAML takes the rows of the entry one by one. -/
def Linewise (entry : String × ConfigValue) : Prop :=
  ∀ row ∈ (entryText entry).splitOn '\n', Row row

/-- The rows of a config file. -/
def fileRows (order : Iteration) (data : ConfigData) : List (List Char) :=
  (order.arrange data).flatMap fun entry => (entryText entry).splitOn '\n'

theorem yaml_eq_render (order : Iteration) (data : ConfigData) :
    yaml order data = .ofList (render (fileRows order data)) := by
  apply String.toList_injective
  rw [yaml, fileRows, String.toList_ofList]
  induction order.arrange data with
  | nil => rfl
  | cons entry entries ih =>
      rw [List.map_cons, String.join_cons, String.toList_append, ih, List.flatMap_cons,
        render_append, render_splitOn]
      simp [yamlLine, entryText]

/-- The keys of the config data are keys of settings. -/
theorem exists_key_of_mem {cr : TailpostAgent} {size : Int32} {entry : String × ConfigValue}
    (member : entry ∈ configData cr size) : ∃ setting : Setting, entry.1 = setting.key := by
  simp only [configData, List.cons_append, List.nil_append, List.mem_cons, Option.mem_toList,
    Option.map_eq_some_iff] at member
  rcases member with rfl | rfl | rfl | ⟨path, _, rfl⟩
  · exact ⟨.text .serverURL "", rfl⟩
  · exact ⟨.batchSize 0, rfl⟩
  · exact ⟨.flushInterval fiveSeconds, rfl⟩
  · exact ⟨.text .logPath "", rfl⟩

/-- The first row of an entry begins with its key. -/
theorem Linewise.exists_head? {entry : String × ConfigValue} (linewise : Linewise entry)
    {setting : Setting} (key : entry.1 = setting.key) :
    ∃ line : Line, line.Proper ∧ ((entryText entry).splitOn '\n').head? = some line.body := by
  rcases setting.key_letters with ⟨keyed, letters⟩
  rw [← key] at keyed letters
  have oneRow : '\n' ∉ entry.1.toList ++ [':', ' '] := by
    intro member
    rcases List.mem_append.mp member with inKey | other
    · exact absurd (letters '\n' inKey) (by decide)
    · exact absurd other (by decide)
  rcases head?_splitOn_append entry.2.format.toList oneRow with ⟨rest, first⟩
  rw [List.append_assoc, List.append_assoc] at first
  have row := linewise _ (List.mem_of_mem_head? first)
  rcases row.exists_entry keyed letters with ⟨line, proper, sameKey, sameRest⟩
  refine ⟨line, proper, ?_⟩
  rw [Line.body, sameKey, sameRest]
  exact first

theorem rowwise_fileRows {order : Iteration} {cr : TailpostAgent} {size : Int32}
    (linewise : ∀ entry ∈ configData cr size, Linewise entry) :
    Rowwise (fileRows order (configData cr size)) where
  starts := by
    rw [fileRows]
    cases arranged : order.arrange (configData cr size) with
    | nil =>
        have nothing := (order.perm (configData cr size)).length_eq
        rw [arranged] at nothing
        simp [configData] at nothing
    | cons entry entries =>
        have member : entry ∈ configData cr size := by
          rw [← (order.perm (configData cr size)).mem_iff, arranged]
          exact List.mem_cons_self
        rcases exists_key_of_mem member with ⟨setting, key⟩
        rcases (linewise entry member).exists_head? key with ⟨line, proper, first⟩
        refine ⟨line, proper, ?_⟩
        rw [List.flatMap_cons, List.head?_append, first]
        rfl
  row := by
    intro row member
    rcases List.mem_flatMap.mp member with ⟨entry, arranged, inside⟩
    exact linewise entry ((order.perm _).mem_iff.mp arranged) row inside

/-- A line is a row of its own. -/
theorem splitOn_of_proper {line : Line} (proper : line.Proper) :
    line.body.splitOn '\n' = [line.body] :=
  List.splitOnP_eq_singleton proper.isBreak_body

theorem Spells.linewise {entry : String × ConfigValue} {given : Setting × Option String}
    (spells : Spells entry given) (proper : (given.1.line given.2).Proper) : Linewise entry := by
  have written : entryText entry = (given.1.line given.2).body := by
    rw [entryText, spells.key, spells.value]
    rfl
  intro row member
  rw [written, splitOn_of_proper proper, List.mem_singleton] at member
  rw [member]
  exact .entry proper

theorem Linewise.of_plain (field : TextField) {text : String} (plain : Plain text.toList) :
    Linewise (field.key, .string text) :=
  ((TakenAs.of_plain plain).spells field).linewise
    ((TakenAs.of_plain plain).wellFormed_line field).toProper

/-- The size and the interval of an admitted spec are on rows of their own. -/
theorem Admitted.linewise {r : TailpostAgentReconciler} {cr : TailpostAgent} {size : Int32}
    {path : String} (admitted : Admitted cr.spec)
    (sized : (filled r cr).spec.batchSize = some size)
    (url : Linewise (TextField.serverURL.key, .string cr.spec.serverURL))
    (first : logPath cr.spec.logSources = some path)
    (file : Linewise (TextField.logPath.key, .string path)) :
    ∀ entry ∈ configData (filled r cr) size, Linewise entry := by
  rcases admitted.exists_numbers sized with ⟨count, interval, counted, _, spelled⟩
  have located : logPath (filled r cr).spec.logSources = some path := first
  intro entry member
  simp only [configData, located, List.cons_append, List.nil_append, Option.map_some,
    Option.toList_some, List.mem_cons, List.not_mem_nil, or_false] at member
  rcases member with rfl | rfl | rfl | rfl
  · exact url
  · exact (spells_batchSize counted).linewise (Setting.wellFormed_batchSize count).toProper
  · exact (spells_flushInterval spelled).linewise
      (Setting.wellFormed_flushInterval interval).toProper
  · exact file

/-! ## Texts that spoil the file -/

/-- The text breaks its row, or has a key of its own. -/
inductive Spoils (field : TextField) (text : String) : Prop
  | broken (newline : '\n' ∈ text.toList)
  | nested (line : Line) (proper : line.Proper) (crowded : hasKey line.value = true)
      (key : line.key = field.key.toList) (spelled : text.toList = line.value ++ note line.comment)

/-- The value and the comment of a line with no further key. -/
theorem TakenAs.of_proper {line : Line} {text : String} (proper : line.Proper)
    (noKey : hasKey line.value = false)
    (spelled : text.toList = line.value ++ note line.comment) :
    TakenAs text (.ofList line.value) (line.comment.map .ofList) where
  spelled := by
    have same : String.toList ∘ String.ofList = id := funext fun _ => String.toList_ofList
    rw [String.toList_ofList, Option.map_map, same, Option.map_id]
    exact spelled
  plain := by
    rw [String.toList_ofList]
    rcases proper.value with empty | scalar
    · exact .inl (by rw [empty])
    · exact .inr ⟨scalar, noKey⟩
  printable := by
    intro remark given
    rcases Option.map_eq_some_iff.mp given with ⟨written, commented, rfl⟩
    rw [String.toList_ofList]
    exact proper.comment written commented

theorem splitOn_entryText {field : TextField} {text : String} (oneRow : '\n' ∉ text.toList) :
    (entryText (field.key, .string text)).splitOn '\n' =
      [entryText (field.key, .string text)] := by
  apply List.splitOnP_eq_singleton
  intro c member
  rw [beq_eq_false_iff_ne]
  rintro rfl
  simp only [entryText, List.mem_append, List.mem_cons] at member
  rcases member with inKey | colon | blank | inText
  · exact absurd ((Setting.text field text).key_letters.2 '\n' inKey) (by decide)
  · exact absurd colon (by decide)
  · exact absurd blank (by decide)
  · exact oneRow inText

/-- A text that YAML takes row by row is taken for a value, or spoils the file. -/
theorem Linewise.takenAs_or_spoils (field : TextField) {text : String}
    (linewise : Linewise (field.key, .string text)) :
    (∃ value comment, TakenAs text value comment) ∨ Spoils field text := by
  rcases (Setting.text field text).key_letters with ⟨keyed, letters⟩
  by_cases broken : '\n' ∈ text.toList
  · exact .inr (.broken broken)
  · have row : Row (entryText (field.key, .string text)) := by
      apply linewise
      rw [splitOn_entryText broken]
      exact List.mem_singleton_self _
    rcases row.exists_entry keyed letters with ⟨line, proper, key, spelled⟩
    cases crowded : hasKey line.value with
    | true => exact .inr (.nested line proper crowded key spelled.symm)
    | false => exact .inl ⟨_, _, .of_proper proper crowded spelled.symm⟩

theorem Spoils.not_plain {field : TextField} {text : String} (spoils : Spoils field text) :
    ¬ Plain text.toList := by
  intro plain
  cases spoils with
  | broken newline =>
      exact absurd (List.all_eq_true.mp plain.printable '\n' newline) (by decide)
  | nested line proper crowded key spelled =>
      rw [spelled] at plain
      cases comment : line.comment with
      | none =>
          have noKey := plain.noKey
          rw [comment, note, List.append_nil, crowded] at noKey
          contradiction
      | some text =>
          have noComment := plain.noComment
          rw [comment, note, hasComment_append] at noComment
          contradiction

/-! ## Loading a spoiled file -/

theorem resolveLogPath_oneLine {path : String} (oneLine : '\n' ∉ path.toList) :
    '\n' ∉ (resolveLogPath .linux path).toList := by
  unfold resolveLogPath
  split
  · decide
  · split
    · rw [Platform.linux_join]
      intro member
      rcases of_mem_join member with slash | dot | ⟨part, given, inside⟩
      · exact absurd slash (by decide)
      · exact absurd dot (by decide)
      · simp only [List.mem_cons, List.not_mem_nil, or_false] at given
        rcases given with rfl | rfl
        · exact absurd inside (by decide)
        · rw [String.toList_ofList] at inside
          exact oneLine (List.mem_of_mem_drop inside)
    · exact oneLine

/-- Defaults are texts of one line. -/
theorem oneLined_resolved {raw : Config} (oneLined : OneLined raw) :
    OneLined (resolved .linux raw) := by
  intro field
  cases field with
  | logPath =>
      have path : (resolved .linux raw).logPath = resolveLogPath .linux raw.logPath ∨
          (resolved .linux raw).logPath = raw.logPath := by
        simp only [resolved]
        split
        · exact .inl rfl
        · exact .inr rfl
      rw [TextField.get]
      rcases path with same | same
      · rw [same]
        exact resolveLogPath_oneLine (oneLined .logPath)
      · rw [same]
        exact oneLined .logPath
  | serverURL =>
      have same : (resolved .linux raw).serverURL = raw.serverURL := by
        simp only [resolved]
        split <;> rfl
      rw [TextField.get, same]
      exact oneLined .serverURL
  | logSourceType =>
      have same : (resolved .linux raw).logSourceType = orElse "" raw.logSourceType "file" := by
        simp only [resolved]
        split <;> rfl
      rw [TextField.get, same, orElse]
      split
      · decide
      · exact oneLined .logSourceType

/-- A text that spoils the file is not what the agent gets. -/
theorem Spoils.get_ne {unmarshal : String → Except String Config} {order : Iteration}
    {cr : TailpostAgent} {size : Int32} {field : TextField} {text : String} {config : Config}
    (spoils : Spoils field text) (standard : RowwiseYaml unmarshal)
    (linewise : ∀ entry ∈ configData cr size, Linewise entry)
    (member : (field.key, .string text) ∈ configData cr size)
    (loaded : load unmarshal (configMapOf order cr size) = .ok config) :
    field.get config ≠ text := by
  have rowwise : Rowwise (fileRows order (configData cr size)) := rowwise_fileRows linewise
  rw [load_configMapOf, yaml_eq_render, loadConfig_ok_eq_ok_iff] at loaded
  rcases loaded with ⟨raw, parsed, completed⟩
  cases spoils with
  | broken newline =>
      rintro rfl
      rw [← (complete_eq_ok_iff.mp completed).2] at newline
      exact oneLined_resolved (standard.oneLined _ raw rowwise parsed) field newline
  | nested line proper crowded key spelled =>
      have written : entryText (field.key, .string text) = line.body := by
        rw [entryText, Line.body, key, ← spelled]
        rfl
      have given : line.body ∈ fileRows order (configData cr size) := by
        refine List.mem_flatMap.mpr ⟨_, (order.perm _).mem_iff.mpr member, ?_⟩
        rw [written, splitOn_of_proper proper]
        exact List.mem_singleton_self _
      rcases standard.refuses _ rowwise ⟨line, proper, crowded, given⟩ with ⟨message, failed⟩
      rw [parsed] at failed
      contradiction

/-! ## Texts that arrive -/

/-- A text that the agent gets as it stands in the spec. -/
structure Verbatim (text : String) : Prop where
  plain : Plain text.toList
  given : isNull text.toList = false

namespace TakenAs

variable {text value : String} {comment : Option String}

/-- A plain text is its own value. -/
theorem eq_of_plain (taken : TakenAs text value comment) (plain : Plain text.toList) :
    text = value := by
  have spelled := taken.spelled
  cases comment with
  | none =>
      rw [Option.map_none, note, List.append_nil] at spelled
      exact String.toList_injective spelled
  | some remark =>
      have noComment := plain.noComment
      rw [spelled, Option.map_some, note, hasComment_append] at noComment
      contradiction

theorem scalar_eq_iff (taken : TakenAs text value comment) (given : text ≠ "") :
    scalar value = text ↔ Verbatim text := by
  constructor
  · intro same
    unfold scalar at same
    split at same
    next => exact absurd same.symm given
    next notNull =>
      subst same
      exact ⟨taken.plain.resolve_left given, Bool.not_eq_true _ ▸ notNull⟩
  · rintro ⟨plain, notNull⟩
    rw [← taken.eq_of_plain plain, scalar, notNull]
    rfl

/-- A text that the agent replaces by a path of its own is not an absolute path. -/
theorem not_isAbs (taken : TakenAs text value comment)
    (replaced : scalar value = "" ∨ beginsWith (scalar value) osDefault = true) :
    isAbs text = false := by
  by_cases isNothing : isNull value.toList = true
  · rw [isNull, List.contains_iff_mem] at isNothing
    simp only [List.mem_cons, List.not_mem_nil, or_false] at isNothing
    rw [isAbs, taken.spelled]
    rcases isNothing with word | word | word | word | word
    · rw [word]
      cases comment <;> rfl
    all_goals
      rw [word]
      rfl
  · have kept : scalar value = value := if_neg isNothing
    rw [kept] at replaced
    rcases replaced with rfl | begins
    · exact absurd rfl isNothing
    · rcases List.isPrefixOf_iff_prefix.mp begins with ⟨rest, written⟩
      rw [isAbs, taken.spelled, ← written]
      rfl

theorem resolveLogPath_eq_iff (taken : TakenAs text value comment) (given : text ≠ "") :
    resolveLogPath .linux (scalar value) = text ↔
      Verbatim text ∧ beginsWith text osDefault = false := by
  by_cases replaced : scalar value = "" ∨ beginsWith (scalar value) osDefault = true
  · have absolute := isAbs_resolveLogPath_linux replaced
    have relative := taken.not_isAbs replaced
    constructor
    · intro same
      rw [same, relative] at absolute
      contradiction
    · rintro ⟨verbatim, literal⟩
      rw [(taken.scalar_eq_iff given).mpr verbatim] at replaced
      rcases replaced with empty | begins
      · contradiction
      · rw [literal] at begins
        contradiction
  · rw [not_or, Bool.not_eq_true] at replaced
    rw [resolveLogPath_eq_self replaced.1 replaced.2, taken.scalar_eq_iff given]
    constructor
    · intro verbatim
      rw [(taken.scalar_eq_iff given).mpr verbatim] at replaced
      exact ⟨verbatim, replaced.2⟩
    · exact And.left

end TakenAs

/-! ## The file means what the spec says -/

/-- The agent loads the values of the spec, the path, and nothing else. -/
def Means (unmarshal : String → Except String Config) (spec : TailpostAgentSpec) (path : String)
    (configMap : ConfigMap) : Prop :=
  ∃ size duration, spec.batchSize = some size ∧
    parseInterval spec.flushInterval.toList = some duration ∧
    load unmarshal configMap = .ok (defaultsWith spec.serverURL size.toInt duration path)

/-- The text denotes a duration that is neither zero nor too large. -/
def Timely (text : String) : Prop :=
  ∃ duration, parseInterval text.toList = some duration ∧ 0 < duration ∧ duration < 2 ^ 63

theorem defaultsWith_inj {url url' path path' : String} {size size' duration duration' : Int} :
    defaultsWith url size duration path = defaultsWith url' size' duration' path' ↔
      url = url' ∧ size = size' ∧ duration = duration' ∧ path = path' := by
  constructor
  · intro same
    exact ⟨congrArg Config.serverURL same, congrArg Config.batchSize same,
      congrArg Config.flushInterval same, congrArg Config.logPath same⟩
  · rintro ⟨rfl, rfl, rfl, rfl⟩
    rfl

theorem complete_config_eq_iff {parts : Parts} {url path : String} {size duration : Int}
    (given : url ≠ "") :
    complete .linux parts.config = .ok (defaultsWith url size duration path) ↔
      scalar parts.url.1 = url ∧ orElse 0 (parts.size : Int) 10 = size ∧
        orElse 0 (parts.interval.nanoseconds : Int) Configuration.defaultFlushInterval =
          duration ∧
        resolveLogPath .linux parts.logPath = path := by
  rw [complete_config]
  by_cases empty : scalar parts.url.1 = ""
  · rw [if_pos empty, empty]
    constructor
    · intro loaded
      contradiction
    · rintro ⟨same, _⟩
      exact absurd same.symm given
  · rw [if_neg empty, Except.ok.injEq, defaultsWith_inj]

theorem logPath_ne_empty {sources : List LogSourceSpec} {path : String}
    (first : logPath sources = some path) : path ≠ "" := by
  rcases Option.map_eq_some_iff.mp first with ⟨source, found, rfl⟩
  have usable := List.find?_some found
  rw [Bool.and_eq_true, bne_iff_ne] at usable
  exact usable.2

section Numbers

variable {parts : Parts} {cr : TailpostAgent} {size : Int32}

/-- The size and the interval of the spec are the ones in the file. -/
theorem Describes.means_iff_load {unmarshal : String → Except String Config} {path : String}
    {configMap : ConfigMap} (describes : Describes parts cr size)
    (sized : cr.spec.batchSize = some size) :
    Means unmarshal cr.spec path configMap ↔ load unmarshal configMap =
      .ok (defaultsWith cr.spec.serverURL parts.size parts.interval.nanoseconds path) := by
  simp only [Means, sized, describes.parseInterval_eq, Option.some.injEq, exists_eq_left',
    exists_and_left, describes.size]

theorem Describes.timely_iff (describes : Describes parts cr size) :
    Timely cr.spec.flushInterval ↔
      parts.interval.nanoseconds ≠ 0 ∧ parts.interval.nanoseconds < 2 ^ 63 := by
  simp only [Timely, describes.parseInterval_eq, Option.some.injEq, exists_eq_left',
    Nat.pos_iff_ne_zero]

end Numbers

/-- The config file of a spec whose texts are taken for values means what the spec says if
and only if the values are the texts, the agent does not replace the path, and the interval
is a duration other than zero. -/
theorem means_iff_of_takenAs {unmarshal : String → Except String Config}
    {r : TailpostAgentReconciler} {order : Iteration} {cr : TailpostAgent} {size : Int32}
    {path urlValue pathValue : String} {urlComment pathComment : Option String}
    (standard : StandardYaml unmarshal) (admitted : Admitted cr.spec)
    (urlGiven : cr.spec.serverURL ≠ "") (url : TakenAs cr.spec.serverURL urlValue urlComment)
    (first : logPath cr.spec.logSources = some path)
    (file : TakenAs path pathValue pathComment)
    (sized : (filled r cr).spec.batchSize = some size) :
    Means unmarshal (filled r cr).spec path (configMapOf order (filled r cr) size) ↔
      Verbatim cr.spec.serverURL ∧ Verbatim path ∧ beginsWith path osDefault = false ∧
        Timely (filled r cr).spec.flushInterval := by
  have located : Option.Rel (fun text path => TakenAs text path.1 path.2)
      (logPath cr.spec.logSources) (some (pathValue, pathComment)) := by
    rw [first]
    exact .some file
  rcases admitted.exists_describes sized url located with
    ⟨parts, describes, sameURL, samePath, positive⟩
  have given : (filled r cr).spec.serverURL ≠ "" := urlGiven
  have sameText : (filled r cr).spec.serverURL = cr.spec.serverURL := rfl
  rw [describes.means_iff_load sized, describes.timely_iff]
  by_cases short : parts.interval.nanoseconds < 2 ^ 63
  · have sizeKept : orElse 0 (parts.size : Int) 10 = parts.size :=
      (orElse_eq_self_iff (by decide)).mpr (by omega)
    have pathValue_eq : parts.logPath = scalar pathValue := by
      rw [Parts.logPath, samePath]
      rfl
    rw [describes.load_of_short standard short, complete_config_eq_iff given, sizeKept, sameURL,
      pathValue_eq, sameText, url.scalar_eq_iff urlGiven,
      file.resolveLogPath_eq_iff (logPath_ne_empty first), orElse_eq_self_iff (by decide)]
    constructor
    · rintro ⟨urlKept, _, nonzero, pathKept, literal⟩
      exact ⟨urlKept, pathKept, literal, by omega, short⟩
    · rintro ⟨urlKept, pathKept, literal, nonzero, _⟩
      exact ⟨urlKept, rfl, by omega, pathKept, literal⟩
  · constructor
    · intro loaded
      rcases describes.load_of_long standard short with ⟨message, failed⟩
      rw [failed] at loaded
      contradiction
    · rintro ⟨_, _, _, _, inRange⟩
      exact absurd inRange short

/-- The config file of a spec means what the spec says if and only if the two texts are
plain scalars and no words for no value, the agent does not replace the path, and the
interval is a duration other than zero.  Texts that YAML does not take row by row are left
out. -/
theorem means_iff {unmarshal : String → Except String Config} {r : TailpostAgentReconciler}
    {order : Iteration} {cr : TailpostAgent} {configMap : ConfigMap} {path : String}
    (standard : RowwiseYaml unmarshal) (admitted : Admitted cr.spec)
    (urlGiven : cr.spec.serverURL ≠ "")
    (url : Linewise ("server_url", .string cr.spec.serverURL))
    (first : logPath cr.spec.logSources = some path) (file : Linewise ("log_path", .string path))
    (created : createConfigMap order (filled r cr) = .ok configMap) :
    Means unmarshal (filled r cr).spec path configMap ↔
      Verbatim cr.spec.serverURL ∧ Verbatim path ∧ beginsWith path osDefault = false ∧
        Timely (filled r cr).spec.flushInterval := by
  rcases createConfigMap_eq_ok created with ⟨size, sized, rfl⟩
  have linewise := admitted.linewise sized url first file
  rcases url.takenAs_or_spoils .serverURL with ⟨urlValue, urlComment, url⟩ | spoils
  · rcases file.takenAs_or_spoils .logPath with ⟨pathValue, pathComment, file⟩ | spoils
    · exact means_iff_of_takenAs standard.toStandardYaml admitted urlGiven url first file sized
    · have located : (TextField.logPath.key, .string path) ∈ configData (filled r cr) size := by
        have same : logPath (filled r cr).spec.logSources = some path := first
        simp [configData, same, TextField.key]
      apply iff_of_false
      · rintro ⟨_, _, _, _, loaded⟩
        exact spoils.get_ne standard linewise located loaded rfl
      · rintro ⟨_, verbatim, _⟩
        exact spoils.not_plain verbatim.plain
  · apply iff_of_false
    · rintro ⟨_, _, _, _, loaded⟩
      exact spoils.get_ne standard linewise List.mem_cons_self loaded rfl
    · rintro ⟨verbatim, _⟩
      exact spoils.not_plain verbatim.plain

/-- The ConfigMap of an agent that sends to a server. -/
def sampleConfigMap (serverURL : String) : ConfigMap :=
  configMapOf .asAdded (filled sampleReconciler (fileAgent "tailpost:1" serverURL)) 20

/-- The file of a tidy agent means what its spec says. -/
theorem means_iff_fileAgent :
    Means unmarshal (filled sampleReconciler (fileAgent "tailpost:1" "http://logs:8080")).spec
      "/var/log/syslog" (sampleConfigMap "http://logs:8080") :=
  (means_iff rowwiseYaml_unmarshal (admitted_fileAgent "tailpost:1" "http://logs:8080")
    (by decide) (.of_plain .serverURL (by decide)) rfl (.of_plain .logPath (by decide)) rfl).mpr
    ⟨⟨by decide, by decide⟩, ⟨by decide, by decide⟩, by decide, ⟨10000000000, by decide⟩⟩

theorem not_means_of_load {spec : TailpostAgentSpec} {path : String} {configMap : ConfigMap}
    {config : Config} (loaded : load unmarshal configMap = .ok config)
    (differs : config.serverURL ≠ spec.serverURL) : ¬ Means unmarshal spec path configMap := by
  rintro ⟨size, duration, _, _, meant⟩
  rw [loaded] at meant
  cases meant
  exact differs rfl

/-- What follows a number sign is cut off the address of the server, and a newline in
the address starts a setting of its own. -/
theorem serverURL_truncates_and_injects :
    (Admitted (fileAgent "tailpost:1" "http://logs:8080/ #all").spec ∧
      load unmarshal (sampleConfigMap "http://logs:8080/ #all") =
        .ok (defaultsWith "http://logs:8080/" 20 10000000000 "/var/log/syslog") ∧
      ¬ Means unmarshal (fileAgent "tailpost:1" "http://logs:8080/ #all").spec "/var/log/syslog"
        (sampleConfigMap "http://logs:8080/ #all")) ∧
    (Admitted (fileAgent "tailpost:1" "http://logs:8080\nlog_source_type: other").spec ∧
      load unmarshal (sampleConfigMap "http://logs:8080\nlog_source_type: other") =
        .ok { defaultsWith "http://logs:8080" 20 10000000000 "/var/log/syslog" with
          logSourceType := "other" } ∧
      ¬ Means unmarshal (fileAgent "tailpost:1" "http://logs:8080\nlog_source_type: other").spec
        "/var/log/syslog" (sampleConfigMap "http://logs:8080\nlog_source_type: other")) := by
  have truncated : load unmarshal (sampleConfigMap "http://logs:8080/ #all") =
      .ok (defaultsWith "http://logs:8080/" 20 10000000000 "/var/log/syslog") := by
    decide +kernel
  have injected :
      load unmarshal (sampleConfigMap "http://logs:8080\nlog_source_type: other") =
        .ok { defaultsWith "http://logs:8080" 20 10000000000 "/var/log/syslog" with
          logSourceType := "other" } := by
    decide +kernel
  exact ⟨⟨admitted_fileAgent _ _, truncated, not_means_of_load truncated (by decide)⟩,
    ⟨admitted_fileAgent _ _, injected, not_means_of_load injected (by decide)⟩⟩

end Tailpost.Operator
