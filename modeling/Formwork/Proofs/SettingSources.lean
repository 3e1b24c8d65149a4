import Formwork.Proofs.RecordCodecs
import Formwork.Settings.Environment
import Formwork.Settings.Load

/-!
# Where settings come from

A setting has its value from the environment, else from the document that was loaded, else it is as
usual. A document is laid over the usual settings as a whole and only then decoded, but no setting
sees anything of it except what stands under its own name: neither the other settings, nor members
without a meaning, nor the order or the notation in which the document was written.
-/

namespace Formwork

/-- What a setting holds. -/
inductive SettingKind where
  /-- A truth value. -/
  | flag
  /-- A whole number. -/
  | number
  /-- A text. -/
  | text
  /-- A list of texts. -/
  | texts
deriving DecidableEq, Repr

namespace SettingKind

/-- The values of the kind. -/
abbrev Value : SettingKind → Type
  | .flag => Bool
  | .number => Nat
  | .text => String
  | .texts => List String

/-- A document stands for a value of the kind. Numbers are written without a fraction and fit 64
bits. -/
inductive Denotes : (kind : SettingKind) → Json → kind.Value → Prop where
  /-- A truth value stands for itself. -/
  | flag (value : Bool) : Denotes .flag (.bool value) value
  /-- So does a whole number that is not negative. -/
  | number {value : Nat} (fits : value < 0x10000000000000000) : Denotes .number (.int value) value
  /-- So does a text. -/
  | text (value : String) : Denotes .text (.string value) value
  /-- A list of texts stands for the texts. -/
  | texts (values : List String) : Denotes .texts (.array (values.map .string)) values

/-- Reads a value of the kind. -/
def decode : (kind : SettingKind) → Json.Decoder kind.Value
  | .flag => Json.asFlag
  | .number => Json.asNatural
  | .text => Json.asText
  | .texts => Json.asList Json.asText

/-- The value that the text of an environment variable stands for. -/
def ofText? : (kind : SettingKind) → String → Option kind.Value
  | .flag, word => some (Settings.isOn word)
  | .number, word => Settings.natural? (Text.trim word)
  | .text, word => some word
  | .texts, word => some (Text.commaList word)

/-- Texts are read from a list if it lists nothing else. -/
theorem asTexts_eq_ok_iff {items : List Json} {values : List String} :
    items.mapM Json.asText = .ok values ↔ items = values.map .string := by
  constructor
  · intro read
    induction items generalizing values with
    | nil =>
      obtain rfl := Except.ok.inj read
      rfl
    | cons item rest inductionHypothesis =>
      rw [List.mapM_cons] at read
      cases item with
      | string text =>
        cases later : rest.mapM Json.asText with
        | error fault =>
          rw [later] at read
          cases read
        | ok texts =>
          rw [later] at read
          obtain rfl := Except.ok.inj read
          rw [inductionHypothesis later, List.map_cons]
      | _ => cases read
  · rintro rfl
    exact Json.mapM_encoded values fun _ _ => rfl

/-- Reading gives exactly what a document stands for. -/
theorem decode_eq_ok_iff {kind : SettingKind} {json : Json} {value : kind.Value} :
    kind.decode json = .ok value ↔ kind.Denotes json value := by
  constructor
  · intro read
    cases kind with
    | flag =>
      cases json with
      | bool given =>
        obtain rfl := Except.ok.inj read
        exact .flag given
      | _ => cases read
    | number =>
      cases json with
      | int given =>
        cases given with
        | ofNat n =>
          by_cases fits : n < 0x10000000000000000
          · rw [decode, Json.asNatural, if_pos fits] at read
            obtain rfl := Except.ok.inj read
            exact .number fits
          · rw [decode, Json.asNatural, if_neg fits] at read
            cases read
        | negSucc n => cases read
      | _ => cases read
    | text =>
      cases json with
      | string given =>
        obtain rfl := Except.ok.inj read
        exact .text given
      | _ => cases read
    | texts =>
      cases json with
      | array items =>
        obtain rfl := asTexts_eq_ok_iff.mp read
        exact .texts value
      | _ => cases read
  · intro denotes
    cases denotes with
    | flag given => rfl
    | number fits => exact if_pos fits
    | text given => rfl
    | texts values => exact asTexts_eq_ok_iff.mpr rfl

/-- What an object holds makes no difference. -/
theorem decode_overlay (kind : SettingKind) (below above : Json) :
    kind.decode (below.overlay above) = kind.decode above := by
  cases above with
  | object members =>
    cases below <;> cases kind <;> rfl
  | _ => rfl

/-- The order and the repetition of members make no difference. -/
theorem decode_collapse (kind : SettingKind) (json : Json) :
    kind.decode json.collapse = kind.decode json := by
  have texts (items : List Json) :
      (Json.collapseItems items).mapM Json.asText = items.mapM Json.asText := by
    induction items with
    | nil => rfl
    | cons item rest inductionHypothesis =>
      have first : Json.asText item.collapse = Json.asText item := by
        cases item <;> rfl
      rw [Json.collapseItems, List.mapM_cons, List.mapM_cons, first, inductionHypothesis]
  cases json with
  | array items =>
    cases kind with
    | texts => exact texts items
    | _ => rfl
  | object members => cases kind <;> rfl
  | _ => rfl

end SettingKind

/-- One of the settings. -/
inductive Setting where
  /-- Problems are logged for a developer to read. -/
  | debug
  /-- How long a displayed form can be sent back. -/
  | formTimeout
  /-- What the keys of saved forms begin with. -/
  | sessionNamespace
  /-- The connection that is meant when a form names none. -/
  | defaultConnection
  /-- The directories that templates are searched in. -/
  | templateDirectories
  /-- The template set for single records. -/
  | insertTemplate
  /-- The template set for tables. -/
  | editTemplate
  /-- Where scripts and styles are. -/
  | assetsUrl
  /-- The browser checks inputs before they are sent. -/
  | browserValidation
  /-- How much is logged. -/
  | logLevel
deriving DecidableEq, Repr

namespace Setting

/-- What the setting holds. -/
def kind : Setting → SettingKind
  | .debug => .flag
  | .formTimeout => .number
  | .templateDirectories => .texts
  | .browserValidation => .flag
  | _ => .text

/-- The name of the setting in documents. -/
def name : Setting → String
  | .debug => "debug"
  | .formTimeout => "form_timeout"
  | .sessionNamespace => "session_namespace"
  | .defaultConnection => "default_connection"
  | .templateDirectories => "template_dirs"
  | .insertTemplate => "default_insert_template"
  | .editTemplate => "default_edit_template"
  | .assetsUrl => "assets_url"
  | .browserValidation => "browser_validation"
  | .logLevel => "log_level"

/-- The environment variable that overrides the setting, if there is one. -/
def variableName? : Setting → Option String
  | .debug => some "FORMBUILDER_DEBUG"
  | .formTimeout => some "FORMBUILDER_FORM_TIMEOUT"
  | .sessionNamespace => some "FORMBUILDER_SESSION_NAMESPACE"
  | .defaultConnection => some "FORMBUILDER_DEFAULT_CONNECTION"
  | .templateDirectories => some "FORMBUILDER_TEMPLATE_DIRS"
  | .logLevel => some "FORMBUILDER_LOG_LEVEL"
  | _ => none

/-- The value of the setting. -/
def get (settings : Settings) : (setting : Setting) → setting.kind.Value
  | .debug => settings.debug
  | .formTimeout => settings.formTimeout
  | .sessionNamespace => settings.sessionNamespace
  | .defaultConnection => settings.defaultConnection
  | .templateDirectories => settings.templateDirectories
  | .insertTemplate => settings.insertTemplate
  | .editTemplate => settings.editTemplate
  | .assetsUrl => settings.assetsUrl
  | .browserValidation => settings.browserValidation
  | .logLevel => settings.logLevel

/-- The value that the environment gives the setting. -/
def environment? (lookup : String → Option String) (setting : Setting) :
    Option setting.kind.Value :=
  (setting.variableName?.bind lookup).bind setting.kind.ofText?

/-- What stands for the setting among the members of a document. -/
def given? (members : Entries Json) (setting : Setting) : Option Json :=
  (TextMap.ofList members).get? setting.name

/-- The environment comes first. -/
theorem get_override (settings : Settings) (lookup : String → Option String) (setting : Setting) :
    setting.get (settings.override lookup) =
      (setting.environment? lookup).getD (setting.get settings) := by
  have mapped {α β : Type} (read : α → β) (asked : Option α) (usual : β) :
      (asked.map read).getD usual = (asked.bind fun word => some (read word)).getD usual := by
    cases asked <;> rfl
  have plain {α : Type} (asked : Option α) (usual : α) :
      asked.getD usual = (asked.bind some).getD usual := by
    cases asked <;> rfl
  cases setting with
  | debug => exact mapped _ _ _
  | templateDirectories => exact mapped _ _ _
  | sessionNamespace => exact plain _ _
  | defaultConnection => exact plain _ _
  | logLevel => exact plain _ _
  | _ => rfl

/-! ## Decoding settings one by one -/

/-- What reading the document gives for the setting: what stands there is decoded, and if nothing
does the setting is as usual. -/
def outcome (members : Entries Json) (setting : Setting) : Except Json.Fault setting.kind.Value :=
  match setting.given? members with
  | some json => setting.kind.decode json
  | none => .ok (setting.get {})

/-- The settings of the given values, or the first fault among them. -/
def assemble (part : (setting : Setting) → Except Json.Fault setting.kind.Value) :
    Except Json.Fault Settings := do
  return {
    debug := ← part .debug
    formTimeout := ← part .formTimeout
    sessionNamespace := ← part .sessionNamespace
    defaultConnection := ← part .defaultConnection
    templateDirectories := ← part .templateDirectories
    insertTemplate := ← part .insertTemplate
    editTemplate := ← part .editTemplate
    assetsUrl := ← part .assetsUrl
    browserValidation := ← part .browserValidation
    logLevel := ← part .logLevel }

/-- There are settings if there is a value for each of them. -/
theorem assemble_eq_ok_iff {part : (setting : Setting) → Except Json.Fault setting.kind.Value}
    {settings : Settings} :
    assemble part = .ok settings ↔ ∀ setting, part setting = .ok (setting.get settings) := by
  have bound {α β : Type} {first : Except Json.Fault α} {next : α → Except Json.Fault β} {last : β} :
      (first >>= next) = .ok last ↔ ∃ value, first = .ok value ∧ next value = .ok last := by
    cases first with
    | error fault => simp [Bind.bind, Except.bind]
    | ok value => simp [Bind.bind, Except.bind]
  unfold assemble
  simp only [bound, Pure.pure, Except.pure, Except.ok.injEq]
  constructor
  · rintro ⟨debug, isDebug, timeout, isTimeout, space, isSpace, connection, isConnection, directories,
      areDirectories, insertion, isInsertion, edition, isEdition, assets, areAssets, validation,
      isValidation, level, isLevel, rfl⟩ setting
    cases setting <;> assumption
  · intro parts
    exact ⟨_, parts .debug, _, parts .formTimeout, _, parts .sessionNamespace, _,
      parts .defaultConnection, _, parts .templateDirectories, _, parts .insertTemplate, _,
      parts .editTemplate, _, parts .assetsUrl, _, parts .browserValidation, _, parts .logLevel, rfl⟩

/-! ## A document over the usual settings -/

/-- Members that are laid over others are read as if they had been written over them. -/
theorem decode_overlayMembers (kind : SettingKind) {left right : TextMap Json}
    (same : ∀ key, (left.get? key).map kind.decode = (right.get? key).map kind.decode)
    (members : Entries Json) (key : String) :
    ((Json.overlayMembers left members).get? key).map kind.decode =
      ((right.insertAll members).get? key).map kind.decode := by
  induction members generalizing left right with
  | nil => exact same key
  | cons member rest inductionHypothesis =>
    obtain ⟨name, value⟩ := member
    have written (laid : Json) (read : kind.decode laid = kind.decode value) :
        ∀ key, ((left.insert name laid).get? key).map kind.decode =
          ((right.insert name value).get? key).map kind.decode := by
      intro key
      rw [TextMap.get?_insert, TextMap.get?_insert]
      split
      · exact congrArg some read
      · exact same key
    rw [Json.overlayMembers, TextMap.insertAll_cons]
    split
    · rename_i known there
      exact inductionHypothesis (written _ (kind.decode_overlay known value))
    · exact inductionHypothesis (written value rfl)

/-- The usual settings as members. -/
def usualMembers : TextMap Json :=
  match ({} : Settings).toJson with
  | .object members => .ofList members
  | _ => .empty

/-- Every setting is found among the usual ones. -/
theorem decode_usual (setting : Setting) :
    (usualMembers.get? setting.name).map setting.kind.decode = some (.ok (setting.get {})) := by
  cases setting <;> rfl

/-- The settings that are read are those whose names are kept. -/
theorem name_known (setting : Setting) : setting.name ∈ Settings.memberNames := by
  cases setting <;> decide

/-- The settings of an object are decoded one by one. -/
theorem ofJson_object (members : TextMap Json) :
    Settings.ofJson (.object members.entries) =
      assemble fun setting => Json.required setting.kind.decode setting.name members.entries := by
  have distinct : (members.entries.map Prod.fst).Nodup := members.keys_nodup
  have kept : Settings.ofJson (.object members.entries) =
      assemble fun setting => Json.required setting.kind.decode setting.name
        (members.entries.filter fun member => Settings.memberNames.contains member.1) := by
    rw [Settings.ofJson, Json.asRecord_distinct _ _ _ distinct]
    rfl
  have required (setting : Setting) : Json.required setting.kind.decode setting.name
      (members.entries.filter fun member => Settings.memberNames.contains member.1) =
        Json.required setting.kind.decode setting.name members.entries := by
    rw [Json.required, Json.required, Entries.get?_filter setting.name_known]
  rw [kept]
  exact congrArg assemble (funext required)

/-- Loading an object gives each setting what stands for it there, or its usual value. -/
theorem load_object (members : Entries Json) :
    Settings.load (.object members) =
      (assemble (outcome members)).mapError fun fault => .configuration (.undecodable fault) := by
  have laid : ({} : Settings).toJson.overlay (.object members) =
      .object (Json.overlayMembers usualMembers members).entries := rfl
  have required (setting : Setting) : Json.required setting.kind.decode setting.name
      (Json.overlayMembers usualMembers members).entries = outcome members setting := by
    have found : ((Json.overlayMembers usualMembers members).get? setting.name).map
        setting.kind.decode = some (outcome members setting) := by
      rw [decode_overlayMembers setting.kind fun key => Eq.refl _, TextMap.get?_insertAll_or, outcome]
      cases given : setting.given? members with
      | some json =>
        rw [given?] at given
        rw [given]
        rfl
      | none =>
        rw [given?] at given
        rw [given, Option.none_or]
        exact decode_usual setting
    obtain ⟨value, there, same⟩ := Option.map_eq_some_iff.mp found
    rw [TextMap.get?] at there
    rw [Json.required, there]
    exact same
  rw [Settings.load, laid, ofJson_object, funext required]

/-- The value of a document holds the values of its members. -/
theorem get?_collapseMembers (members : Entries Json) (key : String) :
    (TextMap.ofList (Json.collapseMembers members)).get? key =
      ((TextMap.ofList members).get? key).map Json.collapse := by
  induction members with
  | nil => rfl
  | cons member rest inductionHypothesis =>
    obtain ⟨name, value⟩ := member
    rw [Json.collapseMembers, TextMap.ofList, TextMap.ofList, TextMap.insertAll_cons,
      TextMap.insertAll_cons, TextMap.get?_insertAll_or, TextMap.get?_insertAll_or _ rest,
      inductionHypothesis, Option.map_or, TextMap.get?_insert, TextMap.get?_insert]
    split <;> rfl

/-- Objects of the same value give the same for every setting. -/
theorem outcome_eq_of_collapse {left right : Entries Json}
    (same : (Json.object left).collapse = (Json.object right).collapse) (setting : Setting) :
    outcome left setting = outcome right setting := by
  have read (members : Entries Json) : outcome members setting =
      match (TextMap.ofList (Json.collapseMembers members)).get? setting.name with
      | some json => setting.kind.decode json
      | none => .ok (setting.get {}) := by
    rw [outcome, given?, get?_collapseMembers]
    cases (TextMap.ofList members).get? setting.name with
    | none => rfl
    | some json => exact (setting.kind.decode_collapse json).symm
  have entries := Json.object.inj same
  rw [read, read, TextMap.get?, TextMap.get?, entries]

/-- There are settings of any values. -/
theorem exists_get (values : (setting : Setting) → setting.kind.Value) :
    ∃ settings, ∀ setting : Setting, setting.get settings = values setting := by
  refine ⟨
    { debug := values .debug
      formTimeout := values .formTimeout
      sessionNamespace := values .sessionNamespace
      defaultConnection := values .defaultConnection
      templateDirectories := values .templateDirectories
      insertTemplate := values .insertTemplate
      editTemplate := values .editTemplate
      assetsUrl := values .assetsUrl
      browserValidation := values .browserValidation
      logLevel := values .logLevel }, ?_⟩
  intro setting
  cases setting <;> rfl

/-- There is a value for a setting unless something else stands there. -/
theorem outcome_ok_iff {members : Entries Json} {setting : Setting} :
    (∃ value, outcome members setting = .ok value) ↔
      ∀ json, setting.given? members = some json → ∃ value, setting.kind.Denotes json value := by
  rw [outcome]
  cases setting.given? members with
  | none => simp
  | some json => simp [SettingKind.decode_eq_ok_iff]

/-- An object is loaded if there is a value for each setting. -/
theorem load_eq_ok_iff {members : Entries Json} {loaded : Settings} :
    Settings.load (.object members) = .ok loaded ↔
      ∀ setting, outcome members setting = .ok (setting.get loaded) := by
  rw [load_object, ← assemble_eq_ok_iff]
  cases assemble (outcome members) with
  | ok settings =>
    constructor
    · intro same
      exact congrArg Except.ok (Except.ok.inj same)
    · intro same
      exact congrArg Except.ok (Except.ok.inj same)
  | error fault =>
    constructor
    · intro same
      cases same
    · intro same
      cases same

end Setting

/-! ## Sources of settings -/

namespace Settings

/-- What a text gives depends on the document that it writes. -/
theorem ofText_read {format : SettingsFormat} {text : String} {document : Json}
    (read : readText format text = .ok document) : ofText format text = load document := by
  rw [ofText, read]
  rfl

/-- How a text whose document is an object with the given members determines the settings. -/
structure Sources (format : SettingsFormat) (text : String) (members : Entries Json) : Prop where
  /-- Loading succeeds exactly if whatever stands for a setting stands for a value of it. -/
  loads : (∃ loaded, ofText format text = .ok loaded) ↔
    ∀ setting json, Setting.given? members setting = some json →
      ∃ value, setting.kind.Denotes json value
  /-- It fails exactly if something stands for a setting that is no value of it. -/
  fails : (∃ fault, ofText format text = .error (.configuration (.undecodable fault))) ↔
    ∃ setting json, Setting.given? members setting = some json ∧
      ∀ value, ¬ setting.kind.Denotes json value
  /-- A value from the environment comes first. -/
  environment : ∀ loaded, ofText format text = .ok loaded → ∀ lookup setting value,
    Setting.environment? lookup setting = some value →
      setting.get (loaded.override lookup) = value
  /-- What the document gives comes second. -/
  document : ∀ loaded, ofText format text = .ok loaded → ∀ lookup setting json,
    Setting.environment? lookup setting = none → Setting.given? members setting = some json →
      setting.kind.Denotes json (setting.get (loaded.override lookup))
  /-- A setting that neither of them gives is as usual. -/
  usual : ∀ loaded, ofText format text = .ok loaded → ∀ lookup setting,
    Setting.environment? lookup setting = none → Setting.given? members setting = none →
      setting.get (loaded.override lookup) = setting.get {}
  /-- A text that gives the same for every setting gives the same settings, whatever else stands in
  it. -/
  known : ∀ otherFormat otherText others,
    readText otherFormat otherText = .ok (.object others) →
      (∀ setting, Setting.given? others setting = Setting.given? members setting) →
        ofText otherFormat otherText = ofText format text
  /-- So does a text in any format that writes a document of the same value. -/
  value : ∀ otherFormat otherText document,
    readText otherFormat otherText = .ok document →
      document.collapse = (Json.object members).collapse →
        ofText otherFormat otherText = ofText format text

/-- Every text whose document is an object determines the settings in this way.

Proof: loading decodes what stands for each setting on its own, whatever else the document holds. -/
theorem settings_determined (format : SettingsFormat) (text : String) (members : Entries Json)
    (read : readText format text = .ok (.object members)) : Sources format text members := by
  have loads : (∃ loaded, ofText format text = .ok loaded) ↔
      ∀ setting json, Setting.given? members setting = some json →
        ∃ value, setting.kind.Denotes json value := by
    simp only [ofText_read read, Setting.load_eq_ok_iff, ← Setting.outcome_ok_iff]
    constructor
    · rintro ⟨loaded, given⟩ setting
      exact ⟨_, given setting⟩
    · intro found
      obtain ⟨values, given⟩ := Classical.axiomOfChoice found
      obtain ⟨loaded, same⟩ := Setting.exists_get values
      exact ⟨loaded, fun setting => by rw [given, same]⟩
  have fails : (∃ fault, ofText format text = .error (.configuration (.undecodable fault))) ↔
      ¬ ∃ loaded, ofText format text = .ok loaded := by
    rw [ofText_read read, Setting.load_object]
    cases Setting.assemble (Setting.outcome members) with
    | ok settings =>
      constructor
      · rintro ⟨fault, same⟩
        cases same
      · intro none
        exact absurd ⟨settings, rfl⟩ none
    | error fault =>
      constructor
      · rintro - ⟨loaded, same⟩
        cases same
      · intro none
        exact ⟨fault, rfl⟩
  have given {loaded : Settings} (loads : ofText format text = .ok loaded) (setting : Setting) :
      Setting.outcome members setting = .ok (setting.get loaded) := by
    rw [ofText_read read] at loads
    exact Setting.load_eq_ok_iff.mp loads setting
  constructor
  · exact loads
  · rw [fails, loads]
    simp only [Classical.not_forall, not_exists, exists_prop]
  · intro loaded loads lookup setting value there
    rw [Setting.get_override, there, Option.getD_some]
  · intro loaded loads lookup setting json absent there
    have decoded := given loads setting
    rw [Setting.outcome, there] at decoded
    rw [Setting.get_override, absent, Option.getD_none]
    exact SettingKind.decode_eq_ok_iff.mp decoded
  · intro loaded loads lookup setting absent nowhere
    have decoded := given loads setting
    rw [Setting.outcome, nowhere] at decoded
    rw [Setting.get_override, absent, Option.getD_none]
    exact (Except.ok.inj decoded).symm
  · intro otherFormat otherText others written same
    have outcomes (setting : Setting) :
        Setting.outcome others setting = Setting.outcome members setting := by
      rw [Setting.outcome, Setting.outcome, same]
    rw [ofText_read written, ofText_read read, Setting.load_object, Setting.load_object,
      funext outcomes]
  · intro otherFormat otherText document written same
    cases document with
    | object others =>
      rw [ofText_read written, ofText_read read, Setting.load_object, Setting.load_object,
        funext (Setting.outcome_eq_of_collapse same)]
    | _ => cases same

/-- The members of a document that is an object. -/
def members? : Json → Option (Entries Json)
  | .object members => some members
  | _ => none

/-- A document with members is an object. -/
theorem eq_object_of_members? {document : Json} {members : Entries Json}
    (found : members? document = some members) : document = .object members := by
  cases document with
  | object others => rw [Option.some.inj found]
  | _ => cases found

/-- A TOML document with two settings, and with a table that is none. -/
def quietDocument : String := "debug = false\nform_timeout = 60\n[extra]\nlog_level = 5\n"

/-- An environment that switches debugging on, names two directories and gives the
timeout in the given words. -/
def loudEnvironment (timeout name : String) : Option String :=
  match name with
  | "FORMBUILDER_DEBUG" => some "Yes"
  | "FORMBUILDER_FORM_TIMEOUT" => some timeout
  | "FORMBUILDER_TEMPLATE_DIRS" => some "forms, ,shared"
  | _ => none

/-- The document determines the settings, and the table makes no difference. The
environment comes first, but for a timeout that is no number. -/
theorem quietDocument_sources :
    ∃ members, readText .toml quietDocument = .ok (.object members) ∧
      Sources .toml quietDocument members ∧
      (ofText .toml quietDocument).toOption = some { debug := false, formTimeout := 60 } ∧
      ∀ loaded, ofText .toml quietDocument = .ok loaded →
        loaded.override (loudEnvironment " 90 ") =
          { debug := true, formTimeout := 90, templateDirectories := ["forms", "shared"] } ∧
        (loaded.override (loudEnvironment "soon")).formTimeout = 60 := by
  have object : ((readText .toml quietDocument).toOption.bind members?).isSome = true := by
    decide +kernel
  have settings : (ofText .toml quietDocument).toOption =
      some { debug := false, formTimeout := 60 } := by
    decide +kernel
  cases read : readText .toml quietDocument with
  | error fault =>
    rw [read] at object
    cases object
  | ok document =>
    rw [read] at object
    obtain ⟨members, found⟩ := Option.isSome_iff_exists.mp object
    obtain rfl := eq_object_of_members? found
    refine ⟨members, rfl, settings_determined _ _ _ read, settings, fun loaded loads => ?_⟩
    rw [loads] at settings
    obtain rfl : loaded = { debug := false, formTimeout := 60 } := Option.some.inj settings
    decide +kernel

/-- A JSON document without settings, with a number beyond the greatest fractional one. -/
def vastDocument : String := "\x7b\"x\":1e400\x7d"

/-- A text may be given as a date, and a document may be refused without a setting in it. -/
theorem refused_not_by_settings :
    (Toml.Moment.ofChars? "1979-05-27".toList).isSome ∧
    (ofText .toml "log_level = 1979-05-27").toOption = some { logLevel := "1979-05-27" } ∧
    ((Json.read? vastDocument).bind members?).map (·.map Prod.fst) = some ["x"] ∧
    (ofText .json vastDocument).toOption = none := by
  refine ⟨?_, ?_, ?_, ?_⟩ <;> decide +kernel

end Settings

end Formwork
