import SnapshotEngine.Settings
import SnapshotEngine.Text.Blank

/-!
# Configuration

A site is configured by nine fields: where the management services run and how
to reach the control plane, where the data mover listens and which program it
is, four times in seconds, and the directory of the objects.  Two of the fields
may be left out.

Texts are checked and used without the white space around them.  The checks run
in a fixed order, and the first that fails says what is wrong and how to set
the field.

* `validate_eq_ok_iff` — what a valid configuration is;
* `settings_isOk_iff` — valid configurations are those that make settings;
* `blank_serverAddr_of_settings` — and the address of the mover is there in these.
-/

namespace SnapshotEngine

/-- The port of the control plane inside the cluster. -/
def controlPlanePort : Nat := 5656

/-- The name of the control plane inside the cluster. -/
def controlPlaneService : String := "maya-apiserver-service"

/-- The fields of a configuration. -/
inductive ConfigField where
  | managementNamespace
  | controlPlaneUrl
  | serverAddr
  | requestTimeout
  | pollInterval
  | operationTimeout
  | confirmGrace
  | moverProgram
  | objectDirectory
deriving DecidableEq, Repr, Inhabited

namespace ConfigField

/-- All fields, in their order. -/
def all : List ConfigField :=
  [.managementNamespace, .controlPlaneUrl, .serverAddr, .requestTimeout, .pollInterval,
    .operationTimeout, .confirmGrace, .moverProgram, .objectDirectory]

/-- The key of a field in configuration files. -/
def key : ConfigField → String
  | .managementNamespace => "namespace"
  | .controlPlaneUrl => "control_plane_url"
  | .serverAddr => "server_addr"
  | .requestTimeout => "request_timeout_secs"
  | .pollInterval => "poll_interval_secs"
  | .operationTimeout => "operation_timeout_secs"
  | .confirmGrace => "confirm_grace_secs"
  | .moverProgram => "transfer_bin"
  | .objectDirectory => "object_prefix"

/-- What a field is called in messages. -/
def label : ConfigField → String
  | .managementNamespace => "management namespace"
  | .controlPlaneUrl => "control plane URL"
  | .serverAddr => "data mover address"
  | .requestTimeout => "request timeout"
  | .pollInterval => "poll interval"
  | .operationTimeout => "operation timeout"
  | .confirmGrace => "confirmation grace"
  | .moverProgram => "data mover executable"
  | .objectDirectory => "object prefix"

/-- What the names of all environment variables of a configuration start
with. -/
def environmentStart : String := "CSTOR_BACKUP_"

/-- The environment variable of a field. -/
def environmentName (field : ConfigField) : String :=
  environmentStart ++ String.ofList (field.key.toList.map Char.toUpper)

/-- How to set a field. -/
def hint (field : ConfigField) : String :=
  "set " ++ field.environmentName ++ " or add " ++ field.key ++ " to cstor-backup.toml"

end ConfigField

/-- What is wrong with a configuration. -/
inductive ConfigError where
  /-- A field that is needed is missing. -/
  | missing (detail : String)
  /-- A field has a value that cannot be used. -/
  | invalid (detail : String)
  /-- The configuration cannot be read. -/
  | unreadable (detail : String)
deriving DecidableEq, Repr, Inhabited

namespace ConfigError

/-- The message of a configuration error. -/
def message : ConfigError → String
  | .missing detail => "missing configuration field: " ++ detail
  | .invalid detail => "invalid configuration value: " ++ detail
  | .unreadable detail => "configuration parsing failed: " ++ detail

/-- A field that is needed is blank. -/
def blankField (field : ConfigField) : ConfigError :=
  .missing ("missing " ++ field.label ++ ": " ++ field.hint)

/-- A field that may be left out is there, but blank. -/
def blankOption (field : ConfigField) : ConfigError :=
  .invalid (field.label ++ " must not be blank when present: " ++ field.hint)

/-- A time that must not be zero is zero. -/
def zeroTime (field : ConfigField) : ConfigError :=
  .invalid (field.label ++ " must be greater than zero: " ++ field.hint)

end ConfigError

/-- A configuration; times are in seconds. -/
structure Config where
  /-- The namespace of the management services. -/
  managementNamespace : String
  /-- Where the control plane is, unless where it is by default. -/
  controlPlaneUrl : Option String
  /-- Where the data mover listens. -/
  serverAddr : String
  requestTimeout : Nat
  pollInterval : Nat
  operationTimeout : Nat
  confirmGrace : Nat
  /-- The program that moves data. -/
  moverProgram : String
  /-- The directory of the objects. -/
  objectDirectory : Option String
deriving DecidableEq, Repr, Inhabited

namespace Config

/-- A text that is needed. -/
def needText (field : ConfigField) (value : String) : Except ConfigError Unit :=
  if Text.blank value then .error (.blankField field) else .ok ()

/-- A text that may be left out. -/
def allowText (field : ConfigField) (value : Option String) : Except ConfigError Unit :=
  if value.any Text.blank then .error (.blankOption field) else .ok ()

/-- A time that must not be zero. -/
def needTime (field : ConfigField) (secs : Nat) : Except ConfigError Unit :=
  if secs = 0 then .error (.zeroTime field) else .ok ()

/-- Checks a configuration. -/
def validate (c : Config) : Except ConfigError Unit := do
  needText .managementNamespace c.managementNamespace
  needText .serverAddr c.serverAddr
  needText .moverProgram c.moverProgram
  allowText .controlPlaneUrl c.controlPlaneUrl
  allowText .objectDirectory c.objectDirectory
  needTime .requestTimeout c.requestTimeout
  needTime .pollInterval c.pollInterval
  needTime .operationTimeout c.operationTimeout

/-- The address of the control plane: the one that is set, or the one inside the
cluster. -/
def url (c : Config) : String :=
  match c.controlPlaneUrl with
  | some set => Text.trim set
  | none =>
      "http://" ++ controlPlaneService ++ "." ++ Text.trim c.managementNamespace
        ++ ".svc.cluster.local:" ++ toString controlPlanePort

/-- The settings that a configuration makes, whether or not it is valid. -/
def asSettings (c : Config) : Settings where
  serverAddr := Text.trim c.serverAddr
  pollInterval := .ofSecs c.pollInterval
  operationTimeout := .ofSecs c.operationTimeout
  confirmGrace := .ofSecs c.confirmGrace
  namer := .ofSetting c.objectDirectory

/-- The settings that a valid configuration makes. -/
def settings (c : Config) : Except ConfigError Settings := do
  c.validate
  return c.asSettings

theorem needText_eq_ok_iff {field : ConfigField} {value : String} :
    needText field value = .ok () ↔ Text.blank value = false := by
  unfold needText
  split <;> simp_all

theorem allowText_eq_ok_iff {field : ConfigField} {value : Option String} :
    allowText field value = .ok () ↔ ∀ s, value = some s → Text.blank s = false := by
  unfold allowText
  cases value with
  | none => simp
  | some s => by_cases h : Text.blank s <;> simp [h]

theorem needTime_eq_ok_iff {field : ConfigField} {secs : Nat} :
    needTime field secs = .ok () ↔ 0 < secs := by
  unfold needTime
  split <;> simp_all [Nat.pos_iff_ne_zero]

/-- The second of two checks matters once the first has passed. -/
theorem bind_eq_ok_iff {first : Except ConfigError Unit} {second : Unit → Except ConfigError Unit} :
    (first >>= second) = .ok () ↔ first = .ok () ∧ second () = .ok () := by
  cases first with
  | ok u => simp [bind, Except.bind]
  | error e => simp [bind, Except.bind]

/-- A configuration is valid when the texts that are needed are not blank, those
that may be left out are not blank if they are there, and three of the times are
not zero. -/
theorem validate_eq_ok_iff {c : Config} :
    c.validate = .ok () ↔
      (Text.blank c.managementNamespace = false ∧ Text.blank c.serverAddr = false ∧
        Text.blank c.moverProgram = false) ∧
      ((∀ s, c.controlPlaneUrl = some s → Text.blank s = false) ∧
        ∀ s, c.objectDirectory = some s → Text.blank s = false) ∧
      0 < c.requestTimeout ∧ 0 < c.pollInterval ∧ 0 < c.operationTimeout := by
  simp only [validate, bind_eq_ok_iff, needText_eq_ok_iff, allowText_eq_ok_iff,
    needTime_eq_ok_iff, and_assoc]

/-- A configuration makes settings exactly when it is valid. -/
theorem settings_isOk_iff {c : Config} :
    (∃ s, c.settings = .ok s) ↔ c.validate = .ok () := by
  unfold settings
  cases h : c.validate with
  | ok u => simp [bind, Except.bind, pure, Except.pure]
  | error e => simp [bind, Except.bind]

/-- The settings of a valid configuration have an address. -/
theorem blank_serverAddr_of_settings {c : Config} {s : Settings} (h : c.settings = .ok s) :
    Text.blank s.serverAddr = false := by
  have hvalid : c.validate = .ok () := settings_isOk_iff.mp ⟨s, h⟩
  have hsettings : c.asSettings = s := by
    rw [settings, hvalid] at h
    exact Except.ok.inj h
  rw [← hsettings, asSettings, Text.blank_trim]
  exact (validate_eq_ok_iff.mp hvalid).1.2.1

end Config

end SnapshotEngine
