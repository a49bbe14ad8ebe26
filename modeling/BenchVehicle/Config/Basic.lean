import BenchVehicle.Config.Defaults
import BenchVehicle.Config.Document

/-!
# Configuration

What a bench is set up with: its settings, its declarations and what is sampled from the start. It
comes from a file, and the environment goes before the file.
-/

namespace BenchVehicle

open Document

/-- Settings of a bench. -/
structure Settings where
  /-- Whether values are read that override those of the start. -/
  overrideEnabled : Bool := false
  /-- The directory of these values. -/
  overrideDir : String := "/vendor/etc/automotive/vhaloverride/"
  /-- Whether answers to commands are printed. -/
  printsAnswers : Bool := true
  deriving DecidableEq

/-- An instance that is sampled from the start. -/
structure Subscription where
  /-- The instance. -/
  key : PropertyKey
  /-- The samples a second. -/
  rate : Single
  deriving DecidableEq

/-- A configuration. -/
structure Config where
  /-- The settings. -/
  settings : Settings := {}
  /-- The properties that are declared. -/
  declared : List Declaration := []
  /-- What is sampled from the start. -/
  subscriptions : List Subscription := []

/-- What the environment says of the settings. -/
structure Environment where
  /-- Whether overriding values are read. -/
  overrideEnabled : Option String := none
  /-- The directory of overriding values. -/
  overrideDir : Option String := none

/-- Why there is no configuration, or no overriding values. -/
inductive ConfigError where
  /-- The file is not there or holds no text. -/
  | fileUnreadable (path : String)
  /-- The file holds no configuration. -/
  | fileMalformed (path : String)
  /-- The directory is not there. -/
  | directoryUnreadable (path : String)
  /-- A text holds no table of properties. -/
  | tableMalformed
  deriving DecidableEq

/-- The wording of an error. -/
def ConfigError.message : ConfigError → String
  | fileUnreadable path => "failed to read config file " ++ path
  | fileMalformed path => "failed to parse config file " ++ path
  | directoryUnreadable path => "failed to read override dir " ++ path
  | tableMalformed => "invalid property table"

namespace Settings

/-- The settings of a document. -/
def ofDocument? {δ : Type} [Document δ] (d : δ) : Option Settings := do
  let usual : Settings := {}
  let fields ← fields? [["override_enabled"], ["override_dir"], ["dump_to_stdout"]] d
  let overrideEnabled ← orElse truth? usual.overrideEnabled (field 0 fields)
  let overrideDir ← orElse text? usual.overrideDir (field 1 fields)
  let printsAnswers ← orElse truth? usual.printsAnswers (field 2 fields)
  return { overrideEnabled, overrideDir, printsAnswers }

/-- The settings with what the environment says of them. A text that is no truth value and an empty
directory say nothing. -/
def apply (e : Environment) (s : Settings) : Settings :=
  { s with
    overrideEnabled :=
      if e.overrideEnabled = some "true" then true
      else if e.overrideEnabled = some "false" then false
      else s.overrideEnabled
    overrideDir := match e.overrideDir with
      | none | some "" => s.overrideDir
      | some dir => dir }

end Settings

/-- The subscription of a document. -/
def Subscription.ofDocument? {δ : Type} [Document δ] (d : δ) : Option Subscription := do
  let fields ← fields? [["prop"], ["area_id"], ["sample_rate"]] d
  let prop ← required int32? (field 0 fields)
  let area ← orElse int32? 0 (field 1 fields)
  let rate ← required single? (field 2 fields)
  return { key := ⟨prop, area⟩, rate }

namespace Config

/-- The configuration of a document. -/
def ofDocument? {δ : Type} [Document δ] (d : δ) : Option Config := do
  let fields ← fields? [["hardware"], ["property"], ["subscription"]] d
  let settings ← orElse Settings.ofDocument? {} (field 0 fields)
  let declared ← orElse (listOf Declaration.ofDocument?) [] (field 1 fields)
  let subscriptions ← orElse (listOf Subscription.ofDocument?) [] (field 2 fields)
  return { settings, declared, subscriptions }

/-- The configuration of a file, given the bytes at its path if there are any. -/
def ofFile (path : String) (content : Option ByteArray) : Except ConfigError Config :=
  match content.bind String.fromUTF8? with
  | none => .error (.fileUnreadable path)
  | some text =>
    match (Toml.parse? text).bind ofDocument? with
    | none => .error (.fileMalformed path)
    | some c => .ok c

/-- The configuration with what the environment says of its settings. -/
def apply (e : Environment) (c : Config) : Config := { c with settings := c.settings.apply e }

/-- The properties of the bench: those that are declared, or the usual ones if none is. -/
def declarations (c : Config) : List Declaration :=
  if c.declared.isEmpty then Declaration.defaults else c.declared

end Config

/-- The declarations of a text. -/
def Declaration.ofText (s : String) : Except ConfigError (List Declaration) :=
  match Declaration.parseTable? s with
  | some ds => .ok ds
  | none => .error .tableMalformed

end BenchVehicle
