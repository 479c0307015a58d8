import TicketTrail.Files
import TicketTrail.Settings
import TicketTrail.Toml.Reader

/-!
# The form of a settings file

A settings file is a TOML document in which every key may be missing. Keys that are no settings are
passed over. A settings file may be missing as a whole.
-/

namespace TicketTrail

namespace OutputFormat

/-- The name of a format in a settings file and on the command line. -/
def name : OutputFormat → String
  | text => "text"
  | json => "json"

/-- The format with the given name. -/
def ofName? (s : String) : Option OutputFormat :=
  [text, json].find? (·.name == s)

/-- The format is named by a string, or by the only key of a table, with nothing in it. -/
def ofToml? : Toml → Option OutputFormat
  | .string s => ofName? s
  | .table _ [(s, .table _ [])] => ofName? s
  | .table _ [(s, .array [])] => ofName? s
  | _ => none

end OutputFormat

namespace Settings

/-- A text. -/
def textOfToml? : Toml → Option String
  | .string s => some s
  | _ => none

/-- A list of texts. -/
def textsOfToml? : Toml → Option (List String)
  | .array items => items.mapM textOfToml?
  | .tables [] => some []
  | _ => none

/-- The value of a key that may be missing, as `decode` reads it. -/
def field {α : Type} (pairs : Toml.Pairs) (name : String) (default : α)
    (decode : Toml → Option α) : Except SettingsError α :=
  match pairs.lookup name with
  | none => .ok default
  | some value =>
    match decode value with
    | some a => .ok a
    | none => .error (.malformed ("invalid value for '" ++ name ++ "'"))

/-- The settings in a document. -/
def ofToml (pairs : Toml.Pairs) : Except SettingsError Settings := do
  let defaultFormat ← field pairs "default_format" .text OutputFormat.ofToml?
  let snapshot ← field pairs "snapshot" none fun value => (textOfToml? value).map some
  let statusOrder ← field pairs "status_order" [] textsOfToml?
  let priorityOrder ← field pairs "priority_order" [] textsOfToml?
  return { defaultFormat, snapshot, statusOrder, priorityOrder }

/-- Reads the text of a settings file. -/
def parse (text : String) : Except SettingsError Settings := do
  match Toml.parse? text with
  | none => throw (.malformed "malformed TOML")
  | some pairs => (← ofToml pairs).validate

/-- Reads a settings file; where there is none, nothing is set. -/
def load (files : Files) (path : String) : Except SettingsError Settings :=
  match files.read path with
  | .ok text => parse text
  | .error fault => if fault.isPresent then .error (.unreadable path fault.reason) else .ok {}

end Settings

end TicketTrail
