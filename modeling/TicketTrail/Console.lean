import TicketTrail.Json.Printer
import TicketTrail.Settings
import TicketTrail.Transcript

/-!
# The console

How a command prints. Results are lines of text or JSON values; warnings and, when they are asked
for, remarks on what is being done are notices, so that a JSON result is never interrupted.
-/

namespace TicketTrail

/-- How results are printed, and whether remarks are. -/
structure Console where
  format : OutputFormat := .text
  verbose : Bool := false
deriving Repr, DecidableEq, Inhabited

namespace Console

/-- Results that are lines of text in one format and a JSON value in the other. -/
def report (console : Console) (lines : List String) (value : Json) : Transcript :=
  match console.format with
  | .text => .ofResults lines
  | .json => .ofResults [value.text]

/-- A warning. -/
def warning (console : Console) (message : String) : Transcript :=
  match console.format with
  | .text => .ofNotices ["Warning: " ++ message]
  | .json => .ofNotices [(Json.object [("warning", .string message)]).text]

/-- Warnings, one for each message. -/
def warnings (console : Console) (messages : List String) : Transcript :=
  messages.foldr (fun message rest => console.warning message ++ rest) .empty

/-- Remarks on a topic, if they are asked for. -/
def remarks (console : Console) (topic : String) (messages : List String) : Transcript :=
  if console.verbose then .ofNotices (messages.map fun m => "[verbose:" ++ topic ++ "] " ++ m)
  else .empty

/-- A remark on a topic, if remarks are asked for. -/
def remark (console : Console) (topic message : String) : Transcript :=
  console.remarks topic [message]

/-- A remark on the program as a whole, if remarks are asked for. -/
def progress (console : Console) (message : String) : Transcript :=
  if console.verbose then .ofNotices ["[verbose] " ++ message] else .empty

/-- Remarks and warnings are notices, never results. -/
theorem results_remarks (console : Console) (topic : String) (messages : List String) :
    (console.remarks topic messages).results = [] := by
  unfold remarks
  split <;> rfl

theorem results_warning (console : Console) (message : String) :
    (console.warning message).results = [] := by
  unfold warning
  split <;> rfl

end Console

end TicketTrail
