/-!
# Files

What reading a file comes to: its text, or why there is none.
-/

namespace TicketTrail

/-- Why a file cannot be read. -/
inductive FileFault where
  | missing
  /-- A file stands where the path has a directory. -/
  | notDirectory
  | isDirectory
  | nameTooLong
  /-- There is a U+0000 in the path. -/
  | nulInName
  /-- The bytes in the file are no UTF-8. -/
  | notText
  | other (reason : String)
deriving Repr, DecidableEq

/-- The fault as it is told. -/
def FileFault.reason : FileFault → String
  | missing => "No such file or directory (os error 2)"
  | notDirectory => "Not a directory (os error 20)"
  | isDirectory => "Is a directory (os error 21)"
  | nameTooLong => "File name too long (os error 36)"
  | nulInName => "file name contained an unexpected NUL byte"
  | notText => "stream did not contain valid UTF-8"
  | other reason => reason

/-- There is something at the path that cannot be read. -/
def FileFault.isPresent : FileFault → Bool
  | isDirectory | notText | other _ => true
  | _ => false

/-- Files, by what reading at a path comes to. -/
structure Files where
  read : String → Except FileFault String

end TicketTrail
