/-!
# Failures of the file system

The kinds of failure that reading and writing files can end in, with the names and texts under
which they are reported.
-/

namespace SchemaClass

/-- Why a file operation failed. -/
inductive IoError where
  | notFound
  | alreadyExists
  | notADirectory
  | isADirectory
  | invalidInput
  | nameTooLong
  | permissionDenied
  | other (text : String)
  deriving DecidableEq, Repr

namespace IoError

/-- The name of a kind of failure. -/
def kind : IoError → String
  | notFound => "NotFound"
  | alreadyExists => "AlreadyExists"
  | notADirectory => "NotADirectory"
  | isADirectory => "IsADirectory"
  | invalidInput => "InvalidInput"
  | nameTooLong => "InvalidFilename"
  | permissionDenied => "PermissionDenied"
  | other _ => "Other"

/-- What is said of a failure. -/
def message : IoError → String
  | notFound => "No such file or directory (os error 2)"
  | alreadyExists => "File exists (os error 17)"
  | notADirectory => "Not a directory (os error 20)"
  | isADirectory => "Is a directory (os error 21)"
  | invalidInput => "file name contained an unexpected NUL byte"
  | nameTooLong => "File name too long (os error 36)"
  | permissionDenied => "Permission denied (os error 13)"
  | other text => text

end IoError

end SchemaClass
