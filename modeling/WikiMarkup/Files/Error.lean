/-!
# Errors of file access
-/

namespace WikiMarkup

/-- A reason why a file cannot be read or written. -/
inductive FileError where
  /-- There is no entry at the path. -/
  | notFound
  /-- A part of the path that has to be a directory is a file. -/
  | notDirectory
  /-- The entry at the path is a directory. -/
  | isDirectory
  /-- The entry at the path is a file that is locked. -/
  | permissionDenied
  /-- The bytes are no UTF-8. -/
  | invalidText
  /-- Any other reason, as the system words it. -/
  | other (message : String)
deriving DecidableEq, Repr

/-- What is said of a file that cannot be read or written. -/
def FileError.message : FileError → String
  | .notFound => "No such file or directory (os error 2)"
  | .notDirectory => "Not a directory (os error 20)"
  | .isDirectory => "Is a directory (os error 21)"
  | .permissionDenied => "Permission denied (os error 13)"
  | .invalidText => "stream did not contain valid UTF-8"
  | .other message => message

/-- The text that bytes stand for in UTF-8. -/
def decodeText (bytes : ByteArray) : Except FileError (List Char) :=
  match String.fromUTF8? bytes with
  | some s => .ok s.toList
  | none => .error .invalidText

end WikiMarkup
