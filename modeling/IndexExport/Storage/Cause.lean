/-!
# Why the file system refuses
-/
set_option autoImplicit false

namespace IndexExport.Storage

/-- Why an operation on files was refused. What a tree has no part in, such as a full medium, is
given in the words for it. -/
inductive Cause where
  | notFound
  | alreadyThere
  | notADirectory
  | isADirectory
  | nameTooLong
  | nulInPath
  | notUtf8
  | other (words : String)
  deriving DecidableEq, Repr, Inhabited

def Cause.message : Cause → String
  | .notFound => "No such file or directory (os error 2)"
  | .alreadyThere => "File exists (os error 17)"
  | .notADirectory => "Not a directory (os error 20)"
  | .isADirectory => "Is a directory (os error 21)"
  | .nameTooLong => "File name too long (os error 36)"
  | .nulInPath => "file name contained an unexpected NUL byte"
  | .notUtf8 => "stream did not contain valid UTF-8"
  | .other words => words

end IndexExport.Storage
