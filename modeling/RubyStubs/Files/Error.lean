namespace RubyStubs

/-- `occupied` says that a file stands where a directory is to be made, and `notDirectory` that one
stands where a path goes on. -/
inductive FileError where
  | missing
  | isDirectory
  | notDirectory
  | occupied
  | nameTooLong
  | badName
  | notText
  deriving DecidableEq, Repr

namespace FileError

def message : FileError → String
  | .missing => "no such file or directory"
  | .isDirectory => "is a directory"
  | .notDirectory => "not a directory"
  | .occupied => "file exists"
  | .nameTooLong => "file name too long"
  | .badName => "embedded null byte"
  | .notText => "not valid UTF-8"

end FileError
end RubyStubs
