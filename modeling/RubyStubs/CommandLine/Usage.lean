import RubyStubs.Text.Quoted

namespace RubyStubs

inductive UsageError where
  | noArguments
  | noSuchOption (name : String) (close : List String)
  | needsArgument (option : String)
  | takesNoValue (option : String)
  | noSuchCommand (name : String) (close : List String)
  | missingCommand
  | missingFile
  | fileAbsent (path : String)
  | fileIsDirectory (path : String)
  | extraArguments (args : List String)
  | noOutput
  deriving DecidableEq, Repr

namespace UsageError

def suggestion : List String → String
  | [] => ""
  | [s] => " Did you mean " ++ Text.quoted s ++ "?"
  | ss => " (Did you mean one of: " ++ ", ".intercalate (ss.map Text.quoted) ++ "?)"

def message : UsageError → String
  | .noArguments => "No arguments."
  | .noSuchOption name close => "No such option " ++ Text.quoted name ++ "." ++ suggestion close
  | .needsArgument option => "Option " ++ Text.quoted option ++ " requires an argument."
  | .takesNoValue option => "Option " ++ Text.quoted option ++ " does not take a value."
  | .noSuchCommand name close =>
    "No such command " ++ Text.quoted name ++ "." ++ suggestion close
  | .missingCommand => "Missing command."
  | .missingFile => "Missing argument 'FILE'."
  | .fileAbsent path =>
    "Invalid value for 'FILE': File " ++ Text.quoted path ++ " does not exist."
  | .fileIsDirectory path =>
    "Invalid value for 'FILE': File " ++ Text.quoted path ++ " is a directory."
  | .extraArguments args =>
    "Got unexpected extra argument" ++ (if args.length == 1 then "" else "s") ++ " (" ++
      " ".intercalate args ++ ")"
  | .noOutput => "no output file given; pass --rbi/--rbs or set output_file in the config"

end UsageError
end RubyStubs
