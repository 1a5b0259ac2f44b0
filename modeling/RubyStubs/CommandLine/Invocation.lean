import RubyStubs.CommandLine.Arguments
import RubyStubs.Files.FileTree

namespace RubyStubs

inductive Invocation where
  | help
  | version
  | generate (config rbi rbs : Option String)
  | parse (file : String) (asRbs : Bool)
  deriving DecidableEq, Repr

namespace Invocation

def usage : String := "Usage: stubsmith [OPTIONS] COMMAND [ARGS]..."

def topForms : List OptionForm := [⟨"--version", false⟩, ⟨"--help", false⟩]

def generateForms : List OptionForm :=
  [⟨"--config", true⟩, ⟨"--rbi", true⟩, ⟨"--rbs", true⟩, ⟨"--debug", false⟩, ⟨"--help", false⟩]

def parseForms : List OptionForm := [⟨"--rbs", false⟩, ⟨"--debug", false⟩, ⟨"--help", false⟩]

/-- Help and version are answered before anything else is looked at, the one that is given first. -/
def early? (a : Arguments) : Option Invocation :=
  match a.options with
  | [] => none
  | (name, _) :: _ => some (if name == "--help" then .help else .version)

def endsInDirectory (path : String) : Bool :=
  match (Text.split '/' path.toList).getLast? with
  | some [] => !path.isEmpty
  | some p => p == ['.']
  | none => false

/-- A file that is named has to be there. Names that no file can have are refused later, when the
file is read. -/
def checkFile (t : FileTree) (path : String) : Except UsageError Unit :=
  if path.isEmpty then .error (.fileAbsent path)
  else
    match t.find (.ofText path) with
    | .error .badName => .ok ()
    | .error _ => .error (.fileAbsent path)
    | .ok .directory => .error (.fileIsDirectory path)
    | .ok (.file _) => if endsInDirectory path then .error (.fileAbsent path) else .ok ()

def noExtra (args : List String) : Except UsageError Unit :=
  if args.isEmpty then .ok () else .error (.extraArguments args)

def ofGenerate (args : List String) : Except UsageError Invocation := do
  let a ← Arguments.read generateForms true args
  if a.has "--help" then return .help
  noExtra a.rest
  return .generate (a.value? "--config") (a.value? "--rbi") (a.value? "--rbs")

def ofParse (t : FileTree) (args : List String) : Except UsageError Invocation := do
  let a ← Arguments.read parseForms true args
  if a.has "--help" then return .help
  match a.rest with
  | [] => .error .missingFile
  | file :: extra =>
    checkFile t file
    noExtra extra
    return .parse file (a.has "--rbs")

def commands : List String := ["generate", "parse"]

/-- A command may be named after two dashes; what then looks like an option is read as one. -/
def ofCommand (t : FileTree) (name : String) (args : List String) : Except UsageError Invocation :=
  if name == "generate" then ofGenerate args
  else if name == "parse" then ofParse t args
  else do
    let a ← Arguments.read topForms false (name :: args)
    match early? a with
    | some i => return i
    | none => .error (.noSuchCommand name (Text.closest name commands))

def ofArguments (t : FileTree) (args : List String) : Except UsageError Invocation :=
  if args.isEmpty then .error .noArguments
  else do
    let a ← Arguments.read topForms false args
    match early? a, a.rest with
    | some i, _ => return i
    | none, [] => .error .missingCommand
    | none, name :: rest => ofCommand t name rest

end Invocation
end RubyStubs
