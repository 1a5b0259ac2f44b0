import RubyStubs.CommandLine.Usage
import RubyStubs.Text.Similar

namespace RubyStubs

structure OptionForm where
  name : String
  valued : Bool := false
  deriving DecidableEq, Repr

/-- The options given, in order, and what else stands on the line. An option that takes no value
is given with an empty one. -/
structure Arguments where
  options : List (String × String) := []
  rest : List String := []
  deriving DecidableEq, Repr

namespace Arguments

def addOption (a : Arguments) (name value : String) : Arguments :=
  { a with options := (name, value) :: a.options }

def addRest (a : Arguments) (s : String) : Arguments := { a with rest := s :: a.rest }

def has (a : Arguments) (name : String) : Bool := a.options.any (·.1 == name)

def value? (a : Arguments) (name : String) : Option String :=
  (a.options.reverse.find? (·.1 == name)).map (·.2)

def splitValue : List Char → List Char × Option (List Char)
  | [] => ([], none)
  | c :: cs =>
    if c == '=' then ([], some cs)
    else ((c :: (splitValue cs).1), (splitValue cs).2)

def isOption (arg : String) : Bool :=
  match arg.toList with
  | '-' :: _ :: _ => true
  | _ => false

def option (forms : List OptionForm) (arg : String) :
    Except UsageError (OptionForm × Option String) :=
  let (name, value) := splitValue arg.toList
  match forms.find? (·.name == String.ofList name) with
  | some f =>
    match f.valued, value with
    | false, some _ => .error (.takesNoValue f.name)
    | _, _ => .ok (f, value.map String.ofList)
  | none =>
    match arg.toList with
    | '-' :: '-' :: _ =>
      .error (.noSuchOption (String.ofList name)
        (Text.closest (String.ofList name) (forms.map (·.name))))
    | cs => .error (.noSuchOption (String.ofList (cs.take 2)) [])

/-- Reads arguments from left to right. Options may stand among the rest if they are `mixed`;
otherwise the first argument that is none ends them. Two dashes always do. -/
def read (forms : List OptionForm) (mixed : Bool) : List String → Except UsageError Arguments
  | [] => .ok {}
  | arg :: args =>
    if arg == "--" then .ok { rest := args }
    else if isOption arg then
      match option forms arg with
      | .error e => .error e
      | .ok (f, some v) => (read forms mixed args).map (·.addOption f.name v)
      | .ok (f, none) =>
        if f.valued then
          match args with
          | [] => .error (.needsArgument f.name)
          | v :: args => (read forms mixed args).map (·.addOption f.name v)
        else (read forms mixed args).map (·.addOption f.name "")
    else if mixed then (read forms mixed args).map (·.addRest arg)
    else .ok { rest := arg :: args }

end Arguments
end RubyStubs
