import RubyStubs.SyntaxTree.Path

namespace RubyStubs

inductive Problem where
  | badSyntax
  | sigWithoutDefinition
  | unnamedScope
  | foreignSingletonClass
  | unknownNode (kind : String)
  | enumEntry
  | enumValue
  | structField (call : String)
  | assignment
  | selfMethodInSingleton
  | foreignSingletonMethod
  | argumentCount (sig def_ : Nat)
  | missingParameter (name : String)
  | parameterShape (kind : String)
  | anonymousParameter
  | attributeName
  | sigExpressions
  | returnsArguments
  | paramsArguments
  | paramsShape
  | repeatedParameter (name : String)
  deriving DecidableEq, Repr

namespace Problem

def message : Problem → String
  | .badSyntax => "syntax error in Ruby source"
  | .sigWithoutDefinition => "node after a sig must be a method or attribute definition"
  | .unnamedScope => "class or module without a name"
  | .foreignSingletonClass => "class << on an object other than self"
  | .unknownNode kind => "don't understand node type " ++ kind
  | .enumEntry => "enums block may only contain constant assignments"
  | .enumValue => "enum values must be created with new"
  | .structField call => call ++ " needs a symbol name and a type"
  | .assignment => "only constant assignments are supported"
  | .selfMethodInSingleton => "cannot represent a self. method inside class << self"
  | .foreignSingletonMethod => "singleton methods on objects other than self are not supported"
  | .argumentCount sig def_ =>
    "mismatching number of arguments in sig (" ++ toString sig ++ ") and def (" ++ toString def_ ++ ")"
  | .missingParameter name => "parameter " ++ name ++ " is missing from the sig"
  | .parameterShape kind => "unsupported parameter shape " ++ kind
  | .anonymousParameter => "anonymous parameters are not supported"
  | .attributeName => "attribute names must be symbols"
  | .sigExpressions => "sig block must contain exactly one expression"
  | .returnsArguments => "wrong number of arguments in \"returns\" for sig"
  | .paramsArguments => "wrong number of arguments in \"params\" for sig"
  | .paramsShape => "argument to \"params\" should be a hash"
  | .repeatedParameter name => "argument " ++ name ++ " specified more than once in sig"

def isUnknown : Problem → Bool
  | .foreignSingletonClass | .unknownNode _ | .assignment => true
  | _ => false

end Problem

inductive SourceError where
  | problem (what : Problem) (file : String) (line : Nat)
  | path (e : PathError)
  | noPart
  deriving DecidableEq, Repr

namespace SourceError

def message? : SourceError → Option String
  | .problem what file line =>
    some (if file.isEmpty then what.message else file ++ ":" ++ toString line ++ ": " ++ what.message)
  | .path e => e.message?
  | .noPart => none

end SourceError
end RubyStubs
