import RubyStubs.Text.Quoted
import RubyStubs.TypeExpr.Basic

namespace RubyStubs

inductive DataKind where
  | null | boolean | integer | fraction | list | mapping
  deriving DecidableEq, Repr

def DataKind.label : DataKind → String
  | .null => "NoneType"
  | .boolean => "bool"
  | .integer => "int"
  | .fraction => "float"
  | .list => "list"
  | .mapping => "dict"

inductive BuildError where
  | notAType (found : DataKind)
  | twoResults
  | unknownParameterKind (text : String)
  | unknownAttributeKind (text : String)
  | abstractScope
  | raised (label message : String)
  deriving DecidableEq, Repr

def BuildError.message : BuildError → String
  | .notAType k => "expected a str or Type, got " ++ k.label
  | .twoResults => "cannot specify both return_type and returns"
  | .unknownParameterKind s => Text.quoted s ++ " is not a valid ParameterKind"
  | .unknownAttributeKind s => "unknown attribute kind: " ++ Text.quoted s
  | .abstractScope => "Namespace is abstract; instantiate PlainNamespace instead"
  | .raised _ message => message

inductive TypeLike where
  | text (text : String)
  | type (t : TypeExpr)
  | other (kind : DataKind)
  deriving DecidableEq

namespace TypeLike

def toType : TypeLike → Except BuildError TypeExpr
  | .text s => .ok (.raw s)
  | .type t => .ok t
  | .other k => .error (.notAType k)

def toType? : TypeLike → Except BuildError (Option TypeExpr)
  | .other .null => .ok none
  | t => t.toType.map some

end TypeLike
end RubyStubs
