import RubyStubs.Decl.Basic

namespace RubyStubs

namespace ClassHeader

def describe (h : ClassHeader) : String :=
  (match h.superclass with
    | some s => if s.isEmpty then "" else "superclass " ++ s ++ ", "
    | none => "") ++
    (if h.isAbstract then "abstract, " else "") ++ (if h.isFinal then "final, " else "")

end ClassHeader

namespace Scope

def counts (s : Scope) (children : Nat) : String :=
  toString children ++ " children, " ++ toString s.included.length ++ " includes, " ++
    toString s.extended.length ++ " extends"

def describe (s : Scope) (children : Nat) : String :=
  let counts := s.counts children
  match s.kind with
  | .plain => "Namespace " ++ s.name ++ " - " ++ counts
  | .ofClass h => "Class " ++ s.name ++ " - " ++ h.describe ++ counts
  | .ofModule i => "Module " ++ s.name ++ " - " ++ (if i then "interface, " else "") ++ counts
  | .ofEnum h es =>
    "Class " ++ s.name ++ " - " ++ h.toHeader.describe ++ counts ++ ", " ++
      toString es.length ++ " enums"
  | .ofStruct h fs =>
    "Class " ++ s.name ++ " - " ++ h.toHeader.describe ++ counts ++ ", " ++
      toString fs.length ++ " props"

end Scope

namespace Member

def ownerMark (m : Method) : String := if m.classLevel then "self." else ""

def describe (m : Member) : String :=
  match m.body with
  | .method b =>
    "Method " ++ ownerMark b ++ m.name ++ " - " ++ toString b.parameters.length ++
      " parameters, returns " ++ b.result.elim "void" TypeExpr.describe
  | .attribute k b =>
    "Attribute " ++ ownerMark b ++ m.name ++ " (" ++ k.label ++ ") - " ++
      b.result.elim "T.untyped" TypeExpr.describe
  | .constant (.text t) _ => "Constant (" ++ m.name ++ " = " ++ t ++ ")"
  | .constant (.type t) _ => "Constant (" ++ m.name ++ " = " ++ t.describe ++ ")"
  | .mixin .extended target => "Extend (" ++ target ++ ")"
  | .mixin .included target => "Include (" ++ target ++ ")"
  | .code text => "Arbitrary code (" ++ text ++ ")"
  | .bare => "Node " ++ m.name

end Member

namespace Decl

def describe : Decl → String
  | .scope s ds => s.describe ds.length
  | .member m => m.describe

end Decl
end RubyStubs
