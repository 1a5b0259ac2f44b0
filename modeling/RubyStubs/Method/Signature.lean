import RubyStubs.Method.Parameter

namespace RubyStubs

structure Block where
  type : TypeExpr
  required : Bool := true
  deriving DecidableEq, Repr

namespace Block

def render (b : Block) : String :=
  (if b.required then "" else "?") ++ TypeExpr.braced b.type.rbs

end Block

structure Signature where
  parameters : List Parameter := []
  result : Option TypeExpr := none
  block : Option Block := none
  typeParameters : List String := []
  deriving DecidableEq, Repr

namespace Signature

def render (s : Signature) : String :=
  (if s.typeParameters.isEmpty then "" else "[" ++ TypeExpr.commas s.typeParameters ++ "] ") ++
    "(" ++ TypeExpr.commas (s.parameters.map Parameter.inSignature) ++ ")" ++
    (s.block.elim "" fun b => " " ++ b.render) ++ " -> " ++ s.result.elim "void" TypeExpr.rbs

end Signature

structure StructField where
  name : String
  type : TypeExpr
  optional : Bool := false
  immutable : Bool := false
  default : Option String := none
  factory : Option String := none
  deriving DecidableEq, Repr

namespace StructField

def call (f : StructField) : String :=
  (if f.immutable then "const" else "prop") ++ " :" ++ f.name ++ ", " ++ f.type.rbi ++
    (if f.optional then ", optional: true" else "") ++
    f.default.elim "" (", default: " ++ ·) ++ f.factory.elim "" (", factory: " ++ ·)

end StructField
end RubyStubs
