import RubyStubs.Method.Signature

namespace RubyStubs

structure Method where
  parameters : List Parameter := []
  result : Option TypeExpr := none
  isAbstract : Bool := false
  isImplementation : Bool := false
  isOverride : Bool := false
  isOverridable : Bool := false
  isFinal : Bool := false
  classLevel : Bool := false
  typeParameters : List String := []
  signatures : List Signature := []
  deriving DecidableEq, Repr

namespace Method

def qualifiers (m : Method) : List String :=
  (if m.isAbstract then ["abstract"] else []) ++
    (if m.isImplementation then ["implementation"] else []) ++
    (if m.isOverride then ["override"] else []) ++
    (if m.isOverridable then ["overridable"] else []) ++
    (if m.typeParameters.isEmpty then []
      else ["type_parameters(" ++ TypeExpr.commas (m.typeParameters.map (":" ++ ·)) ++ ")"])

def qualifierText (m : Method) : String := String.join (m.qualifiers.map (· ++ "."))

def sameParameters (m n : Method) : Bool :=
  m.parameters.length == n.parameters.length &&
    (m.parameters.zip n.parameters).all fun (p, q) => p.equivalent q

def equivalent (m n : Method) : Bool :=
  m.sameParameters n && { m with parameters := [] } == { n with parameters := [] }

end Method

inductive AttributeKind where
  | reader | writer | accessor
  deriving DecidableEq, Repr

namespace AttributeKind

def label : AttributeKind → String
  | .reader => "reader"
  | .writer => "writer"
  | .accessor => "accessor"

def ofLabel? (s : String) : Option AttributeKind :=
  [reader, writer, accessor].find? (·.label == s)

def complete (kind : AttributeKind) (name : String) (m : Method) : Method :=
  if kind == .writer && m.parameters.isEmpty then
    { m with parameters := [{ name, type := m.result }] }
  else m

theorem complete_classLevel (kind : AttributeKind) (name : String) (m : Method) :
    (kind.complete name m).classLevel = m.classLevel := by
  unfold complete
  split <;> rfl

theorem complete_result (kind : AttributeKind) (name : String) (m : Method) :
    (kind.complete name m).result = m.result := by
  unfold complete
  split <;> rfl

end AttributeKind
end RubyStubs
