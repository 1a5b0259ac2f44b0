import RubyStubs.Stub.Rbi

namespace RubyStubs
namespace Rbs

def interfaceName (name : String) : String :=
  if Text.startsWith name "_" then name else "_" ++ name

def opening (s : Scope) : String :=
  match s.kind with
  | .plain => ""
  | .ofModule true => "interface " ++ interfaceName s.name
  | .ofModule false => "module " ++ s.name
  | .ofClass h => Rbi.classOpening s h
  | .ofEnum h _ | .ofStruct h _ => Rbi.classOpening s h.toHeader

def implicitSignature (m : Method) : Signature where
  parameters := m.parameters.filter (·.kind != .block)
  result := m.result
  typeParameters := m.typeParameters

def signatures (m : Method) : List Signature :=
  if m.signatures.isEmpty then [implicitSignature m] else m.signatures

def heading (name : String) (m : Method) : String :=
  "def " ++ (if m.classLevel then "self." else "") ++ name ++ ":"

def method (st : Style) (level : Int) (name : String) (m : Method) : List String :=
  let head := heading name m
  match signatures m with
  | [] => []
  | s :: rest =>
    st.indented level (head ++ " " ++ s.render) ::
      rest.map fun s =>
        st.indented level (Text.blanks (head.length - 1) ++ "| " ++ s.render)

def constantText : ConstantValue → String
  | .text t => t
  | .type t => t.rbs

def member (st : Style) (level : Int) (m : Member) : List String :=
  match m.body with
  | .method b => method st level m.name b
  | .attribute k b =>
    [st.indented level ("attr_" ++ k.label ++ " " ++ (if b.classLevel then "self." else "") ++
      m.name ++ ": " ++ b.result.elim "untyped" TypeExpr.rbs)]
  | .constant v _ => [st.indented level (m.name ++ ": " ++ constantText v)]
  | .mixin k target => [st.indented level (Rbi.mixinWord k ++ target)]
  | .code text => (Text.lines text).map (st.indented level)
  | .bare => []

end Rbs

def rbs : Dialect where
  label := "RBS"
  opening := Rbs.opening
  sections _ _ _ := []
  member := Rbs.member

namespace Rbs

def write (st : Style) (root : Decl) : Except PrintError String := rbs.write st "" root

end Rbs
end RubyStubs
