import RubyStubs.Stub.Layout
import RubyStubs.Text.Lines

namespace RubyStubs
namespace Rbi

def classOpening (s : Scope) (h : ClassHeader) : String :=
  "class " ++ s.name ++
    match h.superclass with
    | some c => if c.isEmpty then "" else " < " ++ c
    | none => ""

def opening (s : Scope) : String :=
  match s.kind with
  | .plain => ""
  | .ofModule _ => "module " ++ s.name
  | .ofClass h => classOpening s h
  | .ofEnum h _ | .ofStruct h _ => classOpening s h.toHeader

def markers (st : Style) (level : Int) (h : ClassHeader) : List String :=
  (if h.isAbstract then [st.indented level "abstract!"] else []) ++
    (if h.isFinal then [st.indented level "final!"] else [])

def enumerator (e : String × Option String) : String :=
  e.1 ++ " = new" ++ e.2.elim "" fun literal => "(" ++ literal ++ ")"

def sections (st : Style) (level : Int) (s : Scope) : List (List String) :=
  match s.kind with
  | .plain => []
  | .ofModule i => [if i then [st.indented level "interface!"] else []]
  | .ofClass h => [markers st level h]
  | .ofEnum h es =>
    [markers st level h.toHeader,
      st.indented level "enums do" :: es.map (fun e => st.indented (level + 1) (enumerator e)) ++
        [st.indented level "end"]]
  | .ofStruct h fs => [markers st level h.toHeader, fs.map fun f => st.indented level f.call]

def eigen (st : Style) (level : Int) (classLevel : Bool) (lines : List String) : List String :=
  if classLevel then
    st.indented level "class << self" :: lines.map (Text.blanks st.tabSize ++ ·) ++
      [st.indented level "end"]
  else lines

def resultCall (m : Method) : String := m.result.elim "void" fun t => "returns(" ++ t.rbi ++ ")"

def sigWord (m : Method) : String := if m.isFinal then "sig(:final)" else "sig"

def withCommas : List String → List String
  | [] => []
  | [p] => [p]
  | p :: q :: ps => (p ++ ",") :: withCommas (q :: ps)

def sigLine (m : Method) (params : List String) : String :=
  let calls := m.qualifiers ++
    (if params.isEmpty then [] else ["params(" ++ TypeExpr.commas params ++ ")"]) ++ [resultCall m]
  sigWord m ++ " " ++ TypeExpr.braced (".".intercalate calls)

def sigBlock (st : Style) (level : Int) (m : Method) (params : List String) : List String :=
  [st.indented level (sigWord m ++ " do"),
      st.indented (level + 1) (String.join (m.qualifiers.map (· ++ ".")) ++ "params(")] ++
    (withCommas params).map (st.indented (level + 2)) ++
    [st.indented (level + 1) (")." ++ resultCall m), st.indented level "end"]

def sig (st : Style) (level : Int) (m : Method) : List String :=
  let params := m.parameters.map Parameter.inSig
  if !params.isEmpty && st.breakParams ≤ params.length then sigBlock st level m params
  else [st.indented level (sigLine m params)]

def definition (name : String) (m : Method) : String :=
  "def " ++ (if m.classLevel then "self." else "") ++ name ++
    (if m.parameters.isEmpty then ""
      else "(" ++ TypeExpr.commas (m.parameters.map Parameter.onDefinition) ++ ")") ++ "; end"

def constantText : ConstantValue → String
  | .text t => t
  | .type t => t.rbi

def mixinWord : MixinKind → String
  | .extended => "extend "
  | .included => "include "

def member (st : Style) (level : Int) (m : Member) : List String :=
  match m.body with
  | .method b => sig st level b ++ [st.indented level (definition m.name b)]
  | .attribute k b =>
    eigen st level b.classLevel
      (sig st level b ++ [st.indented level ("attr_" ++ k.label ++ " :" ++ m.name)])
  | .constant v classLevel =>
    eigen st level classLevel [st.indented level (m.name ++ " = " ++ constantText v)]
  | .mixin k target => [st.indented level (mixinWord k ++ target)]
  | .code text => (Text.lines text).map (st.indented level)
  | .bare => []

end Rbi

def rbi : Dialect where
  label := "RBI"
  opening := Rbi.opening
  sections := Rbi.sections
  member := Rbi.member

namespace Rbi

def write (st : Style) (strictness : String) (root : Decl) : Except PrintError String :=
  rbi.write st ("# typed: " ++ strictness ++ "\n") root

end Rbi
end RubyStubs
