import RubyStubs.Decl.Basic
import RubyStubs.TypeExpr.OfNode

namespace RubyStubs

inductive Warning where
  | code | enumDropped | structDropped | abstractClass | finalClass | interfaceModule | plainScope
  | classAttribute | classConstant | blockType | bareDropped
  deriving DecidableEq, Repr

def Warning.message : Warning → String
  | .code => "converting type of Arbitrary is likely to cause syntax errors"
  | .enumDropped => "RBS does not support enums; dropping"
  | .structDropped => "RBS does not support structs; dropping"
  | .abstractClass => "RBS does not support abstract classes"
  | .finalClass => "RBS does not support final classes"
  | .interfaceModule => "interfaces are not converted; emitting a plain module"
  | .plainScope =>
    "unspecialized namespaces are not supposed to be in the tree; you may run into issues"
  | .classAttribute => "RBS does not support class attributes; dropping"
  | .classConstant => "RBS does not support constants on eigenclasses; dropping"
  | .blockType => "block type must be a Proc (or nilable one); dropping block"
  | .bareDropped => "no conversion for Node; dropping"

namespace Convert

variable (read : Reader)

def type : TypeExpr → TypeExpr
  | .raw text => .ofText read text
  | t => t

def letType? (value : String) : Option TypeExpr :=
  let tree := read value
  match tree.broken, tree.children with
  | false, [n] =>
    match n.chain, n.arguments with
    | (some root, [link]), [_, t] =>
      if root.text == "T" && link.name == some "let" then some (.ofNode t) else none
    | _, _ => none
  | _, _ => none

def constantType : ConstantValue → TypeExpr
  | .type t => type read t
  | .text value => (letType? read value).getD (.raw value)

/-- The block that a block parameter of this type stands for, and whether there ought to be one. -/
def block (param : Option TypeExpr) : Option Block × Bool :=
  let t := param.map (type read)
  if TypeExpr.isUntyped t then (none, true)
  else
    match t with
    | some (.proc ps r) => (some { type := .proc ps r }, true)
    | some (.nilable (.proc ps r)) => (some { type := .proc ps r, required := false }, true)
    | _ => (none, false)

def method (m : Method) : Method × Bool :=
  let parameters := (m.parameters.filter (·.kind != .block)).map fun p =>
    { p with type := p.type.map (type read) }
  let (block, kept) := match m.parameters.find? (·.kind == .block) with
    | some p => block read p.type
    | none => (none, true)
  let result := m.result.map (type read)
  ({ parameters, result, classLevel := m.classLevel, typeParameters := m.typeParameters,
     signatures := [{ parameters, result, block, typeParameters := m.typeParameters }] }, kept)

def member (m : Member) : Option Member × List Warning :=
  match m.body with
  | .method b =>
    let (b, kept) := method read b
    (some { m with body := .method b }, if kept then [] else [.blockType])
  | .attribute k b =>
    if b.classLevel then (none, [.classAttribute])
    else
      (some { m with body := .attribute k (k.complete m.name { result := b.result.map (type read) }) },
        [])
  | .constant v classLevel =>
    if classLevel then (none, [.classConstant])
    else (some { m with body := .constant (.type (constantType read v)) false }, [])
  | .mixin k target => (some { m with name := target, body := .mixin k target }, [])
  | .code text => (some { m with name := "", body := .code text }, [.code])
  | .bare => (none, [.bareDropped])

def kind : ScopeKind → Option ScopeKind × List Warning
  | .plain => (some .plain, [.plainScope])
  | .ofModule i => (some (.ofModule false), if i then [.interfaceModule] else [])
  | .ofClass h =>
    (some (.ofClass { superclass := h.superclass }),
      (if h.isAbstract then [.abstractClass] else []) ++ (if h.isFinal then [.finalClass] else []))
  | .ofEnum _ _ => (none, [.enumDropped])
  | .ofStruct _ _ => (none, [.structDropped])

def scope (s : Scope) (k : ScopeKind) : Scope where
  name := s.name
  kind := k
  comments := s.comments
  extended := distinct s.extended
  included := distinct s.included

mutual

def decl : Decl → Option Decl × List (Warning × Decl)
  | .member m =>
    let (m', ws) := member read m
    (m'.map .member, ws.map fun w => (w, .member m))
  | .scope s ds =>
    match kind s.kind with
    | (none, ws) => (none, ws.map fun w => (w, .scope s ds))
    | (some k, ws) =>
      let (ds', more) := decls ds
      (some (.scope (scope s k) ds'), ws.map (fun w => (w, .scope s ds)) ++ more)

def decls : List Decl → List Decl × List (Warning × Decl)
  | [] => ([], [])
  | d :: ds =>
    let (d', ws) := decl d
    let (ds', more) := decls ds
    (d'.toList ++ ds', ws ++ more)

end

def program (root : Decl) : Decl × List (Warning × Decl) :=
  match root with
  | .member m => (.scope { name := m.name } [], [])
  | .scope s ds =>
    let (ds', ws) := decls read ds
    (.scope { scope s .plain with comments := [] } ds', ws)

end Convert
end RubyStubs
