import RubyStubs.Decl.Basic
import RubyStubs.Source.Sig

namespace RubyStubs

structure DefParameter where
  name : String
  bareName : String
  default : Option String
  deriving DecidableEq, Repr

namespace Node

def parameterMarks? (kind : String) : Option (String × String) :=
  match kind with
  | "identifier" | "optional_parameter" => some ("", "")
  | "splat_parameter" => some ("*", "")
  | "hash_splat_parameter" => some ("**", "")
  | "block_parameter" => some ("&", "")
  | "keyword_parameter" => some ("", ":")
  | _ => none

def attributeKind? (n : Node) : Option AttributeKind :=
  match n.callName? with
  | some "attr_reader" => some .reader
  | some "attr_writer" => some .writer
  | some "attr_accessor" => some .accessor
  | _ => none

end Node

namespace Source

def defParameter (u : Source) (p : NodePath) (n : Node) : Except SourceError DefParameter :=
  match Node.parameterMarks? n.kind with
  | none => u.fail (.parameterShape n.kind) p
  | some (before, after) =>
    match if n.kind == "identifier" then some n else n.child? "name" with
    | none => u.fail .anonymousParameter p
    | some name =>
      .ok { name := before ++ name.text ++ after, bareName := name.text,
            default := (n.child? "value").map (·.text) }

def defParameters (u : Source) (p : NodePath) (n : Node) : Except SourceError (List DefParameter) :=
  match n.child? "parameters" with
  | none => .ok []
  | some l => (l.children.filter (!·.isComment)).mapM (u.defParameter p)

def typedParameters (u : Source) (p : NodePath) (defs : List DefParameter) (sig : SigInfo) :
    Except SourceError (List Parameter) :=
  let declared := sig.parameters.getD []
  if defs.length != declared.length then u.fail (.argumentCount declared.length defs.length) p
  else
    defs.mapM fun d =>
      match declared.find? (·.1 == d.bareName) with
      | none => u.fail (.missingParameter d.bareName) p
      | some (_, t) => .ok { name := d.name, type := some t, default := d.default }

def methodLevel (u : Source) (p : NodePath) (n : Node) (eigen : Bool) : Except SourceError Bool :=
  if n.kind == "singleton_method" then
    if eigen then u.fail .selfMethodInSingleton p
    else if (n.child? "object").any (·.text == "self") then .ok true
    else u.fail .foreignSingletonMethod p
  else .ok eigen

def method (u : Source) (p : NodePath) (n : Node) (sig : Option SigInfo) (eigen : Bool)
    (comments : List String) : Except SourceError Decl := do
  let classLevel ← u.methodLevel p n eigen
  match n.child? "name" with
  | none => .error .noPart
  | some name =>
    let defs ← u.defParameters p n
    match sig with
    | none =>
      let parameters := defs.map fun d =>
        ({ name := d.name, type := some .untyped, default := d.default } : Parameter)
      return .member { name := name.text, comments,
                       body := .method { parameters, result := some .untyped, classLevel } }
    | some s =>
      let parameters ← u.typedParameters p defs s
      return .member { name := name.text, comments,
                       body := .method {
                         parameters
                         result := if s.isVoid then none else s.result
                         isAbstract := s.isAbstract
                         isImplementation := s.isImplementation
                         isOverride := s.isOverride
                         isOverridable := s.isOverridable
                         isFinal := s.isFinal
                         classLevel
                         typeParameters := s.typeParameters } }

def attributeType (sig : Option SigInfo) : TypeExpr :=
  match sig with
  | none => .untyped
  | some s => s.result.getD (((s.parameters.getD []).head?.map (·.2)).getD .untyped)

def attributes (u : Source) (p : NodePath) (n : Node) (sig : Option SigInfo) (eigen : Bool)
    (comments : List String) : Except SourceError (List Decl) :=
  match n.attributeKind? with
  | none => .error .noPart
  | some kind =>
    n.arguments.mapM fun a =>
      match a.symbolName? with
      | none => u.fail .attributeName p
      | some name =>
        let m : Method := { result := some (attributeType sig), classLevel := eigen }
        .ok (.member { name, comments, body := .attribute kind (kind.complete name m) })

def definition (u : Source) (o : ReadOptions) (p : NodePath) (sigPath : Option NodePath)
    (eigen : Bool) : Except SourceError (List Decl) := do
  let n ← u.node p
  let sig ← match sigPath with
    | none => .ok none
    | some s => some <$> u.sigInfo o s
  let comments ← u.commentsBefore (sigPath.getD p)
  match if n.isCall && n.isVisibilityCall then n.wrapped? else some n with
  | none => .error .noPart
  | some n =>
    if n.isCall || n.kind == "identifier" then u.attributes p n sig eigen comments
    else return [← u.method p n sig eigen comments]

def definitionAt (u : Source) (o : ReadOptions) (p : NodePath) (eigen : Bool) :
    Except SourceError (List Decl) := do
  u.definition o p (← u.sigBefore? p) eigen

def readSig (u : Source) (o : ReadOptions) (p : NodePath) : Except SourceError (List Decl) := do
  match ← u.definitionAfter? p with
  | none => u.fail .sigWithoutDefinition p
  | some d => u.definition o d (some p) (← u.withinEigen p.steps)

end Source
end RubyStubs
