import RubyStubs.Source.Definition

namespace RubyStubs

inductive Remark where
  | isFinal | isAbstract | isInterface
  | mixin (kind : MixinKind) (target : String)
  | none
  deriving DecidableEq, Repr

namespace Node

def mixin? (n : Node) : Option (MixinKind × String) :=
  if n.receiver?.isNone then
    match n.callName?, n.arguments with
    | some "include", [a] => some (.included, a.text)
    | some "extend", [a] => some (.extended, a.text)
    | _, _ => none
  else none

def remark (n : Node) : Remark :=
  match Text.trim n.text with
  | "final!" => .isFinal
  | "abstract!" => .isAbstract
  | "interface!" => .isInterface
  | _ =>
    match n.mixin? with
    | some (kind, target) => .mixin kind target
    | none => .none

def isEnumBlock (n : Node) : Bool := n.callName? == some "enums" && n.block?.isSome

def isFieldCall (n : Node) : Bool :=
  n.isCall && (n.callName? == some "prop" || n.callName? == some "const") && n.receiver?.isNone

def superclass? (n : Node) : Option String :=
  (n.child? "superclass").map fun s =>
    Text.trim (Text.dropStart (· == '<') ((s.children.head?.getD s).text))

end Node

namespace Source

def enumerator (u : Source) (p : NodePath) (e : Node) : Except SourceError (String × Option String) :=
  match e.child? "left", e.child? "right" with
  | some left, some right =>
    if e.kind != "assignment" || left.kind != "constant" then u.fail .enumEntry p
    else if right.callName? != some "new" then u.fail .enumValue p
    else .ok (left.text, right.arguments.head?.map (·.text))
  | _, _ => u.fail .enumEntry p

def enumBlock (u : Source) (s : NodePath × Node) : Except SourceError (List (String × Option String)) :=
  match s.2.block? with
  | none => .ok []
  | some b => b.blockStatements.mapM (u.enumerator s.1)

def fieldOptions (args : List Node) : List (String × String) :=
  (args.flatMap fun a =>
    (if a.kind == "hash" then a.children else [a]).filterMap fun e =>
      e.pair?.map fun (k, v) => (k, v.text)).reverse

def option? (options : List (String × String)) (name : String) : Option String :=
  (options.find? (·.1 == name)).map (·.2)

def structField (u : Source) (o : ReadOptions) (s : NodePath × Node) :
    Except SourceError StructField :=
  let call := s.2.callName?.getD ""
  match s.2.arguments with
  | name :: type :: rest =>
    match name.symbolName? with
    | none => u.fail (.structField call) s.1
    | some name =>
      let options := fieldOptions rest
      .ok { name, type := o.type type
            optional := option? options "optional" == some "true"
            immutable := call == "const"
            default := option? options "default"
            factory := option? options "factory" }
  | _ => u.fail (.structField call) s.1

def innerStatements (kind : ScopeKind) (body : List (NodePath × Node)) : List (NodePath × Node) :=
  let rest := body.filter (·.2.remark == .none)
  match kind with
  | .ofEnum _ _ => rest.filter (!·.2.isEnumBlock)
  | .ofStruct _ _ => rest.filter (!·.2.isFieldCall)
  | _ => rest

def scopeKind (u : Source) (o : ReadOptions) (n : Node) (body : List (NodePath × Node)) :
    Except SourceError ScopeKind :=
  let remarks := body.map (·.2.remark)
  let rest := body.filter (·.2.remark == .none)
  if n.kind == "module" then .ok (.ofModule (remarks.contains .isInterface))
  else
    let header : ClassHeader :=
      { superclass := n.superclass?, isAbstract := remarks.contains .isAbstract,
        isFinal := remarks.contains .isFinal }
    let base := n.superclass?.filter (!·.isEmpty) |>.map (Text.without · "::")
    if base.any o.enumBases.contains then do
      let es ← (rest.filter (·.2.isEnumBlock)).mapM u.enumBlock
      return .enumOf header es.flatten
    else if base.any o.structBases.contains then do
      let fs ← (rest.filter (·.2.isFieldCall)).mapM (u.structField o)
      return .structOf header fs
    else .ok (.ofClass header)

def mixins (kind : MixinKind) (body : List (NodePath × Node)) : List String :=
  distinct (body.filterMap fun s =>
    match s.2.remark with
    | .mixin k target => if k == kind then some target else none
    | _ => none)

def scopeHeader (u : Source) (o : ReadOptions) (n : Node) (p : NodePath)
    (body : List (NodePath × Node)) : Except SourceError (List String × Scope) :=
  match n.child? "name" with
  | none => u.fail .unnamedScope p
  | some name => do
    let kind ← u.scopeKind o n body
    match (Text.names name.text).reverse with
    | [] => .error (.path .outOfRange)
    | own :: outer =>
      return (outer.reverse, { name := own, kind,
                               extended := mixins .extended body, included := mixins .included body })

theorem mem_of_mem_innerStatements {kind : ScopeKind} {body : List (NodePath × Node)}
    {s : NodePath × Node} (h : s ∈ innerStatements kind body) : s ∈ body := by
  unfold innerStatements at h
  split at h
  · exact (List.mem_filter.mp (List.mem_filter.mp h).1).1
  · exact (List.mem_filter.mp (List.mem_filter.mp h).1).1
  · exact (List.mem_filter.mp h).1

end Source
end RubyStubs
