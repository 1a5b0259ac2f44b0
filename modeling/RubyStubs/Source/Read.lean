import RubyStubs.Journal
import RubyStubs.Source.Body

namespace RubyStubs
namespace Source

abbrev Read := Journal SourceError

def unknown (u : Source) (o : ReadOptions) (what : Problem) (p : NodePath) :
    Except SourceError (List Decl) :=
  if o.strict then u.fail what p else .ok []

def assignment (u : Source) (o : ReadOptions) (n : Node) (p : NodePath) (eigen : Bool) :
    Except SourceError (List Decl) :=
  match n.child? "left", n.child? "right" with
  | some left, some right =>
    if left.kind == "constant" then do
      let comments ← u.commentsBefore p
      return [.member { name := left.text, comments, body := .constant (.text right.text) eigen }]
    else u.unknown o .assignment p
  | _, _ => u.unknown o .assignment p

def droppedMixin (name : String) (p : NodePath) : String :=
  name ++ " inside class << self is not represented; dropping it at " ++ p.toText

/-- A call: a sig, which its definition speaks for, a definition, or a mixin. Other calls declare
nothing. -/
def call (u : Source) (o : ReadOptions) (n : Node) (p : NodePath) (eigen : Bool) : Read (List Decl) :=
  if n.isSig then
    .ofExcept do
      match ← u.definitionAfter? p with
      | none => u.fail .sigWithoutDefinition p
      | some _ => return []
  else if (n.isAttributeCall && n.receiver?.isNone) || (n.isVisibilityCall && n.wrapped?.isSome) then
    .ofExcept (u.definitionAt o p eigen)
  else
    match n.mixin? with
    | some (kind, target) =>
      if eigen then do
        .notice (droppedMixin (n.callName?.getD "") p)
        return []
      else return [Decl.ofMixin kind target]
    | none => return []

def scopeCalls : List String := ["final!", "abstract!", "interface!", "sealed!"]

/-- The declarations of the node `n` at the place `p`. `eigen` says that they are of the class
itself. -/
def readNode (u : Source) (o : ReadOptions) (n : Node) (p : NodePath) (eigen : Bool) :
    Read (List Decl) :=
  if n.isSequence then
    Journal.collect (n.statements p) fun s h =>
      have := Node.sizeOf_lt_of_mem_statements h
      readNode u o s.2 s.1 eigen
  else if n.isComment then return []
  else if n.kind == "class" || n.kind == "module" then do
    let (outer, scope) ← .ofExcept (u.scopeHeader o n p (n.statements p))
    let children ← Journal.collect (innerStatements scope.kind (n.statements p)) fun s h =>
      have := Node.sizeOf_lt_of_mem_statements (mem_of_mem_innerStatements h)
      readNode u o s.2 s.1 false
    let comments ← .ofExcept (u.commentsBefore p)
    return [Decl.within outer (.scope { scope with comments } children)]
  else if n.kind == "singleton_class" then
    if (n.child? "value").any (·.text == "self") then
      Journal.collect (n.statements p) fun s h =>
        have := Node.sizeOf_lt_of_mem_statements h
        readNode u o s.2 s.1 true
    else .ofExcept (u.unknown o .foreignSingletonClass p)
  else if n.isDefinition then .ofExcept (u.definitionAt o p eigen)
  else if n.kind == "assignment" then .ofExcept (u.assignment o n p eigen)
  else if scopeCalls.contains (Text.trim n.text) then return []
  else if n.isCall || n.kind == "identifier" then u.call o n p eigen
  else .ofExcept (u.unknown o (.unknownNode n.kind) p)
termination_by sizeOf n

def read (u : Source) (o : ReadOptions) (p : NodePath) (eigen : Bool) : Read (List Decl) := do
  let n ← .ofExcept (u.node p)
  u.readNode o n p eigen

def program (u : Source) (o : ReadOptions) : Read Decl := do
  if u.root.broken then
    .ofExcept (.error (.problem .badSyntax u.file ((u.root.firstDefect?.getD u.root).line)))
  else
    let children ← u.read o .root false
    return .scope {} children

end Source
end RubyStubs
