import RubyStubs.SyntaxTree.Node

/-!
Index paths into a syntax tree. A path names a node by the child indices that lead to it, so that
"the statement before this one" and "what encloses this" are arithmetic. The steps are kept from
the node outwards, so that a parent is a tail; `indices` gives them from the root.

An index may be negative, and then counts from the end of the children.
-/
namespace RubyStubs

structure NodePath where
  steps : List Int := []
  deriving DecidableEq, Repr

inductive PathError where
  | noParent
  | noSibling
  | noLast
  | negativeSibling (offset : Int)
  | noNode (path : NodePath) (depth : Nat)
  | outOfRange
  deriving DecidableEq, Repr

namespace NodePath

def root : NodePath := {}

def indices (p : NodePath) : List Int := p.steps.reverse

def ofIndices (is : List Int) : NodePath := ⟨is.reverse⟩

def depth (p : NodePath) : Nat := p.steps.length

def child (p : NodePath) (i : Int) : NodePath := ⟨i :: p.steps⟩

def parent (p : NodePath) : Except PathError NodePath :=
  match p.steps with
  | [] => .error .noParent
  | _ :: up => .ok ⟨up⟩

def last (p : NodePath) : Except PathError Int :=
  match p.steps with
  | [] => .error .noLast
  | i :: _ => .ok i

def sibling (p : NodePath) (offset : Int) : Except PathError NodePath :=
  match p.steps with
  | [] => .error .noSibling
  | i :: up => if i + offset < 0 then .error (.negativeSibling offset) else .ok ⟨(i + offset) :: up⟩

def toText (p : NodePath) : String :=
  "/" ++ "/".intercalate (p.indices.map toString)

@[simp] theorem indices_ofIndices (is : List Int) : (ofIndices is).indices = is := by
  simp [indices, ofIndices]

@[simp] theorem parent_child (p : NodePath) (i : Int) : (p.child i).parent = .ok p := rfl

@[simp] theorem last_child (p : NodePath) (i : Int) : (p.child i).last = .ok i := rfl

@[simp] theorem depth_child (p : NodePath) (i : Int) : (p.child i).depth = p.depth + 1 := rfl

end NodePath

namespace PathError

/-- A negative index beyond the start is reported without a text. -/
def message? : PathError → Option String
  | .noParent => some "cannot get parent of an empty path"
  | .noSibling => some "cannot get sibling of an empty path"
  | .noLast => some "empty path has no last index"
  | .negativeSibling offset =>
    some ("sibling offset " ++ toString offset ++ " results in a negative index")
  | .noNode path depth =>
    some ("path [" ++ ", ".intercalate (path.indices.map toString) ++ "] has no node at depth " ++
      toString depth)
  | .outOfRange => none

end PathError

namespace Node

inductive Leave where
  | beyond (depth : Nat)
  | before
  deriving DecidableEq, Repr

def pick (cs : List Node) (i : Int) (depth : Nat) : Except Leave Node :=
  if i < 0 then
    if 0 ≤ i + cs.length then
      match cs[(i + cs.length).toNat]? with
      | some c => .ok c
      | none => .error .before
    else .error .before
  else
    match cs[i.toNat]? with
    | some c => .ok c
    | none => .error (.beyond depth)

def follow (root : Node) : List Int → Except Leave Node
  | [] => .ok root
  | i :: up =>
    match follow root up with
    | .error e => .error e
    | .ok n => pick n.children i up.length

def locate (root : Node) (p : NodePath) : Except PathError Node :=
  match follow root p.steps with
  | .ok n => .ok n
  | .error (.beyond depth) => .error (.noNode p depth)
  | .error .before => .error .outOfRange

end Node
end RubyStubs
