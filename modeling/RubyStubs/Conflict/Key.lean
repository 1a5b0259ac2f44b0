import RubyStubs.Decl.Merge

/-!
Which siblings are declarations of the same thing.

Methods and scopes of one name do not compete, and neither do members of a class and members of
its instances. A name alone is keyed with the word that a bare member goes by, so that it can
meet a mixin of that name.
-/
namespace RubyStubs

inductive MergeKey where
  | method (name : String) (classLevel : Bool)
  | declaration (name : String) (classLevel : Bool)
  | other (tag text : String)
  deriving DecidableEq, Repr

namespace Decl

def key : Decl → MergeKey
  | .scope s _ => .declaration s.name false
  | .member m =>
    match m.body with
    | .method b | .attribute _ b => .method m.name b.classLevel
    | .constant _ classLevel => .declaration m.name classLevel
    | .mixin .extended target => .other "extend" target
    | .mixin .included target => .other "include" target
    | .code text => .other "arbitrary" text
    | .bare => .other m.name "Node"

/-- The one variant that declarations share. Plain scopes are taken in by scopes of any variant,
so that the outer name of `A::B` meets a declaration of `A`. -/
def commonVariant? (ds : List Decl) : Option Variant :=
  match distinct (ds.map variant) with
  | [v] => some v
  | _ =>
    if ds.all isScope then
      match (distinct (ds.map variant)).filter (· != .plain) with
      | [v] => some v
      | _ => none
    else none

/-- Splits a list into the declarations of each key, keys in order of first appearance: the first
declaration of the key, and the others. -/
def groups : List Decl → List (Decl × List Decl)
  | [] => []
  | d :: ds => (d, ds.filter (·.key == d.key)) :: groups (ds.filter (·.key != d.key))
termination_by ds => ds.length
decreasing_by
  simp only [List.unattach_filter, List.unattach_attach, List.length_cons]
  exact Nat.lt_succ_of_le (List.length_filter_le ..)

end Decl

inductive Conflict where
  | differentKinds
  | cannotResolve
  deriving DecidableEq, Repr

def Conflict.description : Conflict → String
  | .differentKinds => "Different kinds of definition for the same name"
  | .cannotResolve => "Can't automatically resolve"

namespace Decl

/-- Folds declarations of one key into one, where that is possible. The first of the common
variant is the one that others are folded into. -/
def fold (d : Decl) (others : List Decl) : Except Conflict Decl :=
  match commonVariant? (d :: others) with
  | none => .error .differentKinds
  | some v =>
    match (d :: others).filter (·.variant == v) with
    | [] => .ok d
    | base :: rest =>
      if base.mergeable rest then
        match base with
        | .scope s _ => .ok (merged s (d :: others))
        | .member _ => .ok base
      else .error .cannotResolve

end Decl
end RubyStubs
