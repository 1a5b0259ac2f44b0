import RubyStubs.Method.Basic

/-!
Declarations: the tree that Ruby source is read into and that stub files are written from.

A declaration is a scope with declarations inside, or a member. Scopes are classes, modules, the
two special kinds of class, and plain scopes, which stand for the outer names of `A::B::C` and for
the whole program.
-/
namespace RubyStubs

def addNew [BEq α] (xs : List α) (x : α) : List α := if xs.contains x then xs else xs ++ [x]

def addAllNew [BEq α] (xs ys : List α) : List α := ys.foldl addNew xs

def distinct [BEq α] (xs : List α) : List α := addAllNew [] xs

theorem nodup_addNew [BEq α] [LawfulBEq α] {xs : List α} {x : α} (h : xs.Nodup) :
    (addNew xs x).Nodup := by
  unfold addNew
  split
  · exact h
  · next hx =>
    rw [List.nodup_append]
    refine ⟨h, by simp, fun a ha b hb => ?_⟩
    rw [List.mem_singleton.mp hb]
    intro hab
    exact hx (by simpa [hab] using ha)

theorem nodup_addAllNew [BEq α] [LawfulBEq α] {xs : List α} (ys : List α) (h : xs.Nodup) :
    (addAllNew xs ys).Nodup := by
  induction ys generalizing xs with
  | nil => exact h
  | cons y ys ih => exact ih (nodup_addNew h)

theorem nodup_distinct [BEq α] [LawfulBEq α] (xs : List α) : (distinct xs).Nodup :=
  nodup_addAllNew xs List.nodup_nil

theorem mem_addNew [BEq α] [LawfulBEq α] {xs : List α} {x y : α} :
    y ∈ addNew xs x ↔ y ∈ xs ∨ y = x := by
  unfold addNew
  split
  · next h =>
    have hx : x ∈ xs := by simpa using h
    exact ⟨.inl, fun h => h.elim id fun e => e ▸ hx⟩
  · simp

theorem mem_addAllNew [BEq α] [LawfulBEq α] {xs ys : List α} {y : α} :
    y ∈ addAllNew xs ys ↔ y ∈ xs ∨ y ∈ ys := by
  induction ys generalizing xs with
  | nil => simp [addAllNew]
  | cons z zs ih =>
    show y ∈ addAllNew (addNew xs z) zs ↔ _
    rw [ih, mem_addNew, List.mem_cons, or_assoc]

structure ClassHeader where
  superclass : Option String := none
  isAbstract : Bool := false
  isFinal : Bool := false
  deriving DecidableEq, Repr

structure BasedHeader where
  superclass : String
  isAbstract : Bool := false
  isFinal : Bool := false
  deriving DecidableEq, Repr

def BasedHeader.toHeader (h : BasedHeader) : ClassHeader where
  superclass := some h.superclass
  isAbstract := h.isAbstract
  isFinal := h.isFinal

def ClassHeader.basedOn (h : ClassHeader) (superclass : String) : BasedHeader where
  superclass := h.superclass.getD superclass
  isAbstract := h.isAbstract
  isFinal := h.isFinal

inductive ScopeKind where
  | plain
  | ofClass (header : ClassHeader)
  | ofModule (isInterface : Bool)
  | ofEnum (header : BasedHeader) (enumerators : List (String × Option String))
  | ofStruct (header : BasedHeader) (fields : List StructField)
  deriving DecidableEq, Repr

namespace ScopeKind

def header? : ScopeKind → Option ClassHeader
  | .ofClass h => some h
  | .ofEnum h _ | .ofStruct h _ => some h.toHeader
  | .plain | .ofModule _ => none

def isInterface : ScopeKind → Bool
  | .ofModule i => i
  | _ => false

def enumerators : ScopeKind → List (String × Option String)
  | .ofEnum _ es => es
  | _ => []

def fields : ScopeKind → List StructField
  | .ofStruct _ fs => fs
  | _ => []

def enumOf (h : ClassHeader) (es : List (String × Option String)) : ScopeKind :=
  .ofEnum (h.basedOn "T::Enum") es

def structOf (h : ClassHeader) (fs : List StructField) : ScopeKind :=
  .ofStruct (h.basedOn "T::Struct") fs

end ScopeKind

/-- A scope without what it holds. `pending` are comments that wait for the next child. -/
structure Scope where
  name : String := ""
  kind : ScopeKind := .plain
  comments : List String := []
  extended : List String := []
  included : List String := []
  pending : List String := []
  deriving DecidableEq, Repr

namespace Scope

def normal (s : Scope) : Scope :=
  { s with
    extended := distinct s.extended
    included := distinct s.included }

end Scope

inductive MixinKind where
  | extended | included
  deriving DecidableEq, Repr

inductive ConstantValue where
  | text (text : String)
  | type (t : TypeExpr)
  deriving DecidableEq, Repr

/-- What a member is. A `bare` member has a name and nothing else. -/
inductive MemberBody where
  | method (m : Method)
  | attribute (kind : AttributeKind) (m : Method)
  | constant (value : ConstantValue) (classLevel : Bool)
  | mixin (kind : MixinKind) (target : String)
  | code (text : String)
  | bare
  deriving DecidableEq, Repr

structure Member where
  name : String := ""
  body : MemberBody
  comments : List String := []
  deriving DecidableEq, Repr

inductive Decl where
  | scope (info : Scope) (children : List Decl)
  | member (m : Member)
  deriving Repr

inductive Variant where
  | plain | ofClass | ofModule | ofEnum | ofStruct
  | method | attribute | constant | extended | included | code | bare
  deriving DecidableEq, Repr

def ScopeKind.variant : ScopeKind → Variant
  | .plain => .plain
  | .ofClass _ => .ofClass
  | .ofModule _ => .ofModule
  | .ofEnum _ _ => .ofEnum
  | .ofStruct _ _ => .ofStruct

def MemberBody.variant : MemberBody → Variant
  | .method _ => .method
  | .attribute _ _ => .attribute
  | .constant _ _ => .constant
  | .mixin .extended _ => .extended
  | .mixin .included _ => .included
  | .code _ => .code
  | .bare => .bare

namespace Decl

instance : Inhabited Decl := ⟨.scope {} []⟩

def name : Decl → String
  | .scope s _ => s.name
  | .member m => m.name

def comments : Decl → List String
  | .scope s _ => s.comments
  | .member m => m.comments

def children : Decl → List Decl
  | .scope _ ds => ds
  | .member _ => []

def isScope : Decl → Bool
  | .scope _ _ => true
  | .member _ => false

def variant : Decl → Variant
  | .scope s _ => s.kind.variant
  | .member m => m.body.variant

def setComments (cs : List String) : Decl → Decl
  | .scope s ds => .scope { s with comments := cs } ds
  | .member m => .member { m with comments := cs }

def addComments (d : Decl) (cs : List String) : Decl := d.setComments (d.comments ++ cs)

def within (names : List String) (d : Decl) : Decl :=
  names.foldr (fun n d => .scope { name := n } [d]) d

def ofMixin (kind : MixinKind) (target : String) (name : String := "")
    (comments : List String := []) : Decl :=
  .member { name := if name.isEmpty then target else name, body := .mixin kind target, comments }

mutual

def height : Decl → Nat
  | .scope _ ds => heightAll ds + 1
  | .member _ => 0

def heightAll : List Decl → Nat
  | [] => 0
  | d :: ds => max (height d) (heightAll ds)

end

theorem height_le_heightAll {d : Decl} {ds : List Decl} (h : d ∈ ds) : d.height ≤ heightAll ds := by
  induction ds with
  | nil => cases h
  | cons e es ih =>
    rw [heightAll]
    rcases List.mem_cons.mp h with rfl | h
    · exact Nat.le_max_left ..
    · exact Nat.le_trans (ih h) (Nat.le_max_right ..)

def find? (d : Decl) (name : String) : Option Decl := d.children.find? (·.name == name)

def scopes (d : Decl) : List Decl := d.children.filter isScope

def methods (d : Decl) : List Decl :=
  d.children.filter fun c => c.variant == .method || c.variant == .attribute

def constants (d : Decl) : List Decl := d.children.filter (·.variant == .constant)

def descend? (d : Decl) : List Nat → Option Decl
  | [] => some d
  | i :: is => d.children[i]?.bind (·.descend? is)

def replaceAt (d : Decl) (new : Decl) : List Nat → Decl
  | [] => new
  | i :: is =>
    match d with
    | .scope s ds => .scope s (ds.modify i fun c => c.replaceAt new is)
    | .member m => .member m

end Decl
end RubyStubs
