import RubyStubs.Decl.Basic

namespace RubyStubs

/-- What is given one by one, and the error that breaks it off, if it does not come to its end. -/
structure Supply (α : Type) where
  items : List α := []
  failure : Option BuildError := none

namespace Supply

variable {α β : Type}

def map (f : α → β) (s : Supply α) : Supply β where
  items := s.items.map f
  failure := s.failure

def all (s : Supply α) : Except BuildError (List α) := s.failure.elim (.ok s.items) .error

def ofExcept : Except BuildError α → Supply α
  | .ok a => { items := [a] }
  | .error e => { failure := some e }

theorem forall_mem_ofExcept_map {x : Except BuildError α} {f : α → β} {P : β → Prop} (h : ∀ a, x = .ok a → P (f a)) :
    ∀ b ∈ (ofExcept (x.map f)).items, P b := by
  cases x with
  | error e => exact nofun
  | ok a =>
    intro b hb
    cases List.mem_singleton.mp hb
    exact h a rfl

end Supply

/-- A method as asked for: its result may be given in one of two places. What is listed here, and the result, take
the place of what the method has. -/
structure MethodRequest where
  method : Method := {}
  parameters : Supply Parameter := {}
  typeParameters : Supply String := {}
  signatures : Supply Signature := {}
  result : TypeLike := .other .null
  returns : TypeLike := .other .null

namespace MethodRequest

def given (t : TypeLike) : Bool := t != .other .null

def complete (r : MethodRequest) : Except BuildError Method :=
  if given r.result && given r.returns then .error .twoResults
  else do
    let parameters ← r.parameters.all
    let typeParameters ← r.typeParameters.all
    let signatures ← r.signatures.all
    let result ← (if given r.result then r.result else r.returns).toType?
    return { r.method with parameters, typeParameters, signatures, result }

end MethodRequest

inductive Blueprint where
  | scope (name : String) (kind : ScopeKind)
  | enumOf (name : String) (header : ClassHeader) (enumerators : Supply (String × Option String))
  | structOf (name : String) (header : ClassHeader) (fields : Supply StructField)
  | method (name : String) (request : MethodRequest)
  | attribute (name kind : String) (type : TypeLike) (classLevel : Bool)
  | constant (name : String) (value : ConstantValue) (classLevel : Bool)
  | mixins (kind : MixinKind) (targets : Supply String)
  | code (text : String)

def Member.attribute (name kind : String) (m : Method) (type : TypeLike)
    (comments : List String := []) : Except BuildError Member := do
  let result ← type.toType?
  match AttributeKind.ofLabel? kind with
  | none => .error (.unknownAttributeKind kind)
  | some k => return { name, comments, body := .attribute k (k.complete name { m with result }) }

namespace Blueprint

/-- The declarations that a blueprint asks for. Mixins are made while their targets are gone through, all others
after what they list. -/
def parts : Blueprint → Supply Decl
  | .scope name kind => { items := [.scope { name, kind } []] }
  | .enumOf name header enumerators =>
    .ofExcept (enumerators.all.map fun es => .scope { name, kind := .enumOf header es } [])
  | .structOf name header fields => .ofExcept (fields.all.map fun fs => .scope { name, kind := .structOf header fs } [])
  | .method name request => .ofExcept (request.complete.map fun m => .member { name, body := .method m })
  | .attribute name kind type classLevel =>
    .ofExcept ((Member.attribute name kind { classLevel } type).map .member)
  | .constant name value classLevel => { items := [.member { name, body := .constant value classLevel }] }
  | .mixins kind targets => targets.map (Decl.ofMixin kind ·)
  | .code text => { items := [.member { body := .code text }] }

end Blueprint

namespace Decl

def adopt (d child : Decl) : Decl :=
  match d with
  | .scope s ds =>
    .scope { s with pending := [] } (ds ++ [child.setComments (s.pending ++ child.comments)])
  | .member m => .member m

/-- Builds into a scope, where each declaration is put as it is made. Gives the declarations as they stand in it, and
the scope as it is left: what has been made before an error stays. -/
def construct (d : Decl) (b : Blueprint) : Except BuildError (List Decl) × Decl :=
  let d' := b.parts.items.foldl adopt d
  (b.parts.failure.elim (.ok (d'.children.drop d.children.length)) .error, d')

def build (d : Decl) (b : Blueprint) : Except BuildError (Decl × List Decl) :=
  let (made, d') := d.construct b
  made.map fun ds => (d', ds)

def queueComments (d : Decl) (cs : List String) : Decl :=
  match d with
  | .scope s ds => .scope { s with pending := s.pending ++ cs } ds
  | .member m => .member m

def addMixin (d : Decl) (kind : MixinKind) (target : String) : Decl :=
  match d, kind with
  | .scope s ds, .extended => .scope { s with extended := addNew s.extended target } ds
  | .scope s ds, .included => .scope { s with included := addNew s.included target } ds
  | .member m, _ => .member m

def append (d child : Decl) : Decl :=
  match d with
  | .scope s ds => .scope s (ds ++ [child])
  | .member m => .member m

end Decl
end RubyStubs
