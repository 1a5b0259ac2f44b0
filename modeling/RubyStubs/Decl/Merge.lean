import RubyStubs.Decl.Basic

namespace RubyStubs

namespace ClassHeader

def merge (h : ClassHeader) (others : List ClassHeader) : ClassHeader where
  superclass := h.superclass.or (others.findSome? (·.superclass))
  isAbstract := h.isAbstract || others.any (·.isAbstract)
  isFinal := h.isFinal || others.any (·.isFinal)

def agree (h : ClassHeader) (others : List ClassHeader) : Bool :=
  others.all (·.isAbstract == h.isAbstract) &&
    (distinct ((h :: others).filterMap (·.superclass))).length ≤ 1

end ClassHeader

def sameItems [BEq α] (xs ys : List α) : Bool :=
  xs.all (ys.contains ·) && ys.all (xs.contains ·)

def itemsAgree [BEq α] (lists : List (List α)) : Bool :=
  match lists.filter (!·.isEmpty) with
  | [] => true
  | xs :: rest => rest.all (sameItems xs)

def firstFilled (xs : List α) (lists : List (List α)) : List α :=
  (lists.find? (!·.isEmpty)).getD xs

namespace ScopeKind

def merge (k : ScopeKind) (others : List ScopeKind) : ScopeKind :=
  let headers := others.filterMap (·.header?)
  match k with
  | .plain => .plain
  | .ofModule i => .ofModule (i || others.any (·.isInterface))
  | .ofClass h => .ofClass (h.merge headers)
  | .ofEnum h es =>
    .ofEnum ((h.toHeader.merge headers).basedOn h.superclass)
      (firstFilled es (others.map (·.enumerators)))
  | .ofStruct h fs =>
    .ofStruct ((h.toHeader.merge headers).basedOn h.superclass)
      (firstFilled fs (others.map (·.fields)))

def mergeable (k : ScopeKind) (others : List ScopeKind) : Bool :=
  let agree (h : ClassHeader) : Bool :=
    others.all (·.variant == k.variant) && h.agree (others.filterMap (·.header?))
  match k with
  | .plain | .ofModule _ => true
  | .ofClass h => agree h
  | .ofEnum h es => agree h.toHeader && itemsAgree (es :: others.map (·.enumerators))
  | .ofStruct h fs => agree h.toHeader && itemsAgree (fs :: others.map (·.fields))

end ScopeKind

namespace Member

/-- Methods and attributes are compared up to equivalent parameters, code never agrees, and all
else has to be equal, comments aside. -/
def agrees (m n : Member) : Bool :=
  m.name == n.name &&
    match m.body, n.body with
    | .method a, .method b => a.equivalent b
    | .attribute k a, .attribute l b => k == l && a.equivalent b
    | .code _, _ => false
    | a, b => a == b

end Member

namespace Decl

def scopeKind? : Decl → Option ScopeKind
  | .scope s _ => some s.kind
  | .member _ => none

def mergeable (d : Decl) (others : List Decl) : Bool :=
  match d with
  | .scope s _ => others.all isScope && s.kind.mergeable (others.filterMap scopeKind?)
  | .member m =>
    m.body.variant != .code && others.all fun
      | .member n => m.agrees n
      | .scope _ _ => false

def scope? : Decl → Option Scope
  | .scope s _ => some s
  | .member _ => none

def merged (base : Scope) (members : List Decl) : Decl :=
  let scopes := members.filterMap scope?
  .scope
    { name := base.name
      kind := base.kind.merge (scopes.map (·.kind))
      comments := addAllNew base.comments (scopes.flatMap (·.comments))
      extended := distinct (scopes.flatMap (·.extended))
      included := distinct (scopes.flatMap (·.included)) }
    (members.flatMap children)

/-- One nameless root that holds what the given ones hold, in order. Equal names are left as they
are. -/
def mergeRoots (roots : List Decl) : Decl :=
  let scopes := roots.filterMap scope?
  .scope
    { extended := distinct (scopes.flatMap (·.extended))
      included := distinct (scopes.flatMap (·.included)) }
    (roots.flatMap children)

end Decl
end RubyStubs
