import RubyStubs.Conflict.Key

/-!
Resolving conflicts: duplicates among siblings are folded together where that is possible, and a
policy decides about the rest. A level is settled before the scopes in it are entered, in order.

When the policy fails, the level it was asked about is left as it was, what had been settled stays
settled, and nothing further is entered; `Resolution` holds the tree so left behind.
-/
namespace RubyStubs

/-- Decides about conflicts. It is told the reason and the candidates and gives the one to keep,
none to drop them all, or a failure. `reach` bounds how much deeper than the tree its own answers
are; it is nought for answers taken from the candidates. -/
structure Policy (σ ε : Type) where
  choose : Conflict → List Decl → σ → Except ε (Option Decl) × σ
  reach : Nat := 0

structure Resolution (σ ε α : Type) where
  value : α
  state : σ
  failure : Option ε := none

variable {σ ε : Type}

namespace Policy

def settle (p : Policy σ ε) (d : Decl) (others : List Decl) (s : σ) : Except ε (Option Decl) × σ :=
  if others.isEmpty then (.ok (some d), s)
  else
    match d.fold others with
    | .ok m => (.ok (some m), s)
    | .error c => p.choose c (d :: others) s

def settleAll (p : Policy σ ε) : List (Decl × List Decl) → σ → Except ε (List Decl) × σ
  | [], s => (.ok [], s)
  | (d, others) :: gs, s =>
    match p.settle d others s with
    | (.error e, s) => (.error e, s)
    | (.ok survivor, s) =>
      match p.settleAll gs s with
      | (.error e, s) => (.error e, s)
      | (.ok rest, s) => (.ok (survivor.toList ++ rest), s)

end Policy

def visitAll (f : Decl → σ → Resolution σ ε Decl) : List Decl → σ → Resolution σ ε (List Decl)
  | [], s => { value := [], state := s }
  | d :: ds, s =>
    let r := f d s
    match r.failure with
    | some e => { value := r.value :: ds, state := r.state, failure := some e }
    | none =>
      let rs := visitAll f ds r.state
      { value := r.value :: rs.value, state := rs.state, failure := rs.failure }

namespace Policy

def resolveTo (p : Policy σ ε) : Nat → Decl → σ → Resolution σ ε Decl
  | 0, d, s => { value := d, state := s }
  | _ + 1, .member m, s => { value := .member m, state := s }
  | n + 1, .scope info ds, s =>
    match p.settleAll (Decl.groups ds) s with
    | (.error e, s) => { value := .scope info ds, state := s, failure := some e }
    | (.ok survivors, s) =>
      let r := visitAll (p.resolveTo n) survivors s
      { value := .scope info r.value, state := r.state, failure := r.failure }

def resolve (p : Policy σ ε) (d : Decl) (s : σ) : Resolution σ ε Decl :=
  p.resolveTo (d.height + p.reach) d s

def drop : Policy σ ε where
  choose _ _ s := (.ok none, s)

def dropAndTell : Policy (List String) ε where
  choose c ds s :=
    let name := (ds.head?.map Decl.name).getD ""
    (.ok none, s ++ [c.description ++ ": dropping " ++ name ++ " (" ++ toString ds.length ++
      " definitions)"])

def keep (i : Int) : Policy σ ε where
  choose _ ds s :=
    let j := if i < 0 then i + ds.length else i
    (.ok (if j < 0 then none else ds[j.toNat]?), s)

def replaceBy (d : Decl) : Policy σ ε where
  choose _ _ s := (.ok (some d), s)
  reach := d.height + 1

def fail (e : ε) : Policy σ ε where
  choose _ _ s := (.error e, s)

def recording (p : Policy σ ε) : Policy (σ × List (Conflict × List Decl)) ε where
  choose c ds s :=
    let r := p.choose c ds s.1
    (r.1, r.2, s.2 ++ [(c, ds)])
  reach := p.reach

end Policy
end RubyStubs
