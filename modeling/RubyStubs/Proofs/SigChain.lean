import RubyStubs.Proofs.Safety

namespace RubyStubs

namespace Node

def sigChain? (g : Node) : Option (List Link) :=
  match g.block?.map blockStatements with
  | some [e] => some e.chain.2
  | _ => none

def target? (n : Node) : Option Node :=
  if n.isCall && n.isVisibilityCall then n.wrapped? else some n

theorem not_call_of_isDefinition {d : Node} (h : d.isDefinition) : (d.isCall || d.kind == "identifier") = false := by
  obtain ⟨hcall, hkind⟩ := not_isCall_of_isDefinition h
  simp [hcall, hkind]

theorem isDefinition_of_target? {n d : Node} (h : n.isDefining) (hd : n.target? = some d)
    (hcall : ¬ (d.isCall || d.kind == "identifier")) : d.isDefinition := by
  unfold target? at hd
  split_ifs at hd
  · exact (isDefinition_of_wrapped? hd).1
  · cases hd
    rw [Bool.not_eq_true] at hcall
    simpa [isDefining, hcall] using h

end Node

def SigInfo.method (sig : SigInfo) (parameters : List Parameter) (classLevel : Bool) : Method where
  parameters
  result := if sig.isVoid then none else sig.result
  isAbstract := sig.isAbstract
  isImplementation := sig.isImplementation
  isOverride := sig.isOverride
  isOverridable := sig.isOverridable
  isFinal := sig.isFinal
  classLevel
  typeParameters := sig.typeParameters

namespace Source

structure Signed (u : Source) (p s : NodePath) (d g : Node) : Prop where
  target : ∃ n, u.node p = .ok n ∧ n.isDefining ∧ n.target? = some d
  before : u.sigBefore? p = .ok (some s)
  sig : u.node s = .ok g

variable {u : Source} {p s : NodePath} {d g : Node}

theorem Signed.read (h : u.Signed p s d g) (o : ReadOptions) (eigen : Bool) :
    u.read o p eigen = .ofExcept (do
      let sig ← u.sigInfo o s
      let comments ← u.commentsBefore s
      if d.isCall || d.kind == "identifier" then u.attributes p d (some sig) eigen comments
      else return [← u.method p d (some sig) eigen comments]) := by
  obtain ⟨n, hn, hdef, htarget⟩ := h.target
  have hnode : u.read o p eigen = u.readNode o n p eigen := by
    rw [Source.read, hn]
    rfl
  have hdefinition : u.definitionAt o p eigen = u.definition o p (some s) eigen := by
    rw [definitionAt, h.before]
    rfl
  rw [hnode, readNode_of_isDefining u o p eigen hdef, hdefinition, definition_of_target u o eigen hn htarget]
  cases hsig : u.sigInfo o s with
  | error e => simp [hsig, bind, Except.bind]
  | ok sig => simp [hsig, bind, Except.bind]

theorem Signed.at_sig (h : u.Signed p s d g) {n : Node} (hplace : u.At p n) : u.At s g ∧ g.isSig := by
  cases hplace with
  | root => cases h.before
  | child hparent hc =>
    obtain ⟨_, hs, hsig⟩ := hparent.sigBefore? hc
    rw [h.before] at hs
    cases hs
    obtain ⟨m, hm, hmsig⟩ := hsig s rfl
    cases h.sig.symm.trans hm.node
    exact ⟨hm, hmsig⟩

theorem method_eq_ok_iff {sig : SigInfo} {eigen : Bool} {comments : List String} {x : Decl} :
    u.method p d (some sig) eigen comments = .ok x ↔
      ∃ classLevel name defs parameters, u.methodLevel p d eigen = .ok classLevel ∧ d.child? "name" = some name ∧
        u.defParameters p d = .ok defs ∧ u.typedParameters p defs sig = .ok parameters ∧
        x = .member { name := name.text, comments, body := .method (sig.method parameters classLevel) } := by
  constructor
  · intro h
    obtain ⟨classLevel, hlevel, h⟩ := bind_eq_ok_iff.mp h
    cases hname : d.child? "name" with
    | none =>
      rw [hname] at h
      cases h
    | some name =>
      rw [hname] at h
      obtain ⟨defs, hdefs, h⟩ := bind_eq_ok_iff.mp h
      obtain ⟨parameters, htyped, h⟩ := bind_eq_ok_iff.mp h
      cases h
      exact ⟨classLevel, name, defs, parameters, hlevel, rfl, hdefs, htyped, rfl⟩
  · rintro ⟨classLevel, name, defs, parameters, hlevel, hname, hdefs, htyped, rfl⟩
    simp only [method, hlevel, hname, hdefs, htyped, bind, Except.bind]
    rfl

theorem Signed.sigInfo (h : u.Signed p s d g) (o : ReadOptions) :
    u.sigInfo o s = g.sigChain?.elim (u.fail .sigExpressions s)
      (u.sigLinks o s { isFinal := g.arguments.any (·.symbolName? == some "final") }) := by
  have hblock : ∃ b, g.block? = some b := by
    obtain ⟨-, m, hm, hsig⟩ := sigBefore?_eq_some_iff.mp h.before
    cases h.sig.symm.trans hm
    simp only [Node.isSig, Bool.and_eq_true] at hsig
    exact Option.isSome_iff_exists.mp hsig.1.2
  obtain ⟨b, hb⟩ := hblock
  rw [Node.sigChain?, hb, Option.map_some]
  rcases sigInfo_of_block u o h.sig hb with ⟨e, he, hread⟩ | ⟨hmany, hread⟩
  · rw [hread, he]
    rfl
  · rw [hread]
    split
    · next e he => exact absurd (Option.some.inj he) (hmany e)
    · rfl

end Source
end RubyStubs
