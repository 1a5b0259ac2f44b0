import RubyStubs.Proofs.Neighbours
import RubyStubs.Proofs.Outcome
import RubyStubs.Source.Read

/-!
How a source is read, apart from what its definitions say. `Source.Reads` gives the places that
reading comes to, and `Source.readWith` reads with anything in the place of definitions;
`readWith_alike` compares two readings place by place.
-/

namespace RubyStubs

namespace Node

def isDefining (n : Node) : Bool :=
  n.isDefinition ||
    ((n.isCall || n.kind == "identifier") && !Source.scopeCalls.contains (Text.trim n.text) &&
      ((n.isAttributeCall && n.receiver?.isNone) || (n.isVisibilityCall && n.wrapped?.isSome)))

def isScope (n : Node) : Bool := n.kind == "class" || n.kind == "module"

def isOwnSingleton (n : Node) : Bool :=
  n.kind == "singleton_class" && (n.child? "value").any (·.text == "self")

theorem isScope_iff {n : Node} : n.isScope ↔ n.kind = "class" ∨ n.kind = "module" := by
  simp [isScope]

theorem isOwnSingleton_iff {n : Node} :
    n.isOwnSingleton ↔ n.kind = "singleton_class" ∧ (n.child? "value").any (·.text == "self") := by
  simp only [isOwnSingleton, Bool.and_eq_true, beq_iff_eq]

theorem isSig_eq_false {n : Node} (h : n.isAttributeCall ∨ n.isVisibilityCall) : n.isSig = false := by
  by_contra hsig
  have hname : n.callName? = some "sig" := by
    simp only [isSig, Bool.not_eq_false, Bool.and_eq_true, beq_iff_eq] at hsig
    exact hsig.1.1.2
  rcases h with h | h
  · simp [isAttributeCall, hname, attributeCalls] at h
  · simp [isVisibilityCall, hname, visibilityCalls] at h

end Node

namespace Source

open Decl

section Branches

variable (u : Source) (o : ReadOptions) {n : Node} (p : NodePath) (eigen : Bool)

theorem readNode_of_isSequence (h : n.isSequence) :
    u.readNode o n p eigen = Journal.collect (n.statements p) fun s _ => u.readNode o s.2 s.1 eigen := by
  rw [readNode, if_pos h]

theorem readNode_of_isScope (h : n.isScope) :
    u.readNode o n p eigen = do
      let header ← .ofExcept (u.scopeHeader o n p (n.statements p))
      let children ← Journal.collect (innerStatements header.2.kind (n.statements p)) fun s _ =>
        u.readNode o s.2 s.1 false
      let comments ← .ofExcept (u.commentsBefore p)
      return [within header.1 (.scope { header.2 with comments } children)] := by
  rw [readNode]
  rcases Node.isScope_iff.mp h with hk | hk <;> simp [Node.isSequence, Node.sequenceKinds, Node.isComment, hk]

theorem readNode_of_isOwnSingleton (h : n.isOwnSingleton) :
    u.readNode o n p eigen = Journal.collect (n.statements p) fun s _ => u.readNode o s.2 s.1 true := by
  obtain ⟨hk, hself⟩ := Node.isOwnSingleton_iff.mp h
  rw [readNode]
  simp [Node.isSequence, Node.sequenceKinds, Node.isComment, hk, hself]

theorem readNode_of_isCall (h : n.isCall || n.kind == "identifier") :
    u.readNode o n p eigen =
      if scopeCalls.contains (Text.trim n.text) then return [] else u.call o n p eigen := by
  have hkind : n.kind = "call" ∨ n.kind = "method_call" ∨ n.kind = "command_call" ∨ n.kind = "identifier" := by
    simpa [Node.isCall, Node.callKinds, or_assoc] using h
  rw [readNode, h]
  rcases hkind with hk | hk | hk | hk <;>
    simp [Node.isSequence, Node.sequenceKinds, Node.isComment, Node.isDefinition, Node.definitionKinds, hk]

theorem readNode_of_isSig {d : NodePath} (h : n.isSig) (hd : u.definitionAfter? p = .ok (some d)) :
    u.readNode o n p eigen = return [] := by
  have hcall : u.call o n p eigen = return [] := by
    rw [call, if_pos h, hd]
    rfl
  have hisCall : n.isCall := by
    simp only [Node.isSig, Bool.and_eq_true] at h
    exact h.1.1.1
  rw [readNode_of_isCall u o p eigen (by simp [hisCall]), hcall, ite_self]

theorem call_of_isDefining {n : Node}
    (h : (n.isAttributeCall && n.receiver?.isNone) || (n.isVisibilityCall && n.wrapped?.isSome)) :
    u.call o n p eigen = .ofExcept (u.definitionAt o p eigen) := by
  have hsig : n.isSig = false := by
    apply Node.isSig_eq_false
    simp only [Bool.or_eq_true, Bool.and_eq_true] at h
    exact h.imp And.left And.left
  rw [call, hsig, if_neg Bool.false_ne_true, if_pos h]

theorem readNode_of_isDefining (h : n.isDefining) :
    u.readNode o n p eigen = .ofExcept (u.definitionAt o p eigen) := by
  rw [Node.isDefining, Bool.or_eq_true] at h
  rcases h with hdef | hcall
  · have hkind : n.kind = "method" ∨ n.kind = "singleton_method" := by
      simpa [Node.isDefinition, Node.definitionKinds] using hdef
    rw [readNode]
    rcases hkind with hk | hk <;>
      simp [Node.isSequence, Node.sequenceKinds, Node.isComment, Node.isDefinition, Node.definitionKinds, hk]
  · simp only [Bool.and_eq_true, Bool.not_eq_true'] at hcall
    obtain ⟨⟨hkind, hword⟩, hdefines⟩ := hcall
    rw [readNode_of_isCall u o p eigen hkind, hword, if_neg Bool.false_ne_true,
      u.call_of_isDefining o p eigen hdefines]

theorem sigInfo_of_block {p} {b : Node} (hn : u.node p = .ok n) (hb : n.block? = some b) :
    (∃ s, b.blockStatements = [s] ∧
      u.sigInfo o p = u.sigLinks o p { isFinal := n.arguments.any (·.symbolName? == some "final") } s.chain.2) ∨
      (∀ s, b.blockStatements ≠ [s]) ∧ u.sigInfo o p = u.fail .sigExpressions p := by
  rw [sigInfo, hn]
  simp only [bind, Except.bind, hb]
  split
  · next s hs => exact .inl ⟨s, hs, rfl⟩
  · next hs => exact .inr ⟨hs, rfl⟩

theorem definition_of_target {p} {d : Node} (hn : u.node p = .ok n)
    (hd : (if n.isCall && n.isVisibilityCall then n.wrapped? else some n) = some d) (s : Option NodePath) :
    u.definition o p s eigen = do
      let sig ← s.elim (.ok none) (some <$> u.sigInfo o ·)
      let comments ← u.commentsBefore (s.getD p)
      if d.isCall || d.kind == "identifier" then u.attributes p d sig eigen comments
      else return [← u.method p d sig eigen comments] := by
  rw [definition, hn]
  simp only [bind, Except.bind, hd]
  cases s <;> rfl

theorem readNode_of_other (hseq : ¬ n.isSequence) (hscope : ¬ n.isScope) (hself : ¬ n.isOwnSingleton)
    (hdef : ¬ n.isDefining) :
    (∀ o, u.readNode o n p eigen = return []) ∨
    (∃ what, what.isUnknown = true ∧ ∀ o, u.readNode o n p eigen = .ofExcept (u.unknown o what p)) ∨
    (∀ o, u.readNode o n p eigen = .ofExcept (u.assignment o n p eigen)) ∨
    (¬ ((n.isAttributeCall && n.receiver?.isNone) || (n.isVisibilityCall && n.wrapped?.isSome)) ∧
      ∀ o, u.readNode o n p eigen = u.call o n p eigen) := by
  have hdefinition : ¬ n.isDefinition := fun h => hdef (by simp [Node.isDefining, h])
  have hread (o : ReadOptions) : u.readNode o n p eigen =
      if n.isComment then return []
      else if n.kind == "singleton_class" then .ofExcept (u.unknown o .foreignSingletonClass p)
      else if n.kind == "assignment" then .ofExcept (u.assignment o n p eigen)
      else if scopeCalls.contains (Text.trim n.text) then return []
      else if n.isCall || n.kind == "identifier" then u.call o n p eigen
      else .ofExcept (u.unknown o (.unknownNode n.kind) p) := by
    rw [Node.isScope] at hscope
    rw [readNode, if_neg hseq, if_neg hscope, if_neg hdefinition]
    by_cases hsingleton : n.kind == "singleton_class"
    · have hvalue : ¬ (n.child? "value").any (·.text == "self") := by
        intro hvalue
        exact hself (Node.isOwnSingleton_iff.mpr ⟨by simpa using hsingleton, hvalue⟩)
      rw [if_pos hsingleton, if_neg hvalue, if_pos hsingleton]
    · rw [if_neg hsingleton, if_neg hsingleton]
  simp only [hread]
  split_ifs with hcomment hsingleton hassignment hword hcall
  · exact .inl fun _ => rfl
  · exact .inr (.inl ⟨.foreignSingletonClass, rfl, fun _ => rfl⟩)
  · exact .inr (.inr (.inl fun _ => rfl))
  · exact .inl fun _ => rfl
  · refine .inr (.inr (.inr ⟨fun hdefines => hdef ?_, fun _ => rfl⟩))
    rw [Bool.not_eq_true] at hword
    rw [Node.isDefining, hcall, hword, hdefines]
    simp
  · exact .inr (.inl ⟨.unknownNode n.kind, rfl, fun _ => rfl⟩)

end Branches

/-- The nodes that reading a program comes to, with their places and whether they are read as
declarations of the class itself. -/
inductive Reads (u : Source) (o : ReadOptions) : NodePath → Node → Bool → Prop
  | root : Reads u o .root u.root false
  | sequence {p q : NodePath} {n c : Node} {eigen : Bool} (h : Reads u o p n eigen) (hn : n.isSequence)
      (hc : (q, c) ∈ n.statements p) : Reads u o q c eigen
  | scope {p q : NodePath} {n c : Node} {eigen : Bool} {header : List String × Scope}
      (h : Reads u o p n eigen) (hn : n.isScope)
      (hheader : u.scopeHeader o n p (n.statements p) = .ok header)
      (hc : (q, c) ∈ innerStatements header.2.kind (n.statements p)) : Reads u o q c false
  | singleton {p q : NodePath} {n c : Node} {eigen : Bool} (h : Reads u o p n eigen)
      (hn : n.isOwnSingleton) (hc : (q, c) ∈ n.statements p) : Reads u o q c true

def readWith (u : Source) (o : ReadOptions) (define : NodePath → Bool → Except SourceError (List Decl))
    (n : Node) (p : NodePath) (eigen : Bool) : Read (List Decl) :=
  if n.isSequence then
    Journal.collect (n.statements p) fun s h =>
      have := Node.sizeOf_lt_of_mem_statements h
      readWith u o define s.2 s.1 eigen
  else if n.isScope then do
    let header ← .ofExcept (u.scopeHeader o n p (n.statements p))
    let children ← Journal.collect (innerStatements header.2.kind (n.statements p)) fun s h =>
      have := Node.sizeOf_lt_of_mem_statements (mem_of_mem_innerStatements h)
      readWith u o define s.2 s.1 false
    let comments ← .ofExcept (u.commentsBefore p)
    return [within header.1 (.scope { header.2 with comments } children)]
  else if n.isOwnSingleton then
    Journal.collect (n.statements p) fun s h =>
      have := Node.sizeOf_lt_of_mem_statements h
      readWith u o define s.2 s.1 true
  else if n.isDefining then .ofExcept (define p eigen)
  else u.readNode o n p eigen
termination_by sizeOf n

theorem readWith_of_isScope (u : Source) (o : ReadOptions)
    (define : NodePath → Bool → Except SourceError (List Decl)) {n : Node} (p : NodePath) (eigen : Bool)
    (hseq : ¬ n.isSequence) (h : n.isScope) :
    u.readWith o define n p eigen = do
      let header ← .ofExcept (u.scopeHeader o n p (n.statements p))
      let children ← Journal.collect (innerStatements header.2.kind (n.statements p)) fun s _ =>
        u.readWith o define s.2 s.1 false
      let comments ← .ofExcept (u.commentsBefore p)
      return [within header.1 (.scope { header.2 with comments } children)] := by
  rw [readWith, if_neg hseq, if_pos h]

theorem readWith_definitionAt (u : Source) (o : ReadOptions) (n : Node) (p : NodePath) (eigen : Bool) :
    u.readWith o (u.definitionAt o) n p eigen = u.readNode o n p eigen := by
  fun_induction readWith u o (u.definitionAt o) n p eigen with
  | case1 n p eigen hseq ih =>
    rw [readNode_of_isSequence u o p eigen hseq]
    exact congrArg _ (funext fun s => funext fun hs => ih s hs)
  | case2 n p eigen _ hscope ih =>
    rw [readNode_of_isScope u o p eigen hscope]
    refine congrArg _ (funext fun header => ?_)
    refine congrArg (· >>= _) ?_
    exact congrArg _ (funext fun s => funext fun hs => ih header s hs)
  | case3 n p eigen _ _ hself ih =>
    rw [readNode_of_isOwnSingleton u o p eigen hself]
    exact congrArg _ (funext fun s => funext fun hs => ih s hs)
  | case4 n p eigen _ _ _ hdef => exact (readNode_of_isDefining u o p eigen hdef).symm
  | case5 n p eigen => rfl

theorem read_root (u : Source) (o : ReadOptions) :
    u.read o .root false = u.readWith o (u.definitionAt o) u.root .root false :=
  (u.readWith_definitionAt o u.root .root false).symm

structure Stable (R : List Decl → List Decl → Prop) (H : Scope → Scope → Prop) : Prop where
  refl : ∀ ds, R ds ds
  append : ∀ ds ds' es es', R ds ds' → R es es' → R (ds ++ es) (ds' ++ es')
  inner : ∀ s s', H s s' → ∀ body, innerStatements s.kind body = innerStatements s'.kind body
  scope : ∀ s s' ds ds', H s s' → R ds ds' → ∀ outer comments,
    R [within outer (.scope { s with comments } ds)] [within outer (.scope { s' with comments } ds')]

section Alike

variable {u : Source} {o o' : ReadOptions} {define define' : NodePath → Bool → Except SourceError (List Decl)}
  {R : List Decl → List Decl → Prop} {H : Scope → Scope → Prop} (hR : Stable R H)
  (hheader : ∀ p n eigen, u.Reads o p n eigen → n.isScope →
    Outcome (fun h h' => h.1 = h'.1 ∧ H h.2 h'.2) (u.scopeHeader o n p (n.statements p))
      (u.scopeHeader o' n p (n.statements p)))
  (hdefine : ∀ p n eigen, u.Reads o p n eigen → n.isDefining → Outcome R (define p eigen) (define' p eigen))
  (hother : ∀ n p eigen, ¬ n.isSequence → ¬ n.isScope → ¬ n.isOwnSingleton → ¬ n.isDefining →
    u.readNode o n p eigen = u.readNode o' n p eigen)

include hR hheader hdefine hother

theorem readWith_alike {p : NodePath} {n : Node} {eigen : Bool} (h : u.Reads o p n eigen) :
    Journal.Alike R (u.readWith o define n p eigen) (u.readWith o' define' n p eigen) := by
  -- The recursion of the first reading; the second takes the same branch, and comes to the same
  -- statements in a scope because related headers leave the same ones.
  fun_induction readWith u o define n p eigen with
  | case1 n p eigen hseq ih =>
    rw [readWith, if_pos hseq]
    exact .collect (hR.refl []) hR.append fun s hs => ih s hs (h.sequence hseq hs)
  | case2 n p eigen hseq hscope ih =>
    rw [readWith_of_isScope u o' define' p eigen hseq hscope]
    refine (Journal.Alike.ofExcept (hheader p n eigen h hscope)).bind fun header header' hok hh => ?_
    rw [← hR.inner _ _ hh.2]
    have hchildren := Journal.Alike.collect (hR.refl []) hR.append fun s hs =>
      ih header s hs (h.scope hscope hok hs)
    refine hchildren.bind fun ds ds' _ hds => ?_
    refine (Journal.Alike.refl (fun _ => rfl) _).bind fun comments _ _ hcomments => ?_
    rw [← hh.1, ← hcomments]
    exact ⟨rfl, .ok (hR.scope _ _ _ _ hh.2 hds header.1 comments)⟩
  | case3 n p eigen hseq hscope hself ih =>
    rw [readWith, if_neg hseq, if_neg hscope, if_pos hself]
    exact .collect (hR.refl []) hR.append fun s hs => ih s hs (h.singleton hself hs)
  | case4 n p eigen hseq hscope hself hdef =>
    rw [readWith, if_neg hseq, if_neg hscope, if_neg hself, if_pos hdef]
    exact .ofExcept (hdefine p n eigen h hdef)
  | case5 n p eigen hseq hscope hself hdef =>
    rw [readWith, if_neg hseq, if_neg hscope, if_neg hself, if_neg hdef,
      hother n p eigen hseq hscope hself hdef]
    exact .refl hR.refl _

end Alike

section Flag

variable {u : Source} {o : ReadOptions}

theorem Reads.node_and_withinEigen {p : NodePath} {n : Node} {eigen : Bool} (h : u.Reads o p n eigen) :
    u.node p = .ok n ∧ u.withinEigen p.steps = .ok eigen := by
  induction h with
  | root => exact ⟨rfl, rfl⟩
  | sequence _ hn hc ih =>
    refine ⟨node_of_mem_statements ih.1 hc, ?_⟩
    rw [withinEigen_of_mem_statements ih.1 hc]
    simp [Node.kind_ne_of_isSequence hn, ih.2]
  | scope _ hn _ hc ih =>
    have hc := mem_of_mem_innerStatements hc
    refine ⟨node_of_mem_statements ih.1 hc, ?_⟩
    rw [withinEigen_of_mem_statements ih.1 hc]
    have hkind := Node.isScope_iff.mp hn
    rcases hkind with hk | hk <;> simp [hk]
  | singleton _ hn hc ih =>
    refine ⟨node_of_mem_statements ih.1 hc, ?_⟩
    rw [withinEigen_of_mem_statements ih.1 hc, (Node.isOwnSingleton_iff.mp hn).1]
    rfl

end Flag

end Source
end RubyStubs
