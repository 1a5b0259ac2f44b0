import RubyStubs.Proofs.Reading

/-!
Sigs and their definitions. The definition that follows a sig is the one that the sig stands before,
so reading a sig on its own and reading the program come to the same declarations.
-/

namespace RubyStubs

namespace Node

def isSigTarget (n : Node) : Bool :=
  n.isDefinition || (n.isAttributeCall && n.receiver?.isNone) || (n.isVisibilityCall && n.wrapped?.isSome)

theorem isSigTarget_of_isDefining {n : Node} (h : n.isDefining) : n.isSigTarget := by
  simp only [isDefining, Bool.or_eq_true, Bool.and_eq_true] at h
  simp only [isSigTarget, Bool.or_eq_true, Bool.and_eq_true]
  rcases h with hdef | ⟨-, hcall | hcall⟩
  · exact .inl (.inl hdef)
  · exact .inl (.inr hcall)
  · exact .inr hcall

theorem not_isComment_of_isSig {n : Node} (h : n.isSig) : ¬ n.isComment := by
  intro hcomment
  have hkind : n.kind = "comment" := by simpa [isComment] using hcomment
  simp [isSig, isCall, callKinds, hkind] at h

theorem not_isComment_of_isDefining {n : Node} (h : n.isDefining) : ¬ n.isComment := by
  intro hcomment
  have hkind : n.kind = "comment" := by simpa [isComment] using hcomment
  simp [isDefining, isDefinition, definitionKinds, isCall, callKinds, hkind] at h

end Node

namespace Source

variable {u : Source}

theorem sigBefore?_eq_some_iff {d s : NodePath} :
    u.sigBefore? d = .ok (some s) ↔
      u.previous? d = .ok (some s) ∧ ∃ n, u.node s = .ok n ∧ n.isSig := by
  rw [sigBefore?, bind_eq_ok_iff]
  constructor
  · rintro ⟨_ | q, hq, h⟩
    · cases h
    · obtain ⟨n, hn, h⟩ := bind_eq_ok_iff.mp h
      by_cases hsig : n.isSig
      · rw [if_pos hsig] at h
        cases h
        exact ⟨hq, n, hn, hsig⟩
      · rw [if_neg hsig] at h
        cases h
  · rintro ⟨hq, n, hn, hsig⟩
    refine ⟨some s, hq, bind_eq_ok_iff.mpr ⟨n, hn, ?_⟩⟩
    rw [if_pos hsig]
    rfl

theorem definitionAfter?_eq_some_iff {s d : NodePath} :
    u.definitionAfter? s = .ok (some d) ↔
      u.next? s = .ok (some d) ∧ ∃ n, u.node d = .ok n ∧ n.isSigTarget := by
  rw [definitionAfter?, bind_eq_ok_iff]
  constructor
  · rintro ⟨_ | q, hq, h⟩
    · cases h
    · obtain ⟨n, hn, h⟩ := bind_eq_ok_iff.mp h
      by_cases htarget : n.isSigTarget
      · rw [← Node.isSigTarget, if_pos htarget] at h
        cases h
        exact ⟨hq, n, hn, htarget⟩
      · rw [← Node.isSigTarget, if_neg htarget] at h
        cases h
  · rintro ⟨hq, n, hn, htarget⟩
    refine ⟨some d, hq, bind_eq_ok_iff.mpr ⟨n, hn, ?_⟩⟩
    rw [← Node.isSigTarget, if_pos htarget]
    rfl

theorem exists_of_previous?_eq_some {d s : NodePath} (h : u.previous? d = .ok (some s)) :
    ∃ (p : NodePath) (j : Nat), d = p.child j := by
  obtain ⟨_ | ⟨i, up⟩⟩ := d
  · cases h
  · have hpos : 0 ≤ i := by
      by_contra hneg
      have hzero : i.toNat = 0 := by omega
      have hnone : u.previous? ⟨i :: up⟩ = u.previousFrom up 0 := congrArg (u.previousFrom up) hzero
      rw [hnone] at h
      cases h
    obtain ⟨j, rfl⟩ := Int.eq_ofNat_of_zero_le hpos
    exact ⟨⟨up⟩, j, rfl⟩

theorem commentsBefore_root_child_zero (u : Source) : u.commentsBefore (.child .root 0) = .ok [] := by
  simp [commentsBefore, commentsAbove, NodePath.child, NodePath.root]

theorem exists_withinEigen {p : NodePath} {n : Node} (h : u.node p = .ok n) :
    ∃ eigen, u.withinEigen p.steps = .ok eigen := by
  rw [node_eq_ok_iff] at h
  generalize p.steps = steps at h
  induction steps generalizing n with
  | nil => exact ⟨false, rfl⟩
  | cons i up ih =>
    obtain ⟨m, hm, -⟩ := Node.follow_cons_eq_ok_iff.mp h
    obtain ⟨eigen, heigen⟩ := ih hm
    have hchild := withinEigen_child (node_eq_ok_iff.mpr hm : u.node ⟨up⟩ = .ok m) i
    rw [heigen] at hchild
    split_ifs at hchild
    · exact ⟨true, hchild⟩
    · exact ⟨false, hchild⟩
    · exact ⟨eigen, hchild⟩

theorem sigBefore?_of_definitionAfter? {p d : NodePath} {i : Nat} {n : Node}
    (hn : u.node (p.child i) = .ok n) (hsig : n.isSig)
    (h : u.definitionAfter? (p.child i) = .ok (some d)) : u.sigBefore? d = .ok (some (p.child i)) := by
  have hi : u.StatementAt p i := ⟨n, hn, Node.not_isComment_of_isSig hsig⟩
  obtain ⟨hnext, -⟩ := definitionAfter?_eq_some_iff.mp h
  obtain ⟨j, rfl, hadjacent⟩ := (next?_eq_some_iff hi).mp hnext
  apply sigBefore?_eq_some_iff.mpr
  exact ⟨(previous?_eq_some_iff hadjacent.second).mpr ⟨i, rfl, hadjacent⟩, n, hn, hsig⟩

theorem readSig_of_sigBefore? (o : ReadOptions) {d s : NodePath} {n : Node} {eigen : Bool}
    (hn : u.node d = .ok n) (hdef : n.isDefining) (hs : u.sigBefore? d = .ok (some s))
    (heigen : u.withinEigen d.steps = .ok eigen) : u.readSig o s = u.definition o d (some s) eigen := by
  obtain ⟨hprevious, -⟩ := sigBefore?_eq_some_iff.mp hs
  obtain ⟨p, j, rfl⟩ := exists_of_previous?_eq_some hprevious
  have hj : u.StatementAt p j := ⟨n, hn, Node.not_isComment_of_isDefining hdef⟩
  obtain ⟨i, rfl, hadjacent⟩ := (previous?_eq_some_iff hj).mp hprevious
  have hafter : u.definitionAfter? (p.child i) = .ok (some (p.child j)) := by
    apply definitionAfter?_eq_some_iff.mpr
    exact ⟨(next?_eq_some_iff hadjacent.first).mpr ⟨j, rfl, hadjacent⟩, n, hn,
      Node.isSigTarget_of_isDefining hdef⟩
  have hsame : u.withinEigen (p.child i).steps = .ok eigen := heigen
  rw [readSig, hafter]
  change (do u.definition o (p.child j) (some (p.child i)) (← u.withinEigen (p.child i).steps)) = _
  rw [hsame]
  rfl

theorem fail_ne_ok {α : Type} (what : Problem) (p : NodePath) (a : α) : u.fail what p ≠ .ok a := by
  intro h
  obtain ⟨n, -, hn⟩ := bind_eq_ok_iff.mp h
  cases hn

theorem unknown_eq_ok {o : ReadOptions} {what : Problem} {p : NodePath} {ds : List Decl}
    (h : u.unknown o what p = .ok ds) : ds = [] := by
  unfold unknown at h
  split_ifs at h
  · exact absurd h (fail_ne_ok what p ds)
  · cases h
    rfl

def NoDefinition (d : Decl) : Prop := d.variant ≠ .method ∧ d.variant ≠ .attribute

theorem noDefinition_of_assignment {o : ReadOptions} {n : Node} {p : NodePath} {eigen : Bool} {ds : List Decl}
    (h : u.assignment o n p eigen = .ok ds) : ∀ d ∈ ds, NoDefinition d := by
  unfold assignment at h
  split at h
  · split_ifs at h
    · obtain ⟨comments, -, hds⟩ := bind_eq_ok_iff.mp h
      cases hds
      simp [NoDefinition, Decl.variant, MemberBody.variant]
    · simp [unknown_eq_ok h]
  · simp [unknown_eq_ok h]

theorem noDefinition_of_call {o : ReadOptions} {n : Node} {p : NodePath} {eigen : Bool} {ds : List Decl}
    (hdefines : ¬ ((n.isAttributeCall && n.receiver?.isNone) || (n.isVisibilityCall && n.wrapped?.isSome)))
    (h : (u.call o n p eigen).result = .ok ds) : ∀ d ∈ ds, NoDefinition d := by
  rw [call, if_neg hdefines] at h
  by_cases hsig : n.isSig
  · rw [if_pos hsig] at h
    obtain ⟨_ | d, -, hds⟩ := bind_eq_ok_iff.mp h
    · exact absurd hds (fail_ne_ok _ p ds)
    · cases hds
      simp
  · rw [if_neg hsig] at h
    rcases hmixin : n.mixin? with _ | ⟨kind, target⟩
    · rw [hmixin] at h
      cases h
      simp
    · rw [hmixin] at h
      cases eigen with
      | true =>
        cases h
        simp
      | false =>
        cases h
        cases kind <;> simp [NoDefinition, Decl.ofMixin, Decl.variant, MemberBody.variant]

theorem noDefinition_of_readNode {o : ReadOptions} {n : Node} {p : NodePath} {eigen : Bool} {ds : List Decl}
    (hseq : ¬ n.isSequence) (hscope : ¬ n.isScope) (hself : ¬ n.isOwnSingleton) (hdef : ¬ n.isDefining)
    (h : (u.readNode o n p eigen).result = .ok ds) : ∀ d ∈ ds, NoDefinition d := by
  rcases u.readNode_of_other p eigen hseq hscope hself hdef with
    hread | ⟨what, -, hread⟩ | hread | ⟨hcall, hread⟩
  · rw [hread] at h
    cases h
    simp
  · rw [hread] at h
    simp [unknown_eq_ok h]
  · rw [hread] at h
    exact noDefinition_of_assignment h
  · rw [hread] at h
    exact noDefinition_of_call hcall h

theorem stable_eq : Stable Eq Eq where
  refl _ := rfl
  append _ _ _ _ hds hes := by rw [hds, hes]
  inner _ _ hs _ := by rw [hs]
  scope _ _ _ _ hs hds _ _ := by rw [hs, hds]

theorem readWith_withinEigen (u : Source) (o : ReadOptions)
    (define : NodePath → Bool → Except SourceError (List Decl)) :
    u.readWith o define u.root .root false =
      u.readWith o (fun d _ => do define d (← u.withinEigen d.steps)) u.root .root false := by
  apply Journal.alike_eq_iff.mp
  apply readWith_alike stable_eq
  · intro p n eigen _ _
    exact .refl (fun _ => ⟨rfl, rfl⟩) _
  · intro p n eigen h _
    rw [h.node_and_withinEigen.2]
    exact outcome_eq_iff.mpr rfl
  · intro n p eigen _ _ _ _
    rfl
  · exact .root

/-- A sig and the definition after it, seen from the one and from the other. The definition after the
sig at an index has that sig before it. A definition with a sig before it is read as that sig is,
errors included. The definitions of a program are read with the flag that is found by walking up from
them, whatever else is done in their place, and no other statement makes a method or an attribute. -/
theorem readSig_agrees (u : Source) (o : ReadOptions) :
    (∀ (p d : NodePath) (i : Nat) (n : Node), u.node (p.child i) = .ok n → n.isSig →
      u.definitionAfter? (p.child i) = .ok (some d) → u.sigBefore? d = .ok (some (p.child i))) ∧
    (∀ (d s : NodePath) (n : Node), u.node d = .ok n → n.isDefining → u.sigBefore? d = .ok (some s) →
      ∃ eigen, u.withinEigen d.steps = .ok eigen ∧ u.read o d eigen = .ofExcept (u.readSig o s)) ∧
    (∀ (d : NodePath) (n : Node) (eigen : Bool), u.Reads o d n eigen →
      u.node d = .ok n ∧ u.withinEigen d.steps = .ok eigen) ∧
    u.read o .root false = u.readWith o (u.definitionAt o) u.root .root false ∧
    (∀ define : NodePath → Bool → Except SourceError (List Decl),
      u.readWith o define u.root .root false =
        u.readWith o (fun d _ => do define d (← u.withinEigen d.steps)) u.root .root false) ∧
    ∀ (n : Node) (p : NodePath) (eigen : Bool) (ds : List Decl), ¬ n.isSequence → ¬ n.isScope →
      ¬ n.isOwnSingleton → ¬ n.isDefining → (u.readNode o n p eigen).result = .ok ds →
        ∀ d ∈ ds, NoDefinition d := by
  refine ⟨?_, ?_, fun d n eigen h => h.node_and_withinEigen, u.read_root o, u.readWith_withinEigen o, ?_⟩
  · intro p d i n hn hsig h
    exact sigBefore?_of_definitionAfter? hn hsig h
  · intro d s n hn hdef hs
    obtain ⟨eigen, heigen⟩ := exists_withinEigen hn
    refine ⟨eigen, heigen, ?_⟩
    have hread : u.read o d eigen = u.readNode o n d eigen := by
      rw [read, hn]
      rfl
    have hdefinition : u.definitionAt o d eigen = u.definition o d (some s) eigen := by
      rw [definitionAt, hs]
      rfl
    rw [hread, readNode_of_isDefining u o d eigen hdef, hdefinition,
      readSig_of_sigBefore? o hn hdef hs heigen]
  · intro n p eigen ds hseq hscope hself hdef hds
    exact noDefinition_of_readNode hseq hscope hself hdef hds

theorem readSig_agrees_in_singleton :
    let node (kind text : String) (field : Option String) (parts : List Node) : Node :=
      { kind, text, line := 1, field, named := true, missing := false, broken := false, parts }
    let sig := node "call" "sig { void }" none
      [node "identifier" "sig" (some "method") [],
        node "block" "{ void }" (some "block") [node "identifier" "void" none []]]
    let method := node "method" "def f; end" none [node "identifier" "f" (some "name") []]
    let body := node "body_statement" "sig { void } # f\ndef f; end" none
      [sig, node "comment" "# f" none [], method]
    let singleton := node "singleton_class" "class << self; sig { void } # f\ndef f; end; end" none
      [node "self" "self" (some "value") [], body]
    let root := node "program" "class << self; sig { void } # f\ndef f; end; end" none [singleton]
    let u : Source := { root, file := "a.rb" }
    let s := NodePath.ofIndices [0, 1, 0]
    let d := NodePath.ofIndices [0, 1, 2]
    let o : ReadOptions := {}
    u.node s = .ok sig ∧ sig.isSig ∧ u.definitionAfter? s = .ok (some d) ∧ u.sigBefore? d = .ok (some s) ∧
      u.node d = .ok method ∧ method.isDefining ∧ u.read o d true = .ofExcept (u.readSig o s) := by
  intro node sig method body singleton root u s d o
  have hs : u.node s = .ok sig := rfl
  have hsig : sig.isSig := rfl
  have hd : u.node d = .ok method := rfl
  have hdef : method.isDefining := rfl
  have hafter : u.definitionAfter? s = .ok (some d) := rfl
  obtain ⟨hbefore, hread, -⟩ := readSig_agrees u o
  have hbefore := hbefore (NodePath.ofIndices [0, 1]) d 0 sig hs hsig hafter
  obtain ⟨eigen, heigen, hagree⟩ := hread d s method hd hdef hbefore
  have htrue : u.withinEigen d.steps = .ok true := rfl
  rw [htrue] at heigen
  cases heigen
  exact ⟨hs, hsig, hafter, hbefore, hd, hdef, hagree⟩

end Source
end RubyStubs
