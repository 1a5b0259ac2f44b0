import RubyStubs.Proofs.SigChain
import RubyStubs.Proofs.StatementReading

/-!
Calls of `private` and the like around a definition. A statement is read off itself, the statements before it and
the nodes around it, so that two sources that differ in the statement alone are compared by the statement alone:
around a method the call makes no difference, and around attributes it leaves nothing to read.
-/

namespace RubyStubs

namespace Node

theorem not_isComment_of_isSigTarget {n : Node} (h : n.isSigTarget) : ¬ n.isComment := by
  intro hcomment
  have hkind : n.kind = "comment" := by simpa [isComment] using hcomment
  simp [isSigTarget, isDefinition, definitionKinds, isAttributeCall, isVisibilityCall, callName?, isCall, callKinds,
    hkind] at h

theorem not_isDefinition_of_isAttributeCall {n : Node} (h : n.isAttributeCall) : ¬ n.isDefinition := by
  intro hdef
  have hkind : n.kind = "method" ∨ n.kind = "singleton_method" := by
    simpa [isDefinition, definitionKinds] using hdef
  rcases hkind with hk | hk <;> simp [isAttributeCall, callName?, isCall, callKinds, hk] at h

structure Wraps (w d : Node) : Prop where
  isCall : w.isCall
  word : ∃ word ∈ visibilityCalls, w.callName? = some word ∧ Text.startsWith w.text word
  arguments : w.arguments = [d]
  line : w.line = d.line

namespace Wraps

variable {w d : Node} (h : w.Wraps d)

include h

theorem isVisibilityCall : w.isVisibilityCall := by
  obtain ⟨word, hword, hname, -⟩ := h.word
  simp [Node.isVisibilityCall, hname, hword]

theorem not_isComment : ¬ w.isComment := by
  intro hcomment
  have hkind : w.kind = "comment" := by simpa [Node.isComment] using hcomment
  have hcall := h.isCall
  simp [Node.isCall, callKinds, hkind] at hcall

theorem wrapped? : w.wrapped? = if d.isDefinition then some d else none := by
  rw [Node.wrapped?, h.arguments]

theorem not_scopeCall : Source.scopeCalls.contains (Text.trim w.text) = false := by
  -- All the words have a `p`, and no call that says something of the class around it has one.
  obtain ⟨word, hword, -, hstart⟩ := h.word
  have hp : 'p' ∈ word.toList := by
    have hall : ∀ word ∈ visibilityCalls, 'p' ∈ word.toList := by decide
    exact hall word hword
  have htrim : 'p' ∈ (Text.trim w.text).toList := Text.mem_trim (Text.mem_of_startsWith hstart hp) (by decide)
  have hnone : ∀ call ∈ Source.scopeCalls, 'p' ∉ call.toList := by decide
  by_contra hcontains
  have hmem : Text.trim w.text ∈ Source.scopeCalls := by simpa using hcontains
  exact hnone _ hmem htrim

theorem isDefining (hd : d.isDefinition) : w.isDefining := by
  rw [Node.isDefining, h.isCall, h.not_scopeCall, h.isVisibilityCall, h.wrapped?, if_pos hd]
  simp

theorem target? (hd : d.isDefinition) : w.target? = some d := by
  simp [Node.target?, h.isCall, h.isVisibilityCall, h.wrapped?, hd]

theorem not_isAttributeCall : w.isAttributeCall = false := by
  obtain ⟨word, hword, hname, -⟩ := h.word
  have hnone : ∀ word ∈ visibilityCalls, word ∉ attributeCalls := by decide
  simp [Node.isAttributeCall, hname, hnone word hword]

theorem not_isSigTarget (hd : ¬ d.isDefinition) : w.isSigTarget = false := by
  have hdef : w.isDefinition = false := by
    by_contra hdef
    exact (not_isCall_of_isDefinition (by simpa using hdef)).1 h.isCall
  simp [Node.isSigTarget, hdef, h.not_isAttributeCall, h.wrapped?, hd]

theorem mixin? : w.mixin? = none := by
  obtain ⟨word, hword, hname, -⟩ := h.word
  have hneither : word ≠ "include" ∧ word ≠ "extend" := by
    have hnone : ∀ word ∈ visibilityCalls, word ≠ "include" ∧ word ≠ "extend" := by decide
    exact hnone word hword
  simp [Node.mixin?, hname, hneither]

end Wraps

end Node

namespace Source

/-- The sources have different nodes at a place, and are alike above it and beside it. -/
inductive DiffersAt (u v : Source) : NodePath → Node → Node → Prop
  | root (hfile : v.file = u.file) : DiffersAt u v .root u.root v.root
  | child {q : NodePath} {n m : Node} (h : DiffersAt u v q n m) (hkind : m.kind = n.kind)
      {before after : List Node} {c d : Node} (hn : n.children = before ++ c :: after)
      (hm : m.children = before ++ d :: after) : DiffersAt u v (q.child before.length) c d

def SameProblems (u v : Source) (p : NodePath) : Prop :=
  ∀ (α : Type) (what : Problem), (v.fail what p : Except SourceError α) = u.fail what p

section Problems

variable {u v : Source} {p : NodePath}

theorem SameProblems.of_line (hfile : v.file = u.file) {n m : Node} (hn : u.node p = .ok n) (hm : v.node p = .ok m)
    (hline : m.line = n.line) : SameProblems u v p := by
  intro α what
  rw [fail, fail, hn, hm]
  simp [bind, Except.bind, hfile, hline]

variable (h : SameProblems u v p) (o : ReadOptions)

include h

theorem SameProblems.sigPairs (seen : List (String × TypeExpr)) (as : List Node) :
    v.sigPairs o p seen as = u.sigPairs o p seen as := by
  induction as generalizing seen with
  | nil => rfl
  | cons a as ih => simp only [Source.sigPairs, h _, ih]

theorem SameProblems.sigLink (info : SigInfo) (l : Node.Link) : v.sigLink o p info l = u.sigLink o p info l := by
  simp only [Source.sigLink, sigParameters, h _, h.sigPairs]

theorem SameProblems.sigLinks (info : SigInfo) (links : List Node.Link) :
    v.sigLinks o p info links = u.sigLinks o p info links := by
  induction links generalizing info with
  | nil => rfl
  | cons l links ih => simp only [Source.sigLinks, h.sigLink, ih]

theorem SameProblems.sigInfo (hnode : v.node p = u.node p) : v.sigInfo o p = u.sigInfo o p := by
  simp only [Source.sigInfo, hnode, h _, h.sigLinks]

theorem SameProblems.method (d : Node) (sig : Option SigInfo) (eigen : Bool) (comments : List String) :
    v.method p d sig eigen comments = u.method p d sig eigen comments := by
  have hparameter : v.defParameter p = u.defParameter p := by
    funext c
    simp only [defParameter, h _]
  simp only [Source.method, methodLevel, defParameters, hparameter, typedParameters, h _]

end Problems

section Places

variable {u v : Source} {q : NodePath} {n m : Node}

theorem commentsAbove_child_zero (u : Source) (hn : u.node q = .ok n) (below : List String) :
    u.commentsAbove below (q.child 0).steps =
      if q.steps.isEmpty then .ok below else if n.isSequence then u.commentsAbove below q.steps else .ok below := by
  have hnode : u.node ⟨q.steps⟩ = .ok n := hn
  rw [NodePath.child, commentsAbove, hnode]
  rfl

theorem commentsAbove_child_succ (u : Source) {i : Nat} {c : Node} (hc : u.node (q.child i) = .ok c)
    (below : List String) :
    u.commentsAbove below (q.child (i + 1 : Nat)).steps =
      if !c.isComment || isMagic (commentText c) then .ok below
      else u.commentsAbove (commentText c :: below) (q.child i).steps := by
  have hpred : ((i + 1 : Nat) : Int) - 1 = i := by omega
  have hnode : u.node ⟨(i : Int) :: q.steps⟩ = .ok c := hc
  have hzero : ((i + 1 : Nat) : Int) ≠ 0 := by omega
  have hneg : ¬ ((i + 1 : Nat) : Int) < 0 := by omega
  rw [NodePath.child, commentsAbove, hpred, hnode, if_neg (by simpa using hzero), if_neg hneg]
  rfl

theorem DiffersAt.file {p : NodePath} {c d : Node} (h : u.DiffersAt v p c d) : v.file = u.file := by
  induction h with
  | root hfile => exact hfile
  | child _ _ _ _ ih => exact ih

theorem DiffersAt.node {p : NodePath} {c d : Node} (h : u.DiffersAt v p c d) :
    u.node p = .ok c ∧ v.node p = .ok d := by
  induction h with
  | root => exact ⟨rfl, rfl⟩
  | child _ _ hn hm ih =>
    constructor
    · exact node_child_eq_ok_iff.mpr ⟨_, ih.1, by simp [hn]⟩
    · exact node_child_eq_ok_iff.mpr ⟨_, ih.2, by simp [hm]⟩

theorem DiffersAt.node_before (h : u.DiffersAt v q n m) {before after after' : List Node}
    (hn : n.children = before ++ after) (hm : m.children = before ++ after') {i : Nat} (hi : i < before.length) :
    u.node (q.child i) = .ok before[i] ∧ v.node (q.child i) = .ok before[i] := by
  constructor
  · exact node_child_eq_ok_iff.mpr ⟨n, h.node.1, by simp [hn, List.getElem?_append_left hi]⟩
  · exact node_child_eq_ok_iff.mpr ⟨m, h.node.2, by simp [hm, List.getElem?_append_left hi]⟩

theorem DiffersAt.previousFrom (h : u.DiffersAt v q n m) {before after after' : List Node}
    (hn : n.children = before ++ after) (hm : m.children = before ++ after') {i : Nat} (hi : i ≤ before.length) :
    v.previousFrom q.steps i = u.previousFrom q.steps i := by
  induction i with
  | zero => rfl
  | succ i ih =>
    obtain ⟨hu, hv⟩ := h.node_before hn hm (i := i) (by omega)
    rw [previousFrom_succ, previousFrom_succ, hu, hv, ih (by omega)]

theorem DiffersAt.commentsAbove_before (h : u.DiffersAt v q n m) (hkind : m.kind = n.kind)
    {before after after' : List Node} (hn : n.children = before ++ after) (hm : m.children = before ++ after')
    (habove : ∀ below, v.commentsAbove below q.steps = u.commentsAbove below q.steps) {i : Nat}
    (hi : i ≤ before.length) (below : List String) :
    v.commentsAbove below (q.child i).steps = u.commentsAbove below (q.child i).steps := by
  -- To the left as long as there are comments, which are the same, and then up.
  induction i generalizing below with
  | zero =>
    have hsequence : m.isSequence = n.isSequence := by rw [Node.isSequence, Node.isSequence, hkind]
    have hzero : q.child (0 : Nat) = q.child 0 := rfl
    rw [hzero, commentsAbove_child_zero v h.node.2, commentsAbove_child_zero u h.node.1, hsequence, habove]
  | succ i ih =>
    obtain ⟨hu, hv⟩ := h.node_before hn hm (i := i) (by omega)
    rw [commentsAbove_child_succ v hv, commentsAbove_child_succ u hu, ih (by omega)]

theorem DiffersAt.commentsAbove {p : NodePath} {c d : Node} (h : u.DiffersAt v p c d) (below : List String) :
    v.commentsAbove below p.steps = u.commentsAbove below p.steps := by
  induction h generalizing below with
  | root => rw [NodePath.root, Source.commentsAbove, Source.commentsAbove]
  | child h hkind hn hm ih => exact h.commentsAbove_before hkind hn hm ih le_rfl below

theorem DiffersAt.sigBefore? {p : NodePath} {c d : Node} (h : u.DiffersAt v p c d) :
    v.sigBefore? p = u.sigBefore? p ∧
      ∀ s, u.sigBefore? p = .ok (some s) → v.node s = u.node s ∧ v.commentsBefore s = u.commentsBefore s := by
  cases h with
  | root => exact ⟨rfl, nofun⟩
  | @child q n m h hkind before after c d hn hm =>
    have hprevious : v.previous? (q.child before.length) = u.previous? (q.child before.length) :=
      h.previousFrom hn hm le_rfl
    have hbefore (s : NodePath) (hs : u.previous? (q.child before.length) = .ok (some s)) :
        v.node s = u.node s ∧ v.commentsBefore s = u.commentsBefore s := by
      obtain ⟨j, hj, rfl, -⟩ := previousFrom_eq_some_iff.mp hs
      obtain ⟨hu, hv⟩ := h.node_before hn hm hj
      exact ⟨hv.trans hu.symm, h.commentsAbove_before hkind hn hm h.commentsAbove hj.le []⟩
    constructor
    · rw [Source.sigBefore?, Source.sigBefore?, hprevious]
      cases hs : u.previous? (q.child before.length) with
      | error e => rfl
      | ok s =>
        cases s with
        | none => rfl
        | some s =>
          change (do return if (← v.node s).isSig then some s else none) = _
          rw [(hbefore s hs).1]
          rfl
    · intro s hs
      exact hbefore s (sigBefore?_eq_some_iff.mp hs).1

end Places

section Wrapped

variable {u v : Source} {p : NodePath} {d w : Node} (h : u.DiffersAt v p d w) (hw : w.Wraps d)

include h hw

theorem DiffersAt.definitionAt (hd : d.isDefinition) (o : ReadOptions) (eigen : Bool) :
    v.definitionAt o p eigen = u.definitionAt o p eigen := by
  obtain ⟨hbefore, hsame⟩ := h.sigBefore?
  have hproblems : SameProblems u v p := .of_line h.file h.node.1 h.node.2 hw.line
  have htarget : d.target? = some d := by simp [Node.target?, Node.not_isCall_of_isDefinition hd]
  have hmethod := Node.not_call_of_isDefinition hd
  rw [Source.definitionAt, Source.definitionAt, hbefore]
  cases hs : u.sigBefore? p with
  | error e => rfl
  | ok s =>
    change v.definition o p s eigen = u.definition o p s eigen
    rw [definition_of_target v o eigen h.node.2 (hw.target? hd), definition_of_target u o eigen h.node.1 htarget]
    cases s with
    | none =>
      have hcomments : v.commentsBefore p = u.commentsBefore p := h.commentsAbove []
      simp only [Option.elim_none, Option.getD_none, hcomments, hmethod, Bool.false_eq_true, ↓reduceIte,
        hproblems.method]
    | some s =>
      obtain ⟨hnode, hcomments⟩ := hsame s hs
      obtain ⟨-, g, hg, -⟩ := sigBefore?_eq_some_iff.mp hs
      have hsig : v.sigInfo o s = u.sigInfo o s :=
        (SameProblems.of_line h.file hg (hnode.trans hg) rfl).sigInfo o hnode
      simp only [Option.elim_some, Option.getD_some, hsig, hcomments, hmethod, Bool.false_eq_true, ↓reduceIte,
        hproblems.method]

theorem DiffersAt.read_of_isDefinition (hd : d.isDefinition) (o : ReadOptions) (eigen : Bool) :
    v.read o p eigen = u.read o p eigen := by
  have hdefining : d.isDefining := by simp [Node.isDefining, hd]
  rw [Source.read, Source.read, h.node.1, h.node.2]
  change v.readNode o w p eigen = u.readNode o d p eigen
  rw [readNode_of_isDefining v o p eigen (hw.isDefining hd), readNode_of_isDefining u o p eigen hdefining,
    h.definitionAt hw hd]

end Wrapped

theorem read_of_wraps {v : Source} {p : NodePath} {d w : Node} (hnode : v.node p = .ok w) (hw : w.Wraps d)
    (hd : ¬ d.isDefinition) (o : ReadOptions) (eigen : Bool) : v.read o p eigen = pure [] := by
  have hsig : w.isSig = false := Node.isSig_eq_false (.inr hw.isVisibilityCall)
  have hdefines : ((w.isAttributeCall && w.receiver?.isNone) || (w.isVisibilityCall && w.wrapped?.isSome)) = false := by
    simp [hw.not_isAttributeCall, hw.wrapped?, hd]
  rw [read, hnode]
  change v.readNode o w p eigen = pure []
  rw [readNode_of_isCall v o p eigen (by simp [hw.isCall]), hw.not_scopeCall, if_neg Bool.false_ne_true, call, hsig,
    hdefines, hw.mixin?]
  rfl

section Sigs

variable {u : Source} {p s : NodePath} {n g : Node}

theorem next?_of_sigBefore? (hn : u.node p = .ok n) (hstatement : ¬ n.isComment)
    (hs : u.sigBefore? p = .ok (some s)) : u.next? s = .ok (some p) := by
  obtain ⟨hprevious, -⟩ := sigBefore?_eq_some_iff.mp hs
  obtain ⟨q, j, rfl⟩ := exists_of_previous?_eq_some hprevious
  obtain ⟨i, rfl, hadjacent⟩ := (previous?_eq_some_iff ⟨n, hn, hstatement⟩).mp hprevious
  exact (next?_eq_some_iff hadjacent.first).mpr ⟨j, rfl, hadjacent⟩

theorem read_sig_of_isSigTarget (hn : u.node p = .ok n) (htarget : n.isSigTarget)
    (hs : u.sigBefore? p = .ok (some s)) (o : ReadOptions) (eigen : Bool) : u.read o s eigen = pure [] := by
  obtain ⟨-, g, hg, hsig⟩ := sigBefore?_eq_some_iff.mp hs
  have hnext := next?_of_sigBefore? hn (Node.not_isComment_of_isSigTarget htarget) hs
  have hafter : u.definitionAfter? s = .ok (some p) := definitionAfter?_eq_some_iff.mpr ⟨hnext, n, hn, htarget⟩
  rw [read, hg]
  exact readNode_of_isSig u o s eigen hsig hafter

theorem read_sig_of_not_isSigTarget (hn : u.node p = .ok n) (hstatement : ¬ n.isComment)
    (htarget : n.isSigTarget = false) (hs : u.sigBefore? p = .ok (some s)) (hg : u.node s = .ok g)
    (hword : scopeCalls.contains (Text.trim g.text) = false) (o : ReadOptions) (eigen : Bool) :
    u.read o s eigen = .ofExcept (u.fail .sigWithoutDefinition s) := by
  obtain ⟨-, m, hm, hsig⟩ := sigBefore?_eq_some_iff.mp hs
  cases hg.symm.trans hm
  have hcall : g.isCall := by
    simp only [Node.isSig, Bool.and_eq_true] at hsig
    exact hsig.1.1.1
  have hafter : u.definitionAfter? s = .ok none := by
    rw [definitionAfter?, next?_of_sigBefore? hn hstatement hs]
    change (do if (← u.node p).isSigTarget then return some p else return none) = _
    rw [hn]
    exact if_neg (by simp [htarget])
  rw [read, hg]
  change u.readNode o g s eigen = _
  rw [readNode_of_isCall u o s eigen (by simp [hcall]), hword, if_neg Bool.false_ne_true, call, if_pos hsig, hafter]
  rfl

end Sigs

/-- A call of `private` and the like makes no difference to a method: the same declarations or the same error come of
it, and the sig before it is as good. Attributes in such a call are not declared, and a sig before it is an error. -/
theorem visibility_transparent {u v : Source} {p : NodePath} {d w : Node} (h : u.DiffersAt v p d w) (hw : w.Wraps d)
    (o : ReadOptions) (eigen : Bool) :
    v.sigBefore? p = u.sigBefore? p ∧
      (d.isDefinition → v.read o p eigen = u.read o p eigen ∧
        ∀ s, u.sigBefore? p = .ok (some s) → u.read o s eigen = pure [] ∧ v.read o s eigen = pure []) ∧
      (d.isAttributeCall → d.receiver?.isNone → v.read o p eigen = pure [] ∧
        ∀ s g, u.sigBefore? p = .ok (some s) → u.node s = .ok g → scopeCalls.contains (Text.trim g.text) = false →
          u.read o s eigen = pure [] ∧ v.read o s eigen = .ofExcept (v.fail .sigWithoutDefinition s)) := by
  obtain ⟨hd, hw'⟩ := h.node
  obtain ⟨hbefore, hsame⟩ := h.sigBefore?
  refine ⟨hbefore, fun hdef => ⟨h.read_of_isDefinition hw hdef o eigen, fun s hs => ?_⟩, fun hattribute hreceiver => ?_⟩
  · have htarget : d.isSigTarget := by simp [Node.isSigTarget, hdef]
    have hwtarget : w.isSigTarget := Node.isSigTarget_of_isDefining (hw.isDefining hdef)
    exact ⟨read_sig_of_isSigTarget hd htarget hs o eigen,
      read_sig_of_isSigTarget hw' hwtarget (hbefore.trans hs) o eigen⟩
  · have hdef : ¬ d.isDefinition := Node.not_isDefinition_of_isAttributeCall hattribute
    refine ⟨read_of_wraps hw' hw hdef o eigen, fun s g hs hg hword => ?_⟩
    have htarget : d.isSigTarget := by simp [Node.isSigTarget, hattribute, hreceiver]
    exact ⟨read_sig_of_isSigTarget hd htarget hs o eigen,
      read_sig_of_not_isSigTarget hw' hw.not_isComment (hw.not_isSigTarget hdef) (hbefore.trans hs)
        ((hsame s hs).1.trans hg) hword o eigen⟩

def wrap (word text : String) (d : Node) : Node :=
  .made "call" text
    [(Node.made "identifier" word []).playing "method", (Node.made "argument_list" "" [d]).playing "arguments"]

theorem visibility_transparent_private :
    let sig := (Stmt.sig false (.word "void")).tree
    let definition := (Stmt.definition false "f" []).tree
    let wrapped := wrap "private" "private def f; end" definition
    let u : Source := { root := .made "program" "" [sig, definition], file := "a.rb" }
    let v : Source := { root := .made "program" "" [sig, wrapped], file := "a.rb" }
    u.sigBefore? (.child .root 1) = .ok (some (.child .root 0)) ∧
      v.read {} (.child .root 1) false = u.read {} (.child .root 1) false ∧
      u.read {} (.child .root 0) false = pure [] ∧ v.read {} (.child .root 0) false = pure [] := by
  intro sig definition wrapped u v
  have h : u.DiffersAt v (.child .root 1) definition wrapped :=
    @DiffersAt.child u v .root _ _ (.root rfl) rfl [sig] [] _ _ rfl rfl
  have hw : wrapped.Wraps definition := ⟨rfl, ⟨"private", by decide, rfl, by decide⟩, rfl, rfl⟩
  have hs : u.sigBefore? (.child .root 1) = .ok (some (.child .root 0)) := rfl
  obtain ⟨-, hmethod, -⟩ := visibility_transparent h hw {} false
  obtain ⟨hread, hsig⟩ := hmethod rfl
  exact ⟨hs, hread, hsig _ hs⟩

theorem attributes_not_transparent :
    let sig := (Stmt.sig false (.call "returns" [.constant "A"])).tree
    let accessor := (Stmt.command (.accessor .reader "x")).tree
    let wrapped := wrap "private" "private attr_reader :x" accessor
    let u : Source := { root := .made "program" "" [sig, accessor], file := "a.rb" }
    let v : Source := { root := .made "program" "" [sig, wrapped], file := "a.rb" }
    u.DiffersAt v (.child .root 1) accessor wrapped ∧ wrapped.Wraps accessor ∧
      (u.read {} (.child .root 1) false).result =
        .ok [.member { name := "x", body := .attribute .reader { result := some (.raw "A") } }] ∧
      (v.read {} (.child .root 1) false).result = .ok [] ∧
      (u.read {} (.child .root 0) false).result = .ok [] ∧
      (v.read {} (.child .root 0) false).result = .error (.problem .sigWithoutDefinition "a.rb" 1) := by
  intro sig accessor wrapped u v
  have h : u.DiffersAt v (.child .root 1) accessor wrapped :=
    @DiffersAt.child u v .root _ _ (.root rfl) rfl [sig] [] _ _ rfl rfl
  have hw : wrapped.Wraps accessor := ⟨rfl, ⟨"private", by decide, rfl, by decide⟩, rfl, rfl⟩
  have hsigned : u.Signed (.child .root 1) (.child .root 0) accessor sig :=
    ⟨⟨accessor, rfl, by decide +kernel, rfl⟩, rfl, rfl⟩
  have hchain : sig.sigChain? = some [⟨some "returns", [(Expr.constant "A").tree]⟩] := by
    change some (Expr.tree (.call "returns" [.constant "A"])).chain.2 = _
    rw [Node.chain_of_no_receiver rfl rfl]
    rfl
  have hsigs : v.sigBefore? (.child .root 1) = .ok (some (.child .root 0)) := rfl
  refine ⟨h, hw, ?_, ?_, ?_, ?_⟩
  · rw [hsigned.read, hsigned.sigInfo, hchain, commentsBefore_root_child_zero]
    rfl
  · rw [read_of_wraps rfl hw (by decide)]
    rfl
  · rw [read_sig_of_isSigTarget (n := accessor) rfl rfl hsigned.before]
    rfl
  · rw [read_sig_of_not_isSigTarget (n := wrapped) (g := sig) rfl hw.not_isComment rfl hsigs rfl (by decide)]
    rfl

end Source
end RubyStubs
