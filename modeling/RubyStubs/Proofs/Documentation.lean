import Mathlib.Data.List.DropRight
import RubyStubs.Proofs.StatementMembers
import RubyStubs.Proofs.StatementRun
import RubyStubs.Proofs.Visibility

namespace RubyStubs

namespace NodePath

def Encloses (b p : NodePath) : Prop := ∃ is, is ≠ [] ∧ p.steps = is ++ b.steps

theorem encloses_child {b p : NodePath} {i : Int} : b.Encloses (p.child i) ↔ b = p ∨ b.Encloses p := by
  constructor
  · rintro ⟨_ | ⟨j, is⟩, hne, hsteps⟩
    · exact absurd rfl hne
    · obtain ⟨-, hup⟩ := List.cons_eq_cons.mp hsteps
      rcases is with _ | ⟨k, is⟩
      · exact .inl (congrArg NodePath.mk hup).symm
      · exact .inr ⟨k :: is, nofun, hup⟩
  · rintro (rfl | ⟨is, -, hsteps⟩)
    · exact ⟨[i], nofun, rfl⟩
    · exact ⟨i :: is, nofun, congrArg (i :: ·) hsteps⟩

theorem child_natCast_inj {p q : NodePath} {i j : Nat} : p.child i = q.child j ↔ p = q ∧ i = j := by
  obtain ⟨p⟩ := p
  obtain ⟨q⟩ := q
  simp only [child, NodePath.mk.injEq, List.cons.injEq, Int.natCast_inj, and_comm]

theorem indices_child (p : NodePath) (i : Int) : (p.child i).indices = p.indices ++ [i] := by
  simp [indices, child]

theorem indices_lt_of_suffix {p r : NodePath} {k j : Nat} (hkj : k < j) (h : (r.child j).steps <:+ p.steps) :
    (r.child k).indices < p.indices := by
  obtain ⟨is, hsteps⟩ := h
  have hp : p.indices = r.indices ++ ((j : Int) :: is.reverse) := by
    rw [indices, ← hsteps]
    simp [indices, child]
  rw [indices_child, hp]
  apply List.append_left_lt
  exact .rel (by omega)

end NodePath

namespace Node

variable {n : Node}

theorem not_isSequence_of_isCall (h : n.isCall) : ¬ n.isSequence := by
  intro hseq
  have hkind : n.kind ∈ sequenceKinds := by simpa [isSequence] using hseq
  have hnone : ∀ kind ∈ sequenceKinds, kind ∉ callKinds := by decide
  exact hnone _ hkind (by simpa [isCall] using h)

theorem not_isSequence_of_isSig (h : n.isSig) : ¬ n.isSequence := by
  simp only [isSig, Bool.and_eq_true] at h
  exact not_isSequence_of_isCall h.1.1.1

theorem not_isSequence_of_isDefining (h : n.isDefining) : ¬ n.isSequence := by
  intro hseq
  have hkind : n.kind ∈ sequenceKinds := by simpa [isSequence] using hseq
  have hnone : ∀ kind ∈ sequenceKinds, kind ∉ definitionKinds ∧ kind ∉ callKinds ∧ kind ≠ "identifier" := by decide
  simp [isDefining, isDefinition, isCall, hnone _ hkind] at h

theorem not_isSig_of_isDefining (h : n.isDefining) : ¬ n.isSig := by
  simp only [isDefining, Bool.or_eq_true, Bool.and_eq_true] at h
  rcases h with hdef | ⟨-, hcall⟩
  · have hcall := (not_isCall_of_isDefinition hdef).1
    simp [isSig, hcall]
  · simp [isSig_eq_false (hcall.imp And.left And.left)]

end Node

namespace Source

variable {u : Source} {p q t : NodePath} {s : NodePath × Node} {n : Node}

/-- The place `p` comes first in what is at another place: it is that place, or the place of a run of statements with
nothing but comments before `p`. -/
inductive Heads (u : Source) (p : NodePath) : NodePath → Prop
  | self : Heads u p p
  | run {t : NodePath} {n : Node} {i : Nat} (hn : u.node t = .ok n) (hseq : n.isSequence)
      (hi : u.OnlyComments t 0 i) (h : Heads u p (t.child i)) : Heads u p t

namespace Heads

theorem suffix (h : u.Heads p t) : t.steps <:+ p.steps := by
  induction h with
  | self => exact List.suffix_rfl
  | run _ _ _ _ ih => exact (List.suffix_cons _ _).trans ih

theorem trans_run {i : Nat} (hn : u.node q = .ok n) (hseq : n.isSequence) (hi : u.OnlyComments q 0 i)
    (h : u.Heads q t) : u.Heads (q.child i) t := by
  induction h with
  | self => exact .run hn hseq hi .self
  | run hm hseq' hj _ ih => exact .run hm hseq' hj ih

end Heads

theorem heads_child_iff {i : Nat} (hn : u.node q = .ok n) :
    u.Heads (q.child i) t ↔ t = q.child i ∨ n.isSequence ∧ u.OnlyComments q 0 i ∧ u.Heads q t := by
  constructor
  · intro h
    induction h with
    | self => exact .inl rfl
    | @run t m j hm hseq hj _ ih =>
      rcases ih with hsame | ⟨hseq', hi, hup⟩
      · obtain ⟨rfl, rfl⟩ := NodePath.child_natCast_inj.mp hsame
        cases hn.symm.trans hm
        exact .inr ⟨hseq, hj, .self⟩
      · exact .inr ⟨hseq', hi, .run hm hseq hj hup⟩
  · rintro (rfl | ⟨hseq, hi, h⟩)
    · exact .self
    · exact .trans_run hn hseq hi h

def CommentAbove (u : Source) (p : NodePath) (s : NodePath × Node) : Prop :=
  ∃ (r : NodePath) (k j : Nat), s.1 = r.child k ∧ u.node s.1 = .ok s.2 ∧ k < j ∧ u.OnlyComments r k j ∧
    u.Heads p (r.child j)

theorem not_commentAbove_root : ¬ u.CommentAbove .root s := by
  rintro ⟨r, k, j, -, -, -, -, h⟩
  have hempty := List.suffix_nil.mp h.suffix
  cases hempty

theorem commentAbove_child_zero (hn : u.node q = .ok n) :
    u.CommentAbove (q.child (0 : Nat)) s ↔ n.isSequence ∧ u.CommentAbove q s := by
  constructor
  · rintro ⟨r, k, j, hs, hc, hkj, honly, h⟩
    rcases (heads_child_iff hn).mp h with hsame | ⟨hseq, -, hup⟩
    · obtain ⟨-, rfl⟩ := NodePath.child_natCast_inj.mp hsame
      omega
    · exact ⟨hseq, r, k, j, hs, hc, hkj, honly, hup⟩
  · rintro ⟨hseq, r, k, j, hs, hc, hkj, honly, h⟩
    exact ⟨r, k, j, hs, hc, hkj, honly, .trans_run hn hseq (fun _ _ hlt => by omega) h⟩

theorem commentAbove_child_succ {i : Nat} (hn : u.node q = .ok n) :
    u.CommentAbove (q.child (i + 1 : Nat)) s ↔
      u.CommentAt q i ∧ (s.1 = q.child i ∧ u.node s.1 = .ok s.2 ∨ u.CommentAbove (q.child i) s) := by
  constructor
  · rintro ⟨r, k, j, hs, hc, hkj, honly, h⟩
    rcases (heads_child_iff hn).mp h with hsame | ⟨hseq, hi, hup⟩
    · obtain ⟨rfl, rfl⟩ := NodePath.child_natCast_inj.mp hsame
      refine ⟨honly i (by omega) (by omega), ?_⟩
      rcases Nat.lt_succ_iff_lt_or_eq.mp hkj with hlt | rfl
      · exact .inr ⟨r, k, i, hs, hc, hlt, fun l hkl hli => honly l hkl (by omega), .self⟩
      · exact .inl ⟨hs, hc⟩
    · refine ⟨hi i (by omega) (by omega), .inr ⟨r, k, j, hs, hc, hkj, honly, ?_⟩⟩
      exact .trans_run hn hseq (fun l _ hli => hi l (by omega) (by omega)) hup
  · have hextend {k : Nat} (hi : u.CommentAt q i) (honly : u.OnlyComments q k i) : u.OnlyComments q k (i + 1) := by
      intro l hkl hli
      rcases Nat.lt_succ_iff_lt_or_eq.mp hli with hlt | rfl
      · exact honly l hkl hlt
      · exact hi
    rintro ⟨hi, ⟨hs, hc⟩ | ⟨r, k, j, hs, hc, hkj, honly, h⟩⟩
    · exact ⟨q, i, i + 1, hs, hc, by omega, hextend hi fun l _ _ => by omega, .self⟩
    · rcases (heads_child_iff hn).mp h with hsame | ⟨hseq, hbefore, hup⟩
      · obtain ⟨rfl, rfl⟩ := NodePath.child_natCast_inj.mp hsame
        exact ⟨r, k, j + 1, hs, hc, by omega, hextend hi honly, .self⟩
      · exact ⟨r, k, j, hs, hc, hkj, honly, .trans_run hn hseq (hextend hi hbefore) hup⟩

theorem CommentAbove.lt (h : u.CommentAbove p s) : s.1.indices < p.indices := by
  obtain ⟨r, k, j, hs, -, hkj, -, hheads⟩ := h
  rw [hs]
  exact NodePath.indices_lt_of_suffix hkj hheads.suffix

structure RunAbove (u : Source) (p : NodePath) (run : List (NodePath × Node)) : Prop where
  mem : ∀ s, s ∈ run ↔ u.CommentAbove p s
  sorted : run.Pairwise fun s t => s.1.indices < t.1.indices

namespace RunAbove

theorem nil (h : ∀ s, ¬ u.CommentAbove p s) : u.RunAbove p [] where
  mem s := iff_of_false List.not_mem_nil (h s)
  sorted := .nil

theorem child_succ {i : Nat} {c : Node} {run : List (NodePath × Node)} (hn : u.node q = .ok n)
    (hc : u.node (q.child i) = .ok c) (hcomment : c.isComment) (h : u.RunAbove (q.child i) run) :
    u.RunAbove (q.child (i + 1 : Nat)) (run ++ [(q.child i, c)]) where
  mem := by
    rintro ⟨r, d⟩
    have hat : u.CommentAt q i := ⟨c, hc, hcomment⟩
    have hlast : (r = q.child i ∧ u.node r = .ok d) ↔ (r, d) = (q.child i, c) := by
      constructor
      · rintro ⟨rfl, hd⟩
        cases hc.symm.trans hd
        rfl
      · rintro ⟨⟩
        exact ⟨rfl, hc⟩
    rw [commentAbove_child_succ hn, List.mem_append, List.mem_singleton, h.mem, hlast]
    simp only [hat, true_and, or_comm]
  sorted := by
    apply List.pairwise_append.mpr
    refine ⟨h.sorted, List.pairwise_singleton _ _, ?_⟩
    intro s hs t ht
    rw [List.mem_singleton.mp ht]
    exact ((h.mem s).mp hs).lt

end RunAbove

def documents (s : NodePath × Node) : Bool := !isMagic (commentText s.2)

def documentation (run : List (NodePath × Node)) : List String := (run.rtakeWhile documents).map (commentText ·.2)

theorem documentation_concat (run : List (NodePath × Node)) (s : NodePath × Node) :
    documentation (run ++ [s]) = if documents s then documentation run ++ [commentText s.2] else [] := by
  rw [documentation, List.rtakeWhile_concat]
  split_ifs
  · rw [List.map_append, List.map_singleton, documentation]
  · rfl

theorem At.exists_run_child (h : u.At q n)
    (hup : ∀ below, ∃ run, u.RunAbove q run ∧ u.commentsAbove below q.steps = .ok (documentation run ++ below))
    (i : Nat) (hi : i < n.children.length) (below : List String) :
    ∃ run, u.RunAbove (q.child i) run ∧
      u.commentsAbove below (q.child i).steps = .ok (documentation run ++ below) := by
  have hn := h.node
  -- One comment more at each index. At the first one there is what is above the run, if these are the statements of one.
  induction i generalizing below with
  | zero =>
    have hzero : u.commentsAbove below (q.child (0 : Nat)).steps = _ := commentsAbove_child_zero u hn below
    rw [hzero]
    by_cases hroot : q.steps = []
    · have hq : q = .root := congrArg NodePath.mk hroot
      refine ⟨[], .nil fun s hs => ?_, by simp [hroot, documentation]⟩
      have habove := ((commentAbove_child_zero hn).mp hs).2
      rw [hq] at habove
      exact not_commentAbove_root habove
    · rw [if_neg (by simpa using hroot)]
      by_cases hseq : n.isSequence
      · obtain ⟨run, hrun, hok⟩ := hup below
        rw [if_pos hseq]
        refine ⟨run, ⟨fun s => ?_, hrun.sorted⟩, hok⟩
        rw [hrun.mem, commentAbove_child_zero hn, and_iff_right hseq]
      · rw [if_neg hseq]
        exact ⟨[], .nil fun s hs => hseq ((commentAbove_child_zero hn).mp hs).1, rfl⟩
  | succ i ih =>
    obtain ⟨c, hc⟩ := h.exists_child (i := i) (by omega)
    rw [commentsAbove_child_succ u hc.node]
    by_cases hcomment : c.isComment
    · obtain ⟨run, hrun, hok⟩ := ih (by omega) (commentText c :: below)
      refine ⟨_, hrun.child_succ hn hc.node hcomment, ?_⟩
      rw [documentation_concat, documents]
      by_cases hmagic : isMagic (commentText c)
      · simp [hmagic]
      · simp [hcomment, hmagic, hok]
    · refine ⟨[], .nil fun s hs => ?_, by simp [hcomment, documentation]⟩
      obtain ⟨⟨d, hd, hdcomment⟩, -⟩ := (commentAbove_child_succ hn).mp hs
      cases hc.node.symm.trans hd
      exact hcomment hdcomment

theorem At.exists_run (h : u.At p n) (below : List String) :
    ∃ run, u.RunAbove p run ∧ u.commentsAbove below p.steps = .ok (documentation run ++ below) := by
  induction h generalizing below with
  | root =>
    refine ⟨[], .nil fun _ => not_commentAbove_root, ?_⟩
    rw [NodePath.root, commentsAbove]
    rfl
  | child h hc ih => exact h.exists_run_child ih _ (List.getElem?_eq_some_iff.mp hc).1 below

theorem Heads.encloses_iff (h : u.Heads p t) {b : NodePath} {m : Node} (hb : u.node b = .ok m) (hseq : ¬ m.isSequence) :
    b.Encloses t ↔ b.Encloses p := by
  induction h with
  | self => rfl
  | run hn hseq' _ _ ih =>
    rw [← ih, NodePath.encloses_child]
    refine ⟨.inr, fun h => h.resolve_left ?_⟩
    rintro rfl
    cases hn.symm.trans hb
    exact hseq hseq'

theorem CommentAbove.encloses_iff (h : u.CommentAbove p s) {b : NodePath} {m : Node} (hb : u.node b = .ok m)
    (hseq : ¬ m.isSequence) : b.Encloses s.1 ↔ b.Encloses p := by
  obtain ⟨r, k, j, hs, -, -, -, hheads⟩ := h
  rw [hs, ← hheads.encloses_iff hb hseq, NodePath.encloses_child, NodePath.encloses_child]

def SingleAt (u : Source) (p : NodePath) : Prop := ∃ n, u.node p = .ok n ∧ ¬ n.isComment ∧ ¬ n.isSequence

theorem CommentAt.not_statementAt {i : Nat} (h : u.CommentAt p i) : ¬ u.StatementAt p i := by
  obtain ⟨c, hc, hcomment⟩ := h
  rintro ⟨d, hd, hstatement⟩
  cases hc.symm.trans hd
  exact hstatement hcomment

theorem OnlyComments.end_unique {k i j : Nat} (h : u.OnlyComments p k i) (h' : u.OnlyComments p k j) (hki : k ≤ i)
    (hkj : k ≤ j) (hi : u.StatementAt p i) (hj : u.StatementAt p j) : i = j := by
  apply Nat.le_antisymm
  · apply Nat.le_of_not_lt
    intro hlt
    exact (h j hkj hlt).not_statementAt hj
  · apply Nat.le_of_not_lt
    intro hlt
    exact (h' i hki hlt).not_statementAt hi

namespace Heads

theorem statementAt {i : Nat} (h : u.Heads p (t.child i)) (hp : u.SingleAt p) : u.StatementAt t i := by
  cases h with
  | self =>
    obtain ⟨n, hn, hcomment, -⟩ := hp
    exact ⟨n, hn, hcomment⟩
  | @run _ n _ hn hseq _ _ =>
    refine ⟨n, hn, fun hcomment => ?_⟩
    rw [Node.isComment_not_isSequence hcomment] at hseq
    cases hseq

theorem eq_of_single (h : u.Heads p t) (ht : u.SingleAt t) : p = t := by
  cases h with
  | self => rfl
  | run hn hseq _ _ =>
    obtain ⟨n, hn', -, hsingle⟩ := ht
    cases hn.symm.trans hn'
    exact absurd hseq hsingle

theorem unique (h : u.Heads p t) (h' : u.Heads q t) (hp : u.SingleAt p) (hq : u.SingleAt q) : p = q := by
  induction h with
  | self => exact (h'.eq_of_single hp).symm
  | @run t n i hn hseq hi h ih =>
    cases h' with
    | self => exact (Heads.run hn hseq hi h).eq_of_single hq
    | @run _ m j _ _ hj h' =>
      -- With only comments before both, each is at or after the other.
      have hij : i = j := hi.end_unique hj (Nat.zero_le i) (Nat.zero_le j) (h.statementAt hp) (h'.statementAt hq)
      rw [← hij] at h'
      exact ih h'

end Heads

theorem CommentAbove.unique (h : u.CommentAbove p s) (h' : u.CommentAbove q s) (hp : u.SingleAt p)
    (hq : u.SingleAt q) : p = q := by
  obtain ⟨r, k, i, hs, -, hki, hi, hheads⟩ := h
  obtain ⟨r', k', j, hs', -, hkj, hj, hheads'⟩ := h'
  obtain ⟨rfl, rfl⟩ := NodePath.child_natCast_inj.mp (hs.symm.trans hs')
  have hij : i = j := hi.end_unique hj hki.le hkj.le (hheads.statementAt hp) (hheads'.statementAt hq)
  rw [← hij] at hheads'
  exact hheads.unique hheads' hp hq

/-- A declaration has the comments above it, and a definition with a sig before it those above the sig. -/
inductive DocumentedAt (u : Source) (p : NodePath) (n : Node) : NodePath → Prop
  | own (hn : n.isScope ∨ n.kind = "assignment") : DocumentedAt u p n p
  | definition {s : Option NodePath} (hn : n.isDefining) (hs : u.sigBefore? p = .ok s) : DocumentedAt u p n (s.getD p)

namespace DocumentedAt

theorem eq_or_sig (h : u.DocumentedAt p n q) : q = p ∨ n.isDefining ∧ u.sigBefore? p = .ok (some q) := by
  cases h with
  | own => exact .inl rfl
  | @definition s hn hs =>
    cases s with
    | none => exact .inl rfl
    | some s => exact .inr ⟨hn, hs⟩

theorem proper (h : u.DocumentedAt p n q) : ¬ n.isComment ∧ ¬ n.isSequence ∧ ¬ n.isSig := by
  cases h with
  | own hn =>
    rw [Node.isScope_iff] at hn
    rcases hn with (hk | hk) | hk <;>
      simp [Node.isComment, Node.isSequence, Node.sequenceKinds, Node.isSig, Node.isCall, Node.callKinds, hk]
  | definition hn =>
    exact ⟨Node.not_isComment_of_isDefining hn, Node.not_isSequence_of_isDefining hn, Node.not_isSig_of_isDefining hn⟩

theorem at_place (h : u.DocumentedAt p n q) (hp : u.At p n) : ∃ m, u.At q m ∧ ¬ m.isComment ∧ ¬ m.isSequence := by
  rcases h.eq_or_sig with rfl | ⟨-, hs⟩
  · exact ⟨n, hp, h.proper.1, h.proper.2.1⟩
  · cases hp with
    | root => cases hs
    | child hparent hc =>
      obtain ⟨_, hs', hsig⟩ := hparent.sigBefore? hc
      rw [hs] at hs'
      cases hs'
      obtain ⟨m, hm, hmsig⟩ := hsig q rfl
      exact ⟨m, hm, Node.not_isComment_of_isSig hmsig, Node.not_isSequence_of_isSig hmsig⟩

theorem single (h : u.DocumentedAt p n q) (hp : u.At p n) : u.SingleAt q := by
  obtain ⟨m, hm, hproper⟩ := h.at_place hp
  exact ⟨m, hm.node, hproper⟩

theorem unique {p' : NodePath} {n' : Node} (h : u.DocumentedAt p n q) (h' : u.DocumentedAt p' n' q)
    (hp : u.node p = .ok n) (hp' : u.node p' = .ok n') : p = p' := by
  have hsig {p : NodePath} {n : Node} (h : u.DocumentedAt q n q) (hq : u.node q = .ok n) :
      ¬ u.sigBefore? p = .ok (some q) := by
    intro hs
    obtain ⟨-, m, hm, hmsig⟩ := sigBefore?_eq_some_iff.mp hs
    cases hq.symm.trans hm
    exact h.proper.2.2 hmsig
  rcases h.eq_or_sig with rfl | ⟨-, hs⟩
  · rcases h'.eq_or_sig with hsame | ⟨-, hs'⟩
    · exact hsame
    · exact absurd hs' (hsig h hp)
  · rcases h'.eq_or_sig with rfl | ⟨-, hs'⟩
    · exact absurd hs (hsig h' hp')
    -- One sig for both: they are what is next after it.
    · have hnext := next?_of_sigBefore? hp h.proper.1 hs
      have hnext' := next?_of_sigBefore? hp' h'.proper.1 hs'
      rw [hnext] at hnext'
      cases hnext'
      rfl

end DocumentedAt

theorem Reads.at {o : ReadOptions} {eigen : Bool} (h : u.Reads o p n eigen) : u.At p n := by
  induction h with
  | root => exact .root
  | sequence _ _ hc ih => exact ih.of_mem_statements hc
  | scope _ _ _ hc ih => exact ih.of_mem_statements (mem_of_mem_innerStatements hc)
  | singleton _ _ hc ih => exact ih.of_mem_statements hc

theorem readNode_of_assignment (u : Source) (o : ReadOptions) {n : Node} (p : NodePath) (eigen : Bool)
    (h : n.kind = "assignment") : u.readNode o n p eigen = .ofExcept (u.assignment o n p eigen) := by
  rw [readNode]
  simp [Node.isSequence, Node.sequenceKinds, Node.isComment, Node.isDefinition, Node.definitionKinds, h]

def Carries (cs : List String) (d : Decl) : Prop := ∃ outer c, d = Decl.within outer c ∧ c.comments = cs

theorem AreMembers.carry {cs : List String} {ds : List Decl} (h : AreMembers cs ds) : ∀ d ∈ ds, Carries cs d :=
  fun d hd => ⟨[], d, rfl, h.comments hd⟩

theorem DocumentedAt.ensures_readNode (h : u.DocumentedAt p n q) (o : ReadOptions) (eigen : Bool) {cs : List String}
    (hcs : u.commentsBefore q = .ok cs) :
    Ensures (u.readNode o n p eigen).result fun ds => ∀ d ∈ ds, Carries cs d := by
  cases h with
  | own hn =>
    rcases hn with hscope | hassignment
    · rw [readNode_of_isScope u o p eigen hscope]
      apply Ensures.journal_bind
      intro header _
      apply Ensures.journal_bind
      intro children _
      rw [hcs]
      apply Ensures.journal_bind
      rintro _ ⟨⟩
      exact .ok (List.forall_mem_singleton.mpr ⟨header.1, _, rfl, rfl⟩)
    · rw [readNode_of_assignment u o p eigen hassignment]
      refine (u.ensures_assignment o n p eigen).mono ?_
      rintro ds (rfl | ⟨comments, hcomments, hds⟩)
      · exact nofun
      · cases hcs.symm.trans hcomments
        exact hds.carry
  | @definition s hn hs =>
    rw [readNode_of_isDefining u o p eigen hn, definitionAt, hs]
    refine (u.ensures_definition o p eigen s).mono ?_
    rintro ds ⟨comments, hcomments, hds⟩
    cases hcs.symm.trans hcomments
    exact hds.carry

theorem ensures_no_comments (hseq : ¬ n.isSequence) (hself : ¬ n.isOwnSingleton) (h : ∀ q, ¬ u.DocumentedAt p n q)
    (o : ReadOptions) (eigen : Bool) : Ensures (u.readNode o n p eigen).result (AreMembers []) := by
  by_cases hdef : n.isDefining
  · rw [readNode_of_isDefining u o p eigen hdef]
    exact .bind fun s hs => absurd (.definition hdef hs) (h _)
  have hscope : ¬ (n.kind == "class" || n.kind == "module") := fun hscope => h p (.own (.inl hscope))
  have hassignment : ¬ n.kind == "assignment" := fun hk => h p (.own (.inr (by simpa using hk)))
  have hdefinition : ¬ n.isDefinition := fun hdefinition => hdef (by simp [Node.isDefining, hdefinition])
  have hunknown (what : Problem) : Ensures (u.unknown o what p) (AreMembers []) :=
    (u.ensures_unknown o p what).mono fun ds hds => hds ▸ .nil []
  rw [readNode, if_neg hseq, if_neg hscope, if_neg hdefinition, if_neg hassignment]
  split_ifs with hcomment hsingleton hvalue hword hcall
  · exact .ok (.nil [])
  · exact absurd (Node.isOwnSingleton_iff.mpr ⟨by simpa using hsingleton, hvalue⟩) hself
  · exact hunknown _
  · exact .ok (.nil [])
  · apply u.ensures_call o n p eigen
    intro hdefines
    apply hdef
    rw [Bool.not_eq_true] at hword
    rw [Node.isDefining, hcall, hword, hdefines]
    simp
  · exact hunknown _

def bodyKinds : List String := ["class", "module", "singleton_class"]

theorem not_isSequence_of_bodyKinds (h : n.kind ∈ bodyKinds) : ¬ n.isSequence := by
  intro hseq
  have hne := Node.kind_ne_of_isSequence hseq
  simp [bodyKinds, hne] at h

/-- The comments before a statement are the unbroken run of comments that ends just before it, or before a run of
statements that it heads, from the last magic comment on, and lie in the same bodies as the statement. Declarations
carry the comments before their statement, or before the sig of a definition; other statements carry none. No comment is
in the runs of two statements. -/
theorem comments_document_one_statement (u : Source) (o : ReadOptions) :
    (∀ p n, u.At p n → ∃ run, u.RunAbove p run ∧ u.commentsBefore p = .ok (documentation run) ∧
      ∀ b m, u.node b = .ok m → m.kind ∈ bodyKinds → ∀ s ∈ run, (b.Encloses s.1 ↔ b.Encloses p)) ∧
    (∀ p n eigen q ds, u.Reads o p n eigen → u.DocumentedAt p n q → (u.readNode o n p eigen).result = .ok ds →
      ∃ cs, u.commentsBefore q = .ok cs ∧ ∀ d ∈ ds, Carries cs d) ∧
    (∀ p n eigen ds, ¬ n.isSequence → ¬ n.isOwnSingleton → (∀ q, ¬ u.DocumentedAt p n q) →
      (u.readNode o n p eigen).result = .ok ds → ∀ d ∈ ds, d.comments = []) ∧
    ∀ p n eigen q p' n' eigen' q', u.Reads o p n eigen → u.Reads o p' n' eigen' → u.DocumentedAt p n q →
      u.DocumentedAt p' n' q' → p ≠ p' → ∀ s, u.CommentAbove q s → ¬ u.CommentAbove q' s := by
  refine ⟨?_, ?_, ?_, ?_⟩
  · intro p n h
    obtain ⟨run, hrun, hok⟩ := h.exists_run []
    rw [List.append_nil] at hok
    refine ⟨run, hrun, hok, ?_⟩
    intro b m hb hkind s hs
    exact ((hrun.mem s).mp hs).encloses_iff hb (not_isSequence_of_bodyKinds hkind)
  · intro p n eigen q ds h hdoc hds
    obtain ⟨m, hm, -⟩ := hdoc.at_place h.at
    obtain ⟨cs, hcs⟩ := hm.commentsBefore
    exact ⟨cs, hcs, hdoc.ensures_readNode o eigen hcs ds hds⟩
  · intro p n eigen ds hseq hself h hds d hd
    exact (ensures_no_comments hseq hself h o eigen ds hds).comments hd
  · intro p n eigen q p' n' eigen' q' h h' hdoc hdoc' hne s hs hs'
    have hsame : q = q' := hs.unique hs' (hdoc.single h.at) (hdoc'.single h'.at)
    rw [← hsame] at hdoc'
    exact hne (hdoc.unique hdoc' h.at.node h'.at.node)

theorem comments_document_one_statement_in_singleton :
    let comment (text : String) : Node := .made "comment" text []
    let sig := (Stmt.sig false (.word "void")).tree
    let first := (Stmt.definition false "f" []).tree
    let second := (Stmt.definition false "g" []).tree
    let body : Node := .made "body_statement" "" [sig, first, comment "# coding: utf-8", comment "# Two.", second]
    let singleton : Node :=
      .made "singleton_class" "" [(Node.made "self" "self" []).playing "value", comment "# One.", body]
    let u : Source := { root := .made "program" "" [singleton], file := "a.rb" }
    let inner : NodePath := .ofIndices [0, 2]
    let one : NodePath × Node := (.ofIndices [0, 1], comment "# One.")
    u.commentsBefore (inner.child 0) = .ok ["One."] ∧ u.commentsBefore (inner.child 4) = .ok ["Two."] ∧
      (u.read {} (inner.child 1) true).result =
        .ok [.member { name := "f", comments := ["One."], body := .method { classLevel := true } }] ∧
      (∃ run, u.RunAbove (inner.child 0) run ∧ one ∈ run ∧ documentation run = ["One."]) ∧
      ¬ u.CommentAbove (inner.child 4) one := by
  intro comment sig first second body singleton u inner one
  have hsingleton : u.Reads {} (.ofIndices [0]) singleton false := Reads.root.sequence rfl (List.mem_singleton.mpr rfl)
  have hstatements : singleton.statements (.ofIndices [0]) =
      [(.ofIndices [0, 1], comment "# One."), (inner.child 0, sig), (inner.child 1, first),
        (inner.child 2, comment "# coding: utf-8"), (inner.child 3, comment "# Two."), (inner.child 4, second)] := rfl
  have hfirst : u.Reads {} (inner.child 1) first true := hsingleton.singleton rfl (by simp [hstatements])
  have hsecond : u.Reads {} (inner.child 4) second true := hsingleton.singleton rfl (by simp [hstatements])
  have hsigned : u.DocumentedAt (inner.child 1) first (inner.child 0) :=
    .definition (s := some (inner.child 0)) (by decide +kernel) rfl
  have hunsigned : u.DocumentedAt (inner.child 4) second (inner.child 4) :=
    .definition (s := none) (by decide +kernel) rfl
  have habove : u.CommentAbove (inner.child 0) one := by
    refine ⟨.ofIndices [0], 1, 2, rfl, rfl, by omega, fun i hi hi' => ?_, .trans_run rfl rfl nofun .self⟩
    obtain rfl : i = 1 := by omega
    exact ⟨one.2, rfl, rfl⟩
  have hup : u.commentsBefore (inner.child 0) = .ok ["One."] := by
    have htext : commentText one.2 = "One." := by decide +kernel
    have hzero : u.commentsBefore (inner.child 0) = u.commentsAbove [] inner.steps :=
      commentsAbove_child_zero (q := inner) (n := body) u rfl []
    have hone : u.commentsAbove [] inner.steps = _ :=
      commentsAbove_child_succ (q := .ofIndices [0]) (i := 1) (c := one.2) u rfl []
    have hend := commentsAbove_child_succ (q := .ofIndices [0]) (i := 0) (c := .playing (.made "self" "self" []) "value")
      u rfl [commentText one.2]
    rw [hzero, hone, if_neg (by decide +kernel)]
    exact hend.trans (by rw [htext]; rfl)
  have hmagic : u.commentsBefore (inner.child 4) = .ok ["Two."] := by
    have htext : commentText (comment "# Two.") = "Two." := by decide +kernel
    have htwo : u.commentsBefore (inner.child 4) = _ :=
      commentsAbove_child_succ (q := inner) (i := 3) (c := comment "# Two.") u rfl []
    have hend := commentsAbove_child_succ (q := inner) (i := 2) (c := comment "# coding: utf-8") u rfl
      [commentText (comment "# Two.")]
    rw [htwo, if_neg (by decide +kernel), htext]
    rw [if_pos (by decide +kernel), htext] at hend
    exact hend
  have hread : (u.read {} (inner.child 1) true).result =
      .ok [.member { name := "f", comments := ["One."], body := .method { classLevel := true } }] := by
    have h : u.Signed (inner.child 1) (inner.child 0) first sig := ⟨⟨first, rfl, by decide +kernel, rfl⟩, rfl, rfl⟩
    have hchain : sig.sigChain? = some [⟨some "void", []⟩] := by
      change some (Expr.tree (.word "void")).chain.2 = _
      rw [Node.chain_of_not_isCall (by decide)]
      rfl
    rw [h.read, h.sigInfo, hchain, hup]
    rfl
  obtain ⟨hruns, -, -, hdisjoint⟩ := comments_document_one_statement u {}
  obtain ⟨run, hrun, hok, -⟩ := hruns (inner.child 0) sig ((hsingleton.at.child (i := 2) rfl).child (i := 0) rfl)
  rw [hup] at hok
  refine ⟨hup, hmagic, hread, ⟨run, hrun, (hrun.mem one).mpr habove, (Except.ok.inj hok).symm⟩, ?_⟩
  exact hdisjoint _ _ _ _ _ _ _ _ hfirst hsecond hsigned hunsigned (by decide) one habove

end Source
end RubyStubs
