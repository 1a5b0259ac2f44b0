import RubyStubs.Proofs.Leniency
import RubyStubs.Proofs.SigAgreement

namespace RubyStubs

theorem Ensures.journal_bind {ε α β : Type} {P : β → Prop} {x : Journal ε α} {f : α → Journal ε β}
    (h : ∀ a, x.result = .ok a → Ensures (f a).result P) : Ensures (x >>= f).result P := by
  rw [Journal.result_bind]
  exact bind h

namespace Source

def AreMembers (comments : List String) (ds : List Decl) : Prop :=
  ∀ d ∈ ds, ∃ name body, d = .member { name, comments, body }

namespace AreMembers

theorem nil (comments : List String) : AreMembers comments [] := nofun

theorem one {comments : List String} {d : Decl} (h : ∃ name body, d = .member { name, comments, body }) :
    AreMembers comments [d] := List.forall_mem_singleton.mpr h

theorem comments {cs : List String} {ds : List Decl} (h : AreMembers cs ds) {d : Decl} (hd : d ∈ ds) :
    d.comments = cs := by
  obtain ⟨name, body, rfl⟩ := h d hd
  rfl

end AreMembers

section Readers

variable (u : Source) (o : ReadOptions) (n : Node) (p : NodePath) (eigen : Bool)

theorem ensures_fail {β : Type} {P : β → Prop} (what : Problem) : Ensures (u.fail what p) P :=
  .bind fun _ _ => .error _

theorem ensures_unknown (what : Problem) : Ensures (u.unknown o what p) (· = []) := fun _ => unknown_eq_ok

theorem ensures_method (sig : Option SigInfo) (comments : List String) :
    Ensures (u.method p n sig eigen comments) fun d => ∃ name body, d = .member { name, comments, body } := by
  apply Ensures.bind
  intro level _
  dsimp only
  split
  · exact .error _
  · apply Ensures.bind
    intro defs _
    cases sig with
    | none => exact .ok ⟨_, _, rfl⟩
    | some sig =>
      apply Ensures.bind
      intro parameters _
      exact .ok ⟨_, _, rfl⟩

theorem ensures_attributes (sig : Option SigInfo) (comments : List String) :
    Ensures (u.attributes p n sig eigen comments) (AreMembers comments) := by
  unfold attributes
  split
  · exact .error _
  · apply Ensures.mapM
    intro a
    split
    · exact u.ensures_fail p _
    · exact .ok ⟨_, _, rfl⟩

theorem ensures_definition (s : Option NodePath) :
    Ensures (u.definition o p s eigen) fun ds =>
      ∃ comments, u.commentsBefore (s.getD p) = .ok comments ∧ AreMembers comments ds := by
  have hread (d : Node) (sig : Option SigInfo) (comments : List String) :
      Ensures (if d.isCall || d.kind == "identifier" then u.attributes p d sig eigen comments
        else do return [← u.method p d sig eigen comments]) (AreMembers comments) := by
    split
    · exact u.ensures_attributes d p eigen sig comments
    · apply Ensures.bind
      intro m hm
      exact .ok (.one (u.ensures_method d p eigen sig comments m hm))
  apply Ensures.bind
  intro n _
  -- The sig is read in both cases, if only to find that there is none.
  cases s
  all_goals
    apply Ensures.bind
    intro sig _
    apply Ensures.bind
    intro comments hcomments
    split
    · exact .error _
    · exact (hread _ sig comments).mono fun ds hds => ⟨comments, hcomments, hds⟩

theorem ensures_assignment :
    Ensures (u.assignment o n p eigen) fun ds =>
      ds = [] ∨ ∃ comments, u.commentsBefore p = .ok comments ∧ AreMembers comments ds := by
  have hunknown (what : Problem) : Ensures (u.unknown o what p) fun ds =>
      ds = [] ∨ ∃ comments, u.commentsBefore p = .ok comments ∧ AreMembers comments ds :=
    (u.ensures_unknown o p what).mono fun _ => .inl
  unfold assignment
  split
  · split
    · apply Ensures.bind
      intro comments hcomments
      exact .ok (.inr ⟨comments, hcomments, .one ⟨_, _, rfl⟩⟩)
    · exact hunknown _
  · exact hunknown _

theorem ensures_call
    (hdefines : ¬ ((n.isAttributeCall && n.receiver?.isNone) || (n.isVisibilityCall && n.wrapped?.isSome))) :
    Ensures (u.call o n p eigen).result (AreMembers []) := by
  rw [call, if_neg hdefines]
  split
  · apply Ensures.bind
    intro d _
    cases d with
    | none => exact u.ensures_fail p _
    | some d => exact .ok (.nil [])
  · split
    · cases eigen with
      | true => exact .ok (.nil [])
      | false => exact .ok (.one ⟨_, _, rfl⟩)
    · exact .ok (.nil [])

theorem ensures_members (hseq : ¬ n.isSequence) (hscope : ¬ n.isScope) (hself : ¬ n.isOwnSingleton) :
    Ensures (u.readNode o n p eigen).result fun ds => ∃ comments, AreMembers comments ds := by
  by_cases hdef : n.isDefining
  · rw [readNode_of_isDefining u o p eigen hdef]
    apply Ensures.bind
    intro s _
    exact (u.ensures_definition o p eigen s).mono fun ds ⟨comments, _, hds⟩ => ⟨comments, hds⟩
  have hempty (ds : List Decl) (h : ds = []) : ∃ comments, AreMembers comments ds := ⟨[], h ▸ .nil []⟩
  rcases u.readNode_of_other p eigen hseq hscope hself hdef with
    hread | ⟨what, -, hread⟩ | hread | ⟨hdefines, hread⟩
  · rw [hread]
    exact .ok (hempty [] rfl)
  · rw [hread]
    exact (u.ensures_unknown o p what).mono hempty
  · rw [hread]
    refine (u.ensures_assignment o n p eigen).mono ?_
    rintro ds (h | ⟨comments, -, hds⟩)
    · exact hempty ds h
    · exact ⟨comments, hds⟩
  · rw [hread]
    exact (u.ensures_call o n p eigen hdefines).mono fun ds hds => ⟨[], hds⟩

end Readers

end Source
end RubyStubs
