import RubyStubs.Source.Definition

namespace RubyStubs

namespace Node

theorem pick_natCast {cs : List Node} {i depth : Nat} {c : Node} :
    pick cs i depth = .ok c ↔ cs[i]? = some c := by
  have hnonneg : ¬ (i : Int) < 0 := by omega
  rw [pick, if_neg hnonneg, Int.toNat_natCast]
  cases cs[i]? <;> simp

theorem follow_cons_eq_ok_iff {root c : Node} {i : Int} {up : List Int} :
    follow root (i :: up) = .ok c ↔
      ∃ n, follow root up = .ok n ∧ pick n.children i up.length = .ok c := by
  rw [follow]
  cases follow root up <;> simp

theorem bodyParts_getElem? {roles : List String} {k i : Nat} {cs : List Node} {c : Node}
    (h : (i, c) ∈ bodyParts roles k cs) : ∃ j, i = k + j ∧ (cs.filter (·.named))[j]? = some c := by
  induction cs generalizing roles k with
  | nil => cases h
  | cons d ds ih =>
    have hrest {roles' : List String}
        (h : (i, c) ∈ bodyParts roles' (if d.named then k + 1 else k) ds) :
        ∃ j, i = k + j ∧ ((d :: ds).filter (·.named))[j]? = some c := by
      obtain ⟨j, hj, hget⟩ := ih h
      by_cases hnamed : d.named
      · rw [if_pos hnamed] at hj
        refine ⟨j + 1, by omega, ?_⟩
        rw [List.filter_cons_of_pos hnamed, List.getElem?_cons_succ]
        exact hget
      · rw [if_neg hnamed] at hj
        refine ⟨j, hj, ?_⟩
        rw [List.filter_cons_of_neg hnamed]
        exact hget
    rw [bodyParts] at h
    split at h
    · exact hrest h
    · rcases List.mem_append.mp h with hhead | htail
      · by_cases hnamed : d.named
        · rw [if_pos hnamed, List.mem_singleton] at hhead
          cases hhead
          exact ⟨0, rfl, by rw [List.filter_cons_of_pos hnamed, List.getElem?_cons_zero]⟩
        · rw [if_neg hnamed] at hhead
          cases hhead
      · exact hrest htail

theorem number_getElem? {k i : Nat} {cs : List Node} {c : Node} (h : (i, c) ∈ number k cs) :
    ∃ j, i = k + j ∧ cs[j]? = some c := by
  induction cs generalizing k with
  | nil => cases h
  | cons d ds ih =>
    rcases List.mem_cons.mp h with hhead | htail
    · cases hhead
      exact ⟨0, rfl, rfl⟩
    · obtain ⟨j, hj, hget⟩ := ih htail
      exact ⟨j + 1, by omega, hget⟩

theorem mem_statements {n c : Node} {p q : NodePath} (h : (q, c) ∈ n.statements p) :
    (∃ i : Nat, q = p.child i ∧ n.children[i]? = some c) ∨
      ∃ (i j : Nat) (b : Node), q = (p.child i).child j ∧ n.children[i]? = some b ∧ b.isSequence ∧
        b.children[j]? = some c := by
  obtain ⟨⟨i, b⟩, hb, hq⟩ := List.mem_flatMap.mp h
  obtain ⟨i, rfl, hget⟩ := bodyParts_getElem? hb
  rw [Nat.zero_add] at hq
  by_cases hseq : b.isSequence
  · simp only [hseq, ↓reduceIte, List.mem_map] at hq
    obtain ⟨⟨j, d⟩, hd, he⟩ := hq
    obtain ⟨j, rfl, hget'⟩ := number_getElem? hd
    rw [Nat.zero_add] at he
    cases he
    exact .inr ⟨i, j, b, rfl, hget, hseq, hget'⟩
  · simp only [hseq, Bool.false_eq_true, ↓reduceIte, List.mem_singleton] at hq
    cases hq
    exact .inl ⟨i, rfl, hget⟩

theorem kind_ne_of_isSequence {n : Node} (h : n.isSequence) :
    n.kind ≠ "singleton_class" ∧ n.kind ≠ "class" ∧ n.kind ≠ "module" := by
  refine ⟨?_, ?_, ?_⟩ <;> intro hk <;> simp [isSequence, sequenceKinds, hk] at h

end Node

namespace Source

variable {u : Source}

theorem node_eq_ok_iff {p : NodePath} {n : Node} : u.node p = .ok n ↔ u.root.follow p.steps = .ok n := by
  rw [node, Node.locate]
  rcases u.root.follow p.steps with (depth | _) | m
  · exact iff_of_false nofun nofun
  · exact iff_of_false nofun nofun
  · constructor
    · intro h
      cases h
      rfl
    · intro h
      cases h
      rfl

theorem node_child_eq_ok_iff {p : NodePath} {i : Nat} {c : Node} :
    u.node (p.child i) = .ok c ↔ ∃ n, u.node p = .ok n ∧ n.children[i]? = some c := by
  rw [node_eq_ok_iff, NodePath.child, Node.follow_cons_eq_ok_iff]
  simp only [node_eq_ok_iff, Node.pick_natCast]

theorem node_of_mem_statements {n c : Node} {p q : NodePath} (hn : u.node p = .ok n)
    (h : (q, c) ∈ n.statements p) : u.node q = .ok c := by
  rcases Node.mem_statements h with ⟨i, rfl, hc⟩ | ⟨i, j, b, rfl, hb, -, hc⟩
  · exact node_child_eq_ok_iff.mpr ⟨n, hn, hc⟩
  · exact node_child_eq_ok_iff.mpr ⟨b, node_child_eq_ok_iff.mpr ⟨n, hn, hb⟩, hc⟩

theorem withinEigen_child {p : NodePath} {n : Node} (hn : u.node p = .ok n) (i : Int) :
    u.withinEigen (p.child i).steps =
      if n.kind == "singleton_class" then .ok true
      else if n.kind == "class" || n.kind == "module" then .ok false
      else u.withinEigen p.steps := by
  change u.withinEigen (i :: p.steps) = _
  rw [withinEigen, hn]
  rfl

theorem withinEigen_of_mem_statements {n c : Node} {p q : NodePath} (hn : u.node p = .ok n)
    (h : (q, c) ∈ n.statements p) :
    u.withinEigen q.steps =
      if n.kind == "singleton_class" then .ok true
      else if n.kind == "class" || n.kind == "module" then .ok false
      else u.withinEigen p.steps := by
  rcases Node.mem_statements h with ⟨i, rfl, -⟩ | ⟨i, j, b, rfl, hb, hseq, -⟩
  · exact withinEigen_child hn i
  · rw [withinEigen_child (node_child_eq_ok_iff.mpr ⟨n, hn, hb⟩), withinEigen_child hn]
    simp [Node.kind_ne_of_isSequence hseq]

def CommentAt (u : Source) (p : NodePath) (i : Nat) : Prop :=
  ∃ c, u.node (p.child i) = .ok c ∧ c.isComment

def StatementAt (u : Source) (p : NodePath) (i : Nat) : Prop :=
  ∃ c, u.node (p.child i) = .ok c ∧ ¬ c.isComment

def OnlyComments (u : Source) (p : NodePath) (i j : Nat) : Prop :=
  ∀ k, i ≤ k → k < j → u.CommentAt p k

theorem missing_or_comment_or_statement (u : Source) (p : NodePath) (i : Nat) :
    (∃ e, u.node (p.child i) = .error e) ∨ u.CommentAt p i ∨ u.StatementAt p i := by
  cases h : u.node (p.child i) with
  | error e => exact .inl ⟨e, rfl⟩
  | ok c =>
    by_cases hcomment : c.isComment
    · exact .inr (.inl ⟨c, h, hcomment⟩)
    · exact .inr (.inr ⟨c, h, hcomment⟩)

section Scan

variable {p : NodePath} {i : Nat}

theorem previousFrom_succ (u : Source) (p : NodePath) (i : Nat) :
    u.previousFrom p.steps (i + 1) = do
      if (← u.node (p.child i)).isComment then u.previousFrom p.steps i else return some (p.child i) :=
  rfl

theorem nextFrom_succ (u : Source) (p : NodePath) (i left : Nat) :
    u.nextFrom p.steps i (left + 1) = do
      if (← u.node (p.child i)).isComment then u.nextFrom p.steps (i + 1) left
      else return some (p.child i) :=
  rfl

theorem CommentAt.previousFrom (h : u.CommentAt p i) :
    u.previousFrom p.steps (i + 1) = u.previousFrom p.steps i := by
  obtain ⟨c, hc, hcomment⟩ := h
  rw [previousFrom_succ, hc]
  exact if_pos hcomment

theorem StatementAt.previousFrom (h : u.StatementAt p i) :
    u.previousFrom p.steps (i + 1) = .ok (some (p.child i)) := by
  obtain ⟨c, hc, hstatement⟩ := h
  rw [previousFrom_succ, hc]
  exact if_neg hstatement

theorem CommentAt.nextFrom (h : u.CommentAt p i) (left : Nat) :
    u.nextFrom p.steps i (left + 1) = u.nextFrom p.steps (i + 1) left := by
  obtain ⟨c, hc, hcomment⟩ := h
  rw [nextFrom_succ, hc]
  exact if_pos hcomment

theorem StatementAt.nextFrom (h : u.StatementAt p i) (left : Nat) :
    u.nextFrom p.steps i (left + 1) = .ok (some (p.child i)) := by
  obtain ⟨c, hc, hstatement⟩ := h
  rw [nextFrom_succ, hc]
  exact if_neg hstatement

theorem previousFrom_eq_some_iff {q : NodePath} :
    u.previousFrom p.steps i = .ok (some q) ↔
      ∃ j, j < i ∧ q = p.child j ∧ u.StatementAt p j ∧ u.OnlyComments p (j + 1) i := by
  constructor
  · intro h
    induction i with
    | zero => cases h
    | succ i ih =>
      rcases u.missing_or_comment_or_statement p i with ⟨e, he⟩ | hcomment | hstatement
      · rw [previousFrom_succ, he] at h
        cases h
      · rw [hcomment.previousFrom] at h
        obtain ⟨j, hj, hq, hstatement, hbetween⟩ := ih h
        refine ⟨j, by omega, hq, hstatement, fun k hk hki => ?_⟩
        rcases Nat.lt_succ_iff_lt_or_eq.mp hki with hlt | rfl
        · exact hbetween k hk hlt
        · exact hcomment
      · rw [hstatement.previousFrom] at h
        cases h
        exact ⟨i, Nat.lt_succ_self i, rfl, hstatement, fun k hk hki => by omega⟩
  · rintro ⟨j, hj, rfl, hstatement, hbetween⟩
    induction i with
    | zero => cases hj
    | succ i ih =>
      rcases Nat.lt_succ_iff_lt_or_eq.mp hj with hlt | rfl
      · rw [(hbetween i hlt (Nat.lt_succ_self i)).previousFrom]
        exact ih hlt fun k hk hki => hbetween k hk (by omega)
      · exact hstatement.previousFrom

theorem nextFrom_eq_some_iff {q : NodePath} {left : Nat} :
    u.nextFrom p.steps i left = .ok (some q) ↔
      ∃ j, i ≤ j ∧ j < i + left ∧ q = p.child j ∧ u.StatementAt p j ∧ u.OnlyComments p i j := by
  constructor
  · intro h
    induction left generalizing i with
    | zero => cases h
    | succ left ih =>
      rcases u.missing_or_comment_or_statement p i with ⟨e, he⟩ | hcomment | hstatement
      · rw [nextFrom_succ, he] at h
        cases h
      · rw [hcomment.nextFrom] at h
        obtain ⟨j, hj, hjle, hq, hstatement, hbetween⟩ := ih h
        refine ⟨j, by omega, by omega, hq, hstatement, fun k hk hkj => ?_⟩
        rcases Nat.eq_or_lt_of_le hk with rfl | hlt
        · exact hcomment
        · exact hbetween k hlt hkj
      · rw [hstatement.nextFrom] at h
        cases h
        exact ⟨i, Nat.le_refl i, by omega, rfl, hstatement, fun k hk hki => by omega⟩
  · rintro ⟨j, hj, hjle, rfl, hstatement, hbetween⟩
    induction left generalizing i with
    | zero => omega
    | succ left ih =>
      rcases Nat.eq_or_lt_of_le hj with rfl | hlt
      · exact hstatement.nextFrom left
      · rw [(hbetween i (Nat.le_refl i) hlt).nextFrom]
        exact ih hlt (by omega) fun k hk hkj => hbetween k (by omega) hkj

end Scan

structure Adjacent (u : Source) (p : NodePath) (i j : Nat) : Prop where
  lt : i < j
  first : u.StatementAt p i
  second : u.StatementAt p j
  between : u.OnlyComments p (i + 1) j

theorem previous?_eq_some_iff {p q : NodePath} {j : Nat} (hj : u.StatementAt p j) :
    u.previous? (p.child j) = .ok (some q) ↔ ∃ i : Nat, q = p.child i ∧ u.Adjacent p i j := by
  have hprevious : u.previous? (p.child j) = u.previousFrom p.steps j := rfl
  rw [hprevious, previousFrom_eq_some_iff]
  constructor
  · rintro ⟨i, hlt, hq, hi, hbetween⟩
    exact ⟨i, hq, hlt, hi, hj, hbetween⟩
  · rintro ⟨i, hq, h⟩
    exact ⟨i, h.lt, hq, h.first, h.between⟩

theorem StatementAt.lt_length {p : NodePath} {n : Node} {i : Nat} (h : u.StatementAt p i)
    (hn : u.node p = .ok n) : i < n.children.length := by
  obtain ⟨c, hc, -⟩ := h
  obtain ⟨m, hm, hget⟩ := node_child_eq_ok_iff.mp hc
  rw [hn] at hm
  cases hm
  exact (List.getElem?_eq_some_iff.mp hget).1

theorem next?_child {p : NodePath} {n : Node} (hn : u.node p = .ok n) (i : Nat) :
    u.next? (p.child i) = u.nextFrom p.steps (i + 1) (n.children.length - (i + 1)) := by
  have hnonneg : ¬ (i : Int) + 1 < 0 := by omega
  have htoNat : ((i : Int) + 1).toNat = i + 1 := by omega
  rw [next?, NodePath.child]
  simp only [hn, hnonneg, htoNat, ↓reduceIte]
  rfl

theorem next?_eq_some_iff {p q : NodePath} {i : Nat} (hi : u.StatementAt p i) :
    u.next? (p.child i) = .ok (some q) ↔ ∃ j : Nat, q = p.child j ∧ u.Adjacent p i j := by
  obtain ⟨c, hc, -⟩ := id hi
  obtain ⟨n, hn, -⟩ := node_child_eq_ok_iff.mp hc
  rw [next?_child hn, nextFrom_eq_some_iff]
  constructor
  · rintro ⟨j, hij, hjle, hq, hj, hbetween⟩
    exact ⟨j, hq, hij, hi, hj, hbetween⟩
  · rintro ⟨j, hq, h⟩
    have hj := h.second.lt_length hn
    have hlt := h.lt
    exact ⟨j, hlt, by omega, hq, h.second, h.between⟩

end Source
end RubyStubs
