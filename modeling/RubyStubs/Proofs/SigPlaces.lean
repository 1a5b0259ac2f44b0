import RubyStubs.Proofs.Documentation

namespace RubyStubs

namespace NodePath

def below (p : NodePath) (is : List Nat) : NodePath := ⟨(is.map Int.ofNat).reverse ++ p.steps⟩

theorem below_nil (p : NodePath) : p.below [] = p := rfl

theorem below_cons (p : NodePath) (i : Nat) (is : List Nat) : p.below (i :: is) = (p.child i).below is := by
  simp [below, child]

theorem indices_below (p : NodePath) (is : List Nat) : (p.below is).indices = p.indices ++ is.map Int.ofNat := by
  simp [below, indices]

theorem eq_root_below_iff {p : NodePath} {is : List Nat} : p = root.below is ↔ p.indices = is.map Int.ofNat := by
  obtain ⟨steps⟩ := p
  simp [below, root, indices, List.reverse_eq_iff]

theorem indices_lt_below (p : NodePath) {is : List Nat} (his : is ≠ []) : p.indices < (p.below is).indices := by
  obtain ⟨i, is, rfl⟩ := List.exists_cons_of_ne_nil his
  rw [indices_below, List.map_cons]
  conv_lhs => rw [← List.append_nil p.indices]
  exact List.append_left_lt (List.nil_lt_cons _ _)

theorem indices_below_lt {p : NodePath} {i j : Nat} (hij : i < j) (is js : List Nat) :
    (p.below (i :: is)).indices < (p.below (j :: js)).indices := by
  rw [indices_below, indices_below, List.map_cons, List.map_cons]
  apply List.append_left_lt
  exact .rel (Int.ofNat_lt.mpr hij)

end NodePath

namespace Node

def descend (n : Node) : List Nat → Option Node
  | [] => some n
  | i :: is => n.children[i]?.bind fun c => c.descend is

theorem descend_cons_eq_some_iff {n d : Node} {i : Nat} {is : List Nat} :
    n.descend (i :: is) = some d ↔ ∃ c, n.children[i]? = some c ∧ c.descend is = some d := by
  rw [descend, Option.bind_eq_some_iff]

end Node

namespace Source

variable {u : Source}

theorem node_below_eq_ok_iff {p : NodePath} {d : Node} {is : List Nat} :
    u.node (p.below is) = .ok d ↔ ∃ n, u.node p = .ok n ∧ n.descend is = some d := by
  induction is generalizing p with
  | nil => simp [NodePath.below_nil, Node.descend]
  | cons i is ih =>
    rw [NodePath.below_cons, ih]
    simp only [node_child_eq_ok_iff, Node.descend_cons_eq_some_iff]
    constructor
    · rintro ⟨c, ⟨n, hn, hc⟩, hd⟩
      exact ⟨n, hn, c, hc, hd⟩
    · rintro ⟨n, hn, c, hc, hd⟩
      exact ⟨c, ⟨n, hn, hc⟩, hd⟩

theorem sigsIn_eq (p : NodePath) (i : Nat) (cs : List Node) :
    sigsIn p i cs = (Node.number i (cs.filter (·.named))).flatMap fun s =>
      (if s.2.isSig then [p.child s.1] else []) ++ sigsBelow (p.child s.1) s.2 := by
  induction cs generalizing i with
  | nil => rfl
  | cons c cs ih =>
    rw [sigsIn]
    by_cases hnamed : c.named
    · rw [if_pos hnamed, ih, List.filter_cons_of_pos hnamed, Node.number, List.flatMap_cons]
    · rw [if_neg hnamed, ih, List.filter_cons_of_neg hnamed]

theorem sigsBelow_eq (p : NodePath) (n : Node) :
    sigsBelow p n = (Node.number 0 n.children).flatMap fun s =>
      (if s.2.isSig then [p.child s.1] else []) ++ sigsBelow (p.child s.1) s.2 := by
  obtain ⟨kind, text, line, field, named, missing, broken, parts⟩ := n
  rw [sigsBelow, sigsIn_eq]
  rfl

theorem mem_number_zero_iff {i : Nat} {n c : Node} : (i, c) ∈ Node.number 0 n.children ↔ n.children[i]? = some c := by
  simp [Node.mem_number_iff]

theorem mem_sigsBelow_iff {p q : NodePath} {n : Node} :
    q ∈ sigsBelow p n ↔ ∃ is d, is ≠ [] ∧ q = p.below is ∧ n.descend is = some d ∧ d.isSig := by
  rw [sigsBelow_eq, List.mem_flatMap]
  constructor
  · rintro ⟨⟨i, c⟩, hc, hq⟩
    have hget := mem_number_zero_iff.mp hc
    have hlt := Node.sizeOf_lt_of_mem_children (List.mem_of_getElem? hget)
    rcases List.mem_append.mp hq with hself | hbelow
    · split_ifs at hself with hsig
      · refine ⟨[i], c, nofun, List.mem_singleton.mp hself, ?_, hsig⟩
        exact Node.descend_cons_eq_some_iff.mpr ⟨c, hget, rfl⟩
      · cases hself
    · obtain ⟨is, d, -, rfl, hd, hsig⟩ := mem_sigsBelow_iff.mp hbelow
      refine ⟨i :: is, d, nofun, (p.below_cons i is).symm, ?_, hsig⟩
      exact Node.descend_cons_eq_some_iff.mpr ⟨c, hget, hd⟩
  · rintro ⟨_ | ⟨i, is⟩, d, hne, rfl, hd, hsig⟩
    · exact absurd rfl hne
    · obtain ⟨c, hget, hd⟩ := Node.descend_cons_eq_some_iff.mp hd
      have hlt := Node.sizeOf_lt_of_mem_children (List.mem_of_getElem? hget)
      refine ⟨(i, c), mem_number_zero_iff.mpr hget, List.mem_append.mpr ?_⟩
      rw [NodePath.below_cons]
      cases is with
      | nil =>
        cases hd
        left
        rw [if_pos hsig]
        exact List.mem_singleton_self _
      | cons j js => exact .inr (mem_sigsBelow_iff.mpr ⟨j :: js, d, nofun, rfl, hd, hsig⟩)
termination_by sizeOf n

theorem pairwise_sigsBelow (p : NodePath) (n : Node) :
    (sigsBelow p n).Pairwise fun q r => q.indices < r.indices := by
  -- All that is listed at a child is the child or inside it.
  have hinside {q : NodePath} {i : Nat} {c : Node} (h : q ∈ (if c.isSig then [p.child i] else []) ++ sigsBelow (p.child i) c) :
      ∃ is, q = p.below (i :: is) := by
    rcases List.mem_append.mp h with hself | hbelow
    · split_ifs at hself
      · exact ⟨[], List.mem_singleton.mp hself⟩
      · cases hself
    · obtain ⟨is, -, -, rfl, -⟩ := mem_sigsBelow_iff.mp hbelow
      exact ⟨is, (p.below_cons i is).symm⟩
  rw [sigsBelow_eq, List.pairwise_flatMap]
  constructor
  · rintro ⟨i, c⟩ hc
    have hlt := Node.sizeOf_lt_of_mem_children (List.mem_of_getElem? (mem_number_zero_iff.mp hc))
    refine List.pairwise_append.mpr ⟨?_, pairwise_sigsBelow (p.child i) c, ?_⟩
    · split_ifs
      · exact List.pairwise_singleton _ _
      · exact .nil
    · intro q hq r hr
      obtain ⟨is, -, hne, rfl, -⟩ := mem_sigsBelow_iff.mp hr
      split_ifs at hq
      · rw [List.mem_singleton.mp hq]
        exact NodePath.indices_lt_below _ hne
      · cases hq
  · apply (Node.pairwise_number 0 n.children).imp
    intro s t hst q hq r hr
    obtain ⟨is, rfl⟩ := hinside hq
    obtain ⟨js, rfl⟩ := hinside hr
    exact NodePath.indices_below_lt hst is js
termination_by sizeOf n

/-- The places of sigs are those of the nodes below the root that are sigs. Each is listed once, those of smaller indices
first and a place before what is inside it, and leads to its sig. -/
theorem sigs_exact_in_order (u : Source) :
    (∀ p, p ∈ u.sigs ↔
        ∃ (is : List Nat) (d : Node), is ≠ [] ∧ p.indices = is.map Int.ofNat ∧ u.root.descend is = some d ∧ d.isSig) ∧
      u.sigs.Nodup ∧ u.sigs.Pairwise (fun p q => p.indices < q.indices) ∧
      ∀ p ∈ u.sigs, ∃ (is : List Nat) (d : Node),
        p.indices = is.map Int.ofNat ∧ u.root.descend is = some d ∧ d.isSig ∧ u.node p = .ok d := by
  have hmem (p : NodePath) : p ∈ u.sigs ↔
      ∃ (is : List Nat) (d : Node), is ≠ [] ∧ p.indices = is.map Int.ofNat ∧ u.root.descend is = some d ∧ d.isSig := by
    rw [sigs, mem_sigsBelow_iff]
    simp only [NodePath.eq_root_below_iff]
  have hsorted : u.sigs.Pairwise fun p q => p.indices < q.indices := pairwise_sigsBelow .root u.root
  refine ⟨hmem, ?_, hsorted, fun p hp => ?_⟩
  · apply hsorted.imp
    rintro p q hlt rfl
    exact List.lt_irrefl _ hlt
  · obtain ⟨is, d, -, his, hd, hsig⟩ := (hmem p).mp hp
    refine ⟨is, d, his, hd, hsig, ?_⟩
    rw [NodePath.eq_root_below_iff.mpr his]
    exact node_below_eq_ok_iff.mpr ⟨u.root, rfl, hd⟩

example :
    let sig (body : List Node) : Node := .made "call" "sig { ... }"
      [(Node.made "identifier" "sig" []).playing "method", (Node.made "block" "{ ... }" body).playing "block"]
    let call : Node := .made "call" "f(sig { ... })"
      [(Node.made "identifier" "f" []).playing "method", (Node.made "argument_list" "" [sig []]).playing "arguments"]
    let u : Source := { root := .made "program" "" [sig [sig []], call], file := "a.rb" }
    u.sigs.map NodePath.indices = [[0], [0, 1, 0], [1, 1, 0]] := by decide +kernel

end Source
end RubyStubs
