import RubyStubs.Proofs.Safety
import RubyStubs.Proofs.StatementReading

namespace RubyStubs

namespace Node

def run (b : Node) : List (Nat × Node) := (number 0 b.children).filter (!·.2.isComment)

theorem mem_number_iff {k i : Nat} {cs : List Node} {c : Node} :
    (i, c) ∈ number k cs ↔ ∃ j, i = k + j ∧ cs[j]? = some c := by
  refine ⟨number_getElem?, ?_⟩
  rintro ⟨j, rfl, hget⟩
  induction cs generalizing k j with
  | nil => simp at hget
  | cons d ds ih =>
    cases j with
    | zero =>
      cases hget
      exact List.mem_cons_self
    | succ j =>
      have hmem := ih (k := k + 1) j (by simpa using hget)
      rw [Nat.add_assoc, Nat.add_comm 1 j] at hmem
      exact List.mem_cons_of_mem _ hmem

theorem pairwise_number (k : Nat) (cs : List Node) : (number k cs).Pairwise (·.1 < ·.1) := by
  induction cs generalizing k with
  | nil => exact .nil
  | cons c cs ih =>
    refine .cons ?_ (ih (k + 1))
    rintro ⟨i, d⟩ hd
    obtain ⟨j, rfl, -⟩ := mem_number_iff.mp hd
    simp only
    omega

theorem map_number (k : Nat) (cs : List Node) : (number k cs).map (·.2) = cs := by
  induction cs generalizing k with
  | nil => rfl
  | cons c cs ih => rw [number, List.map_cons, ih]

theorem map_filter_number (k : Nat) (cs : List Node) (p : Node → Bool) :
    ((number k cs).filter fun s => p s.2).map (·.2) = cs.filter p := by
  have hmap := List.filter_map (p := p) (f := fun s : Nat × Node => s.2) (l := number k cs)
  rw [map_number] at hmap
  exact hmap.symm

theorem map_run (b : Node) : b.run.map (·.2) = b.children.filter (!·.isComment) :=
  map_filter_number 0 b.children (!·.isComment)

theorem bodyParts_eq_filter {roles : List String} (hnodup : roles.Nodup) {k : Nat} {cs : List Node}
    (h : ∀ role ∈ roles, (cs.filter (·.field == some role)).length ≤ 1) :
    bodyParts roles k cs = (number k (cs.filter (·.named))).filter fun s => !s.2.field.any roles.contains := by
  induction cs generalizing roles k with
  | nil => rfl
  | cons c cs ih =>
    have hnumber : number k ((c :: cs).filter (·.named)) =
        (if c.named then [(k, c)] else []) ++ number (if c.named then k + 1 else k) (cs.filter (·.named)) := by
      cases hnamed : c.named <;> simp [hnamed, number]
    have hrest : ∀ role ∈ roles, (cs.filter (·.field == some role)).length ≤ 1 := by
      intro role hrole
      refine Nat.le_trans ?_ (h role hrole)
      exact (List.Sublist.filter _ (List.sublist_cons_self c cs)).length_le
    rw [bodyParts, hnumber, List.filter_append]
    cases hheader : c.field.any roles.contains with
    | false =>
      rw [if_neg Bool.false_ne_true, ih hnodup hrest]
      cases c.named <;> simp [hheader]
    | true =>
      obtain ⟨role, hfield, hrole⟩ : ∃ role, c.field = some role ∧ role ∈ roles := by
        simpa [Option.any_eq_true] using hheader
      -- The role is played here, so by nothing after.
      have hlast : ∀ d ∈ cs, d.field ≠ some role := by
        intro d hd hd'
        have hone := h role hrole
        rw [List.filter_cons_of_pos (by simp [hfield])] at hone
        have hmem : d ∈ cs.filter (·.field == some role) := List.mem_filter.mpr ⟨hd, by simp [hd']⟩
        have hpos := List.length_pos_of_mem hmem
        simp only [List.length_cons] at hone
        omega
      have hsame : ∀ s ∈ number (if c.named then k + 1 else k) (cs.filter (·.named)),
          (!s.2.field.any (roles.erase role).contains) = !s.2.field.any roles.contains := by
        rintro ⟨i, d⟩ hd
        have hd : d ∈ cs := (List.mem_filter.mp (mem_of_mem_number hd)).1
        cases hf : d.field with
        | none => rfl
        | some r =>
          have hne : r ≠ role := fun heq => hlast d hd (heq ▸ hf)
          simp [List.mem_erase_of_ne hne]
      rw [if_pos rfl, hfield, Option.elim_some,
        ih (hnodup.erase role) fun r hr => hrest r (List.mem_of_mem_erase hr), List.filter_congr hsame]
      cases c.named <;> simp [hheader]

theorem headerRoles_nodup (n : Node) : n.headerRoles.Nodup := by
  unfold headerRoles
  split_ifs <;> decide

end Node

def places (q : NodePath) (l : List (Nat × Node)) : List (NodePath × Node) := l.map fun s => (q.child s.1, s.2)

theorem map_places (q : NodePath) (l : List (Nat × Node)) : (places q l).map (·.2) = l.map (·.2) := by
  rw [places, List.map_map]
  rfl

theorem places_append (q : NodePath) (l l' : List (Nat × Node)) : places q (l ++ l') = places q l ++ places q l' :=
  List.map_append

namespace Source

variable {u : Source} {p q : NodePath} {n : Node}

def IsRun (u : Source) (q : NodePath) (l : List (Nat × Node)) : Prop := l = [] ∨ ∃ b, u.At q b ∧ b.run = l

theorem IsRun.at {before after : List (Nat × Node)} {i : Nat} {c : Node}
    (h : u.IsRun q (before ++ (i, c) :: after)) : u.At (q.child i) c := by
  rcases h with hnil | ⟨b, hb, hrun⟩
  · simp at hnil
  · have hmem : (i, c) ∈ b.run := by simp [hrun]
    obtain ⟨j, hj, hget⟩ := Node.mem_number_iff.mp (List.mem_filter.mp hmem).1
    rw [Nat.zero_add] at hj
    subst hj
    exact hb.child hget

theorem IsRun.adjacent {before after : List (Nat × Node)} {i j : Nat} {c d : Node}
    (h : u.IsRun q (before ++ (i, c) :: (j, d) :: after)) : u.Adjacent q i j := by
  rcases h with hnil | ⟨b, hb, hrun⟩
  · simp at hnil
  have hstatement {k : Nat} {e : Node} (hmem : (k, e) ∈ b.run) : u.StatementAt q k := by
    obtain ⟨hnumber, hcomment⟩ := List.mem_filter.mp hmem
    obtain ⟨k', hk', hget⟩ := Node.mem_number_iff.mp hnumber
    rw [Nat.zero_add] at hk'
    subst hk'
    exact ⟨e, (hb.child hget).node, by simpa using hcomment⟩
  have hsorted : (before ++ (i, c) :: (j, d) :: after).Pairwise (·.1 < ·.1) :=
    hrun ▸ (Node.pairwise_number 0 b.children).filter _
  rw [List.pairwise_append, List.pairwise_cons, List.pairwise_cons] at hsorted
  obtain ⟨-, ⟨hfirst, hsecond, -⟩, hbefore⟩ := hsorted
  have hlt : i < j := hfirst (j, d) List.mem_cons_self
  have hi : u.StatementAt q i := hstatement (e := c) (by simp [hrun])
  have hj : u.StatementAt q j := hstatement (e := d) (by simp [hrun])
  refine ⟨hlt, hi, hj, fun k hik hkj => ?_⟩
  have hlength : k < b.children.length := Nat.lt_trans hkj (hj.lt_length hb.node)
  obtain ⟨e, he⟩ : ∃ e, b.children[k]? = some e := ⟨_, List.getElem?_eq_getElem hlength⟩
  refine ⟨e, (hb.child he).node, ?_⟩
  -- A statement in between would be in the run, and the run has no index in between.
  by_contra hcomment
  have hmem : (k, e) ∈ before ++ (i, c) :: (j, d) :: after := by
    rw [← hrun]
    exact List.mem_filter.mpr ⟨Node.mem_number_iff.mpr ⟨k, by omega, he⟩, by simpa using hcomment⟩
  simp only [List.mem_append, List.mem_cons] at hmem
  rcases hmem with hmem | hmem | hmem | hmem
  · have := hbefore (k, e) hmem (i, c) List.mem_cons_self
    simp only at this
    omega
  · cases hmem
    omega
  · cases hmem
    omega
  · have := hsecond (k, e) hmem
    simp only at this
    omega

end Source

namespace Node

variable {u : Source} {p : NodePath} {n : Node} {ns : List Node}

theorem HoldsBody.statements_eq (h : n.HoldsBody ns) (p : NodePath) :
    n.statements p = ((number 0 n.children).filter fun s => !s.2.field.any n.headerRoles.contains).flatMap fun s =>
      if s.2.isSequence then places (p.child s.1) (number 0 s.2.children) else [(p.child s.1, s.2)] := by
  rw [statements, bodyParts_eq_filter n.headerRoles_nodup h.header]
  rfl

theorem isComment_not_isSequence {c : Node} (h : c.isComment) : c.isSequence = false := by
  have hkind : c.kind = "comment" := by simpa [isComment] using h
  simp [isSequence, sequenceKinds, hkind]

theorem HoldsBody.statements_filter (h : n.HoldsBody ns) (hp : u.At p n) :
    ∃ q l, (n.statements p).filter (!·.2.isComment) = places q l ∧ u.IsRun q l ∧ l.map (·.2) = ns := by
  have hfilter : (n.statements p).filter (!·.2.isComment) =
      ((number 0 n.children).filter fun s => n.isInner s.2).flatMap fun s =>
        (if s.2.isSequence then places (p.child s.1) (number 0 s.2.children) else [(p.child s.1, s.2)]).filter
          (!·.2.isComment) := by
    have hinner : ((number 0 n.children).filter fun s => n.isInner s.2) =
        ((number 0 n.children).filter fun s => !s.2.field.any n.headerRoles.contains).filter (!·.2.isComment) := by
      rw [List.filter_filter]
      refine List.filter_congr fun s _ => ?_
      rw [isInner, Bool.and_comm]
    rw [h.statements_eq, List.filter_flatMap, hinner]
    refine (flatMap_filter (fun s hs => ?_) _).symm
    have hcomment : s.2.isComment := by simpa using hs
    simp [isComment_not_isSequence hcomment, hcomment]
  have hsecond := map_filter_number 0 n.children n.isInner
  rcases h.inner with ⟨hnone, rfl⟩ | ⟨b, hone, hseq, -, rfl⟩
  · rw [hnone, List.map_eq_nil_iff] at hsecond
    rw [hfilter, hsecond]
    exact ⟨p, [], rfl, .inl rfl, rfl⟩
  · rw [hone, List.map_eq_singleton_iff] at hsecond
    obtain ⟨⟨k, c⟩, hkb, hcb⟩ := hsecond
    have hcb : c = b := hcb
    subst hcb
    have hmem : (k, c) ∈ number 0 n.children := by
      have hmem : (k, c) ∈ (number 0 n.children).filter fun s => n.isInner s.2 := hkb ▸ List.mem_cons_self
      exact (List.mem_filter.mp hmem).1
    obtain ⟨k', hk', hget⟩ := mem_number_iff.mp hmem
    rw [Nat.zero_add] at hk'
    subst hk'
    refine ⟨p.child k, c.run, ?_, .inr ⟨c, hp.child hget, rfl⟩, map_run c⟩
    rw [hfilter, hkb, List.flatMap_singleton, if_pos hseq, places, List.filter_map]
    rfl

theorem statements_of_no_field (hfield : ∀ c ∈ n.parts, c.field = none)
    (hseq : ∀ c ∈ n.children, c.isSequence = false) (p : NodePath) :
    n.statements p = places p (number 0 n.children) := by
  have hparts : bodyParts n.headerRoles 0 n.parts = number 0 n.children := by
    have hroles : ∀ role ∈ n.headerRoles, (n.parts.filter (·.field == some role)).length ≤ 1 := by
      intro role _
      rw [List.filter_eq_nil_iff.mpr fun c hc => by simp [hfield c hc]]
      exact Nat.zero_le 1
    rw [bodyParts_eq_filter n.headerRoles_nodup hroles, ← children, List.filter_eq_self]
    intro s hs
    rw [hfield s.2 (mem_parts_of_mem_children (mem_of_mem_number hs))]
    rfl
  rw [statements, hparts, places, ← List.flatMap_pure_eq_map]
  refine List.flatMap_congr fun s hs => ?_
  have hs : ¬ s.2.isSequence := by simp [hseq s.2 (mem_of_mem_number hs)]
  exact if_neg hs

theorem HoldsBody.comment_startsWith (h : n.HoldsBody ns) {s : NodePath × Node} (hs : s ∈ n.statements p)
    (hcomment : s.2.isComment) : Text.startsWith s.2.text "#" := by
  rw [h.statements_eq, List.mem_flatMap] at hs
  obtain ⟨⟨i, c⟩, hc, hs⟩ := hs
  obtain ⟨hmem, hheader⟩ := List.mem_filter.mp hc
  have hchild : c ∈ n.children := mem_of_mem_number hmem
  by_cases hseq : c.isSequence
  · rw [if_pos hseq] at hs
    obtain ⟨⟨j, d⟩, hd, rfl⟩ := List.mem_map.mp hs
    have hinner : c ∈ n.children.filter n.isInner := by
      refine List.mem_filter.mpr ⟨hchild, ?_⟩
      have hnot : c.isComment = false := by
        by_contra hc
        rw [isComment_not_isSequence (by simpa using hc)] at hseq
        cases hseq
      simp only [isInner, hnot]
      simpa using hheader
    rcases h.inner with ⟨hnone, -⟩ | ⟨b, hone, -, hcomments, -⟩
    · rw [hnone] at hinner
      cases hinner
    · rw [hone, List.mem_singleton] at hinner
      subst hinner
      exact hcomments d (mem_of_mem_number hd) hcomment
  · rw [if_neg hseq, List.mem_singleton] at hs
    subst hs
    exact h.comments c hchild hcomment

end Node

end RubyStubs
