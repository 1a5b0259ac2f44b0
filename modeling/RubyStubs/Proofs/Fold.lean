import RubyStubs.Proofs.Survivor

namespace RubyStubs

namespace Scope

theorem joins_iff {ss : List Scope} (h : 2 ≤ ss.length) (s : Scope) :
    Joins ss s ↔ Compatible ss ∧ ∃ b, base? ss = some b ∧ s = b.union ss := by
  constructor
  · intro hj
    cases hj with
    | one s => simp at h
    | many _ hss hb => exact ⟨hss, _, hb, rfl⟩
  · rintro ⟨hss, b, hb, rfl⟩
    exact .many h hss hb

theorem compatible_iff_filter {ss : List Scope} {v : Variant}
    (h : ∀ s ∈ ss, s.kind.variant = v ∨ s.kind.variant = .plain) :
    Compatible ss ↔ ∀ k ∈ (ss.filter (·.kind.variant == v)).map (·.kind),
      ∀ l ∈ (ss.filter (·.kind.variant == v)).map (·.kind), k.Compatible l := by
  simp only [List.forall_mem_map, List.mem_filter, beq_iff_eq]
  constructor
  · intro hss s hs t ht
    exact hss s hs.1 t ht.1
  · intro hv s hs t ht
    rcases h s hs with hsv | hsp
    · rcases h t ht with htv | htp
      · exact hv s ⟨hs, hsv⟩ t ⟨ht, htv⟩
      · exact (ScopeKind.compatible_of_plain _ htp).symm
    · exact ScopeKind.compatible_of_plain _ hsp

end Scope

namespace Decl

theorem survives_ofScopes_iff (ps : List (Scope × List Decl)) (e : Decl) :
    Survives (ofScopes ps) e ↔ ∃ s, Scope.Joins (ps.map (·.1)) s ∧ e = .scope s (ps.flatMap (·.2)) := by
  constructor
  · intro h
    generalize hds : ofScopes ps = ds at h
    cases h with
    | member m ns h =>
      have hm := isScope_of_mem_ofScopes ps (.member m) (by simp [hds])
      cases hm
    | scope qs s h =>
      cases ofScopes_injective hds
      exact ⟨s, h, rfl⟩
  · rintro ⟨s, h, rfl⟩
    exact .scope ps s h

theorem survives_member_iff (m : Member) (ds : List Decl) (e : Decl) :
    Survives (.member m :: ds) e ↔
      e = .member m ∧ ∀ d ∈ ds, ∃ n, d = .member n ∧ m.agrees n = true := by
  constructor
  · intro h
    generalize hds : Decl.member m :: ds = es at h
    cases h with
    | member m' ns h =>
      cases hds
      rw [List.forall_mem_map]
      exact ⟨rfl, fun n hn => ⟨n, rfl, h n hn⟩⟩
    | scope ps s h =>
      have hm := isScope_of_mem_ofScopes ps (.member m) (by simp [← hds])
      cases hm
  · rintro ⟨rfl, h⟩
    obtain ⟨ns, rfl⟩ := exists_members fun d hd => (h d hd).imp fun _ => And.left
    refine .member m ns fun n hn => ?_
    obtain ⟨n', hn', ha⟩ := h (.member n) (List.mem_map_of_mem hn)
    cases hn'
    exact ha

theorem commonVariant?_ofScopes (ps : List (Scope × List Decl)) (v : Variant) :
    commonVariant? (ofScopes ps) = some v ↔
      (∃ s ∈ ps.map (·.1), s.kind.variant = v) ∧
        ∀ s ∈ ps.map (·.1), s.kind.variant = v ∨ s.kind.variant = .plain := by
  have hex : (∃ d ∈ ofScopes ps, d.variant = v) ↔ ∃ s ∈ ps.map (·.1), s.kind.variant = v := by
    simp [ofScopes, variant]
  have hall : (∀ d ∈ ofScopes ps, d.variant = v ∨ d.variant = .plain) ↔
      ∀ s ∈ ps.map (·.1), s.kind.variant = v ∨ s.kind.variant = .plain := by
    simp only [ofScopes, List.forall_mem_map]
    exact Iff.rfl
  rw [commonVariant?_eq_some_iff, hex, ← hall]
  apply and_congr_right'
  constructor
  · rintro (h | ⟨-, h⟩)
    · exact fun d hd => .inl (h d hd)
    · exact h
  · intro h
    exact .inr ⟨isScope_of_mem_ofScopes ps, h⟩

theorem exists_base_of_commonVariant? {ps : List (Scope × List Decl)} {v : Variant}
    (h : commonVariant? (ofScopes ps) = some v) :
    ∃ b cs qs, ps.filter (·.1.kind.variant == v) = (b, cs) :: qs ∧
      Scope.base? (ps.map (·.1)) = some b ∧ (∀ l ∈ qs.map (·.1.kind), l.variant = b.kind.variant) ∧
        (Scope.Compatible (ps.map (·.1)) ↔ ∀ k ∈ b.kind :: qs.map (·.1.kind),
          ∀ l ∈ b.kind :: qs.map (·.1.kind), k.Compatible l) := by
  obtain ⟨hex, hall⟩ := (commonVariant?_ofScopes ps v).mp h
  have hmem : ∀ q ∈ ps.filter (·.1.kind.variant == v), q.1.kind.variant = v := by
    intro q hq
    simpa using (List.mem_filter.mp hq).2
  have hfilter : (ps.map (·.1)).filter (·.kind.variant == v) =
      (ps.filter (·.1.kind.variant == v)).map (·.1) := by
    rw [List.filter_map]
    rfl
  rw [← Scope.find?_variant_eq_base? hex hall, ← List.head?_filter, Scope.compatible_iff_filter hall,
    hfilter, List.map_map]
  cases hq : ps.filter (·.1.kind.variant == v) with
  | nil =>
    obtain ⟨s, hs, hsv⟩ := hex
    obtain ⟨p, hp, rfl⟩ := List.mem_map.mp hs
    have hpq : p ∈ ps.filter (·.1.kind.variant == v) := List.mem_filter.mpr ⟨hp, by simpa using hsv⟩
    rw [hq] at hpq
    cases hpq
  | cons q qs =>
    rw [hq] at hmem
    obtain ⟨hbv, hqs⟩ := List.forall_mem_cons.mp hmem
    refine ⟨q.1, q.2, qs, rfl, rfl, ?_, Iff.rfl⟩
    rw [List.forall_mem_map]
    exact fun q hq => (hqs q hq).trans hbv.symm

theorem fold_ofScopes {d : Decl} {others : List Decl} {ps : List (Scope × List Decl)}
    (h : d :: others = ofScopes ps) (e : Decl) :
    d.fold others = .ok e ↔ Scope.Compatible (ps.map (·.1)) ∧
      ∃ b, Scope.base? (ps.map (·.1)) = some b ∧
        e = .scope (b.union (ps.map (·.1))) (ps.flatMap (·.2)) := by
  rw [fold, h]
  cases hc : commonVariant? (ofScopes ps) with
  | none =>
    constructor
    · intro h
      cases h
    · rintro ⟨hss, b, hb, -⟩
      have habsorbs := Scope.base?_absorbs hss hb
      rw [ScopeKind.Absorbs, List.forall_mem_map] at habsorbs
      have hsome := (commonVariant?_ofScopes ps b.kind.variant).mpr
        ⟨⟨b, (Scope.base?_eq_some hb).1, rfl⟩, habsorbs⟩
      rw [hc] at hsome
      cases hsome
  | some v =>
    obtain ⟨b, cs, qs, hq, hb, hvs, hcompatible⟩ := exists_base_of_commonVariant? hc
    dsimp only
    rw [filter_ofScopes, hq]
    change (if (Decl.scope b cs).mergeable (ofScopes qs) = true then
      .ok (merged b (ofScopes ps)) else .error Conflict.cannotResolve) = Except.ok e ↔ _
    rw [mergeable_ofScopes, merged_ofScopes, hcompatible, ← ScopeKind.mergeable_iff hvs, hb]
    by_cases hm : b.kind.mergeable (qs.map (·.1.kind)) = true
    · simp [hm, eq_comm]
    · simp [hm]

theorem variant_scope_ne_member (s : Scope) (cs : List Decl) (m : Member) :
    (Decl.scope s cs).variant ≠ (Decl.member m).variant := by
  obtain ⟨name, kind, _⟩ := s
  obtain ⟨_, body, _⟩ := m
  cases kind <;> cases body <;> simp [variant, ScopeKind.variant, MemberBody.variant]
  all_goals split <;> simp

theorem commonVariant?_of_member {ds : List Decl} {m : Member} (hm : .member m ∈ ds) (v : Variant) :
    commonVariant? ds = some v ↔ v = m.body.variant ∧ ∀ d ∈ ds, d.variant = v := by
  rw [commonVariant?_eq_some_iff]
  constructor
  · rintro ⟨-, hv | ⟨hs, -⟩⟩
    · exact ⟨(hv _ hm).symm, hv⟩
    · cases hs _ hm
  · rintro ⟨rfl, hv⟩
    exact ⟨⟨_, hm, rfl⟩, .inl hv⟩

theorem mergeable_member_iff (m : Member) {others : List Decl} (hne : others ≠ []) :
    (Decl.member m).mergeable others = true ↔
      ∀ d ∈ others, ∃ n, d = .member n ∧ m.agrees n = true := by
  simp only [mergeable, Bool.and_eq_true, List.all_eq_true, bne_iff_ne]
  constructor
  · rintro ⟨-, h⟩ d hd
    have hd := h d hd
    cases d with
    | scope s cs => cases hd
    | member n => exact ⟨n, rfl, hd⟩
  · intro h
    constructor
    · obtain ⟨d, ds, rfl⟩ := List.exists_cons_of_ne_nil hne
      obtain ⟨n, -, ha⟩ := h d (by simp)
      exact ((m.agrees_iff n).mp ha).2
    · intro d hd
      obtain ⟨n, rfl, ha⟩ := h d hd
      exact ha

theorem fold_member (m : Member) {others : List Decl} (hne : others ≠ []) (e : Decl) :
    (Decl.member m).fold others = .ok e ↔
      e = .member m ∧ ∀ d ∈ others, ∃ n, d = .member n ∧ m.agrees n = true := by
  have hm : Decl.member m ∈ Decl.member m :: others := List.mem_cons_self
  rw [fold]
  cases hc : commonVariant? (.member m :: others) with
  | none =>
    constructor
    · intro h
      cases h
    · rintro ⟨-, h⟩
      have hv : ∀ d ∈ Decl.member m :: others, d.variant = m.body.variant := by
        rw [List.forall_mem_cons]
        refine ⟨rfl, fun d hd => ?_⟩
        obtain ⟨n, rfl, ha⟩ := h d hd
        exact ((m.agrees_iff n).mp ha).1.2.variant.symm
      rw [(commonVariant?_of_member hm _).mpr ⟨rfl, hv⟩] at hc
      cases hc
  | some v =>
    obtain ⟨-, hv⟩ := (commonVariant?_of_member hm v).mp hc
    have hfilter : (Decl.member m :: others).filter (·.variant == v) = .member m :: others :=
      List.filter_eq_self.mpr fun d hd => by simpa using hv d hd
    dsimp only
    rw [hfilter, ← mergeable_member_iff m hne]
    by_cases ha : (Decl.member m).mergeable others = true
    · simp [ha, eq_comm]
    · simp [ha]

theorem survives_singleton (d : Decl) : Survives [d] d := by
  cases d with
  | scope s cs => simpa [ofScopes] using Survives.scope [(s, cs)] s (.one s)
  | member m => exact .member m [] (by simp)

theorem fold_scope_ne_ok {s : Scope} {cs others : List Decl} {m : Member} (hm : .member m ∈ others)
    (e : Decl) : (Decl.scope s cs).fold others ≠ .ok e := by
  have hnone : commonVariant? (.scope s cs :: others) = none := by
    apply Option.eq_none_iff_forall_ne_some.mpr
    intro v hv
    obtain ⟨rfl, hall⟩ := (commonVariant?_of_member (List.mem_cons_of_mem _ hm) v).mp hv
    exact variant_scope_ne_member s cs m (hall _ List.mem_cons_self)
  rw [fold, hnone]
  intro h
  cases h

theorem not_survives_scope {s : Scope} {cs others : List Decl} {m : Member} (hm : .member m ∈ others)
    (e : Decl) : ¬ Survives (.scope s cs :: others) e := by
  intro h
  generalize hds : Decl.scope s cs :: others = ds at h
  cases h with
  | member n ns h => cases hds
  | scope ps t h =>
    have hs := isScope_of_mem_ofScopes ps (.member m) (hds ▸ List.mem_cons_of_mem _ hm)
    cases hs

theorem fold_eq_ok_iff (d : Decl) {others : List Decl} (hne : others ≠ []) (e : Decl) :
    d.fold others = .ok e ↔ Survives (d :: others) e := by
  cases d with
  | member m => rw [fold_member m hne, survives_member_iff]
  | scope s cs =>
    by_cases hall : ∀ d ∈ others, d.isScope = true
    · obtain ⟨ps, hps⟩ := exists_ofScopes hall
      have hlen : 2 ≤ (((s, cs) :: ps).map (·.1)).length := by
        have : ps ≠ [] := by
          rintro rfl
          exact hne hps
        have := List.length_pos_iff.mpr this
        simp only [List.map_cons, List.length_cons, List.length_map]
        omega
      have hds : Decl.scope s cs :: others = ofScopes ((s, cs) :: ps) := by rw [hps]; rfl
      rw [fold_ofScopes hds, hds, survives_ofScopes_iff]
      simp only [Scope.joins_iff hlen]
      constructor
      · rintro ⟨hss, b, hb, rfl⟩
        exact ⟨_, ⟨hss, b, hb, rfl⟩, rfl⟩
      · rintro ⟨t, ⟨hss, b, hb, rfl⟩, rfl⟩
        exact ⟨hss, b, hb, rfl⟩
    · obtain ⟨d, hd, hds⟩ : ∃ d ∈ others, ¬ d.isScope = true := by
        simpa only [not_forall, exists_prop] using hall
      cases d with
      | scope t ds => exact absurd rfl hds
      | member m => exact iff_of_false (fold_scope_ne_ok hd e) (not_survives_scope hd e)

end Decl

end RubyStubs
