import RubyStubs.Conflict.Key
import RubyStubs.Proofs.Agreement
import RubyStubs.Proofs.Compatible

/-!
What declarations of one key fold into. `Decl.Survives` says it without a search for variants: of
members that agree the first survives, and scopes that are compatible two by two are joined.
`fold_eq_ok_iff` ties it to the fold that is run.
-/

namespace RubyStubs

theorem ScopeKind.compatible_of_plain {k : ScopeKind} (l : ScopeKind) (h : k.variant = .plain) :
    k.Compatible l := by
  cases k <;> simp only [ScopeKind.variant, reduceCtorEq] at h
  refine ⟨.inr (.inl rfl), fun hv => ?_, by simp [superclass?, header?], fun hk => absurd rfl hk, fun hk => absurd rfl hk⟩
  rw [ScopeKind.isAbstract, ScopeKind.isAbstract, ScopeKind.header?_eq_none hv.symm]
  rfl

namespace Scope

def base? (ss : List Scope) : Option Scope := (ss.find? (·.kind.variant != .plain)).or ss.head?

def union (b : Scope) (ss : List Scope) : Scope where
  name := b.name
  kind := b.kind.merge (ss.map (·.kind))
  comments := addAllNew b.comments (ss.flatMap (·.comments))
  extended := distinct (ss.flatMap (·.extended))
  included := distinct (ss.flatMap (·.included))

@[simp]
theorem union_variant (b : Scope) (ss : List Scope) : (b.union ss).kind.variant = b.kind.variant :=
  ScopeKind.variant_merge ..

def Compatible (ss : List Scope) : Prop := ∀ s ∈ ss, ∀ t ∈ ss, s.kind.Compatible t.kind

theorem Compatible.kinds {ss : List Scope} (h : Compatible ss) :
    ∀ k ∈ ss.map (·.kind), ∀ l ∈ ss.map (·.kind), k.Compatible l := by
  simp only [List.forall_mem_map]
  exact h

theorem Compatible.of_append {ss ts : List Scope} (h : Compatible (ss ++ ts)) : Compatible ss :=
  fun s hs t ht => h s (List.mem_append_left _ hs) t (List.mem_append_left _ ht)

inductive Joins : List Scope → Scope → Prop
  | one (s : Scope) : Joins [s] s
  | many {ss : List Scope} {b : Scope} (hlen : 2 ≤ ss.length) (hss : Compatible ss)
      (hb : base? ss = some b) : Joins ss (b.union ss)

theorem base?_eq_some {ss : List Scope} {b : Scope} (h : base? ss = some b) :
    b ∈ ss ∧ (b.kind.variant = .plain → ∀ s ∈ ss, s.kind.variant = .plain) := by
  rw [base?] at h
  cases hf : ss.find? (·.kind.variant != .plain) with
  | some c =>
    simp only [hf, Option.some_or, Option.some.injEq] at h
    subst h
    refine ⟨List.mem_of_find?_eq_some hf, fun hp => ?_⟩
    have hc := List.find?_some hf
    simp [hp] at hc
  | none =>
    rw [hf, Option.none_or] at h
    refine ⟨List.mem_of_head? h, fun _ s hs => ?_⟩
    simpa using List.find?_eq_none.mp hf s hs

theorem exists_base? {ss : List Scope} (h : ss ≠ []) : ∃ b, base? ss = some b := by
  obtain ⟨s, ss, rfl⟩ := List.exists_cons_of_ne_nil h
  rw [← Option.isSome_iff_exists]
  simp [base?]

theorem base?_absorbs {ss : List Scope} {b : Scope} (hss : Compatible ss) (h : base? ss = some b) :
    b.kind.Absorbs (ss.map (·.kind)) := by
  obtain ⟨hb, hplain⟩ := base?_eq_some h
  rw [ScopeKind.Absorbs, List.forall_mem_map]
  intro s hs
  rcases (hss b hb s hs).variant with hv | hv | hv
  · exact .inl hv.symm
  · exact .inr (hplain hv s hs)
  · exact .inr hv

theorem find?_variant_eq_base? {ss : List Scope} {v : Variant} (hv : ∃ s ∈ ss, s.kind.variant = v)
    (h : ∀ s ∈ ss, s.kind.variant = v ∨ s.kind.variant = .plain) :
    ss.find? (·.kind.variant == v) = base? ss := by
  rw [base?]
  by_cases hp : v = .plain
  · have hall : ∀ s ∈ ss, s.kind.variant = .plain := fun s hs => (h s hs).elim (·.trans hp) id
    have hnone : ss.find? (·.kind.variant != .plain) = none := by
      rw [List.find?_eq_none]
      intro s hs
      simp [hall s hs]
    rw [hnone, Option.none_or]
    cases ss with
    | nil => rfl
    | cons s ss => simp [hall s (by simp), hp]
  · have hfind : ss.find? (·.kind.variant == v) = ss.find? (·.kind.variant != .plain) := by
      rw [← List.head?_filter, ← List.head?_filter]
      congr 1
      apply List.filter_congr
      intro s hs
      rcases h s hs with hs | hs <;> simp [hs, hp, Ne.symm hp]
    obtain ⟨s, hs, hsv⟩ := hv
    have hsome : (ss.find? (·.kind.variant != .plain)).isSome = true := by
      rw [List.find?_isSome]
      exact ⟨s, hs, by simp [hsv, hp]⟩
    rw [hfind, Option.or_of_isSome hsome]

end Scope

namespace Decl

def ofScopes (ps : List (Scope × List Decl)) : List Decl := ps.map fun p => .scope p.1 p.2

theorem scope_injective : (fun p : Scope × List Decl => Decl.scope p.1 p.2).Injective := by
  rintro ⟨s, cs⟩ ⟨t, ds⟩ h
  cases h
  rfl

theorem ofScopes_injective : ofScopes.Injective :=
  List.map_injective_iff.mpr scope_injective

inductive Survives : List Decl → Decl → Prop
  | member (m : Member) (ns : List Member) (h : ∀ n ∈ ns, m.agrees n = true) :
      Survives (.member m :: ns.map .member) (.member m)
  | scope (ps : List (Scope × List Decl)) (s : Scope) (h : Scope.Joins (ps.map (·.1)) s) :
      Survives (ofScopes ps) (.scope s (ps.flatMap (·.2)))

theorem exists_ofScopes {ds : List Decl} (h : ∀ d ∈ ds, d.isScope = true) : ∃ ps, ds = ofScopes ps := by
  induction ds with
  | nil => exact ⟨[], rfl⟩
  | cons d ds ih =>
    obtain ⟨hd, hds⟩ := List.forall_mem_cons.mp h
    obtain ⟨ps, rfl⟩ := ih hds
    cases d with
    | scope s cs => exact ⟨(s, cs) :: ps, rfl⟩
    | member m => cases hd

theorem exists_members {ds : List Decl} (h : ∀ d ∈ ds, ∃ m, d = .member m) :
    ∃ ms : List Member, ds = ms.map .member := by
  induction ds with
  | nil => exact ⟨[], rfl⟩
  | cons d ds ih =>
    obtain ⟨⟨m, rfl⟩, hds⟩ := List.forall_mem_cons.mp h
    obtain ⟨ms, rfl⟩ := ih hds
    exact ⟨m :: ms, rfl⟩

section OfScopes

variable (ps : List (Scope × List Decl))

theorem isScope_of_mem_ofScopes : ∀ d ∈ ofScopes ps, d.isScope = true := by
  rw [ofScopes, List.forall_mem_map]
  exact fun _ _ => rfl

theorem filter_ofScopes (v : Variant) :
    (ofScopes ps).filter (·.variant == v) = ofScopes (ps.filter (·.1.kind.variant == v)) := by
  rw [ofScopes, List.filter_map]
  rfl

theorem filterMap_scope?_ofScopes : (ofScopes ps).filterMap scope? = ps.map (·.1) := by
  rw [ofScopes, List.filterMap_map]
  exact congrFun List.filterMap_eq_map ps

theorem filterMap_scopeKind?_ofScopes : (ofScopes ps).filterMap scopeKind? = ps.map (·.1.kind) := by
  rw [ofScopes, List.filterMap_map]
  exact congrFun List.filterMap_eq_map ps

theorem flatMap_children_ofScopes : (ofScopes ps).flatMap children = ps.flatMap (·.2) := by
  rw [ofScopes, List.flatMap_map]
  rfl

theorem merged_ofScopes (b : Scope) :
    merged b (ofScopes ps) = .scope (b.union (ps.map (·.1))) (ps.flatMap (·.2)) := by
  rw [merged, filterMap_scope?_ofScopes, flatMap_children_ofScopes]
  rfl

theorem mergeable_ofScopes (s : Scope) (cs : List Decl) :
    (Decl.scope s cs).mergeable (ofScopes ps) = s.kind.mergeable (ps.map (·.1.kind)) := by
  rw [mergeable, filterMap_scopeKind?_ofScopes, List.all_eq_true.mpr (isScope_of_mem_ofScopes ps),
    Bool.true_and]

end OfScopes

theorem distinct_variants_eq_singleton_iff (ds : List Decl) (v : Variant) :
    distinct (ds.map variant) = [v] ↔ (∃ d ∈ ds, d.variant = v) ∧ ∀ d ∈ ds, d.variant = v := by
  rw [distinct_eq_singleton_iff, List.mem_map, List.forall_mem_map]

theorem filter_variants_eq_singleton_iff (ds : List Decl) (v : Variant) :
    (distinct (ds.map variant)).filter (· != .plain) = [v] ↔
      (∃ d ∈ ds, d.variant = v) ∧ v ≠ .plain ∧ ∀ d ∈ ds, d.variant = v ∨ d.variant = .plain := by
  rw [filter_distinct_eq_singleton_iff, List.mem_map, List.forall_mem_map, bne_iff_ne, and_assoc]
  apply and_congr_right'
  apply and_congr_right'
  apply forall₂_congr
  intro d _
  rw [bne_iff_ne, or_comm, ne_eq, ← or_iff_not_imp_left]

theorem commonVariant?_eq_some_iff (ds : List Decl) (v : Variant) :
    commonVariant? ds = some v ↔
      (∃ d ∈ ds, d.variant = v) ∧
        ((∀ d ∈ ds, d.variant = v) ∨
          (∀ d ∈ ds, d.isScope = true) ∧ ∀ d ∈ ds, d.variant = v ∨ d.variant = .plain) := by
  rw [commonVariant?]
  split
  · next w hw =>
    obtain ⟨⟨d, hd, hdw⟩, hall⟩ := (distinct_variants_eq_singleton_iff ds w).mp hw
    rw [Option.some.injEq]
    constructor
    · rintro rfl
      exact ⟨⟨d, hd, hdw⟩, .inl hall⟩
    · rintro ⟨⟨e, he, hev⟩, -⟩
      rw [← hev, hall e he]
  · next hne =>
    have hnot : (∃ d ∈ ds, d.variant = v) → ¬ ∀ d ∈ ds, d.variant = v :=
      fun hex hv => hne v ((distinct_variants_eq_singleton_iff ds v).mpr ⟨hex, hv⟩)
    split
    · next hall =>
      apply Iff.trans (b := (distinct (ds.map variant)).filter (· != .plain) = [v])
      · split
        · next w hw => simp [hw]
        · next hw => simpa using hw v
      · rw [filter_variants_eq_singleton_iff]
        constructor
        · rintro ⟨hex, -, hv⟩
          exact ⟨hex, .inr ⟨List.all_eq_true.mp hall, hv⟩⟩
        · rintro ⟨hex, hv | ⟨-, hv⟩⟩
          · exact absurd hv (hnot hex)
          · refine ⟨hex, ?_, hv⟩
            rintro rfl
            exact hnot hex fun d hd => (hv d hd).elim id id
    · next hall =>
      constructor
      · intro h
        cases h
      · rintro ⟨hex, hv | ⟨hs, -⟩⟩
        · exact absurd hv (hnot hex)
        · exact absurd (List.all_eq_true.mpr hs) hall

end Decl

end RubyStubs
