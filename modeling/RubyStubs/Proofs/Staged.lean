import RubyStubs.Proofs.Fold
import RubyStubs.Proofs.Union

namespace RubyStubs.Scope

theorem base?_append {xs : List Scope} {c : Scope} (h : base? xs = some c) (ys : List Scope) :
    base? (xs ++ ys) =
      if c.kind.variant = .plain then (ys.find? (·.kind.variant != .plain)).or (some c)
      else some c := by
  rw [base?] at h ⊢
  rw [List.find?_append]
  cases hf : xs.find? (·.kind.variant != .plain) with
  | some d =>
    simp only [hf, Option.some_or, Option.some.injEq] at h
    subst h
    have hd : d.kind.variant ≠ .plain := by simpa using List.find?_some hf
    simp [hd]
  | none =>
    rw [hf, Option.none_or] at h
    have hc : c.kind.variant = .plain := by
      simpa using List.find?_eq_none.mp hf c (List.mem_of_head? h)
    rw [Option.none_or, if_pos hc]
    congr 1
    rw [List.head?_append, h]
    rfl

theorem base?_cons (c : Scope) (ys : List Scope) :
    base? (c :: ys) =
      if c.kind.variant = .plain then (ys.find? (·.kind.variant != .plain)).or (some c)
      else some c := by
  have h : base? [c] = some c := by
    rw [base?, List.head?_cons]
    by_cases hc : c.kind.variant = .plain <;> simp [hc]
  exact base?_append h ys

theorem union_isAbstract {ss : List Scope} {b : Scope} (hss : Compatible ss) (hb : base? ss = some b) :
    (b.union ss).kind.isAbstract = b.kind.isAbstract := by
  have habsorbs := base?_absorbs hss hb
  rw [union, ScopeKind.isAbstract_merge habsorbs, List.any_map]
  cases ha : b.kind.isAbstract with
  | true => rfl
  | false =>
    apply List.any_eq_false.mpr
    intro s hs
    rcases habsorbs s.kind (List.mem_map_of_mem hs) with hv | hv
    · have hsb := (hss s hs b (base?_eq_some hb).1).isAbstract hv
      simp [hsb, ha]
    · simp [ScopeKind.isAbstract, ScopeKind.header?_eq_none hv]

theorem union_compatible {ss : List Scope} {b : Scope} (hss : Compatible ss) (hb : base? ss = some b)
    {t : Scope} (ht : ∀ s ∈ ss, s.kind.Compatible t.kind) :
    (b.union ss).kind.Compatible t.kind := by
  have htells := union_tells hss hb
  have hbt := ht b (base?_eq_some hb).1
  constructor
  · rw [union_variant]
    exact hbt.variant
  · rw [union_variant, union_isAbstract hss hb]
    exact hbt.isAbstract
  · intro c hc
    rw [Option.mem_def, htells.superclass?] at hc
    obtain ⟨s, hs, hsc⟩ := List.exists_of_findSome?_eq_some hc
    exact (ht s hs).superclass c hsc
  · intro hne
    rw [htells.enumerators] at hne ⊢
    obtain ⟨s, hs, hse⟩ := List.mem_map.mp (firstFilled_mem hne)
    rw [← hse] at hne ⊢
    exact (ht s hs).enumerators hne
  · intro hne
    rw [htells.fields] at hne ⊢
    obtain ⟨s, hs, hsf⟩ := List.mem_map.mp (firstFilled_mem hne)
    rw [← hsf] at hne ⊢
    exact (ht s hs).fields hne

theorem union_cons_compatible {xs ys : List Scope} {c : Scope} (h : Compatible (xs ++ ys))
    (hc : base? xs = some c) : Compatible (c.union xs :: ys) := by
  have hxs := h.of_append
  have hunion : ∀ t ∈ xs ++ ys, (c.union xs).kind.Compatible t.kind := by
    intro t ht
    exact union_compatible hxs hc fun s hs => h s (by simp [hs]) t ht
  have hself : (c.union xs).kind.Compatible (c.union xs).kind :=
    union_compatible hxs hc fun s hs => (hunion s (by simp [hs])).symm
  have hcons : ∀ t ∈ c.union xs :: ys, (c.union xs).kind.Compatible t.kind :=
    List.forall_mem_cons.mpr ⟨hself, fun t ht => hunion t (by simp [ht])⟩
  intro s hs t ht
  rcases List.mem_cons.mp hs with rfl | hs
  · exact hcons t ht
  · rcases List.mem_cons.mp ht with rfl | ht
    · exact (hcons s (List.mem_cons_of_mem _ hs)).symm
    · exact h s (by simp [hs]) t (by simp [ht])

theorem addAllNew_head_comments {xs : List Scope} {c : Scope} (hc : xs.head? = some c)
    (zs : List String) :
    addAllNew zs (addAllNew c.comments (xs.flatMap (·.comments))) =
      addAllNew zs (xs.flatMap (·.comments)) := by
  obtain ⟨xs, rfl⟩ := List.head?_eq_some_iff.mp hc
  have hsub : ∀ y ∈ c.comments, y ∈ addAllNew zs c.comments := fun y hy => mem_addAllNew.mpr (.inr hy)
  rw [addAllNew_addAllNew, List.flatMap_cons, addAllNew_append, addAllNew_append, addAllNew_append,
    addAllNew_of_subset hsub]

theorem base?_stage {xs ys : List Scope} {c b : Scope} (hc : base? xs = some c)
    (hb : base? (xs ++ ys) = some b) :
    b = c ∧ base? (c.union xs :: ys) = some (c.union xs) ∨
      xs.head? = some c ∧ base? (c.union xs :: ys) = some b := by
  rw [base?_append hc] at hb
  rw [base?_cons, union_variant]
  by_cases hp : c.kind.variant = .plain
  · rw [if_pos hp] at hb ⊢
    cases hf : ys.find? (·.kind.variant != .plain) with
    | none =>
      rw [hf] at hb
      cases hb
      exact .inl ⟨rfl, rfl⟩
    | some d =>
      rw [hf] at hb
      cases hb
      refine .inr ⟨?_, rfl⟩
      have hnone : xs.find? (·.kind.variant != .plain) = none := by
        rw [List.find?_eq_none]
        intro s hs
        simp [(base?_eq_some hc).2 hp s hs]
      rwa [base?, hnone, Option.none_or] at hc
  · rw [if_neg hp] at hb ⊢
    cases hb
    exact .inl ⟨rfl, rfl⟩

theorem distinct_flatMap_stage {u : Scope} {xs ys : List Scope} {f : Scope → List String}
    (hf : f u = distinct (xs.flatMap f)) :
    distinct ((u :: ys).flatMap f) = distinct ((xs ++ ys).flatMap f) := by
  rw [List.flatMap_cons, List.flatMap_append, hf, distinct_distinct_append]

theorem union_eq_of_stage {xs ys : List Scope} {c b b' : Scope} (h : Compatible (xs ++ ys))
    (hc : base? xs = some c) (hb : base? (xs ++ ys) = some b) (hb' : base? (c.union xs :: ys) = some b')
    (hname : b'.name = b.name) (hv : b'.kind.variant = b.kind.variant)
    (hcomments : addAllNew b'.comments ((c.union xs :: ys).flatMap (·.comments)) =
      addAllNew b.comments ((xs ++ ys).flatMap (·.comments))) :
    b'.union (c.union xs :: ys) = b.union (xs ++ ys) := by
  have hstaged : (b'.union (c.union xs :: ys)).Tells (xs ++ ys) :=
    (union_tells h.of_append hc).append (union_tells (union_cons_compatible h hc) hb')
  have hkind : (b'.union (c.union xs :: ys)).kind = (b.union (xs ++ ys)).kind := by
    apply hstaged.kind_eq (union_tells h hb)
    rw [union_variant, union_variant, hv]
  rw [union, union, mk.injEq]
  exact ⟨hname, hkind, hcomments, distinct_flatMap_stage rfl, distinct_flatMap_stage rfl, rfl⟩

theorem union_stage {xs ys : List Scope} {c b : Scope} (h : Compatible (xs ++ ys))
    (hc : base? xs = some c) (hb : base? (xs ++ ys) = some b) :
    ∃ b', base? (c.union xs :: ys) = some b' ∧ b'.union (c.union xs :: ys) = b.union (xs ++ ys) := by
  rcases base?_stage hc hb with ⟨rfl, hb'⟩ | ⟨hhead, hb'⟩
  · refine ⟨_, hb', union_eq_of_stage h hc hb hb' rfl (union_variant ..) ?_⟩
    rw [List.flatMap_cons, List.flatMap_append, addAllNew_append, addAllNew_append,
      addAllNew_of_subset fun _ => id]
    rfl
  · refine ⟨b, hb', union_eq_of_stage h hc hb hb' rfl rfl ?_⟩
    rw [List.flatMap_cons, List.flatMap_append, addAllNew_append, addAllNew_append]
    congr 1
    exact addAllNew_head_comments hhead b.comments

theorem Joins.split {xs ys : List Scope} {s : Scope} (h : Joins (xs ++ ys) s) (hne : xs ≠ []) :
    ∃ u, Joins xs u ∧ Joins (u :: ys) s := by
  by_cases hx : xs.length = 1
  · obtain ⟨x, rfl⟩ := List.length_eq_one_iff.mp hx
    exact ⟨x, .one x, h⟩
  · have hlen : 2 ≤ xs.length := by
      have := List.length_pos_iff.mpr hne
      omega
    obtain ⟨hss, b, hb, rfl⟩ := (joins_iff (by simp only [List.length_append]; omega) s).mp h
    obtain ⟨c, hc⟩ := exists_base? hne
    refine ⟨c.union xs, .many hlen hss.of_append hc, ?_⟩
    cases ys with
    | nil =>
      rw [List.append_nil] at hb ⊢
      cases hc.symm.trans hb
      exact .one _
    | cons y ys =>
      obtain ⟨b', hb', hunion⟩ := union_stage hss hc hb
      rw [← hunion]
      exact .many (by simp) (union_cons_compatible hss hc) hb'

end RubyStubs.Scope
