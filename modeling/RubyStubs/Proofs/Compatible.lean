import RubyStubs.Proofs.ScopeKind

/-!
Kinds of scope that do not contradict each other. Merging is asked of a first kind and the rest, yet
it comes down to a relation between two kinds (`mergeable_iff`) that is symmetric, so that their order
does not matter.
-/

namespace RubyStubs

namespace ClassHeader

theorem agree_iff (g : ClassHeader) (others : List ClassHeader) :
    g.agree others = true ↔
      (∀ h ∈ others, h.isAbstract = g.isAbstract) ∧
        ∀ c ∈ (g :: others).filterMap (·.superclass), ∀ d ∈ (g :: others).filterMap (·.superclass),
          c = d := by
  simp only [agree, Bool.and_eq_true, List.all_eq_true, beq_iff_eq, decide_eq_true_eq,
    distinct_length_le_one_iff]

end ClassHeader

namespace ScopeKind

structure Compatible (k l : ScopeKind) : Prop where
  variant : k.variant = l.variant ∨ k.variant = .plain ∨ l.variant = .plain
  isAbstract : k.variant = l.variant → k.isAbstract = l.isAbstract
  superclass : ∀ c ∈ k.superclass?, ∀ d ∈ l.superclass?, c = d
  enumerators : k.enumerators ≠ [] → l.enumerators ≠ [] → ∀ e, e ∈ k.enumerators ↔ e ∈ l.enumerators
  fields : k.fields ≠ [] → l.fields ≠ [] → ∀ f, f ∈ k.fields ↔ f ∈ l.fields

theorem Compatible.symm {k l : ScopeKind} (h : k.Compatible l) : l.Compatible k where
  variant := by
    rcases h.variant with h | h | h
    · exact .inl h.symm
    · exact .inr (.inr h)
    · exact .inr (.inl h)
  isAbstract hv := (h.isAbstract hv.symm).symm
  superclass c hc d hd := (h.superclass d hd c hc).symm
  enumerators hl hk e := (h.enumerators hk hl e).symm
  fields hl hk f := (h.fields hk hl f).symm

theorem filterMap_superclass? (ks : List ScopeKind) :
    ks.filterMap superclass? = (headers ks).filterMap (·.superclass) := by
  rw [headers, List.filterMap_filterMap]
  rfl

theorem isAbstract_eq_of_header? {k : ScopeKind} {g : ClassHeader} (h : k.header? = some g) :
    k.isAbstract = g.isAbstract := by
  simp [isAbstract, h]

variable {k : ScopeKind} {others : List ScopeKind}

theorem mergeable_iff_agree (hv : ∀ l ∈ others, l.variant = k.variant) :
    k.mergeable others = true ↔
      (∀ g ∈ k.header?, g.agree (headers others) = true) ∧
        itemsAgree ((k :: others).map ScopeKind.enumerators) = true ∧
        itemsAgree ((k :: others).map ScopeKind.fields) = true := by
  have hvs : ∀ l ∈ k :: others, l.variant = k.variant := List.forall_mem_cons.mpr ⟨rfl, hv⟩
  have he (hk : k.variant ≠ .ofEnum) : itemsAgree ((k :: others).map ScopeKind.enumerators) = true :=
    itemsAgree_map_of_nil fun l hl => enumerators_eq_nil (by rwa [hvs l hl])
  have hf (hk : k.variant ≠ .ofStruct) : itemsAgree ((k :: others).map ScopeKind.fields) = true :=
    itemsAgree_map_of_nil fun l hl => fields_eq_nil (by rwa [hvs l hl])
  have hall : others.all (·.variant == k.variant) = true := by simpa using hv
  cases k with
  | plain =>
    rw [he (by simp [variant]), hf (by simp [variant])]
    exact ⟨fun _ => ⟨by simp [header?], rfl, rfl⟩, fun _ => rfl⟩
  | ofModule i =>
    rw [he (by simp [variant]), hf (by simp [variant])]
    exact ⟨fun _ => ⟨by simp [header?], rfl, rfl⟩, fun _ => rfl⟩
  | ofClass g =>
    rw [he (by simp [variant]), hf (by simp [variant])]
    change (others.all (·.variant == .ofClass) && g.agree (headers others)) = true ↔
      (∀ h ∈ some g, h.agree (headers others) = true) ∧ _
    rw [show others.all (·.variant == .ofClass) = true from hall]
    simp
  | ofEnum g es =>
    rw [hf (by simp [variant])]
    change (others.all (·.variant == .ofEnum) && g.toHeader.agree (headers others) &&
      itemsAgree ((ofEnum g es :: others).map ScopeKind.enumerators)) = true ↔
        (∀ h ∈ some g.toHeader, h.agree (headers others) = true) ∧ _
    rw [show others.all (·.variant == .ofEnum) = true from hall]
    simp
  | ofStruct g fs =>
    rw [he (by simp [variant])]
    change (others.all (·.variant == .ofStruct) && g.toHeader.agree (headers others) &&
      itemsAgree ((ofStruct g fs :: others).map ScopeKind.fields)) = true ↔
        (∀ h ∈ some g.toHeader, h.agree (headers others) = true) ∧ _
    rw [show others.all (·.variant == .ofStruct) = true from hall]
    simp

theorem agree_iff_compatible {g : ClassHeader} (hv : ∀ l ∈ others, l.variant = k.variant)
    (hg : k.header? = some g) :
    g.agree (headers others) = true ↔
      (∀ l ∈ others, l.isAbstract = k.isAbstract) ∧
        ∀ a ∈ k :: others, ∀ b ∈ k :: others, ∀ c ∈ a.superclass?, ∀ d ∈ b.superclass?, c = d := by
  have hs : (g :: headers others).filterMap (·.superclass) = (k :: others).filterMap superclass? := by
    rw [filterMap_superclass?]
    exact congrArg _ (List.filterMap_cons_some hg).symm
  rw [ClassHeader.agree_iff, hs, isAbstract_eq_of_header? hg]
  apply and_congr
  · constructor
    · intro h l hl
      have hl' : l.header?.isSome = true := by rw [isSome_header? (hv l hl), hg]; rfl
      obtain ⟨g', hg'⟩ := Option.isSome_iff_exists.mp hl'
      rw [isAbstract_eq_of_header? hg']
      exact h g' (List.mem_filterMap.mpr ⟨l, hl, hg'⟩)
    · intro h g' hg'
      obtain ⟨l, hl, hlg⟩ := List.mem_filterMap.mp hg'
      rw [← isAbstract_eq_of_header? hlg]
      exact h l hl
  · constructor
    · intro h a ha b hb c hc d hd
      exact h c (List.mem_filterMap.mpr ⟨a, ha, hc⟩) d (List.mem_filterMap.mpr ⟨b, hb, hd⟩)
    · intro h c hc d hd
      obtain ⟨a, ha, hac⟩ := List.mem_filterMap.mp hc
      obtain ⟨b, hb, hbd⟩ := List.mem_filterMap.mp hd
      exact h a ha b hb c hac d hbd

theorem mergeable_iff (hv : ∀ l ∈ others, l.variant = k.variant) :
    k.mergeable others = true ↔ ∀ a ∈ k :: others, ∀ b ∈ k :: others, a.Compatible b := by
  have hvs : ∀ l ∈ k :: others, l.variant = k.variant := List.forall_mem_cons.mpr ⟨rfl, hv⟩
  rw [mergeable_iff_agree hv, itemsAgree_iff, itemsAgree_iff]
  simp only [List.forall_mem_map]
  cases hg : k.header? with
  | none =>
    have hnone : ∀ l ∈ k :: others, l.header? = none := by
      intro l hl
      rw [← Option.not_isSome_iff_eq_none, isSome_header? (hvs l hl), hg]
      exact Bool.false_ne_true
    constructor
    · rintro ⟨-, hes, hfs⟩ a ha b hb
      refine ⟨.inl ((hvs a ha).trans (hvs b hb).symm), fun _ => ?_, ?_, hes a ha b hb, hfs a ha b hb⟩
      · rw [isAbstract, isAbstract, hnone a ha, hnone b hb]
      · simp [superclass?, hnone a ha]
    · intro h
      exact ⟨by simp, fun a ha b hb => (h a ha b hb).enumerators, fun a ha b hb => (h a ha b hb).fields⟩
  | some g =>
    simp only [Option.mem_def, Option.some.injEq, forall_eq', agree_iff_compatible hv hg]
    constructor
    · rintro ⟨⟨habs, hsup⟩, hes, hfs⟩ a ha b hb
      have habs' : ∀ l ∈ k :: others, l.isAbstract = k.isAbstract :=
        List.forall_mem_cons.mpr ⟨rfl, habs⟩
      exact ⟨.inl ((hvs a ha).trans (hvs b hb).symm), fun _ => (habs' a ha).trans (habs' b hb).symm,
        hsup a ha b hb, hes a ha b hb, hfs a ha b hb⟩
    · intro h
      refine ⟨⟨?_, fun a ha b hb => (h a ha b hb).superclass⟩, fun a ha b hb => (h a ha b hb).enumerators,
        fun a ha b hb => (h a ha b hb).fields⟩
      intro l hl
      exact (h l (List.mem_cons_of_mem _ hl) k (by simp)).isAbstract (hv l hl)

end ScopeKind

end RubyStubs
