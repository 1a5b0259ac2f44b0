import RubyStubs.Proofs.Survivor

namespace RubyStubs

namespace ScopeKind

variable {k : ScopeKind} {ks : List ScopeKind}

theorem findSome?_superclass?_eq_some_iff (h : ∀ a ∈ ks, ∀ b ∈ ks, a.Compatible b) (c : String) :
    ks.findSome? superclass? = some c ↔ ∃ l ∈ ks, l.superclass? = some c := by
  constructor
  · exact List.exists_of_findSome?_eq_some
  · rintro ⟨l, hl, hc⟩
    obtain ⟨d, hd⟩ : ∃ d, ks.findSome? superclass? = some d := by
      rw [← Option.isSome_iff_exists, List.findSome?_isSome_iff]
      exact ⟨l, hl, by simp [hc]⟩
    obtain ⟨m, hm, hmd⟩ := List.exists_of_findSome?_eq_some hd
    rw [hd, (h m hm l hl).superclass d hmd c hc]

theorem superclass?_merge_of_mem (habsorbs : k.Absorbs ks) (hk : k ∈ ks)
    (h : ∀ a ∈ ks, ∀ b ∈ ks, a.Compatible b) :
    (k.merge ks).superclass? = ks.findSome? superclass? := by
  rw [superclass?_merge habsorbs]
  cases hc : k.superclass? with
  | none => rfl
  | some c => exact ((findSome?_superclass?_eq_some_iff h c).mpr ⟨k, hk, hc⟩).symm

theorem or_any_of_mem {α : Type} {f : α → Bool} {x : α} {xs : List α} (hx : x ∈ xs) :
    (f x || xs.any f) = xs.any f := by
  cases hf : f x with
  | false => rfl
  | true => exact (List.any_eq_true.mpr ⟨x, hx, hf⟩).symm

end ScopeKind

namespace Scope

structure Tells (s : Scope) (ss : List Scope) : Prop where
  superclass? : s.kind.superclass? = ss.findSome? (·.kind.superclass?)
  isAbstract : s.kind.isAbstract = ss.any (·.kind.isAbstract)
  isFinal : s.kind.isFinal = ss.any (·.kind.isFinal)
  isInterface : s.kind.isInterface = ss.any (·.kind.isInterface)
  enumerators : s.kind.enumerators = firstFilled [] (ss.map (·.kind.enumerators))
  fields : s.kind.fields = firstFilled [] (ss.map (·.kind.fields))

theorem tells_singleton (s : Scope) : s.Tells [s] where
  superclass? := by cases h : s.kind.superclass? <;> simp [h]
  isAbstract := by simp
  isFinal := by simp
  isInterface := by simp
  enumerators := by rw [List.map_singleton, firstFilled_cons]; split <;> simp_all [firstFilled]
  fields := by rw [List.map_singleton, firstFilled_cons]; split <;> simp_all [firstFilled]

theorem union_tells {ss : List Scope} {b : Scope} (hss : Compatible ss) (hb : base? ss = some b) :
    (b.union ss).Tells ss := by
  have habsorbs := base?_absorbs hss hb
  have hmem : b ∈ ss := (base?_eq_some hb).1
  have hkind : b.kind ∈ ss.map (·.kind) := List.mem_map_of_mem hmem
  constructor
  · exact (ScopeKind.superclass?_merge_of_mem habsorbs hkind hss.kinds).trans (List.findSome?_map ..)
  · rw [union, ScopeKind.isAbstract_merge habsorbs, ScopeKind.or_any_of_mem hkind, List.any_map]
    rfl
  · rw [union, ScopeKind.isFinal_merge habsorbs, ScopeKind.or_any_of_mem hkind, List.any_map]
    rfl
  · rw [union, ScopeKind.isInterface_merge habsorbs, ScopeKind.or_any_of_mem hkind, List.any_map]
    rfl
  · rw [union, ScopeKind.enumerators_merge habsorbs, List.map_map]
    exact firstFilled_of_mem (List.mem_map_of_mem hmem)
  · rw [union, ScopeKind.fields_merge habsorbs, List.map_map]
    exact firstFilled_of_mem (List.mem_map_of_mem hmem)

theorem Joins.tells {ss : List Scope} {s : Scope} (h : Joins ss s) : s.Tells ss := by
  cases h with
  | one s => exact tells_singleton s
  | many _ hss hb => exact union_tells hss hb

theorem Tells.append {s u : Scope} {ss ts : List Scope} (hu : u.Tells ss) (hs : s.Tells (u :: ts)) :
    s.Tells (ss ++ ts) where
  superclass? := by
    rw [hs.superclass?, List.findSome?_append, ← hu.superclass?, List.findSome?_cons]
    cases u.kind.superclass? <;> rfl
  isAbstract := by rw [hs.isAbstract, List.any_append, List.any_cons, hu.isAbstract]
  isFinal := by rw [hs.isFinal, List.any_append, List.any_cons, hu.isFinal]
  isInterface := by rw [hs.isInterface, List.any_append, List.any_cons, hu.isInterface]
  enumerators := by
    rw [hs.enumerators, List.map_append, firstFilled_append, ← hu.enumerators, List.map_cons,
      firstFilled_cons]
  fields := by
    rw [hs.fields, List.map_append, firstFilled_append, ← hu.fields, List.map_cons, firstFilled_cons]

theorem Tells.kind_eq {s t : Scope} {ss : List Scope} (hs : s.Tells ss) (ht : t.Tells ss)
    (hv : s.kind.variant = t.kind.variant) : s.kind = t.kind :=
  ScopeKind.eq_of_view hv (hs.superclass?.trans ht.superclass?.symm)
    (hs.isAbstract.trans ht.isAbstract.symm) (hs.isFinal.trans ht.isFinal.symm)
    (hs.isInterface.trans ht.isInterface.symm) (hs.enumerators.trans ht.enumerators.symm)
    (hs.fields.trans ht.fields.symm)

structure IsUnion (s : Scope) (N : Scope → Prop) : Prop where
  included : ∀ x, x ∈ s.included ↔ ∃ t, N t ∧ x ∈ t.included
  extended : ∀ x, x ∈ s.extended ↔ ∃ t, N t ∧ x ∈ t.extended
  enumerators : ∀ e, e ∈ s.kind.enumerators ↔ ∃ t, N t ∧ e ∈ t.kind.enumerators
  fields : ∀ f, f ∈ s.kind.fields ↔ ∃ t, N t ∧ f ∈ t.kind.fields
  superclass : ∀ c, s.kind.superclass? = some c ↔ ∃ t, N t ∧ t.kind.superclass? = some c
  isAbstract : s.kind.isAbstract = true ↔ ∃ t, N t ∧ t.kind.isAbstract = true
  isFinal : s.kind.isFinal = true ↔ ∃ t, N t ∧ t.kind.isFinal = true
  isInterface : s.kind.isInterface = true ↔ ∃ t, N t ∧ t.kind.isInterface = true

theorem isUnion_self (s : Scope) : s.IsUnion (· = s) := by
  constructor <;> simp

theorem Joins.isUnion {ss : List Scope} {s : Scope} (h : Joins ss s) : s.IsUnion (· ∈ ss) := by
  have htells := h.tells
  cases h with
  | one s => simpa using isUnion_self s
  | @many _ b hlen hss hb =>
    refine ⟨?_, ?_, ?_, ?_, ?_, ?_, ?_, ?_⟩
    · simp [union, mem_distinct]
    · simp [union, mem_distinct]
    · intro e
      rw [htells.enumerators, mem_firstFilled]
      · simp
      · simp only [List.forall_mem_map]
        exact fun s hs t ht => (hss s hs t ht).enumerators
    · intro f
      rw [htells.fields, mem_firstFilled]
      · simp
      · simp only [List.forall_mem_map]
        exact fun s hs t ht => (hss s hs t ht).fields
    · intro c
      have hfind : ss.findSome? (·.kind.superclass?) =
          (ss.map (·.kind)).findSome? ScopeKind.superclass? := by
        rw [List.findSome?_map]
        rfl
      rw [htells.superclass?, hfind, ScopeKind.findSome?_superclass?_eq_some_iff hss.kinds]
      simp
    · rw [htells.isAbstract, List.any_eq_true]
    · rw [htells.isFinal, List.any_eq_true]
    · rw [htells.isInterface, List.any_eq_true]

end Scope

end RubyStubs
