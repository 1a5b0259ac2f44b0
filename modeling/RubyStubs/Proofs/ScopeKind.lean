import RubyStubs.Proofs.Distinct

namespace RubyStubs.ScopeKind

def superclass? (k : ScopeKind) : Option String := k.header?.bind (·.superclass)

def isAbstract (k : ScopeKind) : Bool := k.header?.any (·.isAbstract)

def isFinal (k : ScopeKind) : Bool := k.header?.any (·.isFinal)

theorem eq_of_view {k l : ScopeKind} (hv : k.variant = l.variant)
    (hs : k.superclass? = l.superclass?) (ha : k.isAbstract = l.isAbstract)
    (hf : k.isFinal = l.isFinal) (hi : k.isInterface = l.isInterface)
    (he : k.enumerators = l.enumerators) (hp : k.fields = l.fields) : k = l := by
  cases k <;> cases l <;> simp only [variant, reduceCtorEq] at hv
  case plain => rfl
  case ofClass g h =>
    cases g; cases h
    simp_all [superclass?, isAbstract, isFinal, header?]
  case ofModule i j => exact congrArg _ hi
  case ofEnum g es h fs =>
    cases g; cases h
    simp_all [superclass?, isAbstract, isFinal, header?, BasedHeader.toHeader, enumerators]
  case ofStruct g es h fs =>
    cases g; cases h
    simp_all [superclass?, isAbstract, isFinal, header?, BasedHeader.toHeader, fields]

theorem isSome_header? {k l : ScopeKind} (h : k.variant = l.variant) :
    k.header?.isSome = l.header?.isSome := by
  cases k <;> cases l <;> simp_all [variant, header?]

theorem header?_eq_none {k : ScopeKind} (h : k.variant = .plain) : k.header? = none := by
  cases k <;> simp_all [variant, header?]

theorem isInterface_eq_false {k : ScopeKind} (h : k.variant ≠ .ofModule) : k.isInterface = false := by
  cases k <;> simp_all [variant, isInterface]

theorem enumerators_eq_nil {k : ScopeKind} (h : k.variant ≠ .ofEnum) : k.enumerators = [] := by
  cases k <;> simp_all [variant, enumerators]

theorem fields_eq_nil {k : ScopeKind} (h : k.variant ≠ .ofStruct) : k.fields = [] := by
  cases k <;> simp_all [variant, fields]

def Absorbs (k : ScopeKind) (others : List ScopeKind) : Prop :=
  ∀ l ∈ others, l.variant = k.variant ∨ l.variant = .plain

def headers (ks : List ScopeKind) : List ClassHeader := ks.filterMap header?

theorem findSome?_superclass? (ks : List ScopeKind) :
    ks.findSome? superclass? = (headers ks).findSome? (·.superclass) := by
  induction ks with
  | nil => rfl
  | cons k ks ih =>
    rw [List.findSome?_cons, ih, superclass?, headers, headers, List.filterMap_cons]
    cases hk : k.header? with
    | none => rfl
    | some g => rw [List.findSome?_cons]; rfl

theorem any_isAbstract (ks : List ScopeKind) :
    ks.any isAbstract = (headers ks).any (·.isAbstract) :=
  List.any_filterMap.symm

theorem any_isFinal (ks : List ScopeKind) : ks.any isFinal = (headers ks).any (·.isFinal) :=
  List.any_filterMap.symm

section Merge

variable {k : ScopeKind} {others : List ScopeKind}

@[simp]
theorem variant_merge (k : ScopeKind) (others : List ScopeKind) :
    (k.merge others).variant = k.variant := by
  cases k <;> rfl

theorem header?_merge (k : ScopeKind) (others : List ScopeKind) :
    (k.merge others).header? = k.header?.map (·.merge (headers others)) := by
  have based (g : BasedHeader) : ((g.toHeader.merge (headers others)).basedOn g.superclass).toHeader =
      g.toHeader.merge (headers others) := rfl
  cases k with
  | plain => rfl
  | ofModule i => rfl
  | ofClass g => rfl
  | ofEnum g es => exact congrArg some (based g)
  | ofStruct g fs => exact congrArg some (based g)

theorem Absorbs.headers_eq_nil (h : k.Absorbs others) (hk : k.header? = none) : headers others = [] := by
  apply List.filterMap_eq_nil_iff.mpr
  intro l hl
  rcases h l hl with hv | hv
  · rw [← Option.not_isSome_iff_eq_none, isSome_header? hv, hk]
    exact Bool.false_ne_true
  · exact header?_eq_none hv

theorem Absorbs.variant_ne (h : k.Absorbs others) {v : Variant} (hk : k.variant ≠ v)
    (hv : v ≠ .plain) : ∀ l ∈ others, l.variant ≠ v := by
  intro l hl
  rcases h l hl with hl | hl
  · rwa [hl]
  · rw [hl]
    exact hv.symm

theorem superclass?_merge (h : k.Absorbs others) :
    (k.merge others).superclass? = k.superclass?.or (others.findSome? superclass?) := by
  rw [findSome?_superclass?, superclass?, superclass?, header?_merge]
  cases hk : k.header? with
  | none => simp [h.headers_eq_nil hk]
  | some g => rfl

theorem isAbstract_merge (h : k.Absorbs others) :
    (k.merge others).isAbstract = (k.isAbstract || others.any isAbstract) := by
  rw [any_isAbstract, isAbstract, isAbstract, header?_merge]
  cases hk : k.header? with
  | none => simp [h.headers_eq_nil hk]
  | some g => rfl

theorem isFinal_merge (h : k.Absorbs others) :
    (k.merge others).isFinal = (k.isFinal || others.any isFinal) := by
  rw [any_isFinal, isFinal, isFinal, header?_merge]
  cases hk : k.header? with
  | none => simp [h.headers_eq_nil hk]
  | some g => rfl

theorem isInterface_merge (h : k.Absorbs others) :
    (k.merge others).isInterface = (k.isInterface || others.any isInterface) := by
  by_cases hk : k.variant = .ofModule
  · cases k <;> simp only [variant, reduceCtorEq] at hk
    rfl
  · have hothers : others.any isInterface = false := by
      apply List.any_eq_false.mpr
      intro l hl
      simp [isInterface_eq_false (h.variant_ne hk (by simp) l hl)]
    rw [isInterface_eq_false (by simpa using hk), isInterface_eq_false hk, hothers]
    rfl

theorem enumerators_merge (h : k.Absorbs others) :
    (k.merge others).enumerators = firstFilled k.enumerators (others.map enumerators) := by
  by_cases hk : k.variant = .ofEnum
  · cases k <;> simp only [variant, reduceCtorEq] at hk
    rfl
  · have hothers : firstFilled [] (others.map enumerators) = [] :=
      firstFilled_map_eq_nil fun l hl => enumerators_eq_nil (h.variant_ne hk (by simp) l hl)
    rw [enumerators_eq_nil (by simpa using hk), enumerators_eq_nil hk, hothers]

theorem fields_merge (h : k.Absorbs others) :
    (k.merge others).fields = firstFilled k.fields (others.map fields) := by
  by_cases hk : k.variant = .ofStruct
  · cases k <;> simp only [variant, reduceCtorEq] at hk
    rfl
  · have hothers : firstFilled [] (others.map fields) = [] :=
      firstFilled_map_eq_nil fun l hl => fields_eq_nil (h.variant_ne hk (by simp) l hl)
    rw [fields_eq_nil (by simpa using hk), fields_eq_nil hk, hothers]

end Merge

end RubyStubs.ScopeKind
