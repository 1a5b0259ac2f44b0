import RubyStubs.Proofs.Staged

/-!
Scopes in fragments. A scope may be opened several times, plainly or as what it is, as long as the
first opening of its own variant says all that the others leave out. Such fragments join to the
scope, and may stand in its place wherever it is joined with other scopes.
-/

namespace RubyStubs

section Distinct

variable {α : Type} [BEq α] [LawfulBEq α]

theorem addAllNew_distinct (xs ys : List α) : addAllNew xs (distinct ys) = addAllNew xs ys :=
  addAllNew_addAllNew xs [] ys

theorem distinct_append_congr {xs xs' ys ys' : List α} (hx : distinct xs = distinct xs')
    (hy : distinct ys = distinct ys') : distinct (xs ++ ys) = distinct (xs' ++ ys') := by
  rw [distinct_append, distinct_append, hx, ← addAllNew_distinct _ ys, hy, addAllNew_distinct]

theorem distinct_distinct (xs : List α) : distinct (distinct xs) = distinct xs :=
  addAllNew_distinct [] xs

end Distinct

namespace ScopeKind

structure PartOf (k l : ScopeKind) : Prop where
  variant : k.variant = l.variant ∨ k.variant = .plain
  superclass : ∀ c ∈ k.superclass?, c ∈ l.superclass?
  isAbstract : k.variant = l.variant → k.isAbstract = l.isAbstract
  enumerators : k.enumerators ≠ [] → k.enumerators = l.enumerators
  fields : k.fields ≠ [] → k.fields = l.fields

theorem PartOf.refl (k : ScopeKind) : k.PartOf k :=
  ⟨.inl rfl, fun _ => id, fun _ => rfl, fun _ => rfl, fun _ => rfl⟩

theorem Compatible.refl (k : ScopeKind) : k.Compatible k where
  variant := .inl rfl
  isAbstract _ := rfl
  superclass _ hc _ hd := Option.mem_unique hc hd
  enumerators _ _ _ := Iff.rfl
  fields _ _ _ := Iff.rfl

theorem isAbstract_eq_false {k : ScopeKind} (h : k.variant = .plain) : k.isAbstract = false := by
  simp [isAbstract, header?_eq_none h]

theorem superclass?_eq_none {k : ScopeKind} (h : k.variant = .plain) : k.superclass? = none := by
  simp [superclass?, header?_eq_none h]

theorem PartOf.variant_of_plain {k l : ScopeKind} (h : k.PartOf l) (hl : l.variant = .plain) :
    k.variant = .plain :=
  h.variant.elim (·.trans hl) id

theorem PartOf.compatible {k k' l l' : ScopeKind} (hk : k.PartOf k') (hl : l.PartOf l')
    (h : k'.Compatible l') : k.Compatible l := by
  constructor
  · rcases hk.variant with hkv | hkp
    · rcases hl.variant with hlv | hlp
      · rw [hkv, hlv]
        exact h.variant
      · exact .inr (.inr hlp)
    · exact .inr (.inl hkp)
  · intro hv
    by_cases hp : k.variant = .plain
    · rw [isAbstract_eq_false hp, isAbstract_eq_false (hv ▸ hp)]
    · have hkv : k.variant = k'.variant := hk.variant.resolve_right hp
      have hlv : l.variant = l'.variant := hl.variant.resolve_right (hv ▸ hp)
      rw [hk.isAbstract hkv, hl.isAbstract hlv]
      apply h.isAbstract
      rw [← hkv, hv, hlv]
  · intro c hc d hd
    exact h.superclass c (hk.superclass c hc) d (hl.superclass d hd)
  · intro hke hle
    have hke' := hk.enumerators hke
    have hle' := hl.enumerators hle
    rw [hke', hle']
    exact h.enumerators (hke' ▸ hke) (hle' ▸ hle)
  · intro hkf hlf
    have hkf' := hk.fields hkf
    have hlf' := hl.fields hlf
    rw [hkf', hlf']
    exact h.fields (hkf' ▸ hkf) (hlf' ▸ hlf)

end ScopeKind

namespace Scope

structure Silent (s : Scope) : Prop where
  comments : s.comments = []
  isFinal : s.kind.isFinal = false
  isInterface : s.kind.isInterface = false
  enumerators : s.kind.enumerators = []
  fields : s.kind.fields = []

/-- The openings of a scope: all have its name and are plain or of its variant, and those of its
variant have its superclass and its abstract mark. The first of its variant says whatever else the
scope says, and the others are silent. Together they name the mixins of the scope. -/
structure Fragments (s : Scope) (ss : List Scope) : Prop where
  name : ∀ t ∈ ss, t.name = s.name
  variant : ∀ t ∈ ss, t.kind.variant = s.kind.variant ∨ t.kind.variant = .plain
  superclass : ∀ t ∈ ss, t.kind.variant = s.kind.variant → t.kind.superclass? = s.kind.superclass?
  isAbstract : ∀ t ∈ ss, t.kind.variant = s.kind.variant → t.kind.isAbstract = s.kind.isAbstract
  first : ∃ before f after, ss = before ++ f :: after ∧
    (∀ t ∈ before, t.kind.variant ≠ s.kind.variant) ∧ f.kind = s.kind ∧ f.comments = s.comments ∧
      ∀ t ∈ before ++ after, t.Silent
  extended : distinct (ss.flatMap (·.extended)) = s.extended
  included : distinct (ss.flatMap (·.included)) = s.included

inductive Pieces (s : Scope) : List Scope → Prop
  | whole : Pieces s [s]
  | split {ss : List Scope} (hlen : 2 ≤ ss.length) (h : Fragments s ss) : Pieces s ss

structure Leads (f s : Scope) : Prop where
  name : f.name = s.name
  kind : f.kind = s.kind
  comments : f.comments = s.comments

section Fragments

variable {s : Scope} {ss : List Scope}

theorem Fragments.partOf (h : Fragments s ss) {t : Scope} (ht : t ∈ ss) : t.kind.PartOf s.kind := by
  obtain ⟨before, f, after, rfl, -, hkind, -, hsilent⟩ := h.first
  have hother : t = f ∨ t.Silent := by
    rcases List.mem_append.mp ht with hb | hc
    · exact .inr (hsilent t (List.mem_append_left _ hb))
    · rcases List.mem_cons.mp hc with rfl | ha
      · exact .inl rfl
      · exact .inr (hsilent t (List.mem_append_right _ ha))
  refine ⟨h.variant t ht, ?_, h.isAbstract t ht, ?_, ?_⟩
  · intro c hc
    rcases h.variant t ht with hv | hp
    · rwa [← h.superclass t ht hv]
    · rw [ScopeKind.superclass?_eq_none hp] at hc
      cases hc
  · intro hne
    rcases hother with rfl | hs
    · rw [hkind]
    · exact absurd hs.enumerators hne
  · intro hne
    rcases hother with rfl | hs
    · rw [hkind]
    · exact absurd hs.fields hne

theorem any_eq_of_silent {before after : List Scope} {f : Scope} {p : Scope → Bool}
    (h : ∀ t ∈ before ++ after, p t = false) : (before ++ f :: after).any p = p f := by
  have hb : before.any p = false := List.any_eq_false.mpr fun t ht => by simp [h t (by simp [ht])]
  have ha : after.any p = false := List.any_eq_false.mpr fun t ht => by simp [h t (by simp [ht])]
  rw [List.any_append, List.any_cons, hb, ha, Bool.false_or, Bool.or_false]

theorem firstFilled_eq_of_silent {α : Type} {before after : List Scope} {f : Scope}
    {g : Scope → List α} (h : ∀ t ∈ before ++ after, g t = []) :
    firstFilled [] ((before ++ f :: after).map g) = g f := by
  have hb : firstFilled [] (before.map g) = [] := firstFilled_map_eq_nil fun t ht => h t (by simp [ht])
  have ha : firstFilled [] (after.map g) = [] := firstFilled_map_eq_nil fun t ht => h t (by simp [ht])
  rw [List.map_append, firstFilled_append, if_pos hb, List.map_cons, firstFilled_cons, ha]
  by_cases hf : g f = [] <;> simp [hf]

theorem Fragments.superclass?_eq (h : Fragments s ss) :
    s.kind.superclass? = ss.findSome? (·.kind.superclass?) := by
  obtain ⟨before, f, after, hss, -, hkind, -⟩ := h.first
  have hf : f ∈ ss := by simp [hss]
  cases hc : s.kind.superclass? with
  | none =>
    symm
    rw [List.findSome?_eq_none_iff]
    intro t ht
    rcases h.variant t ht with hv | hp
    · rw [h.superclass t ht hv, hc]
    · exact ScopeKind.superclass?_eq_none hp
  | some c =>
    obtain ⟨d, hd⟩ : ∃ d, ss.findSome? (·.kind.superclass?) = some d := by
      rw [← Option.isSome_iff_exists, List.findSome?_isSome_iff]
      exact ⟨f, hf, by simp [hkind, hc]⟩
    obtain ⟨t, ht, htd⟩ := List.exists_of_findSome?_eq_some hd
    have hds : d ∈ s.kind.superclass? := (h.partOf ht).superclass d htd
    rw [hd, ← hc]
    exact hds

theorem Fragments.isAbstract_eq (h : Fragments s ss) :
    s.kind.isAbstract = ss.any (·.kind.isAbstract) := by
  obtain ⟨before, f, after, hss, -, hkind, -⟩ := h.first
  have hf : f ∈ ss := by simp [hss]
  cases ha : s.kind.isAbstract with
  | true =>
    symm
    rw [List.any_eq_true]
    exact ⟨f, hf, by rw [hkind, ha]⟩
  | false =>
    symm
    rw [List.any_eq_false]
    intro t ht
    rcases h.variant t ht with hv | hp
    · simp [h.isAbstract t ht hv, ha]
    · simp [ScopeKind.isAbstract_eq_false hp]

theorem Fragments.tells (h : Fragments s ss) : s.Tells ss := by
  have hsuper := h.superclass?_eq
  have habs := h.isAbstract_eq
  obtain ⟨before, f, after, rfl, -, hkind, -, hsilent⟩ := h.first
  refine ⟨hsuper, habs, ?_, ?_, ?_, ?_⟩
  · rw [any_eq_of_silent fun t ht => (hsilent t ht).isFinal, hkind]
  · rw [any_eq_of_silent fun t ht => (hsilent t ht).isInterface, hkind]
  · rw [firstFilled_eq_of_silent fun t ht => (hsilent t ht).enumerators, hkind]
  · rw [firstFilled_eq_of_silent fun t ht => (hsilent t ht).fields, hkind]

theorem Fragments.comments (h : Fragments s ss) : ss.flatMap (·.comments) = s.comments := by
  obtain ⟨before, f, after, rfl, -, -, hcomments, hsilent⟩ := h.first
  have hb : before.flatMap (·.comments) = [] :=
    List.flatMap_eq_nil_iff.mpr fun t ht => (hsilent t (by simp [ht])).comments
  have ha : after.flatMap (·.comments) = [] :=
    List.flatMap_eq_nil_iff.mpr fun t ht => (hsilent t (by simp [ht])).comments
  rw [List.flatMap_append, List.flatMap_cons, hb, ha, hcomments, List.nil_append, List.append_nil]

theorem Fragments.find? (h : Fragments s ss) (hs : s.kind.variant ≠ .plain) :
    ∃ f, ss.find? (·.kind.variant != .plain) = some f ∧ f.Leads s := by
  have hname := h.name
  have hvariant := h.variant
  obtain ⟨before, f, after, rfl, hbefore, hkind, hcomments, -⟩ := h.first
  refine ⟨f, ?_, hname f (by simp), hkind, hcomments⟩
  have hnone : before.find? (·.kind.variant != .plain) = none := by
    rw [List.find?_eq_none]
    intro t ht
    have hp := (hvariant t (by simp [ht])).resolve_left (hbefore t ht)
    simp [hp]
  have hsome : (f :: after).find? (·.kind.variant != .plain) = some f := by simp [hkind, hs]
  rw [List.find?_append, hnone, Option.none_or, hsome]

theorem Fragments.head? (h : Fragments s ss) (hs : s.kind.variant = .plain) :
    ss.find? (·.kind.variant != .plain) = none ∧ ∃ f, ss.head? = some f ∧ f.Leads s := by
  constructor
  · rw [List.find?_eq_none]
    intro t ht
    simp [(h.partOf ht).variant_of_plain hs]
  · have hname := h.name
    have hvariant := h.variant
    obtain ⟨before, f, after, rfl, hbefore, hkind, hcomments, -⟩ := h.first
    cases before with
    | nil => exact ⟨f, rfl, hname f (by simp), hkind, hcomments⟩
    | cons t before =>
      -- A fragment before the first of its variant would be plain, and so of that variant.
      have hp := (hvariant t (by simp)).elim (·.trans hs) id
      exact absurd (hp.trans hs.symm) (hbefore t (by simp))

end Fragments

section Pieces

variable {s : Scope} {ss : List Scope}

theorem Leads.refl (s : Scope) : s.Leads s := ⟨rfl, rfl, rfl⟩

theorem Pieces.length_pos (h : Pieces s ss) : 0 < ss.length := by
  cases h with
  | whole => exact Nat.one_pos
  | split hlen _ => omega

theorem Pieces.name (h : Pieces s ss) {t : Scope} (ht : t ∈ ss) : t.name = s.name := by
  cases h with
  | whole => rw [List.mem_singleton.mp ht]
  | split _ h => exact h.name t ht

theorem Pieces.partOf (h : Pieces s ss) {t : Scope} (ht : t ∈ ss) : t.kind.PartOf s.kind := by
  cases h with
  | whole =>
    rw [List.mem_singleton.mp ht]
    exact .refl _
  | split _ h => exact h.partOf ht

theorem Pieces.tells (h : Pieces s ss) : s.Tells ss := by
  cases h with
  | whole => exact tells_singleton s
  | split _ h => exact h.tells

theorem Pieces.comments (h : Pieces s ss) : ss.flatMap (·.comments) = s.comments := by
  cases h with
  | whole => exact List.flatMap_singleton ..
  | split _ h => exact h.comments

theorem Pieces.extended (h : Pieces s ss) :
    distinct (ss.flatMap (·.extended)) = distinct s.extended := by
  cases h with
  | whole => rw [List.flatMap_singleton]
  | split _ h => rw [← h.extended, distinct_distinct]

theorem Pieces.included (h : Pieces s ss) :
    distinct (ss.flatMap (·.included)) = distinct s.included := by
  cases h with
  | whole => rw [List.flatMap_singleton]
  | split _ h => rw [← h.included, distinct_distinct]

theorem Pieces.find? (h : Pieces s ss) (hs : s.kind.variant ≠ .plain) :
    ∃ f, ss.find? (·.kind.variant != .plain) = some f ∧ f.Leads s := by
  cases h with
  | whole => exact ⟨s, by simp [hs], .refl s⟩
  | split _ h => exact h.find? hs

theorem Pieces.head? (h : Pieces s ss) (hs : s.kind.variant = .plain) :
    ss.find? (·.kind.variant != .plain) = none ∧ ∃ f, ss.head? = some f ∧ f.Leads s := by
  cases h with
  | whole => exact ⟨by simp [hs], s, rfl, .refl s⟩
  | split _ h => exact h.head? hs

end Pieces

section Broken

variable {xs : List Scope} {yss : List (List Scope)} (h : List.Forall₂ Pieces xs yss)

include h

theorem length_le_length_pieces : xs.length ≤ yss.flatten.length := by
  induction h with
  | nil => exact Nat.le_refl 0
  | cons hs _ ih =>
    have hpos := hs.length_pos
    rw [List.flatten_cons, List.length_append, List.length_cons]
    omega

theorem exists_of_mem_pieces {t : Scope} (ht : t ∈ yss.flatten) :
    ∃ s ∈ xs, t.kind.PartOf s.kind := by
  induction h with
  | nil => cases ht
  | @cons s ss xs yss hs _ ih =>
    rcases List.mem_append.mp (List.flatten_cons ▸ ht) with ht | ht
    · exact ⟨s, by simp, hs.partOf ht⟩
    · obtain ⟨s', hs', hpart⟩ := ih ht
      exact ⟨s', by simp [hs'], hpart⟩

theorem compatible_pieces (hxs : Compatible xs) : Compatible yss.flatten := by
  intro t ht t' ht'
  obtain ⟨s, hs, hpart⟩ := exists_of_mem_pieces h ht
  obtain ⟨s', hs', hpart'⟩ := exists_of_mem_pieces h ht'
  exact hpart.compatible hpart' (hxs s hs s' hs')

theorem find?_pieces :
    (xs.find? (·.kind.variant != .plain) = none ∧
        yss.flatten.find? (·.kind.variant != .plain) = none) ∨
      ∃ b f, xs.find? (·.kind.variant != .plain) = some b ∧
        yss.flatten.find? (·.kind.variant != .plain) = some f ∧ f.Leads b := by
  induction h with
  | nil => exact .inl ⟨rfl, rfl⟩
  | @cons s ss xs yss hs _ ih =>
    rw [List.flatten_cons, List.find?_append]
    by_cases hp : s.kind.variant = .plain
    · have hskip : (s :: xs).find? (·.kind.variant != .plain) = xs.find? (·.kind.variant != .plain) := by
        simp [hp]
      rw [hskip, (hs.head? hp).1, Option.none_or]
      exact ih
    · have hsome : (s :: xs).find? (·.kind.variant != .plain) = some s := by simp [hp]
      obtain ⟨f, hf, hlead⟩ := hs.find? hp
      rw [hsome, hf, Option.some_or]
      exact .inr ⟨s, f, rfl, rfl, hlead⟩

theorem base?_pieces {b : Scope} (hb : base? xs = some b) :
    ∃ f, base? yss.flatten = some f ∧ f.Leads b := by
  rw [base?] at hb
  rcases find?_pieces h with ⟨hx, hy⟩ | ⟨c, f, hx, hy, hlead⟩
  · cases h with
    | nil => cases hb
    | @cons s ss xs yss hs _ =>
      rw [hx, Option.none_or, List.head?_cons, Option.some.injEq] at hb
      subst hb
      have hp : s.kind.variant = .plain := by simpa using List.find?_eq_none.mp hx s (by simp)
      obtain ⟨-, f, hf, hlead⟩ := hs.head? hp
      refine ⟨f, ?_, hlead⟩
      rw [base?, hy, Option.none_or, List.flatten_cons, List.head?_append, hf, Option.some_or]
  · rw [hx, Option.some_or, Option.some.injEq] at hb
    subst hb
    exact ⟨f, by rw [base?, hy, Option.some_or], hlead⟩

theorem flatMap_comments_pieces :
    yss.flatten.flatMap (·.comments) = xs.flatMap (·.comments) := by
  induction h with
  | nil => rfl
  | cons hs _ ih => rw [List.flatten_cons, List.flatMap_append, List.flatMap_cons, hs.comments, ih]

theorem distinct_flatMap_pieces {f : Scope → List String}
    (hf : ∀ s ss, Pieces s ss → distinct (ss.flatMap f) = distinct (f s)) :
    distinct (yss.flatten.flatMap f) = distinct (xs.flatMap f) := by
  induction h with
  | nil => rfl
  | cons hs _ ih =>
    rw [List.flatten_cons, List.flatMap_append, List.flatMap_cons]
    exact distinct_append_congr (hf _ _ hs) ih

theorem Tells.pieces {u : Scope} (hu : u.Tells xs) : u.Tells yss.flatten := by
  have hall : xs.findSome? (·.kind.superclass?) = yss.flatten.findSome? (·.kind.superclass?) ∧
      xs.any (·.kind.isAbstract) = yss.flatten.any (·.kind.isAbstract) ∧
      xs.any (·.kind.isFinal) = yss.flatten.any (·.kind.isFinal) ∧
      xs.any (·.kind.isInterface) = yss.flatten.any (·.kind.isInterface) ∧
      firstFilled [] (xs.map (·.kind.enumerators)) =
        firstFilled [] (yss.flatten.map (·.kind.enumerators)) ∧
      firstFilled [] (xs.map (·.kind.fields)) = firstFilled [] (yss.flatten.map (·.kind.fields)) := by
    clear hu
    induction h with
    | nil => exact ⟨rfl, rfl, rfl, rfl, rfl, rfl⟩
    | @cons s ss xs yss hs _ ih =>
      obtain ⟨hsuper, habs, hfinal, hiface, henums, hfields⟩ := ih
      have htells := hs.tells
      refine ⟨?_, ?_, ?_, ?_, ?_, ?_⟩
      · rw [List.flatten_cons, List.findSome?_append, List.findSome?_cons, hsuper, ← htells.superclass?]
        cases s.kind.superclass? <;> rfl
      · rw [List.flatten_cons, List.any_append, List.any_cons, habs, htells.isAbstract]
      · rw [List.flatten_cons, List.any_append, List.any_cons, hfinal, htells.isFinal]
      · rw [List.flatten_cons, List.any_append, List.any_cons, hiface, htells.isInterface]
      · rw [List.flatten_cons, List.map_append, List.map_cons, firstFilled_append, firstFilled_cons,
          henums, htells.enumerators]
      · rw [List.flatten_cons, List.map_append, List.map_cons, firstFilled_append, firstFilled_cons,
          hfields, htells.fields]
  obtain ⟨hsuper, habs, hfinal, hiface, henums, hfields⟩ := hall
  exact ⟨hu.superclass?.trans hsuper, hu.isAbstract.trans habs, hu.isFinal.trans hfinal,
    hu.isInterface.trans hiface, hu.enumerators.trans henums, hu.fields.trans hfields⟩

theorem joins_pieces {b : Scope} (hxs : Compatible xs) (hb : base? xs = some b)
    (hlen : 2 ≤ yss.flatten.length) : Joins yss.flatten (b.union xs) := by
  obtain ⟨f, hf, hlead⟩ := base?_pieces h hb
  have hys := compatible_pieces h hxs
  have hkind : (b.union xs).kind = (f.union yss.flatten).kind := by
    apply ((union_tells hxs hb).pieces h).kind_eq (union_tells hys hf)
    rw [union_variant, union_variant, hlead.kind]
  have hunion : b.union xs = f.union yss.flatten := by
    rw [union, union, mk.injEq]
    refine ⟨hlead.name.symm, hkind, ?_, ?_, ?_, rfl⟩
    · rw [hlead.comments, flatMap_comments_pieces h]
    · exact (distinct_flatMap_pieces h fun _ _ => Pieces.extended).symm
    · exact (distinct_flatMap_pieces h fun _ _ => Pieces.included).symm
  rw [hunion]
  exact .many hlen hys hf

end Broken

def flushed (s : Scope) : Scope := { s with pending := [] }

theorem compatible_singleton (s : Scope) : Compatible [s] := by
  intro t ht t' ht'
  rw [List.mem_singleton.mp ht, List.mem_singleton.mp ht']
  exact .refl _

theorem base?_singleton (s : Scope) : base? [s] = some s := by
  rw [base?_cons]
  split <;> rfl

theorem union_self {s : Scope} (he : distinct s.extended = s.extended)
    (hi : distinct s.included = s.included) : s.union [s] = s.flushed := by
  have hkind : (s.union [s]).kind = s.kind :=
    (union_tells (compatible_singleton s) (base?_singleton s)).kind_eq (tells_singleton s)
      (union_variant ..)
  rw [union, flushed, mk.injEq]
  refine ⟨rfl, hkind, ?_, ?_, ?_, rfl⟩
  · rw [List.flatMap_singleton]
    exact addAllNew_of_subset fun _ => id
  · rw [List.flatMap_singleton, he]
  · rw [List.flatMap_singleton, hi]

theorem Joins.pieces {xs : List Scope} {yss : List (List Scope)} {u : Scope} (hu : Joins xs u)
    (h : List.Forall₂ Pieces xs yss) : ∃ v, Joins yss.flatten v ∧ (v = u ∨ v = u.flushed) := by
  cases hu with
  | one =>
    cases h with
    | cons hs hrest =>
      cases hrest
      rw [List.flatten_singleton]
      cases hs with
      | whole => exact ⟨u, .one u, .inl rfl⟩
      | split hlen hss =>
        have he : distinct u.extended = u.extended := by rw [← hss.extended, distinct_distinct]
        have hi : distinct u.included = u.included := by rw [← hss.included, distinct_distinct]
        have hj := joins_pieces (.cons (.split hlen hss) .nil) (compatible_singleton u)
          (base?_singleton u) (by rwa [List.flatten_singleton])
        rw [List.flatten_singleton, union_self he hi] at hj
        exact ⟨u.flushed, hj, .inr rfl⟩
  | many hlen hxs hb =>
    have hle := length_le_length_pieces h
    exact ⟨_, joins_pieces h hxs hb (by omega), .inl rfl⟩

end Scope

end RubyStubs
