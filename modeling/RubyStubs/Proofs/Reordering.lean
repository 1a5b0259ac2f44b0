import RubyStubs.Proofs.KeyPath
import RubyStubs.Proofs.Union

namespace RubyStubs

namespace Scope

structure Alike (s t : Scope) : Prop where
  variant : s.kind.variant = t.kind.variant
  superclass : s.kind.superclass? = t.kind.superclass?
  isAbstract : s.kind.isAbstract = t.kind.isAbstract
  isFinal : s.kind.isFinal = t.kind.isFinal
  isInterface : s.kind.isInterface = t.kind.isInterface
  included : ∀ x, x ∈ s.included ↔ x ∈ t.included
  extended : ∀ x, x ∈ s.extended ↔ x ∈ t.extended
  enumerators : ∀ e, e ∈ s.kind.enumerators ↔ e ∈ t.kind.enumerators
  fields : ∀ f, f ∈ s.kind.fields ↔ f ∈ t.kind.fields

theorem IsUnion.alike {s t : Scope} {N : Scope → Prop} (hs : s.IsUnion N) (ht : t.IsUnion N)
    (hv : s.kind.variant = t.kind.variant) : s.Alike t where
  variant := hv
  superclass := Option.ext fun c => (hs.superclass c).trans (ht.superclass c).symm
  isAbstract := Bool.eq_iff_iff.mpr (hs.isAbstract.trans ht.isAbstract.symm)
  isFinal := Bool.eq_iff_iff.mpr (hs.isFinal.trans ht.isFinal.symm)
  isInterface := Bool.eq_iff_iff.mpr (hs.isInterface.trans ht.isInterface.symm)
  included x := (hs.included x).trans (ht.included x).symm
  extended x := (hs.extended x).trans (ht.extended x).symm
  enumerators e := (hs.enumerators e).trans (ht.enumerators e).symm
  fields f := (hs.fields f).trans (ht.fields f).symm

theorem Alike.refl (s : Scope) : s.Alike s := s.isUnion_self.alike s.isUnion_self rfl

theorem Alike.symm {s t : Scope} (h : s.Alike t) : t.Alike s where
  variant := h.variant.symm
  superclass := h.superclass.symm
  isAbstract := h.isAbstract.symm
  isFinal := h.isFinal.symm
  isInterface := h.isInterface.symm
  included x := (h.included x).symm
  extended x := (h.extended x).symm
  enumerators e := (h.enumerators e).symm
  fields f := (h.fields f).symm

theorem base?_variant_of_perm {ss ts : List Scope} {b c : Scope} (hss : Compatible ss)
    (hp : ss.Perm ts) (hb : base? ss = some b) (hc : base? ts = some c) :
    b.kind.variant = c.kind.variant := by
  obtain ⟨hbs, hbplain⟩ := base?_eq_some hb
  obtain ⟨hct, hcplain⟩ := base?_eq_some hc
  have hcs : c ∈ ss := hp.mem_iff.mpr hct
  rcases (hss b hbs c hcs).variant with hv | hv | hv
  · exact hv
  · rw [hv, hbplain hv c hcs]
  · rw [hv, hcplain hv b (hp.mem_iff.mp hbs)]

theorem Joins.perm {ss ts : List Scope} {s : Scope} (h : Joins ss s) (hp : ss.Perm ts) :
    ∃ t, Joins ts t ∧ s.Alike t := by
  have hs := h.isUnion
  cases h with
  | one s =>
    cases List.singleton_perm.mp hp
    exact ⟨s, .one s, .refl s⟩
  | @many _ b hlen hss hb =>
    have hlen' : 2 ≤ ts.length := hp.length_eq ▸ hlen
    obtain ⟨c, hc⟩ : ∃ c, base? ts = some c := by
      apply exists_base?
      rintro rfl
      simp at hlen'
    have hts : Compatible ts := fun s hs t ht => hss s (hp.mem_iff.mpr hs) t (hp.mem_iff.mpr ht)
    have hj : Joins ts (c.union ts) := .many hlen' hts hc
    have hmem : (· ∈ ts) = (· ∈ ss) := funext fun s => propext hp.mem_iff.symm
    refine ⟨_, hj, hs.alike (hmem ▸ hj.isUnion) ?_⟩
    rw [union_variant, union_variant]
    exact base?_variant_of_perm hss hp hb hc

end Scope

namespace Decl

inductive Alike : Decl → Decl → Prop
  | scope {s t : Scope} (h : s.Alike t) (cs ds : List Decl) : Alike (.scope s cs) (.scope t ds)
  | member {m n : Member} (h : m.Alike n) : Alike (.member m) (.member n)

theorem Alike.refl (d : Decl) : d.Alike d := by
  cases d with
  | scope s ds => exact .scope (.refl s) ds ds
  | member m => exact .member (.refl m)

theorem Alike.symm {d e : Decl} (h : d.Alike e) : e.Alike d := by
  cases h with
  | scope h cs ds => exact .scope h.symm ds cs
  | member h => exact .member h.symm

/-- The second tree is the first with siblings in another order, at any number of depths. -/
inductive Permuted : Decl → Decl → Prop
  | member (m : Member) : Permuted (.member m) (.member m)
  | scope (s : Scope) {ds es fs : List Decl} (hp : ds.Perm es) (h : List.Forall₂ Permuted es fs) :
      Permuted (.scope s ds) (.scope s fs)

def PermutedAll (ds fs : List Decl) : Prop := ∃ es, ds.Perm es ∧ List.Forall₂ Permuted es fs

theorem Permuted.key {d e : Decl} (h : Permuted d e) : d.key = e.key := by
  cases h <;> rfl

theorem Permuted.children {d e : Decl} (h : Permuted d e) : PermutedAll d.children e.children := by
  cases h with
  | member m => exact ⟨[], .nil, .nil⟩
  | scope s hp h => exact ⟨_, hp, h⟩

theorem Alike.permuted {c d e : Decl} (hcd : c.Alike d) (hde : Permuted d e) : c.Alike e := by
  cases hde with
  | member m => exact hcd
  | scope s hp h =>
    cases hcd with
    | scope hst cs ds => exact .scope hst cs _

theorem PermutedAll.symm_of {ds fs : List Decl} (h : PermutedAll ds fs)
    (ih : ∀ d ∈ ds, ∀ f, Permuted d f → Permuted f d) : PermutedAll fs ds := by
  obtain ⟨es, hp, h⟩ := h
  have hes : ∀ e ∈ es, ∀ f, Permuted e f → Permuted f e := fun e he => ih e (hp.mem_iff.mpr he)
  have hflip : List.Forall₂ Permuted fs es :=
    ((List.forall₂_and_left es fs).mpr ⟨hes, h⟩ |>.imp fun e f hef => hef.1 f hef.2).flip
  have hcomp : Relation.Comp (List.Forall₂ Permuted) List.Perm fs ds := ⟨es, hflip, hp.symm⟩
  rwa [List.forall₂_comp_perm_eq_perm_comp_forall₂] at hcomp

theorem Permuted.symm_of_height_le {n : Nat} {d e : Decl} (hn : d.height ≤ n) (h : Permuted d e) :
    Permuted e d := by
  induction n generalizing d e with
  | zero =>
    cases h with
    | member m => exact .member m
    | scope s hp h => rw [height] at hn; omega
  | succ n ih =>
    cases h with
    | member m => exact .member m
    | @scope s ds es fs hp h =>
      rw [height] at hn
      obtain ⟨gs, hgs, hds⟩ := PermutedAll.symm_of ⟨es, hp, h⟩ fun d hd f hdf =>
        ih (Nat.le_trans (height_le_heightAll hd) (by omega)) hdf
      exact .scope s hgs hds

theorem Permuted.symm {d e : Decl} (h : Permuted d e) : Permuted e d :=
  h.symm_of_height_le (Nat.le_refl _)

theorem PermutedAll.symm {ds es : List Decl} (h : PermutedAll ds es) : PermutedAll es ds :=
  h.symm_of fun _ _ _ => Permuted.symm

theorem PermutedAll.append {as bs cs ds : List Decl} (h : PermutedAll as bs) (h' : PermutedAll cs ds) :
    PermutedAll (as ++ cs) (bs ++ ds) := by
  obtain ⟨es, hp, h⟩ := h
  obtain ⟨fs, hp', h'⟩ := h'
  exact ⟨es ++ fs, hp.append hp', List.rel_append h h'⟩

theorem PermutedAll.ofKey {ds es : List Decl} (h : PermutedAll ds es) (k : MergeKey) :
    PermutedAll (ofKey k ds) (ofKey k es) := by
  obtain ⟨cs, hp, h⟩ := h
  refine ⟨Decl.ofKey k cs, hp.filter _, List.rel_filter ?_ h⟩
  intro c d hcd
  simp [hcd.key]

theorem Survives.perm {ds es : List Decl} {d : Decl} (h : Survives ds d) (hp : ds.Perm es) :
    ∃ e, Survives es e ∧ d.Alike e ∧ d.children.Perm e.children := by
  cases h with
  | member m ns h =>
    obtain ⟨ms, rfl⟩ : ∃ ms : List Member, es = ms.map .member := by
      apply exists_members
      intro e he
      have he' := hp.mem_iff.mpr he
      rw [← List.map_cons (f := Decl.member)] at he'
      obtain ⟨n, -, rfl⟩ := List.mem_map.mp he'
      exact ⟨n, rfl⟩
    have hpm : (m :: ns).Perm ms := (List.map_perm_map_iff fun _ _ => member.inj).mp hp
    cases ms with
    | nil => cases hpm.eq_nil
    | cons m' ms =>
      refine ⟨.member m', .member m' ms (Member.agrees_of_perm h hpm), .member ?_, .nil⟩
      rcases List.mem_cons.mp (hpm.mem_iff.mpr List.mem_cons_self) with rfl | hm'
      · exact .refl m'
      · exact ((m.agrees_iff m').mp (h m' hm')).1
  | scope ps s h =>
    obtain ⟨qs, rfl⟩ : ∃ qs, es = ofScopes qs := by
      apply exists_ofScopes
      intro e he
      exact isScope_of_mem_ofScopes ps e (hp.mem_iff.mpr he)
    have hpq : ps.Perm qs := (List.map_perm_map_iff scope_injective).mp hp
    obtain ⟨t, ht, hst⟩ := h.perm (hpq.map (·.1))
    exact ⟨_, .scope qs t ht, .scope hst _ _, hpq.flatMap_right _⟩

theorem exists_ofScopes_of_permuted {ps : List (Scope × List Decl)} {es : List Decl}
    (h : List.Forall₂ Permuted (ofScopes ps) es) :
    ∃ qs, es = ofScopes qs ∧ qs.map (·.1) = ps.map (·.1) ∧
      PermutedAll (ps.flatMap (·.2)) (qs.flatMap (·.2)) := by
  induction ps generalizing es with
  | nil =>
    cases h
    exact ⟨[], rfl, rfl, [], .nil, .nil⟩
  | cons p ps ih =>
    cases h with
    | @cons _ e _ es hp h =>
      obtain ⟨qs, rfl, hqs, hchildren⟩ := ih h
      have hall := hp.children
      cases hp with
      | @scope _ _ _ fs _ _ =>
        refine ⟨(p.1, fs) :: qs, rfl, by rw [List.map_cons, List.map_cons, hqs], ?_⟩
        rw [List.flatMap_cons, List.flatMap_cons]
        exact hall.append hchildren

theorem eq_of_permuted_members (ms : List Member) {es : List Decl}
    (h : List.Forall₂ Permuted (ms.map .member) es) : es = ms.map .member := by
  have heq : List.Forall₂ Eq (ms.map Decl.member) es := by
    rw [List.forall₂_map_left_iff] at h ⊢
    refine h.imp fun m e hme => ?_
    cases hme
    rfl
  rw [List.forall₂_eq_eq_eq] at heq
  exact heq.symm

theorem Survives.permuted {ds es : List Decl} {d : Decl} (h : Survives ds d)
    (hp : List.Forall₂ Permuted ds es) : ∃ e, Survives es e ∧ Permuted d e := by
  cases h with
  | member m ns h =>
    cases eq_of_permuted_members (m :: ns) hp
    exact ⟨_, .member m ns h, .member m⟩
  | scope ps s h =>
    obtain ⟨qs, rfl, hqs, hchildren⟩ := exists_ofScopes_of_permuted hp
    obtain ⟨cs, hcs, hall⟩ := hchildren
    rw [← hqs] at h
    exact ⟨_, .scope qs s h, .scope s hcs hall⟩

structure Shuffled (d e : Decl) : Prop where
  key : d.key = e.key
  alike : d.Alike e
  children : PermutedAll d.children e.children

theorem Shuffled.symm {d e : Decl} (h : Shuffled d e) : Shuffled e d where
  key := h.key.symm
  alike := h.alike.symm
  children := h.children.symm

theorem Permuted.shuffled {d e : Decl} (h : Permuted d e) : Shuffled d e where
  key := h.key
  alike := (Alike.refl d).permuted h
  children := h.children

theorem Shuffled.survivor {d e c : Decl} (h : Shuffled d e) {k : MergeKey}
    (hc : Survives (ofKey k d.children) c) :
    ∃ c', Survives (ofKey k e.children) c' ∧ Shuffled c c' := by
  obtain ⟨ds, hp, hds⟩ := h.children.ofKey k
  obtain ⟨b, hb, hcb, hchildren⟩ := hc.perm hp
  obtain ⟨c', hc', hbc⟩ := hb.permuted hds
  obtain ⟨es, hes, hall⟩ := hbc.children
  refine ⟨c', hc', ?_, hcb.permuted hbc, es, hchildren.trans hes, hall⟩
  rw [hc.key ofKey_key, hc'.key ofKey_key]

end Decl

end RubyStubs
