import Mathlib.Data.List.Forall2
import RubyStubs.Decl.Merge

namespace RubyStubs

theorem Parameter.equivalent_trans {p q r : Parameter} (hpq : p.equivalent q = true)
    (hqr : q.equivalent r = true) : p.equivalent r = true := by
  simp only [equivalent, Bool.and_eq_true, Bool.or_eq_true, beq_iff_eq] at hpq hqr ⊢
  obtain ⟨⟨⟨⟨hn, hk⟩, hd⟩, hr⟩, ht⟩ := hpq
  obtain ⟨⟨⟨⟨hn', hk'⟩, hd'⟩, hr'⟩, ht'⟩ := hqr
  refine ⟨⟨⟨⟨hn.trans hn', hk.trans hk'⟩, hd.trans hd'⟩, hr.trans hr'⟩, ?_⟩
  rcases ht with ⟨hp, hq⟩ | ht
  · rcases ht' with ⟨-, hr⟩ | ht'
    · exact .inl ⟨hp, hr⟩
    · exact .inl ⟨hp, ht' ▸ hq⟩
  · rw [ht]
    exact ht'

namespace Method

theorem equivalent_iff (m n : Method) :
    m.equivalent n = true ↔
      List.Forall₂ (fun p q => p.equivalent q = true) m.parameters n.parameters ∧
        { m with parameters := [] } = { n with parameters := [] } := by
  rw [List.forall₂_iff_zip, equivalent, sameParameters]
  simp only [Bool.and_eq_true, beq_iff_eq, List.all_eq_true, Prod.forall]

theorem equivalent_refl (m : Method) : m.equivalent m = true := by
  rw [equivalent_iff, List.forall₂_same]
  exact ⟨fun p _ => p.equivalent_refl, rfl⟩

theorem equivalent_symm {m n : Method} (h : m.equivalent n = true) : n.equivalent m = true := by
  rw [equivalent_iff] at h ⊢
  exact ⟨(h.1.imp fun _ _ => Parameter.equivalent_symm).flip, h.2.symm⟩

theorem equivalent_trans {l m n : Method} (hlm : l.equivalent m = true) (hmn : m.equivalent n = true) :
    l.equivalent n = true := by
  rw [equivalent_iff] at hlm hmn ⊢
  refine ⟨?_, hlm.2.trans hmn.2⟩
  obtain ⟨hlm, -⟩ := hlm
  obtain ⟨hmn, -⟩ := hmn
  generalize l.parameters = ps at hlm ⊢
  generalize m.parameters = qs at hlm hmn
  generalize n.parameters = rs at hmn ⊢
  induction hlm generalizing rs with
  | nil => exact hmn
  | cons hpq _ ih =>
    cases hmn with
    | cons hqr hrest => exact .cons (Parameter.equivalent_trans hpq hqr) (ih _ hrest)

end Method

namespace MemberBody

inductive Alike : MemberBody → MemberBody → Prop
  | refl (a : MemberBody) : Alike a a
  | method {a b : Method} (h : a.equivalent b = true) : Alike (.method a) (.method b)
  | accessor (k : AttributeKind) {a b : Method} (h : a.equivalent b = true) :
      Alike (.attribute k a) (.attribute k b)

theorem Alike.symm {a b : MemberBody} (h : a.Alike b) : b.Alike a := by
  cases h with
  | refl => exact .refl _
  | method h => exact .method (Method.equivalent_symm h)
  | accessor k h => exact .accessor k (Method.equivalent_symm h)

theorem Alike.trans {a b c : MemberBody} (hab : a.Alike b) (hbc : b.Alike c) : a.Alike c := by
  cases hab with
  | refl => exact hbc
  | method h =>
    cases hbc with
    | refl => exact .method h
    | method h' => exact .method (Method.equivalent_trans h h')
  | accessor k h =>
    cases hbc with
    | refl => exact .accessor k h
    | accessor _ h' => exact .accessor k (Method.equivalent_trans h h')

theorem Alike.variant {a b : MemberBody} (h : a.Alike b) : a.variant = b.variant := by
  cases h <;> rfl

theorem alike_iff (a b : MemberBody) :
    a.Alike b ↔
      match a, b with
      | .method a, .method b => a.equivalent b = true
      | .attribute k a, .attribute l b => k = l ∧ a.equivalent b = true
      | a, b => a = b := by
  constructor
  · intro h
    cases h with
    | refl => cases a <;> simp [Method.equivalent_refl]
    | method h => exact h
    | accessor k h => exact ⟨rfl, h⟩
  · intro h
    split at h
    · exact .method h
    · obtain ⟨rfl, h⟩ := h
      exact .accessor _ h
    · exact h ▸ .refl _

end MemberBody

namespace Member

def Alike (m n : Member) : Prop := m.name = n.name ∧ m.body.Alike n.body

theorem Alike.refl (m : Member) : m.Alike m := ⟨rfl, .refl _⟩

theorem Alike.symm {m n : Member} (h : m.Alike n) : n.Alike m := ⟨h.1.symm, h.2.symm⟩

theorem Alike.trans {l m n : Member} (hlm : l.Alike m) (hmn : m.Alike n) : l.Alike n :=
  ⟨hlm.1.trans hmn.1, hlm.2.trans hmn.2⟩

theorem agrees_iff (m n : Member) : m.agrees n = true ↔ m.Alike n ∧ m.body.variant ≠ .code := by
  rw [agrees, Bool.and_eq_true, beq_iff_eq, Alike, and_assoc, MemberBody.alike_iff]
  apply and_congr_right'
  cases hm : m.body <;> cases hn : n.body <;> simp [MemberBody.variant]
  case mixin.mixin k _ l _ =>
    rintro rfl - h
    cases k <;> cases h

theorem agrees_symm {m n : Member} (h : m.agrees n = true) : n.agrees m = true := by
  rw [agrees_iff] at h ⊢
  exact ⟨h.1.symm, h.1.2.variant ▸ h.2⟩

theorem agrees_trans {l m n : Member} (hlm : l.agrees m = true) (hmn : m.agrees n = true) :
    l.agrees n = true := by
  rw [agrees_iff] at hlm hmn ⊢
  exact ⟨hlm.1.trans hmn.1, hlm.2⟩

theorem agrees_of_perm {m m' : Member} {ns ms : List Member} (h : ∀ n ∈ ns, m.agrees n = true)
    (hp : (m :: ns).Perm (m' :: ms)) : ∀ n ∈ ms, m'.agrees n = true := by
  intro n hn
  have hm' : m' ∈ m :: ns := hp.mem_iff.mpr List.mem_cons_self
  have hn' : n ∈ m :: ns := hp.mem_iff.mpr (List.mem_cons_of_mem _ hn)
  obtain ⟨a, ha⟩ : ∃ a, a ∈ ns := by
    apply List.exists_mem_of_length_pos
    have hlen := hp.length_eq
    have hpos := List.length_pos_of_mem hn
    simp only [List.length_cons] at hlen
    omega
  have hall : ∀ b ∈ m :: ns, m.agrees b = true := by
    rw [List.forall_mem_cons]
    exact ⟨agrees_trans (h a ha) (agrees_symm (h a ha)), h⟩
  exact agrees_trans (agrees_symm (hall m' hm')) (hall n hn')

end Member

def Decl.method? : Decl → Option Method
  | .member { body := .method m, .. } | .member { body := .attribute _ m, .. } => some m
  | _ => none

end RubyStubs
