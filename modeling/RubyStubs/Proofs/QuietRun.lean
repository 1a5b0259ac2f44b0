import RubyStubs.Proofs.Siblings

/-!
Runs that ask no question. `Decl.Resolves` says what such a run comes to without policy, state and
bound on the levels, and `resolve_of_resolves` that every policy arrives at it.
-/

namespace RubyStubs

variable {σ ε : Type}

theorem forall₂_map_map {α β γ : Type} {R : β → γ → Prop} {f : α → β} {g : α → γ} {xs : List α}
    (h : ∀ x ∈ xs, R (f x) (g x)) : List.Forall₂ R (xs.map f) (xs.map g) := by
  rw [List.forall₂_map_left_iff, List.forall₂_map_right_iff, List.forall₂_same]
  exact h

namespace Decl

inductive Resolves : Decl → Decl → Prop
  | member (m : Member) : Resolves (.member m) (.member m)
  | scope (s : Scope) (ds : List Decl) (survivor result : MergeKey → Decl)
      (hs : ∀ k ∈ keys ds, Survives (ofKey k ds) (survivor k))
      (hr : ∀ k ∈ keys ds, Resolves (survivor k) (result k)) :
      Resolves (.scope s ds) (.scope s ((keys ds).map result))

theorem Resolves.key {d r : Decl} (h : Resolves d r) : r.key = d.key := by
  cases h <;> rfl

section Level

variable {ds : List Decl} {survivor result : MergeKey → Decl}
  (hs : ∀ k ∈ keys ds, Survives (ofKey k ds) (survivor k))
  (hr : ∀ k ∈ keys ds, Resolves (survivor k) (result k))

include hs hr

theorem key_result {k : MergeKey} (hk : k ∈ keys ds) : (result k).key = k :=
  (hr k hk).key.trans ((hs k hk).key ofKey_key)

theorem map_key_result : ((keys ds).map result).map key = keys ds := by
  rw [List.map_map]
  exact (List.map_congr_left fun k hk => key_result hs hr hk).trans (List.map_id _)

theorem ofKey_result {k : MergeKey} (hk : k ∈ keys ds) : ofKey k ((keys ds).map result) = [result k] := by
  have hnodup : (((keys ds).map result).map key).Nodup := by
    rw [map_key_result hs hr]
    exact nodup_keys ds
  have h := ofKey_of_nodup hnodup (List.mem_map_of_mem hk)
  rwa [key_result hs hr hk] at h

theorem ofKey_result_of_not_mem {k : MergeKey} (hk : k ∉ keys ds) :
    ofKey k ((keys ds).map result) = [] := by
  rw [ofKey_eq_nil_iff, keys, map_key_result hs hr, distinct_of_nodup (nodup_keys ds)]
  exact hk

theorem mem_ofKey_result (k : MergeKey) (c : Decl) :
    c ∈ ofKey k ((keys ds).map result) ↔ k ∈ keys ds ∧ c = result k := by
  by_cases hk : k ∈ keys ds
  · rw [ofKey_result hs hr hk, List.mem_singleton]
    exact (and_iff_right hk).symm
  · rw [ofKey_result_of_not_mem hs hr hk]
    exact iff_of_false List.not_mem_nil fun h => hk h.1

end Level

theorem survives_singleton_iff (d e : Decl) : Survives [d] e ↔ e = d := by
  constructor
  · intro h
    cases d with
    | member m => exact ((survives_member_iff m [] e).mp h).1
    | scope s cs =>
      obtain ⟨t, ht, rfl⟩ := (survives_ofScopes_iff [(s, cs)] e).mp h
      cases ht with
      | one s => simp
      | many hlen => simp at hlen
  · rintro rfl
    exact survives_singleton e

end Decl

open Decl

namespace Policy

variable (p : Policy σ ε)

theorem settle_of_survives {d : Decl} {others : List Decl} {e : Decl} (h : Survives (d :: others) e)
    (s : σ) : p.settle d others s = (.ok (some e), s) := by
  rw [settle]
  cases others with
  | nil => simp [(survives_singleton_iff d e).mp h]
  | cons o os => simp [(fold_eq_ok_iff d (by simp) e).mpr h]

theorem settle_of_not_survives {d : Decl} {others : List Decl} (h : ∀ e, ¬ Survives (d :: others) e) :
    ∃ c, d.fold others = .error c ∧ ∀ s, p.settle d others s = p.choose c (d :: others) s := by
  have hne : others ≠ [] := by
    rintro rfl
    exact h d (survives_singleton d)
  cases hf : d.fold others with
  | ok e => exact absurd ((fold_eq_ok_iff d hne e).mp hf) (h e)
  | error c =>
    refine ⟨c, rfl, fun s => ?_⟩
    simp [settle, hf, hne]

theorem settleAll_of_survives {gs : List (Decl × List Decl)} {es : List Decl}
    (h : List.Forall₂ (fun g e => Survives (g.1 :: g.2) e) gs es) (s : σ) :
    p.settleAll gs s = (.ok es, s) := by
  induction h with
  | nil => rfl
  | @cons g e gs es hg _ ih =>
    rw [settleAll, p.settle_of_survives hg]
    simp [ih]

theorem settleAll_groups {ds : List Decl} {survivor : MergeKey → Decl}
    (h : ∀ k ∈ keys ds, Survives (ofKey k ds) (survivor k)) (s : σ) :
    p.settleAll (groups ds) s = (.ok ((keys ds).map survivor), s) := by
  apply settleAll_of_survives
  apply List.forall₂_map_left_iff.mp
  rw [groups_map_cons]
  exact forall₂_map_map h

end Policy

theorem visitAll_of_forall₂ {f : Decl → σ → Resolution σ ε Decl} {ds rs : List Decl} {s : σ}
    (h : List.Forall₂ (fun d r => f d s = { value := r, state := s }) ds rs) :
    visitAll f ds s = { value := rs, state := s } := by
  induction h with
  | nil => rfl
  | cons hd _ ih => simp [visitAll, hd, ih]

namespace Policy

variable (p : Policy σ ε)

theorem resolveTo_of_resolves {d r : Decl} (h : Resolves d r) {n : Nat} (hn : d.height ≤ n) (s : σ) :
    p.resolveTo n d s = { value := r, state := s } := by
  induction h generalizing n with
  | member m => cases n <;> rfl
  | scope info ds survivor result hs hr ih =>
    rw [height] at hn
    obtain ⟨n, rfl⟩ : ∃ m, n = m + 1 := ⟨n - 1, by omega⟩
    have hvisit : visitAll (p.resolveTo n) ((keys ds).map survivor) s =
        { value := (keys ds).map result, state := s } := by
      apply visitAll_of_forall₂
      apply forall₂_map_map
      intro k hk
      apply ih k hk
      have hle := (hs k hk).height_le
      have hkey := heightAll_ofKey_le k ds
      omega
    rw [resolveTo, p.settleAll_groups hs]
    simp [hvisit]

theorem resolve_of_resolves {d r : Decl} (h : Resolves d r) (s : σ) :
    p.resolve d s = { value := r, state := s } :=
  p.resolveTo_of_resolves h (Nat.le_add_right ..) s

end Policy

end RubyStubs
