import Mathlib.Data.List.Forall2
import RubyStubs.Conflict.Resolve
import RubyStubs.Proofs.Fold

namespace RubyStubs

namespace Decl

def keys (ds : List Decl) : List MergeKey := distinct (ds.map key)

def ofKey (k : MergeKey) (ds : List Decl) : List Decl := ds.filter (·.key == k)

theorem nodup_keys (ds : List Decl) : (keys ds).Nodup := nodup_distinct _

theorem mem_keys {ds : List Decl} {k : MergeKey} : k ∈ keys ds ↔ ∃ d ∈ ds, d.key = k := by
  rw [keys, mem_distinct, List.mem_map]

theorem mem_ofKey {ds : List Decl} {k : MergeKey} {d : Decl} :
    d ∈ ofKey k ds ↔ d ∈ ds ∧ d.key = k := by
  simp [ofKey]

theorem ofKey_append (k : MergeKey) (ds es : List Decl) :
    ofKey k (ds ++ es) = ofKey k ds ++ ofKey k es :=
  List.filter_append ..

theorem ofKey_eq_nil_iff {ds : List Decl} {k : MergeKey} : ofKey k ds = [] ↔ k ∉ keys ds := by
  rw [mem_keys, ofKey, List.filter_eq_nil_iff]
  simp

theorem ofKey_of_nodup {ds : List Decl} (h : (ds.map key).Nodup) {d : Decl} (hd : d ∈ ds) :
    ofKey d.key ds = [d] := by
  have hnodup : (ofKey d.key ds).Nodup := (List.Nodup.of_map key h).filter _
  rw [eq_singleton_iff_of_nodup hnodup, mem_ofKey]
  refine ⟨⟨hd, rfl⟩, fun e he => ?_⟩
  obtain ⟨he, hkey⟩ := mem_ofKey.mp he
  exact List.inj_on_of_nodup_map h he hd hkey

theorem keys_cons (d : Decl) (ds : List Decl) :
    keys (d :: ds) = d.key :: keys (ds.filter (·.key != d.key)) := by
  rw [keys, List.map_cons, distinct_cons, List.filter_map]
  rfl

theorem groups_map_cons (ds : List Decl) :
    (groups ds).map (fun g => g.1 :: g.2) = (keys ds).map (ofKey · ds) := by
  induction ds using groups.induct with
  | case1 => simp [groups, keys, distinct, addAllNew]
  | case2 d ds ih =>
    simp only [List.unattach_filter, List.unattach_attach] at ih
    rw [groups, keys_cons, List.map_cons, List.map_cons, ih]
    congr 1
    · simp [ofKey]
    · apply List.map_congr_left
      intro k hk
      obtain ⟨e, he, rfl⟩ := mem_keys.mp hk
      have hne : e.key ≠ d.key := by simpa using (List.mem_filter.mp he).2
      have hd : ¬ (d.key == e.key) = true := by simpa using hne.symm
      have hds : ofKey e.key (d :: ds) = ofKey e.key ds := List.filter_cons_of_neg hd
      rw [hds, ofKey, ofKey, List.filter_filter]
      apply List.filter_congr
      intro c _
      by_cases hc : c.key = e.key
      · simp [hc, hne]
      · simp [hc]

theorem heightAll_le_iff {ds : List Decl} {n : Nat} : heightAll ds ≤ n ↔ ∀ d ∈ ds, d.height ≤ n := by
  constructor
  · intro h d hd
    exact Nat.le_trans (height_le_heightAll hd) h
  · intro h
    induction ds with
    | nil => exact Nat.zero_le n
    | cons d ds ih =>
      obtain ⟨hd, hds⟩ := List.forall_mem_cons.mp h
      rw [heightAll]
      exact Nat.max_le.mpr ⟨hd, ih hds⟩

end Decl

theorem Scope.Joins.name {ss : List Scope} {s : Scope} (h : Joins ss s) : ∃ b ∈ ss, s.name = b.name := by
  cases h with
  | one s => exact ⟨s, by simp, rfl⟩
  | many _ _ hb => exact ⟨_, (base?_eq_some hb).1, rfl⟩

namespace Decl

theorem Survives.key {ds : List Decl} {e : Decl} {k : MergeKey} (h : Survives ds e)
    (hk : ∀ d ∈ ds, d.key = k) : e.key = k := by
  cases h with
  | member m ns h => exact hk _ List.mem_cons_self
  | scope ps s h =>
    obtain ⟨b, hb, hname⟩ := h.name
    obtain ⟨p, hp, rfl⟩ := List.mem_map.mp hb
    rw [← hk (.scope p.1 p.2) (List.mem_map_of_mem hp)]
    simp [Decl.key, hname]

theorem Survives.height_le {ds : List Decl} {e : Decl} (h : Survives ds e) :
    e.height ≤ heightAll ds := by
  cases h with
  | member m ns h => exact Nat.zero_le _
  | scope ps s h =>
    have hscope : ∀ p ∈ ps, heightAll p.2 + 1 ≤ heightAll (ofScopes ps) := fun p hp =>
      height_le_heightAll (d := .scope p.1 p.2) (List.mem_map_of_mem hp)
    obtain ⟨b, hb, -⟩ := h.name
    obtain ⟨p, hp, -⟩ := List.mem_map.mp hb
    have hpos := hscope p hp
    have hall : heightAll (ps.flatMap (·.2)) ≤ heightAll (ofScopes ps) - 1 := by
      rw [heightAll_le_iff]
      intro c hc
      obtain ⟨q, hq, hcq⟩ := List.mem_flatMap.mp hc
      have hle := height_le_heightAll hcq
      have := hscope q hq
      omega
    rw [height]
    omega

theorem ofKey_key {ds : List Decl} {k : MergeKey} : ∀ d ∈ ofKey k ds, d.key = k :=
  fun _ hd => (mem_ofKey.mp hd).2

theorem heightAll_ofKey_le (k : MergeKey) (ds : List Decl) : heightAll (ofKey k ds) ≤ heightAll ds :=
  heightAll_le_iff.mpr fun _ hd => height_le_heightAll (mem_ofKey.mp hd).1

end Decl

end RubyStubs
