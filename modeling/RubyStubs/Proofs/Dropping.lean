import RubyStubs.Proofs.QuietRun
import RubyStubs.Proofs.Reordering

namespace RubyStubs

open Decl

variable {σ ε : Type}

namespace Decl

def survivor? : List Decl → Option Decl
  | [] => none
  | [d] => some d
  | d :: others => (d.fold others).toOption

def prune : Nat → Decl → Decl
  | 0, d => d
  | _ + 1, .member m => .member m
  | n + 1, .scope s ds =>
    .scope s (((keys ds).filterMap fun k => survivor? (ofKey k ds)).map (prune n))

theorem survivor?_eq_some_iff (ds : List Decl) (e : Decl) : survivor? ds = some e ↔ Survives ds e := by
  rcases ds with _ | ⟨d, _ | ⟨o, os⟩⟩
  · constructor
    · intro h
      cases h
    · intro h
      obtain ⟨d, hd⟩ := h.exists_mem
      cases hd
  · rw [survives_singleton_iff, survivor?, Option.some.injEq, eq_comm]
  · rw [← fold_eq_ok_iff d (by simp), survivor?]
    · cases d.fold (o :: os) <;> simp [Except.toOption]
    · simp

theorem Survives.unique {ds : List Decl} {d e : Decl} (hd : Survives ds d) (he : Survives ds e) : d = e := by
  rw [← survivor?_eq_some_iff] at hd he
  exact Option.some.inj (hd.symm.trans he)

end Decl

namespace Policy

theorem drop_settle (d : Decl) (others : List Decl) (s : σ) :
    (drop : Policy σ ε).settle d others s = (.ok (survivor? (d :: others)), s) := by
  cases others with
  | nil => rfl
  | cons o os =>
    rw [settle, survivor?]
    · cases d.fold (o :: os) <;> rfl
    · simp

theorem drop_settleAll (gs : List (Decl × List Decl)) (s : σ) :
    (drop : Policy σ ε).settleAll gs s = (.ok (gs.filterMap fun g => survivor? (g.1 :: g.2)), s) := by
  induction gs with
  | nil => rfl
  | cons g gs ih =>
    rw [settleAll, drop_settle, List.filterMap_cons]
    cases survivor? (g.1 :: g.2) <;> simp [ih]

theorem drop_resolveTo (n : Nat) (d : Decl) (s : σ) :
    (drop : Policy σ ε).resolveTo n d s = { value := prune n d, state := s } := by
  induction n generalizing d with
  | zero => rfl
  | succ n ih =>
    cases d with
    | member m => rfl
    | scope info ds =>
      have hsurvivors : (groups ds).filterMap (fun g => survivor? (g.1 :: g.2)) =
          (keys ds).filterMap fun k => survivor? (ofKey k ds) := by
        have h := congrArg (List.filterMap survivor?) (groups_map_cons ds)
        rwa [List.filterMap_map, List.filterMap_map] at h
      have hvisit (es : List Decl) : visitAll ((drop : Policy σ ε).resolveTo n) es s =
          { value := es.map (prune n), state := s } := by
        apply visitAll_of_forall₂
        rw [List.forall₂_map_right_iff, List.forall₂_same]
        exact fun e _ => ih e
      rw [resolveTo, drop_settleAll, hsurvivors]
      simp [hvisit, prune]

end Policy

namespace Decl

@[simp]
theorem key_prune (n : Nat) (d : Decl) : (prune n d).key = d.key := by
  cases n <;> cases d <;> rfl

theorem alike_prune {d e : Decl} (h : d.Alike e) (m n : Nat) : (prune m d).Alike (prune n e) := by
  cases h with
  | scope h cs ds => cases m <;> cases n <;> exact .scope h _ _
  | member h => cases m <;> cases n <;> exact .member h

theorem mem_ofKey_prune (n : Nat) (s : Scope) (ds : List Decl) (k : MergeKey) (c : Decl) :
    c ∈ ofKey k (prune (n + 1) (.scope s ds)).children ↔
      ∃ e, Survives (ofKey k ds) e ∧ c = prune n e := by
  simp only [mem_ofKey, prune, children, List.mem_map, List.mem_filterMap, survivor?_eq_some_iff]
  constructor
  · rintro ⟨⟨e, ⟨l, -, he⟩, rfl⟩, hkey⟩
    rw [key_prune, he.key ofKey_key] at hkey
    subst hkey
    exact ⟨e, he, rfl⟩
  · rintro ⟨e, he, rfl⟩
    obtain ⟨d, hd⟩ := he.exists_mem
    have hk : k ∈ keys ds := mem_keys.mpr ⟨d, mem_ofKey.mp hd⟩
    exact ⟨⟨e, ⟨k, hk, he⟩, rfl⟩, by rw [key_prune, he.key ofKey_key]⟩

theorem at_prune_below {n : Nat} {d : Decl} (hn : d.height ≤ n) (k l : MergeKey) (path : List MergeKey)
    (x : Decl) :
    At (prune n d) (k :: l :: path) x ↔
      k = d.key ∧ ∃ e, Survives (ofKey l d.children) e ∧ At (prune (n - 1) e) (l :: path) x := by
  rw [at_cons_cons_iff, key_prune]
  apply and_congr_right'
  cases d with
  | member m =>
    have hnil : (prune n (.member m)).children = [] := by cases n <;> rfl
    rw [hnil]
    constructor
    · rintro ⟨c, hc, -⟩
      cases hc
    · rintro ⟨e, he, -⟩
      obtain ⟨c, hc⟩ := he.exists_mem
      cases hc
  | scope s ds =>
    rw [height] at hn
    obtain ⟨n, rfl⟩ : ∃ m, n = m + 1 := ⟨n - 1, by omega⟩
    simp only [mem_ofKey_prune, Nat.add_sub_cancel]
    constructor
    · rintro ⟨c, ⟨e, he, rfl⟩, hx⟩
      exact ⟨e, he, hx⟩
    · rintro ⟨e, he, hx⟩
      exact ⟨_, ⟨e, he, rfl⟩, hx⟩

theorem Survives.height_le_pred {n : Nat} {d e : Decl} {k : MergeKey}
    (h : Survives (ofKey k d.children) e) (hn : d.height ≤ n) : e.height ≤ n - 1 := by
  cases d with
  | member m =>
    obtain ⟨c, hc⟩ := h.exists_mem
    cases hc
  | scope s ds =>
    rw [height] at hn
    have hle : e.height ≤ heightAll (ofKey k ds) := h.height_le
    have hkey := heightAll_ofKey_le k ds
    omega

section Shuffled

variable {m n : Nat} {d e : Decl} (hm : d.height ≤ m) (hn : e.height ≤ n) (h : Shuffled d e)
  {path : List MergeKey}

include hm hn h

theorem exists_at_prune {x : Decl} (hx : At (prune m d) path x) : ∃ y, At (prune n e) path y := by
  induction path generalizing m n d e with
  | nil => exact absurd hx (not_at_nil _ _)
  | cons k path ih =>
    cases path with
    | nil =>
      obtain ⟨rfl, -⟩ := (at_singleton_iff _ k x).mp hx
      refine ⟨prune n e, (at_singleton_iff _ _ _).mpr ⟨?_, rfl⟩⟩
      rw [key_prune, key_prune, h.key]
    | cons l path =>
      obtain ⟨rfl, c, hc, hx⟩ := (at_prune_below hm k l path x).mp hx
      obtain ⟨c', hc', hshuffled⟩ := h.survivor hc
      obtain ⟨y, hy⟩ := ih (hc.height_le_pred hm) (hc'.height_le_pred hn) hshuffled hx
      exact ⟨y, (at_prune_below hn _ l path y).mpr ⟨h.key, c', hc', hy⟩⟩

theorem alike_of_at_prune {x y : Decl} (hx : At (prune m d) path x) (hy : At (prune n e) path y) :
    x.Alike y := by
  induction path generalizing m n d e with
  | nil => exact absurd hx (not_at_nil _ _)
  | cons k path ih =>
    cases path with
    | nil =>
      obtain ⟨-, rfl⟩ := (at_singleton_iff _ k x).mp hx
      obtain ⟨-, rfl⟩ := (at_singleton_iff _ k y).mp hy
      exact alike_prune h.alike m n
    | cons l path =>
      obtain ⟨rfl, c, hc, hx⟩ := (at_prune_below hm k l path x).mp hx
      obtain ⟨-, c', hc', hy⟩ := (at_prune_below hn _ l path y).mp hy
      obtain ⟨b, hb, hshuffled⟩ := h.survivor hc
      rw [hb.unique hc'] at hshuffled
      exact ih (hc.height_le_pred hm) (hc'.height_le_pred hn) hshuffled hx hy

end Shuffled

end Decl

namespace Policy

/-- Resolving trees that differ in the order of siblings by dropping conflicts gives trees with the
same key paths, and what stands at a path of both is alike. -/
theorem drop_order_independent {d e : Decl} (h : Permuted d e) (s t : σ) :
    let r := (drop : Policy σ ε).resolve d s
    let r' := (drop : Policy σ ε).resolve e t
    r.failure = none ∧ r'.failure = none ∧
      (∀ path, (∃ x, r.value.At path x) ↔ ∃ y, r'.value.At path y) ∧
        ∀ path x y, r.value.At path x → r'.value.At path y → x.Alike y := by
  intro r r'
  have hr : r = { value := prune d.height d, state := s } := drop_resolveTo d.height d s
  have hr' : r' = { value := prune e.height e, state := t } := drop_resolveTo e.height e t
  have hd := Nat.le_refl d.height
  have he := Nat.le_refl e.height
  rw [hr, hr']
  refine ⟨rfl, rfl, fun path => ⟨?_, ?_⟩, ?_⟩
  · rintro ⟨x, hx⟩
    exact exists_at_prune hd he h.shuffled hx
  · rintro ⟨y, hy⟩
    exact exists_at_prune he hd h.shuffled.symm hy
  · intro path x y hx hy
    exact alike_of_at_prune hd he h.shuffled hx hy

theorem drop_order_independent_reopened :
    let f (type : Option TypeExpr) : Decl :=
      .member { name := "f", body := .method { parameters := [{ name := "a", type }] } }
    let x (text : String) : Decl := .member { name := "X", body := .constant (.text text) false }
    let a (superclass : Option String) (ds : List Decl) : Decl :=
      .scope { name := "A", kind := .ofClass { superclass } } ds
    let d : Decl := .scope {} [a none [f none, x "1"], a (some "B") [x "2", f (some .untyped)]]
    let e : Decl := .scope {} [a (some "B") [f (some .untyped), x "2"], a none [f none, x "1"]]
    let r : Decl := ((drop : Policy Unit Unit).resolve d ()).value
    let r' : Decl := ((drop : Policy Unit Unit).resolve e ()).value
    Permuted d e ∧ (∀ path, (∃ y, r.At path y) ↔ ∃ z, r'.At path z) ∧
      ∀ path y z, r.At path y → r'.At path z → y.Alike z := by
  intro f x a d e r r'
  have ha : Permuted (a (some "B") [x "2", f (some .untyped)]) (a (some "B") [f (some .untyped), x "2"]) :=
    .scope _ (.swap _ _ _) (.cons (.member _) (.cons (.member _) .nil))
  have hb : Permuted (a none [f none, x "1"]) (a none [f none, x "1"]) :=
    .scope _ (.refl _) (.cons (.member _) (.cons (.member _) .nil))
  have h : Permuted d e := .scope _ (.swap _ _ _) (.cons ha (.cons hb .nil))
  exact ⟨h, (drop_order_independent h () ()).2.2⟩

end Policy

end RubyStubs
