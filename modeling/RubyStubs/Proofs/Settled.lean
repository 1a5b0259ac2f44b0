import RubyStubs.Proofs.Questions

namespace RubyStubs

open Decl

variable {σ ε : Type}

namespace Decl

inductive Settled : Decl → Prop
  | member (m : Member) : Settled (.member m)
  | scope (s : Scope) {ds : List Decl} (hkeys : (ds.map key).Nodup) (hds : ∀ d ∈ ds, Settled d) :
      Settled (.scope s ds)

theorem Settled.resolves {d : Decl} (h : Settled d) : Resolves d d := by
  induction h with
  | member m => exact .member m
  | @scope s ds hkeys hds ih =>
    let only (k : MergeKey) : Decl := (ofKey k ds).head?.getD default
    have honly : ∀ d ∈ ds, only d.key = d := by
      intro d hd
      simp [only, ofKey_of_nodup hkeys hd]
    have hks : keys ds = ds.map key := distinct_of_nodup hkeys
    have hmap : (keys ds).map only = ds := by
      rw [hks, List.map_map]
      exact (List.map_congr_left honly).trans (List.map_id ds)
    have hres : Resolves (.scope s ds) (.scope s ((keys ds).map only)) := by
      apply Resolves.scope s ds only only
      · rw [hks, List.forall_mem_map]
        intro d hd
        rw [honly d hd, ofKey_of_nodup hkeys hd]
        exact survives_singleton d
      · rw [hks, List.forall_mem_map]
        intro d hd
        rw [honly d hd]
        exact ih d hd
    rwa [hmap] at hres

theorem groups_forall₂ (ds : List Decl) :
    List.Forall₂ (fun g k => g.1 :: g.2 = ofKey k ds) (groups ds) (keys ds) := by
  have h : List.Forall₂ Eq ((groups ds).map fun g => g.1 :: g.2) ((keys ds).map (ofKey · ds)) := by
    rw [List.forall₂_eq_eq_eq, groups_map_cons]
  rwa [List.forall₂_map_left_iff, List.forall₂_map_right_iff] at h

end Decl

namespace Policy

def Faithful (p : Policy σ ε) : Prop :=
  ∀ c ds s e, (p.choose c ds s).1 = .ok (some e) → e ∈ ds

theorem Faithful.settle {p : Policy σ ε} (hp : p.Faithful) {d : Decl} {others : List Decl} {s s' : σ}
    {e : Decl} (h : p.settle d others s = (.ok (some e), s')) :
    Survives (d :: others) e ∨ e ∈ d :: others := by
  by_cases hsurv : ∃ e', Survives (d :: others) e'
  · obtain ⟨e', he'⟩ := hsurv
    rw [p.settle_of_survives he'] at h
    cases h
    exact .inl he'
  · obtain ⟨c, -, hc⟩ := p.settle_of_not_survives (not_exists.mp hsurv)
    rw [hc] at h
    exact .inr (hp c (d :: others) s e (congrArg Prod.fst h))

theorem Faithful.settle_key {p : Policy σ ε} (hp : p.Faithful) {g : Decl × List Decl} {s s' : σ}
    {e : Decl} {k : MergeKey} {ds : List Decl} (hg : g.1 :: g.2 = ofKey k ds)
    (h : p.settle g.1 g.2 s = (.ok (some e), s')) : e.key = k ∧ e.height ≤ heightAll ds := by
  have hle := heightAll_ofKey_le k ds
  rcases hp.settle h with hs | hm
  · rw [hg] at hs
    exact ⟨hs.key ofKey_key, Nat.le_trans hs.height_le hle⟩
  · rw [hg] at hm
    exact ⟨ofKey_key e hm, Nat.le_trans (height_le_heightAll hm) hle⟩

theorem Faithful.settleAll {p : Policy σ ε} (hp : p.Faithful) {ds : List Decl}
    {gs : List (Decl × List Decl)} {ks : List MergeKey}
    (hgs : List.Forall₂ (fun g k => g.1 :: g.2 = ofKey k ds) gs ks) {s s' : σ} {es : List Decl}
    (h : p.settleAll gs s = (.ok es, s')) :
    (es.map Decl.key).Sublist ks ∧ ∀ e ∈ es, e.height ≤ heightAll ds := by
  induction hgs generalizing s es with
  | nil =>
    cases h
    exact ⟨.slnil, by simp⟩
  | @cons g k gs ks hg _ ih =>
    rw [Policy.settleAll] at h
    cases hsettle : p.settle g.1 g.2 s with
    | mk answer s₁ =>
      cases answer with
      | error e => simp [hsettle] at h
      | ok survivor =>
        cases hrest : p.settleAll gs s₁ with
        | mk answers s₂ =>
          cases answers with
          | error e => simp [hsettle, hrest] at h
          | ok rest =>
            simp only [hsettle, hrest, Prod.mk.injEq, Except.ok.injEq] at h
            obtain ⟨rfl, rfl⟩ := h
            obtain ⟨hkeys, hheight⟩ := ih hrest
            cases survivor with
            | none => exact ⟨hkeys.cons k, hheight⟩
            | some e =>
              obtain ⟨rfl, he⟩ := hp.settle_key hg hsettle
              exact ⟨hkeys.cons_cons e.key, List.forall_mem_cons.mpr ⟨he, hheight⟩⟩

end Policy

theorem visitAll_forall₂ {f : Decl → σ → Resolution σ ε Decl} (ds : List Decl) (s : σ)
    (h : (visitAll f ds s).failure = none) :
    List.Forall₂ (fun d r => ∃ s, (f d s).failure = none ∧ (f d s).value = r) ds
      (visitAll f ds s).value := by
  induction ds generalizing s with
  | nil => exact .nil
  | cons d ds ih =>
    rw [visitAll] at h ⊢
    split at h
    · cases h
    · next hd => exact .cons ⟨s, hd, rfl⟩ (ih _ h)

theorem exists_of_mem_right {α β : Type} {R : α → β → Prop} {xs : List α} {ys : List β}
    (h : List.Forall₂ R xs ys) {y : β} (hy : y ∈ ys) : ∃ x ∈ xs, R x y := by
  induction h with
  | nil => cases hy
  | cons hxy _ ih =>
    rcases List.mem_cons.mp hy with rfl | hy
    · exact ⟨_, List.mem_cons_self, hxy⟩
    · obtain ⟨x, hx, hr⟩ := ih hy
      exact ⟨x, List.mem_cons_of_mem _ hx, hr⟩

namespace Policy

theorem key_resolveTo (p : Policy σ ε) (n : Nat) (d : Decl) (s : σ) :
    (p.resolveTo n d s).value.key = d.key := by
  cases n with
  | zero => rfl
  | succ n =>
    cases d with
    | member m => rfl
    | scope info ds =>
      rw [resolveTo]
      split <;> rfl

theorem Faithful.resolveTo_settled {p : Policy σ ε} (hp : p.Faithful) {n : Nat} {d : Decl} {s : σ}
    (hn : d.height ≤ n) (h : (p.resolveTo n d s).failure = none) :
    (p.resolveTo n d s).value.Settled := by
  induction n generalizing d s with
  | zero =>
    cases d with
    | member m => exact .member m
    | scope info ds => rw [height] at hn; omega
  | succ n ih =>
    cases d with
    | member m => exact .member m
    | scope info ds =>
      rw [height] at hn
      rw [resolveTo] at h ⊢
      split at h
      · cases h
      · next survivors s' he =>
        obtain ⟨hkeys, hheight⟩ := hp.settleAll (groups_forall₂ ds) he
        have hvisit := visitAll_forall₂ survivors s' h
        have hmap : (visitAll (p.resolveTo n) survivors s').value.map key = survivors.map key := by
          symm
          rw [← List.forall₂_eq_eq_eq, List.forall₂_map_left_iff, List.forall₂_map_right_iff]
          refine hvisit.imp fun d r hr => ?_
          obtain ⟨t, -, rfl⟩ := hr
          exact (p.key_resolveTo n d t).symm
        apply Settled.scope
        · rw [hmap]
          exact hkeys.nodup (nodup_keys ds)
        · intro r hr
          obtain ⟨e, he, t, ht, rfl⟩ := exists_of_mem_right hvisit hr
          exact ih (Nat.le_trans (hheight e he) (by omega)) ht

def Answering (p : Policy σ ε) : Prop := ∀ c ds s, ∃ a, (p.choose c ds s).1 = .ok a

theorem Answering.settle {p : Policy σ ε} (hp : p.Answering) (d : Decl) (others : List Decl) (s : σ) :
    ∃ a s', p.settle d others s = (.ok a, s') := by
  by_cases hsurv : ∃ e, Survives (d :: others) e
  · obtain ⟨e, he⟩ := hsurv
    exact ⟨some e, s, p.settle_of_survives he s⟩
  · obtain ⟨c, -, hc⟩ := p.settle_of_not_survives (not_exists.mp hsurv)
    obtain ⟨a, ha⟩ := hp c (d :: others) s
    exact ⟨a, (p.choose c (d :: others) s).2, by rw [hc, ← ha]⟩

theorem Answering.settleAll {p : Policy σ ε} (hp : p.Answering) (gs : List (Decl × List Decl)) (s : σ) :
    ∃ es s', p.settleAll gs s = (.ok es, s') := by
  induction gs generalizing s with
  | nil => exact ⟨[], s, rfl⟩
  | cons g gs ih =>
    obtain ⟨a, s₁, ha⟩ := hp.settle g.1 g.2 s
    obtain ⟨es, s₂, hes⟩ := ih s₁
    exact ⟨a.toList ++ es, s₂, by simp [Policy.settleAll, ha, hes]⟩

end Policy

theorem visitAll_failure {f : Decl → σ → Resolution σ ε Decl} (hf : ∀ d s, (f d s).failure = none)
    (ds : List Decl) (s : σ) : (visitAll f ds s).failure = none := by
  induction ds generalizing s with
  | nil => rfl
  | cons d ds ih =>
    rw [visitAll, hf d s]
    exact ih _

namespace Policy

theorem Answering.resolveTo_failure {p : Policy σ ε} (hp : p.Answering) (n : Nat) (d : Decl) (s : σ) :
    (p.resolveTo n d s).failure = none := by
  induction n generalizing d s with
  | zero => rfl
  | succ n ih =>
    cases d with
    | member m => rfl
    | scope info ds =>
      obtain ⟨es, s', he⟩ := hp.settleAll (groups ds) s
      rw [resolveTo, he]
      exact visitAll_failure ih es s'

/-- Resolving with answers taken from the candidates ends; then siblings have distinct keys at all
levels, and a second run leaves the tree as it is and asks nothing, whatever its policy. -/
theorem resolve_settles (p : Policy σ ε) (hanswering : p.Answering) (hfaithful : p.Faithful)
    (d : Decl) (s : σ) :
    (p.resolve d s).failure = none ∧ (p.resolve d s).value.Settled ∧
      ∀ {τ δ : Type} (q : Policy τ δ) (t : τ),
        q.resolve (p.resolve d s).value t = { value := (p.resolve d s).value, state := t } ∧
          q.asked (p.resolve d s).value t = [] := by
  have hends : (p.resolve d s).failure = none := hanswering.resolveTo_failure _ d s
  have hsettled : (p.resolve d s).value.Settled :=
    hfaithful.resolveTo_settled (Nat.le_add_right ..) hends
  refine ⟨hends, hsettled, fun q t => ⟨?_, ?_⟩⟩
  · exact q.resolve_of_resolves hsettled.resolves t
  · exact (q.asked_eq_nil_iff _ t).mpr ⟨_, hsettled.resolves⟩

theorem keep_answering (i : Int) : (keep i : Policy σ ε).Answering :=
  fun _ _ _ => ⟨_, rfl⟩

theorem keep_faithful (i : Int) : (keep i : Policy σ ε).Faithful := by
  intro c ds s e h
  have hmem : ∀ j : Int, (if j < 0 then none else ds[j.toNat]?) = some e → e ∈ ds := by
    intro j hj
    by_cases hneg : j < 0
    · simp [hneg] at hj
    · exact List.mem_of_getElem? (by simpa [hneg] using hj)
  exact hmem _ (Except.ok.inj h)

theorem resolve_settles_keep_last :
    let tree : Decl := .scope {} [.scope { name := "M", kind := .ofModule false }
      [.scope { name := "A", kind := .ofClass {} }
        [.member { name := "X", body := .constant (.text "1") false }],
       .scope { name := "A", kind := .ofClass {} }
        [.member { name := "X", body := .constant (.text "2") false }]]]
    let p : Policy Unit String := keep (-1)
    p.Answering ∧ p.Faithful ∧ (p.resolve tree ()).failure = none ∧ (p.resolve tree ()).value.Settled ∧
      (fail "stop" : Policy Unit String).resolve (p.resolve tree ()).value () =
        { value := (p.resolve tree ()).value, state := () } := by
  intro tree p
  obtain ⟨hends, hsettled, hagain⟩ :=
    resolve_settles p (keep_answering (-1)) (keep_faithful (-1)) tree ()
  exact ⟨keep_answering (-1), keep_faithful (-1), hends, hsettled, (hagain (fail "stop") ()).1⟩

end Policy

end RubyStubs
