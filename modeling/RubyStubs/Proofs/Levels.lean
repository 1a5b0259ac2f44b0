import RubyStubs.Proofs.Settled

/-!
How many levels a run needs. A policy may answer with scopes of its own, so the levels to resolve
need not be bounded by the tree; `Policy.Enough` says that a run comes to an end within a given
number of them, and `Policy.Ends` where it stands then.
-/

namespace RubyStubs

open Decl

variable {σ ε : Type}

def Visits (P : Decl → σ → Prop) (f : Decl → σ → Resolution σ ε Decl) : List Decl → σ → Prop
  | [], _ => True
  | d :: ds, s => P d s ∧ ((f d s).failure = none → Visits P f ds (f d s).state)

section Visits

variable {P Q : Decl → σ → Prop} {f g : Decl → σ → Resolution σ ε Decl}

theorem visits_cons_of_none {d : Decl} {ds : List Decl} {s : σ} (h : (f d s).failure = none) :
    Visits P f (d :: ds) s ↔ P d s ∧ Visits P f ds (f d s).state := by
  simp [Visits, h]

theorem visitAll_cons_of_none {d : Decl} {ds : List Decl} {s : σ} (h : (f d s).failure = none) :
    visitAll f (d :: ds) s =
      { value := (f d s).value :: (visitAll f ds (f d s).state).value
        state := (visitAll f ds (f d s).state).state
        failure := (visitAll f ds (f d s).state).failure } := by
  simp [visitAll, h]

theorem visitAll_cons_of_some {d : Decl} {ds : List Decl} {s : σ} {e : ε}
    (h : (f d s).failure = some e) :
    visitAll f (d :: ds) s =
      { value := (f d s).value :: ds, state := (f d s).state, failure := some e } := by
  simp [visitAll, h]

theorem Visits.mono (h : ∀ d s, P d s → Q d s ∧ g d s = f d s) {ds : List Decl} {s : σ}
    (hds : Visits P f ds s) : Visits Q g ds s ∧ visitAll g ds s = visitAll f ds s := by
  induction ds generalizing s with
  | nil => exact ⟨trivial, rfl⟩
  | cons d ds ih =>
    obtain ⟨hd, hrest⟩ := hds
    obtain ⟨hQ, hg⟩ := h d s hd
    cases hf : (f d s).failure with
    | none =>
      obtain ⟨hvisits, hall⟩ := ih (hrest hf)
      have hgf : (g d s).failure = none := by rw [hg, hf]
      rw [visits_cons_of_none hgf, visitAll_cons_of_none hgf, visitAll_cons_of_none hf, hg, hall]
      exact ⟨⟨hQ, hvisits⟩, rfl⟩
    | some e =>
      have hgf : (g d s).failure = some e := by rw [hg, hf]
      rw [visitAll_cons_of_some hgf, visitAll_cons_of_some hf, hg]
      refine ⟨⟨hQ, ?_⟩, rfl⟩
      rw [hgf]
      exact nofun

theorem visits_of_forall {ds : List Decl} (h : ∀ d ∈ ds, ∀ s, P d s) (s : σ) : Visits P f ds s := by
  induction ds generalizing s with
  | nil => trivial
  | cons d ds ih =>
    refine ⟨h d List.mem_cons_self s, fun _ => ?_⟩
    exact ih (fun e he => h e (List.mem_cons_of_mem d he)) (f d s).state

end Visits

namespace Policy

variable {p : Policy σ ε}

def Enough (p : Policy σ ε) : Nat → Decl → σ → Prop
  | _, .member _, _ => True
  | 0, .scope _ _, _ => False
  | n + 1, .scope _ ds, s =>
    ∀ es s', p.settleAll (groups ds) s = (.ok es, s') → Visits (p.Enough n) (p.resolveTo n) es s'

theorem resolveTo_of_settleAll_error {ds : List Decl} {s s' : σ} {e : ε}
    (h : p.settleAll (groups ds) s = (.error e, s')) (n : Nat) (info : Scope) :
    p.resolveTo (n + 1) (.scope info ds) s =
      { value := .scope info ds, state := s', failure := some e } := by
  rw [resolveTo, h]

theorem resolveTo_of_settleAll_ok {ds es : List Decl} {s s' : σ}
    (h : p.settleAll (groups ds) s = (.ok es, s')) (n : Nat) (info : Scope) :
    p.resolveTo (n + 1) (.scope info ds) s =
      { value := .scope info (visitAll (p.resolveTo n) es s').value
        state := (visitAll (p.resolveTo n) es s').state
        failure := (visitAll (p.resolveTo n) es s').failure } := by
  rw [resolveTo, h]

theorem Enough.succ {n : Nat} {d : Decl} {s : σ} (h : p.Enough n d s) :
    p.Enough (n + 1) d s ∧ p.resolveTo (n + 1) d s = p.resolveTo n d s := by
  induction n generalizing d s with
  | zero =>
    cases d with
    | member m => exact ⟨trivial, rfl⟩
    | scope info ds => cases h
  | succ n ih =>
    cases d with
    | member m => exact ⟨trivial, rfl⟩
    | scope info ds =>
      have hvisits (es : List Decl) (s' : σ) (hes : p.settleAll (groups ds) s = (.ok es, s')) :=
        Visits.mono (fun _ _ => ih) (h es s' hes)
      refine ⟨fun es s' hes => (hvisits es s' hes).1, ?_⟩
      cases hsettle : p.settleAll (groups ds) s with
      | mk answer s' =>
        cases answer with
        | error e => rw [resolveTo_of_settleAll_error hsettle, resolveTo_of_settleAll_error hsettle]
        | ok es =>
          rw [resolveTo_of_settleAll_ok hsettle, resolveTo_of_settleAll_ok hsettle,
            (hvisits es s' hsettle).2]

theorem Enough.mono {m n : Nat} (hle : m ≤ n) {d : Decl} {s : σ} (h : p.Enough m d s) :
    p.Enough n d s ∧ p.resolveTo n d s = p.resolveTo m d s := by
  induction hle with
  | refl => exact ⟨h, rfl⟩
  | step _ ih => exact ⟨ih.1.succ.1, ih.1.succ.2.trans ih.2⟩

theorem Faithful.enough (hp : p.Faithful) {n : Nat} {d : Decl} (hn : d.height ≤ n) (s : σ) :
    p.Enough n d s := by
  induction n generalizing d s with
  | zero =>
    cases d with
    | member m => trivial
    | scope info ds => cases hn
  | succ n ih =>
    cases d with
    | member m => trivial
    | scope info ds =>
      intro es s' hes
      have hheight := (hp.settleAll (groups_forall₂ ds) hes).2
      have hds : heightAll ds ≤ n := Nat.le_of_succ_le_succ hn
      exact visits_of_forall (fun e he => ih (Nat.le_trans (hheight e he) hds)) s'

def EndsWithin (p : Policy σ ε) (n : Nat) (d : Decl) (s : σ) (r : Resolution σ ε Decl) : Prop :=
  p.Enough n d s ∧ p.resolveTo n d s = r

def EndsAllWithin (p : Policy σ ε) (n : Nat) (ds : List Decl) (s : σ) (r : Resolution σ ε (List Decl)) :
    Prop :=
  Visits (p.Enough n) (p.resolveTo n) ds s ∧ visitAll (p.resolveTo n) ds s = r

def Ends (p : Policy σ ε) (d : Decl) (s : σ) (r : Resolution σ ε Decl) : Prop :=
  ∃ n, p.EndsWithin n d s r

theorem EndsWithin.mono {m n : Nat} (hle : m ≤ n) {d : Decl} {s : σ} {r : Resolution σ ε Decl}
    (h : p.EndsWithin m d s r) : p.EndsWithin n d s r :=
  ⟨(h.1.mono hle).1, (h.1.mono hle).2.trans h.2⟩

theorem EndsAllWithin.mono {m n : Nat} (hle : m ≤ n) {ds : List Decl} {s : σ}
    {r : Resolution σ ε (List Decl)} (h : p.EndsAllWithin m ds s r) : p.EndsAllWithin n ds s r := by
  obtain ⟨hvisits, hall⟩ := Visits.mono (fun _ _ => Enough.mono hle) h.1
  exact ⟨hvisits, hall.trans h.2⟩

theorem endsWithin_scope_iff {n : Nat} {info : Scope} {ds : List Decl} {s : σ} {r : Resolution σ ε Decl} :
    p.EndsWithin (n + 1) (.scope info ds) s r ↔
      (∃ e s', p.settleAll (groups ds) s = (.error e, s') ∧ r = ⟨.scope info ds, s', some e⟩) ∨
      ∃ es s' rs, p.settleAll (groups ds) s = (.ok es, s') ∧ p.EndsAllWithin n es s' rs ∧
        r = ⟨.scope info rs.value, rs.state, rs.failure⟩ := by
  cases hsettle : p.settleAll (groups ds) s with
  | mk answer s' =>
    cases answer with
    | error e =>
      have henough : p.Enough (n + 1) (.scope info ds) s := by
        intro es s₁ hes
        rw [hsettle] at hes
        cases hes
      simp [EndsWithin, henough, resolveTo_of_settleAll_error hsettle, eq_comm]
    | ok es =>
      simp [EndsWithin, EndsAllWithin, Enough, hsettle, resolveTo_of_settleAll_ok hsettle, eq_comm]

theorem endsAllWithin_cons_iff {n : Nat} {d : Decl} {ds : List Decl} {s : σ}
    {r : Resolution σ ε (List Decl)} :
    p.EndsAllWithin n (d :: ds) s r ↔
      (∃ d' s' e, p.EndsWithin n d s ⟨d', s', some e⟩ ∧ r = ⟨d' :: ds, s', some e⟩) ∨
      ∃ d' s' rs, p.EndsWithin n d s ⟨d', s', none⟩ ∧ p.EndsAllWithin n ds s' rs ∧
        r = ⟨d' :: rs.value, rs.state, rs.failure⟩ := by
  simp only [EndsAllWithin, EndsWithin]
  cases hd : p.resolveTo n d s with
  | mk d' s' failure =>
    cases failure with
    | some e =>
      have hf : (p.resolveTo n d s).failure = some e := by rw [hd]
      simp [Visits, visitAll_cons_of_some hf, hd, eq_comm]
    | none =>
      have hf : (p.resolveTo n d s).failure = none := by rw [hd]
      simp [visits_cons_of_none hf, visitAll_cons_of_none hf, hd, and_assoc, eq_comm]

theorem Ends.unique {d : Decl} {s : σ} {q r : Resolution σ ε Decl} (hq : p.Ends d s q) (hr : p.Ends d s r) :
    q = r := by
  obtain ⟨m, hq⟩ := hq
  obtain ⟨n, hr⟩ := hr
  have hm := (hq.mono (Nat.le_max_left m n)).2
  have hn := (hr.mono (Nat.le_max_right m n)).2
  exact hm.symm.trans hn

theorem Faithful.ends (hp : p.Faithful) (d : Decl) (s : σ) : p.Ends d s (p.resolve d s) :=
  ⟨d.height + p.reach, hp.enough (Nat.le_add_right ..) s, rfl⟩

end Policy
end RubyStubs
