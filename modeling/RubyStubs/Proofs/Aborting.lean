import RubyStubs.Proofs.Levels

namespace RubyStubs

open Decl

variable {σ ε : Type}

namespace Policy

variable {p : Policy σ ε}

theorem settle_eq_error_iff {d : Decl} {others : List Decl} {s s' : σ} {e : ε} :
    p.settle d others s = (.error e, s') ↔
      others ≠ [] ∧ ∃ c, d.fold others = .error c ∧ p.choose c (d :: others) s = (.error e, s') := by
  cases others with
  | nil => simp [settle]
  | cons o os => cases hfold : d.fold (o :: os) <;> simp [settle, hfold]

theorem settleAll_cons_eq_ok_iff {d : Decl} {others es : List Decl} {gs : List (Decl × List Decl)} {s s' : σ} :
    p.settleAll ((d, others) :: gs) s = (.ok es, s') ↔
      ∃ survivor s₁ rest, p.settle d others s = (.ok survivor, s₁) ∧
        p.settleAll gs s₁ = (.ok rest, s') ∧ survivor.toList ++ rest = es := by
  rw [settleAll]
  rcases p.settle d others s with ⟨_ | survivor, s₁⟩
  · simp
  · rcases hrest : p.settleAll gs s₁ with ⟨_ | rest, s₂⟩
    · simp [hrest]
    · simp [hrest, and_comm]

theorem settleAll_cons_eq_error_iff {d : Decl} {others : List Decl} {gs : List (Decl × List Decl)} {s s' : σ}
    {e : ε} :
    p.settleAll ((d, others) :: gs) s = (.error e, s') ↔
      p.settle d others s = (.error e, s') ∨
      ∃ survivor s₁, p.settle d others s = (.ok survivor, s₁) ∧ p.settleAll gs s₁ = (.error e, s') := by
  rw [settleAll]
  rcases p.settle d others s with ⟨_ | survivor, s₁⟩
  · simp
  · rcases hrest : p.settleAll gs s₁ with ⟨_ | rest, s₂⟩ <;> simp [hrest]

inductive Refused (p : Policy σ ε) : List (Decl × List Decl) → σ → ε → σ → Prop
  | intro {before after : List (Decl × List Decl)} {d : Decl} {others settled : List Decl} {c : Conflict}
      {s s₁ s₂ : σ} {e : ε} (hbefore : p.settleAll before s = (.ok settled, s₁)) (hothers : others ≠ [])
      (hfold : d.fold others = .error c) (hchoose : p.choose c (d :: others) s₁ = (.error e, s₂)) :
      Refused p (before ++ (d, others) :: after) s e s₂

theorem Refused.cons {d : Decl} {others : List Decl} {gs : List (Decl × List Decl)} {s s₁ s₂ : σ} {e : ε}
    {survivor : Option Decl} (hsettle : p.settle d others s = (.ok survivor, s₁)) (h : p.Refused gs s₁ e s₂) :
    p.Refused ((d, others) :: gs) s e s₂ := by
  cases h with
  | @intro before _ _ _ settled _ _ s₃ _ _ hbefore hothers hfold hchoose =>
    have hcons : p.settleAll ((d, others) :: before) s = (.ok (survivor.toList ++ settled), s₃) :=
      settleAll_cons_eq_ok_iff.mpr ⟨survivor, s₁, settled, hsettle, hbefore, rfl⟩
    exact .intro hcons hothers hfold hchoose

theorem settleAll_append_eq_error {before gs : List (Decl × List Decl)} {settled : List Decl} {s s₁ s' : σ}
    {e : ε} (hbefore : p.settleAll before s = (.ok settled, s₁)) (hgs : p.settleAll gs s₁ = (.error e, s')) :
    p.settleAll (before ++ gs) s = (.error e, s') := by
  induction before generalizing s settled with
  | nil =>
    cases hbefore
    exact hgs
  | cons g before ih =>
    obtain ⟨survivor, s₂, rest, hsettle, hrest, -⟩ := settleAll_cons_eq_ok_iff.mp hbefore
    exact settleAll_cons_eq_error_iff.mpr (.inr ⟨survivor, s₂, hsettle, ih hrest⟩)

theorem settleAll_eq_error_iff {gs : List (Decl × List Decl)} {s s' : σ} {e : ε} :
    p.settleAll gs s = (.error e, s') ↔ p.Refused gs s e s' := by
  constructor
  · intro h
    induction gs generalizing s with
    | nil => cases h
    | cons g gs ih =>
      rcases settleAll_cons_eq_error_iff.mp h with hsettle | ⟨survivor, s₁, hsettle, hrest⟩
      · obtain ⟨hothers, c, hfold, hchoose⟩ := settle_eq_error_iff.mp hsettle
        have hrefused : p.Refused ([] ++ g :: gs) s e s' := .intro rfl hothers hfold hchoose
        exact hrefused
      · exact (ih hrest).cons hsettle
  · intro h
    cases h with
    | intro hbefore hothers hfold hchoose =>
      apply settleAll_append_eq_error hbefore
      apply settleAll_cons_eq_error_iff.mpr
      exact .inl (settle_eq_error_iff.mpr ⟨hothers, _, hfold, hchoose⟩)

inductive Visited (p : Policy σ ε) : List Decl → σ → List Decl → σ → Prop
  | nil (s : σ) : Visited p [] s [] s
  | cons {d d' : Decl} {ds ds' : List Decl} {s s₁ s₂ : σ} (hd : p.Ends d s ⟨d', s₁, none⟩)
      (hds : Visited p ds s₁ ds' s₂) : Visited p (d :: ds) s (d' :: ds') s₂

/-- `p.Aborted d s t s' e`: resolving `d`, the policy fails with `e` in `d` itself, or in a scope
below it, and `t` is left behind. -/
inductive Aborted (p : Policy σ ε) : Decl → σ → Decl → σ → ε → Prop
  | here {info : Scope} {ds : List Decl} {s s' : σ} {e : ε} (h : p.Refused (groups ds) s e s') :
      Aborted p (.scope info ds) s (.scope info ds) s' e
  | deeper {info : Scope} {ds before before' after : List Decl} {c c' : Decl} {s s₁ s₂ s₃ : σ} {e : ε}
      (hlevel : p.settleAll (groups ds) s = (.ok (before ++ c :: after), s₁))
      (hbefore : p.Visited before s₁ before' s₂) (hc : Aborted p c s₂ c' s₃ e) :
      Aborted p (.scope info ds) s (.scope info (before' ++ c' :: after)) s₃ e

theorem EndsAllWithin.exists_failing {n : Nat} {ds vs : List Decl} {s s' : σ} {e : ε}
    (h : p.EndsAllWithin n ds s ⟨vs, s', some e⟩) :
    ∃ before before' c c' after s₁, ds = before ++ c :: after ∧ vs = before' ++ c' :: after ∧
      p.Visited before s before' s₁ ∧ p.EndsWithin n c s₁ ⟨c', s', some e⟩ := by
  induction ds generalizing s vs with
  | nil => cases h.2
  | cons d ds ih =>
    rcases endsAllWithin_cons_iff.mp h with ⟨d', s₁, e', hd, hr⟩ | ⟨d', s₁, rs, hd, hds, hr⟩
    · cases hr
      exact ⟨[], [], d, d', ds, s, rfl, rfl, .nil s, hd⟩
    · obtain ⟨vs', s₂, failure⟩ := rs
      cases hr
      obtain ⟨before, before', c, c', after, s₃, rfl, rfl, hbefore, hc⟩ := ih hds
      exact ⟨d :: before, d' :: before', c, c', after, s₃, rfl, rfl, .cons ⟨n, hd⟩ hbefore, hc⟩

theorem Visited.exists_endsAllWithin {before before' : List Decl} {s s₁ : σ}
    (hbefore : p.Visited before s before' s₁) {c c' : Decl} {s' : σ} {e : ε}
    (hc : p.Ends c s₁ ⟨c', s', some e⟩) (after : List Decl) :
    ∃ n, p.EndsAllWithin n (before ++ c :: after) s ⟨before' ++ c' :: after, s', some e⟩ := by
  induction hbefore with
  | nil s =>
    obtain ⟨n, hn⟩ := hc
    exact ⟨n, endsAllWithin_cons_iff.mpr (.inl ⟨c', s', e, hn, rfl⟩)⟩
  | @cons d d' ds ds' s s₁ s₂ hd _ ih =>
    obtain ⟨m, hm⟩ := hd
    obtain ⟨n, hn⟩ := ih hc
    refine ⟨max m n, endsAllWithin_cons_iff.mpr (.inr ?_)⟩
    exact ⟨d', s₁, ⟨ds' ++ c' :: after, s', some e⟩, hm.mono (Nat.le_max_left m n),
      hn.mono (Nat.le_max_right m n), rfl⟩

theorem EndsWithin.aborted {n : Nat} {d t : Decl} {s s' : σ} {e : ε}
    (h : p.EndsWithin n d s ⟨t, s', some e⟩) : p.Aborted d s t s' e := by
  -- By the number of levels: the failure is met at this one, or in one of the scopes below it.
  induction n generalizing d t s with
  | zero =>
    cases d with
    | member m => cases h.2
    | scope info ds => cases h.1
  | succ n ih =>
    cases d with
    | member m => cases h.2
    | scope info ds =>
      rcases endsWithin_scope_iff.mp h with ⟨e', s₁, hsettle, hr⟩ | ⟨es, s₁, rs, hsettle, hrs, hr⟩
      · cases hr
        exact .here (settleAll_eq_error_iff.mp hsettle)
      · obtain ⟨vs, s₂, failure⟩ := rs
        cases hr
        obtain ⟨before, before', c, c', after, s₃, rfl, rfl, hbefore, hc⟩ := hrs.exists_failing
        exact .deeper hsettle hbefore (ih hc)

theorem Aborted.ends {d t : Decl} {s s' : σ} {e : ε} (h : p.Aborted d s t s' e) :
    p.Ends d s ⟨t, s', some e⟩ := by
  induction h with
  | @here info ds s s' e h =>
    exact ⟨1, endsWithin_scope_iff.mpr (.inl ⟨e, s', settleAll_eq_error_iff.mpr h, rfl⟩)⟩
  | @deeper info ds before before' after c c' s s₁ s₂ s₃ e hlevel hbefore _ ih =>
    obtain ⟨n, hn⟩ := hbefore.exists_endsAllWithin ih after
    exact ⟨n + 1, endsWithin_scope_iff.mpr (.inr ⟨before ++ c :: after, s₁, _, hlevel, hn, rfl⟩)⟩

theorem Refused.ends {info : Scope} {ds : List Decl} {s s' : σ} {e : ε} (h : p.Refused (groups ds) s e s') :
    p.Ends (.scope info ds) s ⟨.scope info ds, s', some e⟩ :=
  (Aborted.here h).ends

/-- A run fails just as its policy fails in a scope that the run has come to, and the tree left behind
is as it was in that scope and after it, settled above it and resolved before it. A failure at the
level of the root leaves the whole tree as it was. -/
theorem resolve_aborts (p : Policy σ ε) (d : Decl) (s : σ) :
    (∀ t s' e, p.Ends d s ⟨t, s', some e⟩ ↔ p.Aborted d s t s' e) ∧
      (∀ info ds s' e, d = .scope info ds → p.Refused (groups ds) s e s' → p.Ends d s ⟨d, s', some e⟩) ∧
        (p.Faithful → ∀ t s' e, p.resolve d s = ⟨t, s', some e⟩ ↔ p.Aborted d s t s' e) := by
  have hends (t : Decl) (s' : σ) (e : ε) : p.Ends d s ⟨t, s', some e⟩ ↔ p.Aborted d s t s' e := by
    constructor
    · rintro ⟨n, hn⟩
      exact hn.aborted
    · exact Aborted.ends
  refine ⟨hends, ?_, fun hp t s' e => ?_⟩
  · rintro info ds s' e rfl hrefused
    exact hrefused.ends
  · rw [← hends]
    constructor
    · intro h
      rw [← h]
      exact hp.ends d s
    · exact fun h => (hp.ends d s).unique h

theorem fail_faithful (e : ε) : (fail e : Policy σ ε).Faithful := by
  intro c ds s d h
  cases h

theorem resolve_aborts_second_module :
    let x (value : String) : Decl := .member { name := "X", body := .constant (.text value) false }
    let y : Decl := .member { name := "Y", body := .constant (.text "2") false }
    let a (ds : List Decl) : Decl := .scope { name := "A", kind := .ofClass {} } ds
    let m (name : String) (ds : List Decl) : Decl := .scope { name, kind := .ofModule false } ds
    let tree : Decl := .scope {} [m "K" [a [x "1"], a [y]], m "L" [a [y, x "1"], a [y, x "2"]],
      m "M" [a [x "1"], a [x "2"]]]
    let left : Decl := .scope {} [m "K" [a [x "1", y]], m "L" [a [y, x "1", y, x "2"]],
      m "M" [a [x "1"], a [x "2"]]]
    let p : Policy Unit String := fail "stop"
    p.Faithful ∧ p.resolve tree () = ⟨left, (), some "stop"⟩ ∧ p.Aborted tree () left () "stop" := by
  intro x y a m tree left p
  have hresolve : p.resolve tree () = ⟨left, (), some "stop"⟩ := by cbv
  obtain ⟨-, -, hfaithful⟩ := resolve_aborts p tree ()
  exact ⟨fail_faithful "stop", hresolve, (hfaithful (fail_faithful "stop") left () "stop").mp hresolve⟩

end Policy
end RubyStubs
