import RubyStubs.Proofs.QuietRun

namespace RubyStubs

open Decl

variable {σ ε : Type}

def Policy.asked (p : Policy σ ε) (d : Decl) (s : σ) : List (Conflict × List Decl) :=
  (p.recording.resolve d (s, [])).state.2

section Monotone

variable (T : σ → σ → Prop) (hrefl : ∀ s, T s s) (htrans : ∀ {s t u}, T s t → T t u → T s u)

include hrefl htrans

theorem visitAll_state {f : Decl → σ → Resolution σ ε Decl} (hf : ∀ d s, T s (f d s).state)
    (ds : List Decl) (s : σ) : T s (visitAll f ds s).state := by
  induction ds generalizing s with
  | nil => exact hrefl s
  | cons d ds ih =>
    rw [visitAll]
    split
    · exact hf d s
    · exact htrans (hf d s) (ih _)

namespace Policy

variable (p : Policy σ ε) (hp : ∀ c ds s, T s (p.choose c ds s).2)

include hp

omit htrans in
theorem settle_state (d : Decl) (others : List Decl) (s : σ) : T s (p.settle d others s).2 := by
  rw [settle]
  split
  · exact hrefl s
  · split
    · exact hrefl s
    · exact hp _ _ s

theorem settleAll_state (gs : List (Decl × List Decl)) (s : σ) : T s (p.settleAll gs s).2 := by
  induction gs generalizing s with
  | nil => exact hrefl s
  | cons g gs ih =>
    have hg := p.settle_state T hrefl hp g.1 g.2 s
    rw [settleAll]
    split
    · next he => rwa [he] at hg
    · next s' he =>
      rw [he] at hg
      have hgs := ih s'
      split <;> next he => rw [he] at hgs; exact htrans hg hgs

theorem resolveTo_state (n : Nat) (d : Decl) (s : σ) : T s (p.resolveTo n d s).state := by
  induction n generalizing d s with
  | zero => exact hrefl s
  | succ n ih =>
    cases d with
    | member m => exact hrefl s
    | scope info ds =>
      have hgs := p.settleAll_state T hrefl htrans hp (groups ds) s
      rw [resolveTo]
      split
      · next he => rwa [he] at hgs
      · next s' he =>
        rw [he] at hgs
        exact htrans hgs (visitAll_state T hrefl htrans ih _ s')

end Policy

end Monotone

namespace Policy

variable (p : Policy σ ε)

def MoreAsked (s t : σ × List (Conflict × List Decl)) : Prop := s.2.length ≤ t.2.length

theorem recording_choose_length (c : Conflict) (ds : List Decl) (s : σ × List (Conflict × List Decl)) :
    (p.recording.choose c ds s).2.2.length = s.2.length + 1 := by
  simp [recording]

theorem recording_choose (c : Conflict) (ds : List Decl) (s : σ × List (Conflict × List Decl)) :
    MoreAsked s (p.recording.choose c ds s).2 := by
  rw [MoreAsked, recording_choose_length]
  omega

theorem recording_settleAll (gs : List (Decl × List Decl)) (s : σ × List (Conflict × List Decl)) :
    MoreAsked s (p.recording.settleAll gs s).2 :=
  p.recording.settleAll_state MoreAsked (fun _ => Nat.le_refl _) Nat.le_trans p.recording_choose gs s

theorem recording_resolveTo (n : Nat) (d : Decl) (s : σ × List (Conflict × List Decl)) :
    MoreAsked s (p.recording.resolveTo n d s).state :=
  p.recording.resolveTo_state MoreAsked (fun _ => Nat.le_refl _) Nat.le_trans p.recording_choose n d s

theorem survives_of_settleAll {gs : List (Decl × List Decl)} {s : σ × List (Conflict × List Decl)}
    (h : (p.recording.settleAll gs s).2.2.length ≤ s.2.length) :
    ∀ g ∈ gs, ∃ e, Survives (g.1 :: g.2) e := by
  induction gs with
  | nil => simp
  | cons g gs ih =>
    by_cases hg : ∃ e, Survives (g.1 :: g.2) e
    · obtain ⟨e, he⟩ := hg
      refine List.forall_mem_cons.mpr ⟨⟨e, he⟩, ih ?_⟩
      rw [settleAll, p.recording.settle_of_survives he] at h
      dsimp only at h
      split at h <;> next hgs => rw [hgs]; exact h
    · obtain ⟨c, -, hc⟩ := p.recording.settle_of_not_survives (not_exists.mp hg)
      have hlen := p.recording_choose_length c (g.1 :: g.2) s
      rw [settleAll, hc s] at h
      split at h
      · next he =>
        rw [he] at hlen
        dsimp only at h hlen
        omega
      · next s' he =>
        rw [he] at hlen
        have hmore := p.recording_settleAll gs s'
        rw [MoreAsked] at hmore
        dsimp only at hlen
        split at h <;> next hgs => rw [hgs] at hmore; dsimp only at h hmore; omega

theorem resolves_of_visitAll {n : Nat} {s : σ × List (Conflict × List Decl)}
    (ih : ∀ d : Decl, d.height ≤ n → (p.recording.resolveTo n d s).state.2.length ≤ s.2.length →
      ∃ r, Resolves d r) {ds : List Decl} (hds : ∀ d ∈ ds, d.height ≤ n)
    (h : (visitAll (p.recording.resolveTo n) ds s).state.2.length ≤ s.2.length) :
    ∀ d ∈ ds, ∃ r, Resolves d r := by
  induction ds with
  | nil => simp
  | cons d ds ihds =>
    obtain ⟨hd, hds⟩ := List.forall_mem_cons.mp hds
    have hmore := visitAll_state MoreAsked (fun _ => Nat.le_refl _) Nat.le_trans
      (p.recording_resolveTo n) ds (p.recording.resolveTo n d s).state
    have hfirst : (p.recording.resolveTo n d s).state.2.length ≤ s.2.length := by
      rw [visitAll] at h
      split at h
      · exact h
      · exact Nat.le_trans hmore h
    obtain ⟨r, hr⟩ := ih d hd hfirst
    refine List.forall_mem_cons.mpr ⟨⟨r, hr⟩, ihds hds ?_⟩
    rw [visitAll, p.recording.resolveTo_of_resolves hr hd] at h
    exact h

theorem resolves_of_resolveTo {n : Nat} {d : Decl} {s : σ × List (Conflict × List Decl)}
    (hn : d.height ≤ n) (h : (p.recording.resolveTo n d s).state.2.length ≤ s.2.length) :
    ∃ r, Resolves d r := by
  induction n generalizing d s with
  | zero =>
    cases d with
    | member m => exact ⟨_, .member m⟩
    | scope info ds => rw [height] at hn; omega
  | succ n ih =>
    cases d with
    | member m => exact ⟨_, .member m⟩
    | scope info ds =>
      rw [height] at hn
      have hsettle : (p.recording.settleAll (groups ds) s).2.2.length ≤ s.2.length := by
        rw [resolveTo] at h
        split at h
        · next he => rw [he]; exact h
        · next s' he =>
          rw [he]
          exact Nat.le_trans (visitAll_state MoreAsked (fun _ => Nat.le_refl _) Nat.le_trans
            (p.recording_resolveTo n) _ s') h
      have hkeys : ∀ k ∈ keys ds, ∃ e, Survives (ofKey k ds) e := by
        intro k hk
        have hmem : ofKey k ds ∈ (groups ds).map (fun g => g.1 :: g.2) := by
          rw [groups_map_cons]
          exact List.mem_map_of_mem hk
        obtain ⟨g, hg, hgk⟩ := List.mem_map.mp hmem
        rw [← hgk]
        exact p.survives_of_settleAll hsettle g hg
      choose! survivor hsurvivor using hkeys
      rw [resolveTo, p.recording.settleAll_groups hsurvivor] at h
      have hheight : ∀ e ∈ (keys ds).map survivor, e.height ≤ n := by
        rw [List.forall_mem_map]
        intro k hk
        have hle := (hsurvivor k hk).height_le
        have hkey := heightAll_ofKey_le k ds
        omega
      have hvisit := p.resolves_of_visitAll (fun d hd hs => ih hd hs) hheight h
      rw [List.forall_mem_map] at hvisit
      choose! result hresult using hvisit
      exact ⟨_, .scope info ds survivor result hsurvivor hresult⟩

theorem asked_eq_nil_iff (d : Decl) (s : σ) : p.asked d s = [] ↔ ∃ r, Resolves d r := by
  constructor
  · intro h
    apply p.resolves_of_resolveTo (s := (s, [])) (Nat.le_add_right d.height p.recording.reach)
    change (p.asked d s).length ≤ 0
    rw [h]
    exact Nat.le_refl 0
  · rintro ⟨r, hr⟩
    rw [asked, p.recording.resolve_of_resolves hr]

end Policy

end RubyStubs
