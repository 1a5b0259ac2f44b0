import RubyStubs.Proofs.Questions
import RubyStubs.Proofs.Staged

namespace RubyStubs

open Decl

namespace Decl

def ResolvesAll (ds rs : List Decl) : Prop := ∀ s, Resolves (.scope s ds) (.scope s rs)

theorem Resolves.all {s : Scope} {ds : List Decl} {r : Decl} (h : Resolves (.scope s ds) r) :
    r = .scope s r.children ∧ ResolvesAll ds r.children := by
  cases h with
  | scope _ _ survivor result hs hr =>
    exact ⟨rfl, fun t => .scope t ds survivor result hs hr⟩

theorem resolvesAll_nil : ResolvesAll [] [] :=
  fun s => .scope s [] (fun _ => default) (fun _ => default) (by simp [mem_keys]) (by simp [mem_keys])

theorem Survives.stage {xs ys : List Decl} {e r : Decl} (h : Survives (xs ++ ys) e) (hne : xs ≠ [])
    (hr : Resolves e r)
    (ih : ∀ cs ds, e.children = cs ++ ds → ∃ qs, ResolvesAll cs qs ∧ ResolvesAll (qs ++ ds) r.children) :
    ∃ u v e', Survives xs u ∧ Resolves u v ∧ Survives (v :: ys) e' ∧ Resolves e' r := by
  generalize hds : xs ++ ys = ds at h
  cases h with
  | member m ns h =>
    obtain ⟨x, xs, rfl⟩ := List.exists_cons_of_ne_nil hne
    rw [List.cons_append, List.cons.injEq] at hds
    obtain ⟨rfl, htail⟩ := hds
    have hns : ∀ d ∈ xs ++ ys, ∃ n, d = .member n ∧ m.agrees n = true := by
      rw [htail, List.forall_mem_map]
      exact fun n hn => ⟨n, rfl, h n hn⟩
    refine ⟨.member m, .member m, .member m, ?_, .member m, ?_, hr⟩
    · exact (survives_member_iff m xs _).mpr ⟨rfl, fun d hd => hns d (by simp [hd])⟩
    · exact (survives_member_iff m ys _).mpr ⟨rfl, fun d hd => hns d (by simp [hd])⟩
  | scope ps s h =>
    obtain ⟨ps₁, ps₂, rfl, rfl, rfl⟩ := List.map_eq_append_iff.mp hds.symm
    rw [List.map_append] at h
    have hps : ps₁ ≠ [] := by
      rintro rfl
      exact hne rfl
    obtain ⟨u, hu, hus⟩ := h.split (by simpa using hps)
    obtain ⟨qs, hqs, hrs⟩ := ih _ _ (List.flatMap_append (f := Prod.snd))
    refine ⟨.scope u (ps₁.flatMap (·.2)), .scope u qs, .scope s (qs ++ ps₂.flatMap (·.2)), ?_, hqs u, ?_, ?_⟩
    · exact .scope ps₁ u hu
    · exact (survives_ofScopes_iff ((u, qs) :: ps₂) _).mpr ⟨s, hus, by simp⟩
    · rw [hr.all.1]
      exact hrs s

theorem keys_result_append {xs : List Decl} {u v : MergeKey → Decl}
    (hu : ∀ k ∈ keys xs, Survives (ofKey k xs) (u k)) (hv : ∀ k ∈ keys xs, Resolves (u k) (v k))
    (ys : List Decl) : keys ((keys xs).map v ++ ys) = keys (xs ++ ys) := by
  have h : ((keys xs).map v ++ ys).map key = distinct (xs.map key) ++ ys.map key := by
    rw [List.map_append, map_key_result hu hv, keys]
  rw [keys, h, distinct_distinct_append, keys, List.map_append]

theorem Resolves.stage {d r : Decl} (h : Resolves d r) (xs ys : List Decl) (hd : d.children = xs ++ ys) :
    ∃ qs, ResolvesAll xs qs ∧ ResolvesAll (qs ++ ys) r.children := by
  induction h generalizing xs ys with
  | member m =>
    obtain ⟨rfl, rfl⟩ := List.nil_eq_append_iff.mp hd
    exact ⟨[], resolvesAll_nil, resolvesAll_nil⟩
  | scope s ds survivor result hs hr ih =>
    change ds = xs ++ ys at hd
    subst hd
    have hstage : ∀ k ∈ keys xs, ∃ u v e, Survives (ofKey k xs) u ∧ Resolves u v ∧
        Survives (v :: ofKey k ys) e ∧ Resolves e (result k) := by
      intro k hk
      have hmem : k ∈ keys (xs ++ ys) := by
        obtain ⟨d, hd, hdk⟩ := mem_keys.mp hk
        exact mem_keys.mpr ⟨d, List.mem_append_left _ hd, hdk⟩
      have hsurvives := hs k hmem
      rw [ofKey_append] at hsurvives
      exact hsurvives.stage (fun he => ofKey_eq_nil_iff.mp he hk) (hr k hmem) (ih k hmem)
    choose! u v e hu hv he hre using hstage
    refine ⟨(keys xs).map v, fun t => .scope t xs u v hu hv, fun t => ?_⟩
    have hall : ∀ k ∈ keys ((keys xs).map v ++ ys),
        ∃ c, Survives (ofKey k ((keys xs).map v ++ ys)) c ∧ Resolves c (result k) := by
      intro k hk
      rw [keys_result_append hu hv] at hk
      rw [ofKey_append]
      by_cases hx : k ∈ keys xs
      · rw [ofKey_result hu hv hx]
        exact ⟨e k, he k hx, hre k hx⟩
      · have hsurvives := hs k hk
        rw [ofKey_append, ofKey_eq_nil_iff.mpr hx] at hsurvives
        rw [ofKey_result_of_not_mem hu hv hx]
        exact ⟨survivor k, hsurvives, hr k hk⟩
    choose! c hc hrc using hall
    have hres := Resolves.scope t ((keys xs).map v ++ ys) c result hc hrc
    rwa [keys_result_append hu hv] at hres

theorem mergeRoots_stage (xs ys : List Decl) :
    ∃ s t, mergeRoots (xs ++ ys) = .scope s (xs.flatMap children ++ ys.flatMap children) ∧
      mergeRoots xs = .scope t (xs.flatMap children) ∧
        ∀ qs, mergeRoots (.scope t qs :: ys) = .scope s (qs ++ ys.flatMap children) := by
  refine ⟨_, _, by rw [mergeRoots, List.flatMap_append], rfl, fun qs => ?_⟩
  simp [mergeRoots, scope?, distinct_distinct_append, children]

end Decl

namespace Policy

variable {σ ε τ δ : Type}

/-- If no question is asked about programs taken together, none is asked when some of them are
resolved before the rest, and the tree is the same. -/
theorem resolve_incremental (p : Policy σ ε) (s : σ) (q : Policy τ δ) (t : τ) (xs ys : List Decl)
    (h : p.asked (mergeRoots (xs ++ ys)) s = []) :
    q.asked (mergeRoots xs) t = [] ∧
      q.asked (mergeRoots ((q.resolve (mergeRoots xs) t).value :: ys)) t = [] ∧
        q.resolve (mergeRoots ((q.resolve (mergeRoots xs) t).value :: ys)) t =
          { value := (p.resolve (mergeRoots (xs ++ ys)) s).value, state := t } := by
  obtain ⟨r, hr⟩ := (p.asked_eq_nil_iff _ s).mp h
  obtain ⟨info, first, hroot, hfirst, hrest⟩ := mergeRoots_stage xs ys
  rw [p.resolve_of_resolves hr s]
  rw [hroot] at hr
  obtain ⟨qs, hqs, hrs⟩ := hr.stage _ _ rfl
  have hquiet : Resolves (mergeRoots xs) (.scope first qs) := hfirst ▸ hqs first
  have hall : Resolves (mergeRoots (.scope first qs :: ys)) r := by
    rw [hrest qs, hr.all.1]
    exact hrs info
  rw [q.resolve_of_resolves hquiet t]
  refine ⟨(q.asked_eq_nil_iff _ t).mpr ⟨_, hquiet⟩, (q.asked_eq_nil_iff _ t).mpr ⟨_, hall⟩, ?_⟩
  exact q.resolve_of_resolves hall t

theorem resolve_incremental_reopened :
    let a (comment : String) (ds : List Decl) : Decl :=
      .scope {} [.scope { name := "M" } [.scope { name := "A", kind := .ofClass {}, comments := [comment] } ds]]
    let x (text : String) : Decl := .member { name := "X", body := .constant (.text text) false }
    let xs := [a "one" [x "1"], a "two" [x "1", .scope { name := "N", kind := .ofModule false } []]]
    let ys := [a "one" [.scope { name := "N" } [x "2"]]]
    let p : Policy Unit Unit := drop
    let q : Policy Unit String := fail "stop"
    p.asked (mergeRoots (xs ++ ys)) () = [] ∧
      q.asked (mergeRoots ((q.resolve (mergeRoots xs) ()).value :: ys)) () = [] ∧
        q.resolve (mergeRoots ((q.resolve (mergeRoots xs) ()).value :: ys)) () =
          { value := (p.resolve (mergeRoots (xs ++ ys)) ()).value, state := () } := by
  intro a x xs ys p q
  have h : p.asked (mergeRoots (xs ++ ys)) () = [] := by decide +kernel
  exact ⟨h, (resolve_incremental p () q () xs ys h).2⟩

end Policy

end RubyStubs
