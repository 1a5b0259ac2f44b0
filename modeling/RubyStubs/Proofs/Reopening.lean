import RubyStubs.Proofs.Fragments
import RubyStubs.Proofs.Questions

namespace RubyStubs

open Decl

namespace Decl

/-- The declarations stand in the place of the first: a member stands for itself, and a scope for
itself or in fragments. What the fragments hold is, end to end, what the scope holds, each
declaration in its place or in fragments again. -/
inductive Reopened : Decl → List Decl → Prop
  | member (m : Member) : Reopened (.member m) [.member m]
  | scope {s : Scope} {ds : List Decl} {ess : List (List Decl)} (ps : List (Scope × List Decl))
      (hs : s.Pieces (ps.map (·.1))) (hds : List.Forall₂ Reopened ds ess)
      (hps : ps.flatMap (·.2) = ess.flatten) : Reopened (.scope s ds) (ofScopes ps)

def ReopenedAll (ds es : List Decl) : Prop := ∃ ess, List.Forall₂ Reopened ds ess ∧ es = ess.flatten

theorem ReopenedAll.append {as bs cs ds : List Decl} (h : ReopenedAll as bs) (h' : ReopenedAll cs ds) :
    ReopenedAll (as ++ cs) (bs ++ ds) := by
  obtain ⟨bss, hb, rfl⟩ := h
  obtain ⟨dss, hd, rfl⟩ := h'
  exact ⟨bss ++ dss, List.rel_append hb hd, List.flatten_append.symm⟩

theorem Reopened.key {d : Decl} {es : List Decl} (h : Reopened d es) :
    ∀ e ∈ es, e.key = d.key := by
  cases h with
  | member m => simp
  | scope ps hs =>
    rw [ofScopes, List.forall_mem_map]
    intro p hp
    simp [Decl.key, hs.name (List.mem_map_of_mem hp)]

theorem Reopened.ne_nil {d : Decl} {es : List Decl} (h : Reopened d es) : es ≠ [] := by
  cases h with
  | member m => simp
  | scope ps hs =>
    have hpos := hs.length_pos
    rw [List.length_map] at hpos
    rintro he
    rw [ofScopes, List.map_eq_nil_iff] at he
    simp [he] at hpos

theorem Reopened.distinct_key {d : Decl} {es : List Decl} (h : Reopened d es) :
    distinct (es.map Decl.key) = [d.key] := by
  rw [distinct_eq_singleton_iff, List.forall_mem_map]
  refine ⟨?_, h.key⟩
  obtain ⟨e, es', rfl⟩ := List.exists_cons_of_ne_nil h.ne_nil
  rw [← h.key e (by simp)]
  exact List.mem_map_of_mem List.mem_cons_self

theorem ReopenedAll.keys_eq {ds es : List Decl} (h : ReopenedAll ds es) : keys es = keys ds := by
  obtain ⟨ess, h, rfl⟩ := h
  induction h with
  | nil => rfl
  | cons hd _ ih =>
    rw [keys, keys, List.flatten_cons, List.map_append, List.map_cons, ← List.singleton_append]
    apply distinct_append_congr _ ih
    rw [hd.distinct_key]
    rfl

theorem ReopenedAll.ofKey {ds es : List Decl} (h : ReopenedAll ds es) (k : MergeKey) :
    ReopenedAll (ofKey k ds) (ofKey k es) := by
  obtain ⟨ess, h, rfl⟩ := h
  induction h with
  | nil => exact ⟨[], .nil, rfl⟩
  | @cons d es ds ess hd _ ih =>
    rw [List.flatten_cons, ofKey_append, ← List.singleton_append, ofKey_append]
    refine ReopenedAll.append ?_ ih
    by_cases hk : d.key = k
    · have hes : Decl.ofKey k es = es :=
        List.filter_eq_self.mpr fun e he => by simp [hd.key e he, hk]
      have hself : Decl.ofKey k [d] = [d] := by simp [Decl.ofKey, hk]
      rw [hes, hself]
      exact ⟨[es], .cons hd .nil, List.flatten_singleton.symm⟩
    · have hes : Decl.ofKey k es = [] :=
        List.filter_eq_nil_iff.mpr fun e he => by simp [hd.key e he, hk]
      have hself : Decl.ofKey k [d] = [] := by simp [Decl.ofKey, hk]
      rw [hes, hself]
      exact ⟨[], .nil, rfl⟩

theorem eq_of_reopened_members (ms : List Member) {es : List Decl}
    (h : ReopenedAll (ms.map .member) es) : es = ms.map .member := by
  obtain ⟨ess, h, rfl⟩ := h
  induction ms generalizing ess with
  | nil =>
    cases h
    rfl
  | cons m ms ih =>
    cases h with
    | cons hm hrest =>
      cases hm
      rw [List.flatten_cons, ih _ hrest]
      rfl

theorem exists_ofScopes_of_reopened {ps : List (Scope × List Decl)} {es : List Decl}
    (h : ReopenedAll (ofScopes ps) es) :
    ∃ qs sss, es = ofScopes qs ∧ qs.map (·.1) = sss.flatten ∧
      List.Forall₂ Scope.Pieces (ps.map (·.1)) sss ∧
        ReopenedAll (ps.flatMap (·.2)) (qs.flatMap (·.2)) := by
  obtain ⟨ess, h, rfl⟩ := h
  induction ps generalizing ess with
  | nil =>
    cases h
    exact ⟨[], [], rfl, rfl, .nil, [], .nil, rfl⟩
  | cons p ps ih =>
    cases h with
    | cons hp hrest =>
      obtain ⟨qs, sss, hqs, hmap, hpieces, hchildren⟩ := ih _ hrest
      cases hp with
      | scope rs hs hds hrs =>
        refine ⟨rs ++ qs, rs.map (·.1) :: sss, ?_, ?_, .cons hs hpieces, ?_⟩
        · rw [List.flatten_cons, hqs, ofScopes, ofScopes, ofScopes, List.map_append]
        · rw [List.map_append, hmap, List.flatten_cons]
        · rw [List.flatMap_cons, List.flatMap_append]
          exact ReopenedAll.append ⟨_, hds, hrs⟩ hchildren

inductive Retold : Decl → Decl → Prop
  | member (m : Member) : Retold (.member m) (.member m)
  | scope {s t : Scope} (hs : t = s ∨ t = s.flushed) {ds es : List Decl} (hds : ReopenedAll ds es) :
      Retold (.scope s ds) (.scope t es)

theorem Survives.reopened {ds es : List Decl} {e : Decl} (h : Survives ds e)
    (hds : ReopenedAll ds es) : ∃ e', Survives es e' ∧ Retold e e' := by
  cases h with
  | member m ns h =>
    cases eq_of_reopened_members (m :: ns) hds
    exact ⟨_, .member m ns h, .member m⟩
  | scope ps s h =>
    obtain ⟨qs, sss, rfl, hqs, hpieces, hchildren⟩ := exists_ofScopes_of_reopened hds
    obtain ⟨t, ht, hst⟩ := h.pieces hpieces
    rw [← hqs] at ht
    exact ⟨_, .scope qs t ht, .scope hst hchildren⟩

mutual

def flushed : Decl → Decl
  | .scope s ds => .scope s.flushed (flushedAll ds)
  | .member m => .member m

def flushedAll : List Decl → List Decl
  | [] => []
  | d :: ds => flushed d :: flushedAll ds

end

theorem flushedAll_eq_map (ds : List Decl) : flushedAll ds = ds.map flushed := by
  induction ds with
  | nil => rfl
  | cons d ds ih => rw [flushedAll, ih, List.map_cons]

theorem flushed_scope_eq_iff (s : Scope) (ds : List Decl) :
    (Decl.scope s ds).flushed = .scope s ds ↔ s.flushed = s ∧ ∀ d ∈ ds, d.flushed = d := by
  have hmap : ds.map flushed = ds ↔ ∀ d ∈ ds, d.flushed = d := by
    simpa using List.map_inj_left (l := ds) (f := flushed) (g := id)
  rw [flushed, flushedAll_eq_map, scope.injEq, hmap]

theorem Survives.flushed_eq {ds : List Decl} {e : Decl} (h : Survives ds e)
    (hds : ∀ d ∈ ds, d.flushed = d) : e.flushed = e := by
  cases h with
  | member m ns h => rfl
  | scope ps s h =>
    have hps : ∀ p ∈ ps, p.1.flushed = p.1 ∧ ∀ d ∈ p.2, d.flushed = d := fun p hp =>
      (flushed_scope_eq_iff p.1 p.2).mp (hds _ (List.mem_map_of_mem hp))
    refine (flushed_scope_eq_iff _ _).mpr ⟨?_, ?_⟩
    · generalize hss : ps.map (·.1) = ss at h
      cases h with
      | one =>
        obtain ⟨p, hp, rfl⟩ := List.mem_map.mp (hss ▸ List.mem_singleton_self s)
        exact (hps p hp).1
      | many => rfl
    · intro d hd
      obtain ⟨p, hp, hdp⟩ := List.mem_flatMap.mp hd
      exact (hps p hp).2 d hdp

theorem Resolves.retold {d r : Decl} (h : Resolves d r) {d' : Decl} (hd : Retold d d') :
    ∃ r', Resolves d' r' ∧ r'.flushed = r.flushed ∧ (d.flushed = d → r' = r) := by
  induction h generalizing d' with
  | member m =>
    cases hd
    exact ⟨_, .member m, rfl, fun _ => rfl⟩
  | scope s ds survivor result hs hr ih =>
    cases hd with
    | @scope _ t hst _ es hds =>
      have hstep : ∀ k ∈ keys es, ∃ e' r', Survives (ofKey k es) e' ∧ Resolves e' r' ∧
          r'.flushed = (result k).flushed ∧ ((survivor k).flushed = survivor k → r' = result k) := by
        intro k hk
        rw [hds.keys_eq] at hk
        obtain ⟨e', he', hretold⟩ := (hs k hk).reopened (hds.ofKey k)
        obtain ⟨r', hr', hflushed, hsame⟩ := ih k hk hretold
        exact ⟨e', r', he', hr', hflushed, hsame⟩
      choose! survivor' result' hs' hr' hflushed hsame using hstep
      have hkeys := hds.keys_eq
      refine ⟨_, .scope t es survivor' result' hs' hr', ?_, ?_⟩
      · have ht : t.flushed = s.flushed := by
          rcases hst with rfl | rfl <;> rfl
        rw [flushed, flushed, ht, flushedAll_eq_map, flushedAll_eq_map, List.map_map, List.map_map,
          ← hkeys]
        exact congrArg _ (List.map_congr_left hflushed)
      · intro hself
        obtain ⟨hss, hself⟩ := (flushed_scope_eq_iff s ds).mp hself
        have ht : t = s := by
          rcases hst with rfl | rfl
          · rfl
          · exact hss
        rw [ht, ← hkeys]
        refine congrArg _ (List.map_congr_left fun k hk => hsame k hk ?_)
        rw [hkeys] at hk
        exact (hs k hk).flushed_eq fun d hd => hself d (mem_ofKey.mp hd).1

theorem Reopened.retold {d d' : Decl} (h : Reopened d [d']) : Retold d d' := by
  generalize hes : [d'] = es at h
  cases h with
  | member m =>
    cases hes
    exact .member m
  | @scope s _ _ ps hs hds hps =>
    obtain ⟨⟨t, es⟩, rfl, hp⟩ := List.map_eq_singleton_iff.mp hes.symm
    cases hp
    have hts : t = s := by
      cases hs with
      | whole => rfl
      | split hlen => simp at hlen
    rw [List.flatMap_singleton] at hps
    exact .scope (.inl hts) ⟨_, hds, hps⟩

end Decl

namespace Policy

variable {σ ε τ δ : Type}

/-- Reopening scopes is transparent. If no question is asked about a tree, none is asked about the
tree with scopes in fragments, and both come to the same tree. Comments that wait for a next child
are no part of a tree; where there are none the outcomes are equal as they stand. -/
theorem resolve_reopened (p : Policy σ ε) (s : σ) (q : Policy τ δ) (t : τ) {d d' : Decl}
    (h : Reopened d [d']) (hquiet : p.asked d s = []) :
    q.asked d' t = [] ∧ (q.resolve d' t).failure = none ∧
      (q.resolve d' t).value.flushed = (p.resolve d s).value.flushed ∧
        (d.flushed = d → (q.resolve d' t).value = (p.resolve d s).value) := by
  obtain ⟨r, hr⟩ := (p.asked_eq_nil_iff d s).mp hquiet
  obtain ⟨r', hr', hflushed, hsame⟩ := hr.retold h.retold
  rw [p.resolve_of_resolves hr s, q.resolve_of_resolves hr' t]
  exact ⟨(q.asked_eq_nil_iff d' t).mpr ⟨r', hr'⟩, rfl, hflushed, hsame⟩

theorem resolve_reopened_class :
    let x : Decl := .member { name := "X", body := .constant (.text "1") false }
    let y : Decl := .member { name := "Y", body := .constant (.text "2") false }
    let z : Decl := .member { name := "Z", body := .constant (.text "3") false }
    let n (kind : ScopeKind) (ds : List Decl) : Decl := .scope { name := "N", kind } ds
    let a (isFinal : Bool) (comments included : List String) (ds : List Decl) : Decl :=
      .scope { name := "A", kind := .ofClass { superclass := some "B", isFinal }, comments, included } ds
    let d : Decl := .scope {} [a true ["about A"] ["I", "J"] [n (.ofModule true) [x, y], z], y]
    let d' : Decl := .scope {} [.scope { name := "A", included := ["I"] } [n .plain [x]],
      a true ["about A"] ["J"] [n (.ofModule true) [y]], a false [] ["I"] [z], y]
    let p : Policy Unit Unit := drop
    let q : Policy Unit String := fail "stop"
    Reopened d [d'] ∧ p.asked d () = [] ∧ q.asked d' () = [] ∧
      (q.resolve d' ()).value = (p.resolve d ()).value := by
  intro x y z n a d d' p q
  have hn : Reopened (n (.ofModule true) [x, y]) [n .plain [x], n (.ofModule true) [y]] := by
    refine .scope [({ name := "N" }, [x]), ({ name := "N", kind := .ofModule true }, [y])] ?_
      (.cons (.member _) (.cons (.member _) .nil)) rfl
    refine .split (by decide) ⟨by decide, by decide, by decide, by decide, ?_, rfl, rfl⟩
    refine ⟨[{ name := "N" }], { name := "N", kind := .ofModule true }, [], rfl, by decide, rfl, rfl, ?_⟩
    simpa using ⟨rfl, rfl, rfl, rfl, rfl⟩
  have ha : Reopened (a true ["about A"] ["I", "J"] [n (.ofModule true) [x, y], z])
      [.scope { name := "A", included := ["I"] } [n .plain [x]],
        a true ["about A"] ["J"] [n (.ofModule true) [y]], a false [] ["I"] [z]] := by
    refine .scope
      [({ name := "A", included := ["I"] }, [n .plain [x]]),
        ({ name := "A", kind := .ofClass { superclass := some "B", isFinal := true },
           comments := ["about A"], included := ["J"] }, [n (.ofModule true) [y]]),
        ({ name := "A", kind := .ofClass { superclass := some "B" }, included := ["I"] }, [z])] ?_
      (.cons hn (.cons (.member _) .nil)) rfl
    refine .split (by decide) ⟨by decide, by decide, by decide, by decide, ?_, rfl, rfl⟩
    refine ⟨[_], _, [_], rfl, by decide, rfl, rfl, ?_⟩
    simpa using ⟨⟨rfl, rfl, rfl, rfl, rfl⟩, ⟨rfl, rfl, rfl, rfl, rfl⟩⟩
  have hd : Reopened d [d'] := by
    refine .scope [({}, _)] .whole (.cons ha (.cons (.member _) .nil)) rfl
  have h : p.asked d () = [] := by decide +kernel
  obtain ⟨hasked, -, -, hsame⟩ := resolve_reopened p () q () hd h
  exact ⟨hd, h, hasked, hsame rfl⟩

end Policy

end RubyStubs
