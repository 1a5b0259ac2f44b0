import RubyStubs.Proofs.Aborting
import Mathlib.Algebra.Ring.Nat

/-!
The recursion of a run goes down. Folding makes new scopes with more children than any scope before,
yet what survives at a level is no higher than the siblings that it comes from. So each scope that a
run enters is lower than the one it is entered from, if answers are taken from the candidates, and
the tree that the run ends with has grown neither in height nor in number of declarations.
-/

namespace RubyStubs

open Decl

variable {σ ε : Type}

namespace Decl

mutual

def size : Decl → Nat
  | .scope _ ds => sizeAll ds + 1
  | .member _ => 1

def sizeAll : List Decl → Nat
  | [] => 0
  | d :: ds => size d + sizeAll ds

end

theorem sizeAll_append (ds es : List Decl) : sizeAll (ds ++ es) = sizeAll ds + sizeAll es := by
  induction ds with
  | nil => simp [sizeAll]
  | cons d ds ih => simp only [List.cons_append, sizeAll, ih, Nat.add_assoc]

theorem size_le_sizeAll {d : Decl} {ds : List Decl} (h : d ∈ ds) : d.size ≤ sizeAll ds := by
  obtain ⟨before, after, rfl⟩ := List.append_of_mem h
  rw [sizeAll_append, sizeAll]
  omega

theorem sizeAll_filter_add (f : Decl → Bool) (ds : List Decl) :
    sizeAll (ds.filter f) + sizeAll (ds.filter (!f ·)) = sizeAll ds := by
  induction ds with
  | nil => rfl
  | cons d ds ih => by_cases h : f d <;> simp [h, sizeAll] <;> omega

theorem sizeAll_ofScopes (ps : List (Scope × List Decl)) :
    sizeAll (ofScopes ps) = sizeAll (ps.flatMap (·.2)) + ps.length := by
  induction ps with
  | nil => rfl
  | cons q ps ih =>
    rw [ofScopes] at ih ⊢
    rw [List.map_cons, sizeAll, size, ih, List.flatMap_cons, sizeAll_append, List.length_cons]
    omega

theorem Survives.size_le {ds : List Decl} {e : Decl} (h : Survives ds e) : e.size ≤ sizeAll ds := by
  cases h with
  | member m ns h => exact size_le_sizeAll List.mem_cons_self
  | scope ps s h =>
    obtain ⟨b, hb, -⟩ := h.name
    have hpos : 0 < ps.length := by
      rw [← List.length_map (f := (·.1))]
      exact List.length_pos_of_mem hb
    rw [sizeAll_ofScopes, size]
    omega

theorem sizeAll_groups (ds : List Decl) :
    ((groups ds).map fun g => sizeAll (g.1 :: g.2)).sum = sizeAll ds := by
  induction ds using groups.induct with
  | case1 => simp [groups, sizeAll]
  | case2 d ds ih =>
    simp only [List.unattach_filter, List.unattach_attach] at ih
    have hsplit : sizeAll (ds.filter (·.key == d.key)) + sizeAll (ds.filter (·.key != d.key)) = sizeAll ds :=
      sizeAll_filter_add (·.key == d.key) ds
    rw [groups, List.map_cons, List.sum_cons, ih, sizeAll, sizeAll, Nat.add_assoc, hsplit]

structure NoLarger (r d : Decl) : Prop where
  height : r.height ≤ d.height
  size : r.size ≤ d.size

theorem NoLarger.refl (d : Decl) : NoLarger d d := ⟨Nat.le_refl _, Nat.le_refl _⟩

theorem NoLarger.all {rs ds : List Decl} (h : List.Forall₂ NoLarger rs ds) :
    heightAll rs ≤ heightAll ds ∧ sizeAll rs ≤ sizeAll ds := by
  induction h with
  | nil => exact ⟨Nat.le_refl _, Nat.le_refl _⟩
  | cons hr _ ih =>
    obtain ⟨hheight, hsize⟩ := ih
    have := hr.height
    rw [heightAll, heightAll, sizeAll, sizeAll]
    exact ⟨by omega, Nat.add_le_add hr.size hsize⟩

end Decl

theorem visitAll_noLarger {f : Decl → σ → Resolution σ ε Decl}
    (hf : ∀ d s, NoLarger (f d s).value d) (ds : List Decl) (s : σ) :
    List.Forall₂ NoLarger (visitAll f ds s).value ds := by
  induction ds generalizing s with
  | nil => exact .nil
  | cons d ds ih =>
    cases h : (f d s).failure with
    | some e =>
      rw [visitAll_cons_of_some h]
      exact .cons (hf d s) (List.forall₂_same.mpr fun d _ => NoLarger.refl d)
    | none =>
      rw [visitAll_cons_of_none h]
      exact .cons (hf d s) (ih _)

namespace Policy

variable {p : Policy σ ε}

theorem Faithful.settle_size (hp : p.Faithful) {d e : Decl} {others : List Decl} {s s' : σ}
    (h : p.settle d others s = (.ok (some e), s')) : e.size ≤ sizeAll (d :: others) := by
  rcases hp.settle h with hs | hm
  · exact hs.size_le
  · exact size_le_sizeAll hm

theorem Faithful.settleAll_size (hp : p.Faithful) {gs : List (Decl × List Decl)} {s s' : σ} {es : List Decl}
    (h : p.settleAll gs s = (.ok es, s')) :
    sizeAll es ≤ (gs.map fun g => sizeAll (g.1 :: g.2)).sum := by
  induction gs generalizing s es with
  | nil =>
    cases h
    exact Nat.le_refl _
  | cons g gs ih =>
    obtain ⟨survivor, s₁, rest, hsettle, hrest, rfl⟩ := settleAll_cons_eq_ok_iff.mp h
    have hle := ih hrest
    rw [List.map_cons, List.sum_cons, sizeAll_append]
    cases survivor with
    | none => exact Nat.add_le_add (Nat.zero_le _) hle
    | some e => exact Nat.add_le_add (hp.settle_size hsettle) hle

theorem Faithful.settleAll_groups (hp : p.Faithful) {ds es : List Decl} {s s' : σ}
    (h : p.settleAll (groups ds) s = (.ok es, s')) :
    heightAll es ≤ heightAll ds ∧ sizeAll es ≤ sizeAll ds := by
  refine ⟨heightAll_le_iff.mpr (hp.settleAll (groups_forall₂ ds) h).2, ?_⟩
  rw [← sizeAll_groups ds]
  exact hp.settleAll_size h

theorem Faithful.resolveTo_noLarger (hp : p.Faithful) (n : Nat) (d : Decl) (s : σ) :
    NoLarger (p.resolveTo n d s).value d := by
  induction n generalizing d s with
  | zero => exact .refl d
  | succ n ih =>
    cases d with
    | member m => exact .refl _
    | scope info ds =>
      cases hsettle : p.settleAll (groups ds) s with
      | mk answer s' =>
        cases answer with
        | error e =>
          rw [resolveTo_of_settleAll_error hsettle]
          exact .refl _
        | ok es =>
          obtain ⟨hheight, hsize⟩ := NoLarger.all (visitAll_noLarger ih es s')
          obtain ⟨hheight', hsize'⟩ := hp.settleAll_groups hsettle
          rw [resolveTo_of_settleAll_ok hsettle]
          constructor
          · rw [height, height]
            omega
          · rw [size, size]
            omega

/-- The run on the scope `d`, begun in the state `s`, enters the scope `e` in the state `t`: it is
among the survivors of the level below `d`, and those before it are resolved without a failure. -/
inductive DescendsInto (p : Policy σ ε) : Decl × σ → Decl × σ → Prop
  | intro (info : Scope) {ds before after : List Decl} {e : Decl} {s s' : σ} {n : Nat}
      {rs : Resolution σ ε (List Decl)} (hsettle : p.settleAll (groups ds) s = (.ok (before ++ e :: after), s'))
      (hbefore : p.EndsAllWithin n before s' rs) (hfailure : rs.failure = none) (hscope : e.isScope) :
      DescendsInto p (.scope info ds, s) (e, rs.state)

theorem Faithful.height_lt_of_descendsInto (hp : p.Faithful) {c c' : Decl × σ} (h : p.DescendsInto c c') :
    c'.1.height < c.1.height := by
  cases h with
  | intro info hsettle =>
    have hle := (hp.settleAll_groups hsettle).1
    rw [heightAll_le_iff] at hle
    rw [height]
    exact Nat.lt_succ_of_le (hle _ (by simp))

/-- With answers taken from the candidates a run only enters scopes that are lower than the one it
comes from, so that it cannot go on for ever; it ends with a tree that is no higher than the tree it
began with and has no more declarations. -/
theorem resolve_descends (p : Policy σ ε) (hp : p.Faithful) :
    (∀ d s e t, p.DescendsInto (d, s) (e, t) → e.height < d.height) ∧
      (WellFounded fun c c' => p.DescendsInto c' c) ∧
      ∀ d s, p.Ends d s (p.resolve d s) ∧ (p.resolve d s).value.height ≤ d.height ∧
        (p.resolve d s).value.size ≤ d.size := by
  refine ⟨fun d s e t h => hp.height_lt_of_descendsInto h, ?_, fun d s => ?_⟩
  · have hwf := (measure fun c : Decl × σ => c.1.height).wf
    exact Subrelation.wf (fun {_ _} h => hp.height_lt_of_descendsInto h) hwf
  · have hle := hp.resolveTo_noLarger (d.height + p.reach) d s
    exact ⟨hp.ends d s, hle.height, hle.size⟩

theorem resolve_descends_reopened :
    let x (value : String) : Decl := .member { name := "X", body := .constant (.text value) false }
    let a (ds : List Decl) : Decl := .scope { name := "A", kind := .ofClass {} } ds
    let tree : Decl := .scope {} [a [x "1", .scope { name := "B" } []], a [x "2"]]
    let joined := a [x "1", .scope { name := "B" } [], x "2"]
    let p : Policy Unit String := keep 1
    p.Faithful ∧ p.DescendsInto (tree, ()) (joined, ()) ∧ joined.height < tree.height ∧
      p.Ends tree () ⟨.scope {} [a [x "2", .scope { name := "B" } []]], (), none⟩ ∧
      (p.resolve tree ()).value.size ≤ tree.size := by
  intro x a tree joined p
  have hp : p.Faithful := keep_faithful 1
  obtain ⟨hlt, -, hends⟩ := resolve_descends p hp
  have hsettle : p.settleAll (groups tree.children) () = (.ok ([] ++ joined :: []), ()) := by cbv
  have hbefore : p.EndsAllWithin 0 [] () ⟨[], (), none⟩ := ⟨trivial, rfl⟩
  have hdescends : p.DescendsInto (tree, ()) (joined, ()) := .intro {} hsettle hbefore rfl rfl
  have hvalue : p.resolve tree () = ⟨.scope {} [a [x "2", .scope { name := "B" } []]], (), none⟩ := by cbv
  refine ⟨hp, hdescends, hlt _ _ _ _ hdescends, ?_, (hends tree ()).2.2⟩
  rw [← hvalue]
  exact (hends tree ()).1

/-- The answers have to be candidates: a policy that answers a question with the scope that the
question comes from is led back into that scope. -/
theorem replaceBy_descends_into_itself {a b : Decl} {c : Conflict} (hkey : b.key = a.key)
    (hfold : a.fold [b] = .error c) (info : Scope) (s : σ) :
    (replaceBy (.scope info [a, b]) : Policy σ ε).DescendsInto (.scope info [a, b], s)
      (.scope info [a, b], s) := by
  let p : Policy σ ε := replaceBy (.scope info [a, b])
  have hgroups : groups [a, b] = [(a, [b])] := by simp [groups, hkey]
  have hsettle : p.settleAll (groups [a, b]) s = (.ok ([] ++ .scope info [a, b] :: []), s) := by
    simp [p, hgroups, settleAll, settle, hfold, replaceBy]
  have hbefore : p.EndsAllWithin 0 [] s ⟨[], s, none⟩ := ⟨trivial, rfl⟩
  exact .intro info hsettle hbefore rfl rfl

end Policy

end RubyStubs
