import RubyStubs.Proofs.KeyPath
import RubyStubs.Proofs.Questions
import RubyStubs.Proofs.Union

namespace RubyStubs

open Decl

variable {σ ε : Type}

namespace Decl

/-- A scope is the union of a set of scopes, and a member is one of a set of members. -/
def Gathers (N : Decl → Prop) (e : Decl) : Prop :=
  (∀ d, N d → d.isScope = e.isScope) ∧
    match e with
    | .scope s _ => s.IsUnion fun t => ∃ ds, N (.scope t ds)
    | .member m => N (.member m)

theorem Survives.gathers {ds : List Decl} {e : Decl} (h : Survives ds e) : Gathers (· ∈ ds) e := by
  cases h with
  | member m ns h =>
    constructor
    · rw [List.forall_mem_cons, List.forall_mem_map]
      exact ⟨rfl, fun _ _ => rfl⟩
    · exact List.mem_cons_self
  | scope ps s h =>
    have hmem : (fun t => ∃ cs, Decl.scope t cs ∈ ofScopes ps) = (· ∈ ps.map (·.1)) := by
      funext t
      simp [ofScopes]
    constructor
    · exact isScope_of_mem_ofScopes ps
    · change s.IsUnion fun t => ∃ cs, Decl.scope t cs ∈ ofScopes ps
      rw [hmem]
      exact h.isUnion

theorem Resolves.gathers {N : Decl → Prop} {d r : Decl} (h : Resolves d r) (hd : Gathers N d) :
    Gathers N r := by
  cases h <;> exact hd

theorem gathers_self (d : Decl) : Gathers (· = d) d := by
  constructor
  · rintro _ rfl
    rfl
  · cases d with
    | member m => exact rfl
    | scope s ds =>
      have hmem : (fun t => ∃ cs, Decl.scope t cs = .scope s ds) = (· = s) := by
        funext t
        simp
      change s.IsUnion fun t => ∃ cs, Decl.scope t cs = .scope s ds
      rw [hmem]
      exact s.isUnion_self

theorem Resolves.exists_at_iff {d r : Decl} (h : Resolves d r) (path : List MergeKey) :
    (∃ x, At d path x) ↔ ∃ x, At r path x := by
  induction h generalizing path with
  | member m => exact Iff.rfl
  | scope s ds survivor result hs hr ih =>
    rcases path with _ | ⟨k, _ | ⟨l, path⟩⟩
    · simp [not_at_nil]
    · simp [at_singleton_iff, Decl.key]
    · simp only [at_cons_cons_iff, children, mem_ofKey_result hs hr]
      constructor
      · rintro ⟨x, rfl, c, hc, hx⟩
        have hl : l ∈ keys ds := mem_keys.mpr ⟨c, mem_ofKey.mp hc⟩
        have hsurvivor := ((hs l hl).exists_at_iff ofKey_key path).mpr ⟨c, hc, x, hx⟩
        obtain ⟨y, hy⟩ := (ih l hl (l :: path)).mp hsurvivor
        exact ⟨y, rfl, result l, ⟨hl, rfl⟩, hy⟩
      · rintro ⟨x, rfl, c, ⟨hl, rfl⟩, hx⟩
        have hsurvivor := (ih l hl (l :: path)).mpr ⟨x, hx⟩
        obtain ⟨d, hd, y, hy⟩ := ((hs l hl).exists_at_iff ofKey_key path).mp hsurvivor
        exact ⟨y, rfl, d, hd, hy⟩

theorem Resolves.gathers_at {d r : Decl} (h : Resolves d r) {path : List MergeKey} {x : Decl}
    (hx : At r path x) : Gathers (At d path) x := by
  induction h generalizing path x with
  | member m =>
    rcases path with _ | ⟨k, _ | ⟨l, path⟩⟩
    · exact absurd hx (not_at_nil _ _)
    · obtain ⟨rfl, rfl⟩ := (at_singleton_iff _ k x).mp hx
      rw [at_key]
      exact gathers_self _
    · obtain ⟨-, c, hc, -⟩ := (at_cons_cons_iff _ k l path x).mp hx
      cases hc
  | scope s ds survivor result hs hr ih =>
    rcases path with _ | ⟨k, _ | ⟨l, path⟩⟩
    · exact absurd hx (not_at_nil _ _)
    · obtain ⟨rfl, rfl⟩ := (at_singleton_iff _ k x).mp hx
      change Gathers (At (.scope s ds) [(Decl.scope s ds).key]) _
      rw [at_key]
      exact gathers_self (.scope s ds)
    · obtain ⟨rfl, c, hc, hx⟩ := (at_cons_cons_iff _ k l path x).mp hx
      obtain ⟨hl, rfl⟩ := (mem_ofKey_result hs hr l c).mp hc
      have hset : At (.scope s ds) ((Decl.scope s ds).key :: l :: path) =
          fun y => ∃ d ∈ ofKey l ds, At d (l :: path) y := by
        funext y
        simp [at_cons_cons_iff, children]
      change Gathers (At (.scope s ds) ((Decl.scope s ds).key :: l :: path)) x
      rw [hset]
      cases path with
      | nil =>
        -- At the survivor itself the declarations of its key meet.
        obtain ⟨-, rfl⟩ := (at_singleton_iff _ l x).mp hx
        have hgroup : (fun y => ∃ d ∈ ofKey l ds, At d [l] y) = (· ∈ ofKey l ds) := by
          funext y
          simp only [at_singleton_iff, eq_iff_iff]
          constructor
          · rintro ⟨d, hd, -, rfl⟩
            exact hd
          · intro hy
            exact ⟨y, hy, (ofKey_key y hy).symm, rfl⟩
        rw [hgroup]
        exact (hr l hl).gathers (hs l hl).gathers
      | cons l' path =>
        have hbelow : (fun y => ∃ d ∈ ofKey l ds, At d (l :: l' :: path) y) =
            At (survivor l) (l :: l' :: path) := by
          funext y
          exact propext ((hs l hl).at_below_iff ofKey_key l' path y).symm
        rw [hbelow]
        exact ih l hl hx

end Decl

namespace Policy

/-- If no question is asked, the resolved tree has the key paths of the given one, with scopes where
it has scopes; at each path its scope is the union of the given scopes, and its member one of the
given members. -/
theorem resolve_conserves (p : Policy σ ε) (d : Decl) (s : σ) (h : p.asked d s = []) :
    (∀ path, (∃ x, d.At path x) ↔ ∃ y, (p.resolve d s).value.At path y) ∧
      (∀ path x y, d.At path x → (p.resolve d s).value.At path y → x.isScope = y.isScope) ∧
      (∀ path t ds, (p.resolve d s).value.At path (.scope t ds) →
        t.IsUnion fun u => ∃ es, d.At path (.scope u es)) ∧
      ∀ path m, (p.resolve d s).value.At path (.member m) → d.At path (.member m) := by
  obtain ⟨r, hr⟩ := (p.asked_eq_nil_iff d s).mp h
  rw [p.resolve_of_resolves hr s]
  refine ⟨hr.exists_at_iff, ?_, ?_, ?_⟩
  · intro path x y hx hy
    exact (hr.gathers_at hy).1 x hx
  · intro path t ds ht
    exact (hr.gathers_at ht).2
  · intro path m hm
    exact (hr.gathers_at hm).2

theorem resolve_conserves_reopened :
    let x : Decl := .member { name := "X", body := .constant (.text "1") false }
    let tree : Decl := .scope {} [
      .scope { name := "M", included := ["I"] }
        [.scope { name := "A", kind := .ofClass { superclass := some "B" } } [x]],
      .scope { name := "M", kind := .ofModule true, included := ["J"] }
        [.scope { name := "A", kind := .ofClass { isFinal := true } } [x]]]
    let p : Policy Unit Unit := drop
    let r : Decl := (p.resolve tree ()).value
    p.asked tree () = [] ∧ (∀ path, (∃ y, tree.At path y) ↔ ∃ z, r.At path z) ∧
      (∀ path y z, tree.At path y → r.At path z → y.isScope = z.isScope) ∧
      (∀ path t ds, r.At path (.scope t ds) → t.IsUnion fun u => ∃ es, tree.At path (.scope u es)) ∧
      ∀ path m, r.At path (.member m) → tree.At path (.member m) := by
  intro x tree p r
  have h : p.asked tree () = [] := by decide +kernel
  exact ⟨h, resolve_conserves p tree () h⟩

end Policy

end RubyStubs
