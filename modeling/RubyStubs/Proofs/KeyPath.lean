import RubyStubs.Proofs.Siblings

namespace RubyStubs.Decl

inductive At : Decl → List MergeKey → Decl → Prop
  | self (d : Decl) : At d [d.key] d
  | child {s : Scope} {ds : List Decl} {c : Decl} {path : List MergeKey} {e : Decl} (hc : c ∈ ds)
      (h : At c path e) : At (.scope s ds) ((Decl.scope s ds).key :: path) e

theorem not_at_nil (d e : Decl) : ¬ At d [] e := by
  intro h
  cases h

theorem at_cons_iff (d : Decl) (k : MergeKey) (path : List MergeKey) (e : Decl) :
    At d (k :: path) e ↔ k = d.key ∧ (path = [] ∧ e = d ∨ ∃ c ∈ d.children, At c path e) := by
  constructor
  · intro h
    cases h with
    | self => exact ⟨rfl, .inl ⟨rfl, rfl⟩⟩
    | child hc h => exact ⟨rfl, .inr ⟨_, hc, h⟩⟩
  · rintro ⟨rfl, ⟨rfl, rfl⟩ | ⟨c, hc, h⟩⟩
    · exact .self e
    · cases d with
      | scope s ds => exact .child hc h
      | member m => cases hc

theorem at_singleton_iff (d : Decl) (k : MergeKey) (e : Decl) : At d [k] e ↔ k = d.key ∧ e = d := by
  rw [at_cons_iff]
  simp [not_at_nil]

theorem at_key (d : Decl) : At d [d.key] = (· = d) := by
  funext e
  simp [at_singleton_iff]

theorem at_cons_cons_iff (d : Decl) (k l : MergeKey) (path : List MergeKey) (e : Decl) :
    At d (k :: l :: path) e ↔ k = d.key ∧ ∃ c ∈ ofKey l d.children, At c (l :: path) e := by
  rw [at_cons_iff]
  apply and_congr_right'
  constructor
  · rintro (⟨hnil, -⟩ | ⟨c, hc, h⟩)
    · cases hnil
    · exact ⟨c, mem_ofKey.mpr ⟨hc, ((at_cons_iff c l path e).mp h).1.symm⟩, h⟩
  · rintro ⟨c, hc, h⟩
    exact .inr ⟨c, (mem_ofKey.mp hc).1, h⟩

theorem Survives.children {ds : List Decl} {e : Decl} (h : Survives ds e) :
    e.children = ds.flatMap Decl.children := by
  cases h with
  | member m ns h =>
    symm
    change List.flatMap Decl.children _ = []
    rw [List.flatMap_eq_nil_iff, List.forall_mem_cons, List.forall_mem_map]
    exact ⟨rfl, fun _ _ => rfl⟩
  | scope ps s h => exact (flatMap_children_ofScopes ps).symm

theorem Survives.exists_mem {ds : List Decl} {e : Decl} (h : Survives ds e) : ∃ d, d ∈ ds := by
  cases h with
  | member m ns h => exact ⟨_, List.mem_cons_self⟩
  | scope ps s h =>
    obtain ⟨b, hb, -⟩ := h.name
    obtain ⟨p, hp, -⟩ := List.mem_map.mp hb
    exact ⟨_, List.mem_map_of_mem hp⟩

theorem Survives.at_below_iff {ds : List Decl} {e : Decl} {k : MergeKey} (h : Survives ds e)
    (hk : ∀ d ∈ ds, d.key = k) (l : MergeKey) (path : List MergeKey) (x : Decl) :
    At e (k :: l :: path) x ↔ ∃ d ∈ ds, At d (k :: l :: path) x := by
  simp only [at_cons_iff, h.key hk, h.children, List.mem_flatMap, reduceCtorEq, false_and, false_or,
    true_and]
  constructor
  · rintro ⟨c, ⟨d, hd, hc⟩, hx⟩
    exact ⟨d, hd, (hk d hd).symm, c, hc, hx⟩
  · rintro ⟨d, hd, -, c, hc, hx⟩
    exact ⟨c, ⟨d, hd, hc⟩, hx⟩

theorem Survives.exists_at_iff {ds : List Decl} {e : Decl} {k : MergeKey} (h : Survives ds e)
    (hk : ∀ d ∈ ds, d.key = k) (path : List MergeKey) :
    (∃ x, At e (k :: path) x) ↔ ∃ d ∈ ds, ∃ x, At d (k :: path) x := by
  cases path with
  | nil =>
    obtain ⟨d, hd⟩ := h.exists_mem
    have he : At e [k] e := h.key hk ▸ .self e
    have hd' : At d [k] d := hk d hd ▸ .self d
    exact ⟨fun _ => ⟨d, hd, d, hd'⟩, fun _ => ⟨e, he⟩⟩
  | cons l path =>
    simp only [h.at_below_iff hk]
    constructor
    · rintro ⟨x, d, hd, hx⟩
      exact ⟨d, hd, x, hx⟩
    · rintro ⟨d, hd, x, hx⟩
      exact ⟨x, d, hd, hx⟩

end RubyStubs.Decl
