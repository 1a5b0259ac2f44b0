import RubyStubs.Proofs.Reordering
import RubyStubs.Stub.Rbs

namespace RubyStubs

namespace Decl

inductive OwnNames : Decl → Prop
  | member (m : Member) : OwnNames (.member m)
  | scope (s : Scope) {ds : List Decl} (hnames : (ds.map name).Nodup) (hds : ∀ d ∈ ds, OwnNames d) :
      OwnNames (.scope s ds)

theorem hasBareIn_eq_any (ds : List Decl) : hasBareIn ds = ds.any hasBare := by
  induction ds with
  | nil => rfl
  | cons d ds ih => rw [hasBareIn, List.any_cons, ih]

end Decl

namespace Layout

theorem ordered_of_perm {st : Style} (hst : st.sorted = true) {bs cs : List (String × List String)}
    (hp : bs.Perm cs) (hnames : (bs.map Prod.fst).Nodup) : ordered st bs = ordered st cs := by
  let le (a b : String × List String) : Bool := decide (a.1 ≤ b.1)
  have hsorted (xs : List (String × List String)) : (xs.mergeSort le).Pairwise fun a b => le a b := by
    apply List.pairwise_mergeSort
    · intro a b c hab hbc
      exact decide_eq_true (String.le_trans (of_decide_eq_true hab) (of_decide_eq_true hbc))
    · intro a b
      rw [Bool.or_eq_true, decide_eq_true_eq, decide_eq_true_eq]
      exact String.le_total a.1 b.1
  have hperm : (bs.mergeSort le).Perm (cs.mergeSort le) :=
    ((List.mergeSort_perm bs le).trans hp).trans (List.mergeSort_perm cs le).symm
  rw [ordered, ordered, if_pos hst, if_pos hst]
  apply hperm.eq_of_pairwise ?_ (hsorted bs) (hsorted cs)
  intro a b ha hb hab hba
  have hname : a.1 = b.1 := String.le_antisymm (of_decide_eq_true hab) (of_decide_eq_true hba)
  apply List.inj_on_of_nodup_map hnames (List.mem_mergeSort.mp ha) ?_ hname
  exact hp.mem_iff.mpr (List.mem_mergeSort.mp hb)

structure SameLines (D : Dialect) (st : Style) (d e : Decl) : Prop where
  name : d.name = e.name
  isScope : d.isScope = e.isScope
  hasBare : d.hasBare = e.hasBare
  child : ∀ level qualifier, child D st d level qualifier = child D st e level qualifier

section Siblings

variable {D : Dialect} {st : Style} {ds es fs : List Decl} (hp : ds.Perm es)
  (hfs : List.Forall₂ (SameLines D st) es fs)

include hp hfs

theorem all_isScope_of_perm : ds.all Decl.isScope = fs.all Decl.isScope := by
  rw [hp.all_eq]
  clear hp
  induction hfs with
  | nil => rfl
  | cons h _ ih => rw [List.all_cons, List.all_cons, h.isScope, ih]

theorem hasBareIn_of_perm : Decl.hasBareIn ds = Decl.hasBareIn fs := by
  rw [Decl.hasBareIn_eq_any, Decl.hasBareIn_eq_any, hp.any_eq]
  clear hp
  induction hfs with
  | nil => rfl
  | cons h _ ih => rw [List.any_cons, List.any_cons, h.hasBare, ih]

theorem body_of_perm (hst : st.sorted = true) (hnames : (ds.map Decl.name).Nodup) (s : Scope) (level : Int)
    (qualifier : String) :
    body st level s (blocks D st ds level qualifier) = body st level s (blocks D st fs level qualifier) := by
  let block (d : Decl) : String × List String := (d.name, child D st d level qualifier)
  have hblocks : es.map block = fs.map block := by
    rw [← List.forall₂_eq_eq_eq, List.forall₂_map_left_iff, List.forall₂_map_right_iff]
    apply hfs.imp
    intro e f h
    exact Prod.ext h.name (h.child level qualifier)
  have hperm : (ds.map block).Perm (fs.map block) := hblocks ▸ hp.map block
  have hfst : ((ds.map block).map Prod.fst).Nodup := by
    rw [List.map_map]
    exact hnames
  rw [body, body, blocks_eq_map, blocks_eq_map]
  exact congrArg _ (ordered_of_perm hst hperm hfst)

end Siblings

section Trees

variable {D : Dialect} {st : Style}

theorem scope_congr {s : Scope} {bs cs : Int → List (String × List String)}
    (h : ∀ level, body st level s (bs level) = body st level s (cs level)) (level : Int) :
    scope D st level s bs = scope D st level s cs := by
  simp only [scope, h]

theorem sameLines_scope (hst : st.sorted = true) (s : Scope) {ds es fs : List Decl}
    (hnames : (ds.map Decl.name).Nodup) (hp : ds.Perm es) (hfs : List.Forall₂ (SameLines D st) es fs) :
    SameLines D st (.scope s ds) (.scope s fs) where
  name := rfl
  isScope := rfl
  hasBare := hasBareIn_of_perm hp hfs
  child level qualifier := by
    have hbody := body_of_perm hp hfs hst hnames
    have hfolds : folds s ds = folds s fs := by rw [folds, folds, all_isScope_of_perm hp hfs]
    have hscope := scope_congr (D := D) (fun level => hbody (qualify qualifier s) level "") level
    rw [child, child, hfolds, hbody, hbody, hscope]

theorem sameLines_of_permuted (hst : st.sorted = true) {d e : Decl} (hd : d.OwnNames) (h : d.Permuted e) :
    SameLines D st d e := by
  induction hd generalizing e with
  | member m =>
    cases h
    exact ⟨rfl, rfl, rfl, fun _ _ => rfl⟩
  | @scope s ds hnames hds ih =>
    cases h with
    | @scope _ _ es fs hp hfs =>
      apply sameLines_scope hst s hnames hp
      have hes : ∀ e ∈ es, ∀ f, e.Permuted f → SameLines D st e f :=
        fun e he f hf => ih e (hp.mem_iff.mpr he) hf
      apply ((List.forall₂_and_left es fs).mpr ⟨hes, hfs⟩).imp
      intro e f hef
      exact hef.1 f hef.2

theorem program_eq_child (s : Scope) (ds : List Decl) :
    program D st (.scope s ds) = child D st (.scope { s with name := "", kind := .plain } ds) 0 "" := by
  rw [child, if_neg (by simp), scope_of_plain D st 0 rfl]
  rfl

theorem program_of_permuted (hst : st.sorted = true) {d e : Decl} (hd : d.OwnNames) (h : d.Permuted e) :
    program D st d = program D st e := by
  cases h with
  | member m => rfl
  | @scope s ds es fs hp hfs =>
    cases hd with
    | scope _ hnames hds =>
      rw [program_eq_child, program_eq_child]
      apply (sameLines_of_permuted hst ?_ ?_).child 0 ""
      · exact .scope _ hnames hds
      · exact .scope _ hp hfs

end Trees

end Layout

theorem Dialect.write_of_permuted (D : Dialect) {st : Style} (hst : st.sorted = true) (heading : String)
    {d e : Decl} (hd : d.OwnNames) (h : d.Permuted e) : D.write st heading d = D.write st heading e := by
  have hbare : d.hasBare = e.hasBare := (Layout.sameLines_of_permuted (D := D) hst hd h).hasBare
  rw [Dialect.write, Dialect.write, hbare, Layout.program_of_permuted hst hd h]

/-- With declarations sorted by name, trees that differ in the order of siblings have the same text in both
kinds of stub file, if siblings have names of their own. -/
theorem Layout.sorted_order_independent (st : Style) (hst : st.sorted = true) (strictness : String) {d e : Decl}
    (hd : d.OwnNames) (h : d.Permuted e) :
    Rbi.write st strictness d = Rbi.write st strictness e ∧ Rbs.write st d = Rbs.write st e := by
  constructor
  · exact rbi.write_of_permuted hst _ hd h
  · exact rbs.write_of_permuted hst _ hd h

theorem Layout.sorted_order_independent_folded :
    let f : Decl := .member { name := "f", body := .method { parameters := [{ name := "a", type := some .boolean }] } }
    let x : Decl := .member { name := "X", body := .constant (.type .untyped) false }
    let b (ds : List Decl) : Decl := .scope { name := "B", kind := .ofClass {} } ds
    let a (ds : List Decl) : Decl := .scope { name := "A" } [.scope { name := "C", kind := .ofModule false } ds]
    let d : Decl := .scope {} [b [f, x], a [f, x]]
    let e : Decl := .scope {} [a [x, f], b [x, f]]
    let st : Style := { sorted := true, breakParams := 1 }
    d.OwnNames ∧ d.Permuted e ∧
      (∃ text, Rbi.write st "true" d = .ok text ∧ Rbi.write st "true" e = .ok text) ∧
      ∃ text, Rbs.write st d = .ok text ∧ Rbs.write st e = .ok text := by
  intro f x b a d e st
  have hnames (s : Scope) : (Decl.scope s [f, x]).OwnNames := by
    apply Decl.OwnNames.scope s (by decide)
    exact List.forall_mem_cons.mpr ⟨.member _, List.forall_mem_singleton.mpr (.member _)⟩
  have hd : d.OwnNames := by
    apply Decl.OwnNames.scope _ (by decide)
    refine List.forall_mem_cons.mpr ⟨hnames _, List.forall_mem_singleton.mpr ?_⟩
    exact .scope _ (by decide) (List.forall_mem_singleton.mpr (hnames _))
  have hswap (s : Scope) : (Decl.scope s [f, x]).Permuted (.scope s [x, f]) :=
    .scope s (.swap _ _ _) (.cons (.member _) (.cons (.member _) .nil))
  have h : d.Permuted e := by
    apply Decl.Permuted.scope _ (.swap _ _ _)
    exact .cons (.scope _ (.refl _) (.cons (hswap _) .nil)) (.cons (hswap _) .nil)
  obtain ⟨hrbi, hrbs⟩ := Layout.sorted_order_independent st rfl "true" hd h
  exact ⟨hd, h, ⟨_, rfl, hrbi.symm⟩, _, rfl, hrbs.symm⟩

end RubyStubs
