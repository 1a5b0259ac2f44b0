import RubyStubs.Stub.Rbs
import Mathlib.Tactic.SplitIfs

namespace RubyStubs

namespace Decl

mutual

/-- A declaration spelled out below the names in `qualifier`: what a folded scope holds stands in its place, and
any other plain scope is a module. -/
def spelled (qualifier : String) : Decl → List Decl
  | .member m => [.member m]
  | .scope s ds =>
    if s.kind = .plain then
      if Layout.folds s ds then spelledAll (qualifier ++ s.name ++ "::") ds
      else [.scope { s with name := qualifier ++ s.name, kind := .ofModule false } (spelledAll "" ds)]
    else [.scope { s with name := qualifier ++ s.name } (spelledAll "" ds)]

def spelledAll (qualifier : String) : List Decl → List Decl
  | [] => []
  | d :: ds => spelled qualifier d ++ spelledAll qualifier ds

end

def spelledOut : Decl → Decl
  | .member m => .member m
  | .scope s ds => .scope s (spelledAll "" ds)

mutual

def isFoldable : Decl → Bool
  | .member _ => true
  | .scope s ds =>
    (s.kind != .plain || !s.name.isEmpty && !ds.isEmpty && (!Layout.folds s ds || s.comments.isEmpty)) &&
      areFoldable ds

def areFoldable : List Decl → Bool
  | [] => true
  | d :: ds => isFoldable d && areFoldable ds

end

theorem isFoldable_plain {s : Scope} {ds : List Decl} (h : (Decl.scope s ds).isFoldable) (hs : s.kind = .plain) :
    s.name ≠ "" ∧ ds ≠ [] ∧ (Layout.folds s ds → s.comments = []) := by
  simp only [isFoldable, hs, bne_self_eq_false, Bool.false_or, Bool.and_eq_true, Bool.or_eq_true,
    Bool.not_eq_true', String.isEmpty_eq_false_iff, List.isEmpty_eq_false_iff, List.isEmpty_iff] at h
  obtain ⟨⟨⟨hname, hds⟩, hcomments⟩, -⟩ := h
  refine ⟨hname, hds, fun hfolds => ?_⟩
  simpa [hfolds] using hcomments

theorem areFoldable_children {s : Scope} {ds : List Decl} (h : (Decl.scope s ds).isFoldable) : areFoldable ds := by
  rw [isFoldable, Bool.and_eq_true] at h
  exact h.2

theorem hasBareIn_append (ds es : List Decl) : hasBareIn (ds ++ es) = (hasBareIn ds || hasBareIn es) := by
  induction ds with
  | nil => rfl
  | cons d ds ih => rw [List.cons_append, hasBareIn, hasBareIn, ih, Bool.or_assoc]

mutual

theorem hasBareIn_spelled (qualifier : String) : ∀ d : Decl, hasBareIn (d.spelled qualifier) = d.hasBare
  | .member m => by simp [spelled, hasBareIn]
  | .scope s ds => by
    rw [spelled, hasBare]
    split_ifs
    · exact hasBareIn_spelledAll _ ds
    · rw [hasBareIn, hasBare, hasBareIn, Bool.or_false]
      exact hasBareIn_spelledAll "" ds
    · rw [hasBareIn, hasBare, hasBareIn, Bool.or_false]
      exact hasBareIn_spelledAll "" ds

theorem hasBareIn_spelledAll (qualifier : String) :
    ∀ ds : List Decl, hasBareIn (spelledAll qualifier ds) = hasBareIn ds
  | [] => rfl
  | d :: ds => by
    rw [spelledAll, hasBareIn_append, hasBareIn, hasBareIn_spelled qualifier d, hasBareIn_spelledAll qualifier ds]

end

theorem hasBare_spelledOut (root : Decl) : root.spelledOut.hasBare = root.hasBare := by
  cases root with
  | member m => rfl
  | scope s ds =>
    rw [spelledOut, hasBare, hasBare]
    exact hasBareIn_spelledAll "" ds

end Decl

structure Dialect.OpensModules (D : Dialect) : Prop where
  opening {s : Scope} (hs : s.kind = .ofModule false) : D.opening s = "module " ++ s.name
  sections {s : Scope} (hs : s.kind = .ofModule false) (st : Style) (level : Int) :
    ∀ ls ∈ D.sections st level s, ls = []

theorem rbi_opensModules : rbi.OpensModules where
  opening hs := by simp [rbi, Rbi.opening, hs]
  sections hs st level := by simp [rbi, Rbi.sections, hs]

theorem rbs_opensModules : rbs.OpensModules where
  opening hs := by simp [rbs, Rbs.opening, hs]
  sections hs st level := by simp [rbs]

namespace Layout

section Blocks

variable {acc b : List String}

theorem addBlock_nil (b : List String) : addBlock [] b = b := rfl

theorem addBlock_of_ne_nil (h : acc ≠ []) (b : List String) : addBlock acc b = acc ++ [""] ++ b := by
  rw [addBlock, if_neg (by simpa using h)]

theorem addBlock_ne_nil (h : acc ≠ [] ∨ b ≠ []) : addBlock acc b ≠ [] := by
  by_cases hacc : acc = []
  · rw [hacc, addBlock_nil]
    exact h.resolve_left (absurd hacc)
  · rw [addBlock_of_ne_nil hacc]
    simp

theorem addBlock_assoc (acc : List String) (hb : b ≠ []) (c : List String) :
    addBlock acc (addBlock b c) = addBlock (addBlock acc b) c := by
  have hne : addBlock acc b ≠ [] := addBlock_ne_nil (.inr hb)
  rw [addBlock_of_ne_nil hne, addBlock_of_ne_nil hb]
  by_cases hacc : acc = []
  · rw [hacc, addBlock_nil, addBlock_nil]
  · rw [addBlock_of_ne_nil hacc, addBlock_of_ne_nil hacc]
    simp only [List.append_assoc]

theorem foldl_addBlock_ne_nil (h : acc ≠ []) (bs : List (List String)) : bs.foldl addBlock acc ≠ [] := by
  induction bs generalizing acc with
  | nil => exact h
  | cons b bs ih => exact ih (addBlock_ne_nil (.inl h))

/-- Blocks that are put together first, and added as one, are added one by one, unless the first is empty: it
would be set off from the lines before it and not from the blocks after it. -/
theorem addBlock_foldl (acc : List String) (hb : b ≠ []) (bs : List (List String)) :
    addBlock acc (bs.foldl addBlock b) = bs.foldl addBlock (addBlock acc b) := by
  induction bs generalizing b with
  | nil => rfl
  | cons c bs ih =>
    rw [List.foldl_cons, ih (addBlock_ne_nil (.inl hb)), addBlock_assoc acc hb]
    rfl

theorem joinSections_concat {sections : List (List String)} (h : ∀ ls ∈ sections, ls = []) (b : List String) :
    joinSections (sections ++ [b]) = b := by
  have hnone : sections.filter (!·.isEmpty) = [] := by
    apply List.filter_eq_nil_iff.mpr
    intro ls hls
    simp [h ls hls]
  unfold joinSections
  rw [List.filter_append, hnone, List.nil_append]
  by_cases hb : b = []
  · simp [hb]
  · simp [hb, addBlock_nil]

end Blocks

section Children

variable {D : Dialect} {st : Style} {s : Scope} {ds : List Decl} {level : Int} {qualifier : String}

theorem child_of_framed (hs : s.kind ≠ .plain) :
    child D st (.scope s ds) level qualifier =
      scope D st level (qualify qualifier s) fun l => blocks D st ds l "" := by
  rw [child, if_neg (by simp [hs])]

theorem child_of_folded (hst : st.sorted = false) (hs : s.kind = .plain) (hname : s.name ≠ "")
    (hfolds : folds s ds = true) (hcomments : s.comments = []) :
    child D st (.scope s ds) level qualifier =
      (ds.map fun d => child D st d level (qualifier ++ s.name ++ "::")).foldl addBlock [] := by
  have hplain : (s.kind == .plain && !s.name.isEmpty) = true := by simp [hs, hname]
  obtain ⟨-, hincluded, hextended⟩ : ds.all Decl.isScope ∧ s.included = [] ∧ s.extended = [] := by
    simpa [folds, and_assoc] using hfolds
  rw [child, if_pos hplain, if_pos hfolds, body_blocks D hst]
  simp [comments, mixins, hcomments, hincluded, hextended]

theorem child_of_module (hs : s.kind = .plain) (hname : s.name ≠ "") (hfolds : folds s ds = false) :
    child D st (.scope s ds) level qualifier =
      comments st level s.comments ++ st.indented level ("module " ++ qualifier ++ s.name) ::
        body st (level + 1) s (blocks D st ds (level + 1) "") ++ [st.indented level "end"] := by
  have hplain : (s.kind == .plain && !s.name.isEmpty) = true := by simp [hs, hname]
  rw [child, if_pos hplain, if_neg (by simp [hfolds])]

theorem child_as_module (hD : D.OpensModules) (hs : s.kind = .plain) (hname : s.name ≠ "")
    (hfolds : folds s ds = false) {es : List Decl}
    (hes : body st (level + 1) s (blocks D st es (level + 1) "") =
      body st (level + 1) s (blocks D st ds (level + 1) "")) :
    child D st (.scope { s with name := qualifier ++ s.name, kind := .ofModule false } es) level "" =
      child D st (.scope s ds) level qualifier := by
  let s' : Scope := { s with name := qualifier ++ s.name, kind := .ofModule false }
  have hs' : s'.kind = .ofModule false := rfl
  have hqualify : qualify "" s' = s' := by simp [qualify]
  have hopening : D.opening s' = "module " ++ qualifier ++ s.name := by
    rw [hD.opening hs', String.append_assoc]
  have hbody : body st (level + 1) s' (blocks D st es (level + 1) "") =
      body st (level + 1) s (blocks D st ds (level + 1) "") := hes
  rw [child_of_framed (by simp), hqualify, scope_of_framed D st level (by simp [s']), framed,
    joinSections_concat (hD.sections hs' st (level + 1)), hopening, hbody, child_of_module hs hname hfolds]
  simp [s']

theorem child_as_framed (hs : s.kind ≠ .plain) {es : List Decl}
    (hes : body st (level + 1) s (blocks D st es (level + 1) "") =
      body st (level + 1) s (blocks D st ds (level + 1) "")) :
    child D st (.scope { s with name := qualifier ++ s.name } es) level "" =
      child D st (.scope s ds) level qualifier := by
  let s' : Scope := { s with name := qualifier ++ s.name }
  have hs' : s'.kind ≠ .plain := hs
  have hqualify : qualify "" s' = s' := by simp [qualify]
  have hbody : body st (level + 1) s' (blocks D st es (level + 1) "") =
      body st (level + 1) s' (blocks D st ds (level + 1) "") := hes
  rw [child_of_framed hs', child_of_framed hs, hqualify]
  change _ = scope D st level s' _
  rw [scope_of_framed D st level hs', scope_of_framed D st level hs', hbody]

theorem child_ne_nil_of_not_folded (h : s.kind = .plain → s.name ≠ "" ∧ folds s ds = false) :
    child D st (.scope s ds) level qualifier ≠ [] := by
  by_cases hs : s.kind = .plain
  · obtain ⟨hname, hfolds⟩ := h hs
    rw [child_of_module hs hname hfolds]
    simp
  · rw [child_of_framed hs, scope_of_framed D st level (by simpa [qualify] using hs)]
    simp [framed]

end Children

section Spelling

variable {D : Dialect} {st : Style}

theorem head_of_folds {s : Scope} {e : Decl} {es : List Decl} (hfolds : folds s (e :: es) = true)
    (h : Decl.areFoldable (e :: es)) : e.isScope ∧ e.isFoldable := by
  simp only [folds, List.all_cons, Bool.and_eq_true] at hfolds
  simp only [Decl.areFoldable, Bool.and_eq_true] at h
  exact ⟨hfolds.1.1.1, h.1⟩

theorem child_ne_nil (hst : st.sorted = false) (level : Int) :
    ∀ (d : Decl) (qualifier : String), d.isScope → d.isFoldable → child D st d level qualifier ≠ []
  | .member m, _, h, _ => by simp [Decl.isScope] at h
  | .scope s [], qualifier, _, h => by
    apply child_ne_nil_of_not_folded
    intro hs
    exact absurd rfl (Decl.isFoldable_plain h hs).2.1
  | .scope s (e :: es), qualifier, _, h => by
    by_cases hs : s.kind = .plain
    · obtain ⟨hname, -, hcomments⟩ := Decl.isFoldable_plain h hs
      by_cases hfolds : folds s (e :: es) = true
      · obtain ⟨he, hfoldable⟩ := head_of_folds hfolds (Decl.areFoldable_children h)
        rw [child_of_folded hst hs hname hfolds (hcomments hfolds), List.map_cons, List.foldl_cons, addBlock_nil]
        apply foldl_addBlock_ne_nil
        exact child_ne_nil hst level e _ he hfoldable
      · apply child_ne_nil_of_not_folded
        exact fun _ => ⟨hname, by simpa using hfolds⟩
    · apply child_ne_nil_of_not_folded
      exact fun h => absurd h hs

theorem addBlock_folded (hst : st.sorted = false) {s : Scope} {ds : List Decl} (hfolds : folds s ds = true)
    (hne : ds ≠ []) (h : Decl.areFoldable ds) (level : Int) (qualifier : String) (acc : List String) :
    addBlock acc ((ds.map fun d => child D st d level qualifier).foldl addBlock []) =
      (ds.map fun d => child D st d level qualifier).foldl addBlock acc := by
  obtain ⟨e, es, rfl⟩ := List.exists_cons_of_ne_nil hne
  obtain ⟨he, hfoldable⟩ := head_of_folds hfolds h
  rw [List.map_cons, List.foldl_cons, List.foldl_cons, addBlock_nil]
  apply addBlock_foldl
  exact child_ne_nil hst level e qualifier he hfoldable

mutual

theorem foldl_spelled (hD : D.OpensModules) (hst : st.sorted = false) (level : Int) :
    ∀ (d : Decl) (qualifier : String) (acc : List String), d.isFoldable →
      ((d.spelled qualifier).map fun d => child D st d level "").foldl addBlock acc =
        addBlock acc (child D st d level qualifier)
  | .member m, qualifier, acc, _ => by
    rw [Decl.spelled, List.map_singleton, List.foldl_cons, List.foldl_nil, child, child]
  | .scope s ds, qualifier, acc, h => by
    have hds := Decl.areFoldable_children h
    -- Inside a class or a module the outer names are left off.
    have hbody : body st (level + 1) s (blocks D st (Decl.spelledAll "" ds) (level + 1) "") =
        body st (level + 1) s (blocks D st ds (level + 1) "") := by
      rw [body_blocks D hst, body_blocks D hst, foldl_spelledAll hD hst (level + 1) ds "" _ hds]
    rw [Decl.spelled]
    split_ifs with hs hfolds
    · obtain ⟨hname, hne, hcomments⟩ := Decl.isFoldable_plain h hs
      rw [foldl_spelledAll hD hst level ds _ acc hds, child_of_folded hst hs hname hfolds (hcomments hfolds),
        addBlock_folded hst hfolds hne hds]
    · obtain ⟨hname, -, -⟩ := Decl.isFoldable_plain h hs
      rw [List.map_singleton, List.foldl_cons, List.foldl_nil,
        child_as_module hD hs hname (by simpa using hfolds) hbody]
    · rw [List.map_singleton, List.foldl_cons, List.foldl_nil, child_as_framed hs hbody]

theorem foldl_spelledAll (hD : D.OpensModules) (hst : st.sorted = false) (level : Int) :
    ∀ (ds : List Decl) (qualifier : String) (acc : List String), Decl.areFoldable ds →
      ((Decl.spelledAll qualifier ds).map fun d => child D st d level "").foldl addBlock acc =
        (ds.map fun d => child D st d level qualifier).foldl addBlock acc
  | [], _, _, _ => rfl
  | d :: ds, qualifier, acc, h => by
    obtain ⟨hd, hds⟩ : d.isFoldable ∧ Decl.areFoldable ds := by simpa [Decl.areFoldable] using h
    rw [Decl.spelledAll, List.map_append, List.foldl_append, foldl_spelled hD hst level d qualifier acc hd,
      foldl_spelledAll hD hst level ds qualifier _ hds, List.map_cons, List.foldl_cons]

end

theorem program_spelledOut (hD : D.OpensModules) (hst : st.sorted = false) {root : Decl}
    (h : Decl.areFoldable root.children) : program D st root.spelledOut = program D st root := by
  cases root with
  | member m => rfl
  | scope s ds =>
    rw [Decl.spelledOut, program, program, body_blocks D hst, body_blocks D hst,
      foldl_spelledAll hD hst 0 ds "" _ h]

end Spelling

end Layout

theorem Dialect.write_spelledOut {D : Dialect} (hD : D.OpensModules) {st : Style} (hst : st.sorted = false)
    (heading : String) {root : Decl} (h : Decl.areFoldable root.children) :
    D.write st heading root.spelledOut = D.write st heading root := by
  unfold Dialect.write
  rw [Decl.hasBare_spelledOut, Layout.program_spelledOut hD hst h]

/-- Folding a plain scope means the same as writing qualified names. With declarations left in their order, a
program has the text of the program in which all names are spelled out, in both kinds of stub file. -/
theorem Layout.folding_spells_names (st : Style) (hst : st.sorted = false) {root : Decl}
    (h : Decl.areFoldable root.children) (strictness : String) :
    Rbi.write st strictness root = Rbi.write st strictness root.spelledOut ∧
      Rbs.write st root = Rbs.write st root.spelledOut := by
  constructor
  · exact (Dialect.write_spelledOut rbi_opensModules hst _ h).symm
  · exact (Dialect.write_spelledOut rbs_opensModules hst _ h).symm

theorem Layout.folding_spells_names_nested :
    let x : Decl := .member { name := "X", body := .constant (.type .boolean) false }
    let ofClass (name : String) (ds : List Decl) : Decl := .scope { name, kind := .ofClass {} } ds
    let plain (name : String) (ds : List Decl) : Decl := .scope { name } ds
    let ofModule (name : String) (ds : List Decl) : Decl :=
      .scope { name, kind := .ofModule false, comments := ["Kept."] } ds
    let root : Decl := .scope {}
      [x, plain "A" [plain "B" [ofClass "C" [plain "D" [ofClass "E" []]]],
        .scope { name := "F", comments := ["Kept."] } [plain "G" [ofClass "H" []], x]]]
    let out : Decl := .scope {}
      [x, ofClass "A::B::C" [ofClass "D::E" []], ofModule "A::F" [ofClass "G::H" [], x]]
    Decl.areFoldable root.children ∧ root.spelledOut = out ∧
      Rbi.write {} "strong" root = Rbi.write {} "strong" out ∧ Rbs.write {} root = Rbs.write {} out := by
  intro x ofClass plain ofModule root out
  have h : Decl.areFoldable root.children := by decide
  have hout : root.spelledOut = out := by rfl
  have htexts := Layout.folding_spells_names {} rfl h "strong"
  rw [hout] at htexts
  exact ⟨h, hout, htexts⟩

end RubyStubs
