import Mathlib.Data.List.Forall2
import RubyStubs.Proofs.Leftovers
import RubyStubs.Proofs.Printing

namespace RubyStubs
namespace Layout

def inOrder (st : Style) (ds : List Decl) : List Decl :=
  if st.sorted then ds.mergeSort (fun d e => decide (d.name ≤ e.name)) else ds

theorem mem_inOrder {st : Style} {d : Decl} {ds : List Decl} : d ∈ inOrder st ds ↔ d ∈ ds := by
  unfold inOrder
  split
  · exact List.mem_mergeSort
  · rfl

theorem ordered_blocks (D : Dialect) (st : Style) (ds : List Decl) (level : Int) (qualifier : String) :
    ordered st (blocks D st ds level qualifier) =
      (inOrder st ds).map fun d => (d.name, child D st d level qualifier) := by
  rw [ordered, inOrder, blocks_eq_map]
  split
  · refine (List.map_mergeSort ?_).symm
    intro d _ e _
    rfl
  · rfl

theorem body_inOrder (D : Dialect) (st : Style) (s : Scope) (ds : List Decl) (level : Int) (qualifier : String) :
    body st level s (blocks D st ds level qualifier) =
      ((inOrder st ds).map fun d => child D st d level qualifier).foldl addBlock (mixins st level s) := by
  rw [body, ordered_blocks, List.foldl_map, List.foldl_map]

/-- Lines in the style `st` correspond to lines in the style `st'` that are `k` levels further in. -/
structure Corresponds (st st' : Style) (k : Int) (R : List String → List String → Prop) : Prop where
  sorted : st'.sorted = st.sorted
  nil : R [] []
  gap : R [""] [""]
  append {a a' b b' : List String} (h : R a a') (h' : R b b') : R (a ++ b) (a' ++ b')
  isEmpty {a a' : List String} (h : R a a') : a.isEmpty = a'.isEmpty
  line {level : Int} (hlevel : 0 ≤ level) {text : String} (htext : text ≠ "") :
    R [st.indented level text] [st'.indented (level + k) text]

structure DialectCorresponds (D : Dialect) (P : Member → Prop) (st st' : Style) (k : Int)
    (R : List String → List String → Prop) : Prop where
  opening {s : Scope} (hs : s.kind ≠ .plain) : D.opening s ≠ ""
  sections (s : Scope) {level : Int} (hlevel : 0 ≤ level) :
    List.Forall₂ R (D.sections st level s) (D.sections st' (level + k) s)
  member {m : Member} (hm : P m) {level : Int} (hlevel : 0 ≤ level) :
    R (D.member st level m) (D.member st' (level + k) m)

namespace Corresponds

variable {st st' : Style} {k : Int} {R : List String → List String → Prop}

section Blocks

variable (h : Corresponds st st' k R)

include h

theorem cons {level : Int} (hlevel : 0 ≤ level) {text : String} (htext : text ≠ "") {a a' : List String}
    (ha : R a a') : R (st.indented level text :: a) (st'.indented (level + k) text :: a') :=
  h.append (h.line hlevel htext) ha

theorem lines {level : Int} (hlevel : 0 ≤ level) {α : Type} (text : α → String) {xs : List α}
    (htext : ∀ x ∈ xs, text x ≠ "") :
    R (xs.map fun x => st.indented level (text x)) (xs.map fun x => st'.indented (level + k) (text x)) := by
  induction xs with
  | nil => exact h.nil
  | cons x xs ih =>
    rw [List.forall_mem_cons] at htext
    exact h.cons hlevel htext.1 (ih htext.2)

theorem addBlock {a a' b b' : List String} (ha : R a a') (hb : R b b') :
    R (Layout.addBlock a b) (Layout.addBlock a' b') := by
  unfold Layout.addBlock
  rw [← h.isEmpty ha]
  split
  · exact hb
  · exact h.append (h.append ha h.gap) hb

theorem foldl_addBlock {a a' : List String} (ha : R a a') {bs bs' : List (List String)}
    (hbs : List.Forall₂ R bs bs') : R (bs.foldl Layout.addBlock a) (bs'.foldl Layout.addBlock a') := by
  apply List.rel_foldl (R := R) (P := R) _ ha hbs
  intro a a' ha b b' hb
  exact h.addBlock ha hb

theorem joinSections {ss ss' : List (List String)} (hss : List.Forall₂ R ss ss') :
    R (Layout.joinSections ss) (Layout.joinSections ss') := by
  apply h.foldl_addBlock h.nil
  apply List.rel_filter (R := R) _ hss
  intro s s' hs
  simp [h.isEmpty hs]

end Blocks

section Scopes

variable (h : Corresponds st st' k R) {level : Int} (hlevel : 0 ≤ level)

include h hlevel

theorem comments (cs : List String) : R (Layout.comments st level cs) (Layout.comments st' (level + k) cs) := by
  apply h.lines hlevel fun c => Text.trimEnd ("# " ++ c)
  intro c _ hempty
  obtain ⟨text, htext⟩ := Text.trimEnd_comment c
  rw [hempty] at htext
  exact absurd (congrArg String.toList htext) (by simp)

theorem mixins (s : Scope) : R (Layout.mixins st level s) (Layout.mixins st' (level + k) s) := by
  have hword {word text : String} (hword : word ≠ "") : word ++ text ≠ "" := by simp [hword]
  apply h.append
  · exact h.lines hlevel ("include " ++ ·) fun _ _ => hword (by decide)
  · exact h.lines hlevel ("extend " ++ ·) fun _ _ => hword (by decide)

theorem body {D : Dialect} (s : Scope) {ds : List Decl} {qualifier : String}
    (hds : ∀ d ∈ ds, R (child D st d level qualifier) (child D st' d (level + k) qualifier)) :
    R (Layout.body st level s (blocks D st ds level qualifier))
      (Layout.body st' (level + k) s (blocks D st' ds (level + k) qualifier)) := by
  have horder : inOrder st' ds = inOrder st ds := by rw [inOrder, inOrder, h.sorted]
  rw [body_inOrder, body_inOrder, horder]
  apply h.foldl_addBlock (h.mixins hlevel s)
  rw [List.forall₂_map_left_iff, List.forall₂_map_right_iff, List.forall₂_same]
  intro d hd
  exact hds d (mem_inOrder.mp hd)

theorem framed {opening : String} (hopening : opening ≠ "") {ss ss' : List (List String)}
    (hss : List.Forall₂ R ss ss') :
    R (Layout.framed st level opening ss) (Layout.framed st' (level + k) opening ss') :=
  h.append (h.cons hlevel hopening (h.joinSections hss)) (h.line hlevel (by decide))

end Scopes

section Trees

variable {D : Dialect} {P : Member → Prop}

theorem scope (h : Corresponds st st' k R) (hD : DialectCorresponds D P st st' k R) (s : Scope) {ds : List Decl}
    {qualifier : String}
    (hds : ∀ d ∈ ds, ∀ level, 0 ≤ level → R (child D st d level qualifier) (child D st' d (level + k) qualifier))
    {level : Int} (hlevel : 0 ≤ level) :
    R (Layout.scope D st level s fun l => blocks D st ds l qualifier)
      (Layout.scope D st' (level + k) s fun l => blocks D st' ds l qualifier) := by
  have hbody {l : Int} (hl : 0 ≤ l) :
      R (Layout.body st l s (blocks D st ds l qualifier))
        (Layout.body st' (l + k) s (blocks D st' ds (l + k) qualifier)) :=
    h.body hl s fun d hd => hds d hd l hl
  by_cases hs : s.kind = .plain
  · rw [scope_of_plain D st level hs, scope_of_plain D st' (level + k) hs]
    exact h.append (h.comments hlevel _) (hbody hlevel)
  · have hinner : 0 ≤ level + 1 := by omega
    have hswap : level + k + 1 = level + 1 + k := by omega
    rw [scope_of_framed D st level hs, scope_of_framed D st' (level + k) hs, hswap]
    apply h.append (h.comments hlevel _)
    apply h.framed hlevel (hD.opening hs)
    exact List.rel_append (hD.sections s hinner) (.cons (hbody hinner) .nil)

mutual

theorem child (h : Corresponds st st' k R) (hD : DialectCorresponds D P st st' k R) : ∀ d : Decl,
    (∀ m ∈ d.members, P m) → ∀ level, 0 ≤ level → ∀ qualifier,
    R (Layout.child D st d level qualifier) (Layout.child D st' d (level + k) qualifier)
  | .member m, hm, level, hlevel, qualifier => by
    rw [Layout.child, Layout.child]
    exact h.append (h.comments hlevel _) (hD.member (hm m List.mem_cons_self) hlevel)
  | .scope s ds, hm, level, hlevel, qualifier => by
    have hds := children h hD ds hm
    rw [Layout.child, Layout.child]
    -- A plain scope is folded into the names of its children or written as a module; any other scope is written as it is.
    split
    · split
      · apply h.append (h.comments hlevel _)
        exact h.body hlevel s fun d hd => hds d hd level hlevel _
      · have hinner : 0 ≤ level + 1 := by omega
        have hswap : level + k + 1 = level + 1 + k := by omega
        have hopening : "module " ++ qualifier ++ s.name ≠ "" := by simp
        rw [hswap]
        apply h.append (h.append (h.comments hlevel _) ?_) (h.line hlevel (by decide))
        exact h.cons hlevel hopening (h.body hinner s fun d hd => hds d hd _ hinner "")
    · exact h.scope hD _ (fun d hd level hlevel => hds d hd level hlevel "") hlevel

theorem children (h : Corresponds st st' k R) (hD : DialectCorresponds D P st st' k R) : ∀ ds : List Decl,
    (∀ m ∈ Decl.membersAll ds, P m) → ∀ d ∈ ds, ∀ level, 0 ≤ level → ∀ qualifier,
    R (Layout.child D st d level qualifier) (Layout.child D st' d (level + k) qualifier)
  | [], _ => List.forall_mem_nil _
  | d :: ds, hm => by
    rw [Decl.membersAll, List.forall_mem_append] at hm
    exact List.forall_mem_cons.mpr ⟨child h hD d hm.1, children h hD ds hm.2⟩

end

theorem node (h : Corresponds st st' k R) (hD : DialectCorresponds D P st st' k R) {d : Decl}
    (hm : ∀ m ∈ d.members, P m) {level : Int} (hlevel : 0 ≤ level) :
    R (Layout.node D st d level) (Layout.node D st' d (level + k)) := by
  cases d with
  | member m => exact h.append (h.comments hlevel _) (hD.member (hm m List.mem_cons_self) hlevel)
  | scope s ds =>
    exact h.scope hD s (fun d hd level hlevel => h.children hD ds hm d hd level hlevel "") hlevel

end Trees

theorem rbi_sections (h : Corresponds st st' k R) (s : Scope) {level : Int} (hlevel : 0 ≤ level) :
    List.Forall₂ R (Rbi.sections st level s) (Rbi.sections st' (level + k) s) := by
  have hinner : 0 ≤ level + 1 := by omega
  have hswap : level + k + 1 = level + 1 + k := by omega
  have hmark (b : Bool) {text : String} (htext : text ≠ "") :
      R (if b then [st.indented level text] else []) (if b then [st'.indented (level + k) text] else []) := by
    cases b with
    | false => exact h.nil
    | true => exact h.line hlevel htext
  have hmarkers (c : ClassHeader) : R (Rbi.markers st level c) (Rbi.markers st' (level + k) c) :=
    h.append (hmark c.isAbstract (by decide)) (hmark c.isFinal (by decide))
  cases hs : s.kind with
  | plain =>
    simp only [Rbi.sections, hs]
    exact .nil
  | ofModule i =>
    simp only [Rbi.sections, hs]
    exact .cons (hmark i (by decide)) .nil
  | ofClass c =>
    simp only [Rbi.sections, hs]
    exact .cons (hmarkers c) .nil
  | ofEnum c es =>
    have hnonempty : ∀ e ∈ es, Rbi.enumerator e ≠ "" := fun e _ => by simp [Rbi.enumerator]
    have henums := h.lines hinner Rbi.enumerator hnonempty
    simp only [Rbi.sections, hs, hswap]
    refine .cons (hmarkers _) (.cons ?_ .nil)
    exact h.append (h.cons hlevel (by decide) henums) (h.line hlevel (by decide))
  | ofStruct c fs =>
    have hnonempty : ∀ f ∈ fs, f.call ≠ "" := fun f _ => by simp [StructField.call]
    have hfields := h.lines hlevel StructField.call hnonempty
    simp only [Rbi.sections, hs]
    exact .cons (hmarkers _) (.cons hfields .nil)

end Corresponds
end Layout

theorem Rbi.opening_ne_empty {s : Scope} (hs : s.kind ≠ .plain) : Rbi.opening s ≠ "" := by
  cases hkind : s.kind with
  | plain => exact absurd hkind hs
  | ofModule i => simp [Rbi.opening, hkind]
  | ofClass h | ofEnum h es | ofStruct h fs => simp [Rbi.opening, hkind, Rbi.classOpening]

end RubyStubs
