import RubyStubs.Proofs.Anchored
import RubyStubs.Proofs.Neighbours
import RubyStubs.Proofs.Outcome
import RubyStubs.Proofs.ScopeKind
import RubyStubs.Proofs.StatementReading
import RubyStubs.Source.Body

namespace RubyStubs

variable {names : String → String → Prop}

namespace Node

variable {m n : Node}

theorem Anchored.isSig_eq (h : m.Anchored names n) : m.isSig = n.isSig := by
  have hreceiver : (m.receiver?.all fun r => Text.without r.text "::" == "T::Sig::WithoutRuntime") =
      n.receiver?.all fun r => Text.without r.text "::" == "T::Sig::WithoutRuntime" := by
    have hrel := h.receiver?
    generalize m.receiver? = r, n.receiver? = r' at hrel ⊢
    cases hrel with
    | none => rfl
    | some hr => exact hr.text.without_beq (by decide)
  rw [isSig, isSig, h.isCall_eq, h.callName?.beq_eq (by decide), rel_isSome h.block?, hreceiver]

def SameRemark (r r' : Remark) : Prop :=
  r = r' ∨ ∃ kind s t, r = .mixin kind s ∧ r' = .mixin kind t

theorem SameRemark.beq_eq {r r' : Remark} (h : SameRemark r r') {x : Remark}
    (hx : ∀ kind s, x ≠ .mixin kind s) : (r == x) = (r' == x) := by
  obtain rfl | ⟨kind, s, t, rfl, rfl⟩ := h
  · rfl
  · rw [beq_eq_false_iff_ne.mpr (hx kind s).symm, beq_eq_false_iff_ne.mpr (hx kind t).symm]

theorem Anchored.mixin? (h : m.Anchored names n) :
    Option.Rel (fun x y => x.1 = y.1) m.mixin? n.mixin? := by
  rw [Node.mixin?, Node.mixin?, ← Option.not_isSome, ← Option.not_isSome, rel_isSome h.receiver?]
  split
  · have hname := h.callName?
    have hargs := h.arguments
    generalize m.callName? = x, n.callName? = y, m.arguments = xs, n.arguments = ys at hname hargs ⊢
    by_cases hinclude : x = some "include"
    · rw [hinclude, (hname _ (by decide)).mp hinclude]
      rcases hargs with _ | ⟨_, _ | ⟨_, _⟩⟩
      · exact .none
      · exact .some rfl
      · exact .none
    · by_cases hextend : x = some "extend"
      · rw [hextend, (hname _ (by decide)).mp hextend]
        rcases hargs with _ | ⟨_, _ | ⟨_, _⟩⟩
        · exact .none
        · exact .some rfl
        · exact .none
      · have hinclude' : y ≠ some "include" := (hname _ (by decide)).not.mp hinclude
        have hextend' : y ≠ some "extend" := (hname _ (by decide)).not.mp hextend
        split
        · exact absurd rfl hinclude
        · exact absurd rfl hextend
        · split
          · exact absurd rfl hinclude'
          · exact absurd rfl hextend'
          · exact .none
  · exact .none

theorem Anchored.remark (h : m.Anchored names n) : SameRemark m.remark n.remark := by
  have htext := h.text.trim
  by_cases hfinal : Text.trim m.text = "final!"
  · have hfinal' := (htext.eq_iff (by decide)).mp hfinal
    refine .inl ?_
    simp only [Node.remark, hfinal, hfinal']
  · by_cases habstract : Text.trim m.text = "abstract!"
    · have habstract' := (htext.eq_iff (by decide)).mp habstract
      refine .inl ?_
      simp only [Node.remark, habstract, habstract']
    · by_cases hinterface : Text.trim m.text = "interface!"
      · have hinterface' := (htext.eq_iff (by decide)).mp hinterface
        refine .inl ?_
        simp only [Node.remark, hinterface, hinterface']
      · rw [remark_eq hfinal habstract hinterface, remark_eq ((htext.eq_iff (by decide)).not.mp hfinal)
          ((htext.eq_iff (by decide)).not.mp habstract) ((htext.eq_iff (by decide)).not.mp hinterface)]
        have hmixin := h.mixin?
        generalize m.mixin? = x, n.mixin? = y at hmixin ⊢
        cases hmixin with
        | none => exact .inl rfl
        | @some x y hxy => exact .inr ⟨x.1, x.2, y.2, rfl, by rw [hxy]; rfl⟩

theorem Anchored.isEnumBlock_eq (h : m.Anchored names n) : m.isEnumBlock = n.isEnumBlock := by
  rw [isEnumBlock, isEnumBlock, h.callName?.beq_eq (by decide), rel_isSome h.block?]

theorem Anchored.isFieldCall_eq (h : m.Anchored names n) : m.isFieldCall = n.isFieldCall := by
  rw [isFieldCall, isFieldCall, h.isCall_eq, h.callName?.beq_eq (by decide),
    h.callName?.beq_eq (by decide), ← Option.not_isSome, ← Option.not_isSome, rel_isSome h.receiver?]

theorem Alongside.superclass? (h : m.Alongside names n) :
    Option.Rel Text.Anchored m.superclass? n.superclass? := by
  have hbase := h.child?_alongside (by decide : "superclass" ∉ headRoles)
  rw [Node.superclass?, Node.superclass?]
  generalize m.child? "superclass" = s, n.child? "superclass" = s' at hbase ⊢
  cases hbase with
  | none => exact .none
  | @some s s' hs =>
    have hfirst : Text.Anchored (s.children.head?.getD s).text (s'.children.head?.getD s').text := by
      have hhead := forall₂_head? hs.children
      generalize s.children.head? = c, s'.children.head? = c' at hhead ⊢
      cases hhead with
      | none => exact hs.text
      | some hc => exact hc.text
    exact .some (hfirst.dropStart (by decide)).trim

def StatementAnchored (names : String → String → Prop) (s t : NodePath × Node) : Prop :=
  s.1 = t.1 ∧ s.2.Anchored names t.2

theorem bodyParts_anchored {cs ds : List Node} (h : List.Forall₂ (Anchored names) cs ds) (roles : List String)
    (i : Nat) : List.Forall₂ (fun s t => s.1 = t.1 ∧ s.2.Anchored names t.2) (bodyParts roles i cs)
      (bodyParts roles i ds) := by
  induction h generalizing roles i with
  | nil => exact .nil
  | @cons c d cs ds hcd hrest ih =>
    rw [bodyParts, bodyParts, hcd.place.named, hcd.place.field]
    split
    · exact ih _ _
    · split
      · exact List.rel_append (.cons ⟨rfl, hcd⟩ .nil) (ih _ _)
      · exact List.rel_append .nil (ih _ _)

theorem number_anchored {cs ds : List Node} (h : List.Forall₂ (Anchored names) cs ds) (i : Nat) :
    List.Forall₂ (fun s t => s.1 = t.1 ∧ s.2.Anchored names t.2) (number i cs) (number i ds) := by
  induction h generalizing i with
  | nil => exact .nil
  | cons hcd _ ih => exact .cons ⟨rfl, hcd⟩ (ih _)

theorem Anchored.alongside_of_isSequence (h : m.Anchored names n) (hseq : m.isSequence) :
    m.Alongside names n := by
  refine h.alongside fun hkind => ?_
  rw [isSequence, hkind] at hseq
  cases hseq

theorem Alongside.statements (h : m.Alongside names n) (p : NodePath) :
    List.Forall₂ (StatementAnchored names) (m.statements p) (n.statements p) := by
  have hroles : m.headerRoles = n.headerRoles := by rw [headerRoles, headerRoles, h.kind]
  rw [Node.statements, Node.statements, hroles]
  refine List.rel_flatMap (bodyParts_anchored h.parts _ 0) ?_
  rintro ⟨i, c⟩ ⟨j, d⟩ ⟨rfl, hcd⟩
  dsimp only at hcd ⊢
  rw [hcd.isSequence_eq]
  split
  · next hseq =>
    have hchildren := (hcd.alongside_of_isSequence (hcd.isSequence_eq ▸ hseq)).children
    refine forall₂_map_of_mem (number_anchored hchildren 0) ?_
    rintro ⟨j, c'⟩ - ⟨j', d'⟩ ⟨rfl, hcd'⟩
    exact ⟨rfl, hcd'⟩
  · exact .cons ⟨rfl, hcd⟩ .nil

theorem Alongside.blockStatements (h : m.Alongside names n) :
    List.Forall₂ (Anchored names) m.blockStatements n.blockStatements := by
  rw [Node.blockStatements, Node.blockStatements]
  refine List.rel_flatMap h.children fun {c d} hcd => ?_
  rw [hcd.isComment_eq, hcd.kind_beq (by decide : "block_parameters" ≠ "constant") (by decide), hcd.isSequence_eq]
  split
  · exact .nil
  · split
    · next hseq =>
      exact Anchored.filter_comments (hcd.alongside_of_isSequence (hcd.isSequence_eq ▸ hseq)).children
    · exact .cons hcd .nil

theorem Anchored.isSome_symbolName? (h : m.Anchored names n) :
    m.symbolName?.isSome = n.symbolName?.isSome := by
  rw [symbolName?, symbolName?, h.contains_kind (by decide) (by decide)]
  split
  · rw [Option.isSome_some, Option.isSome_some]
  · rfl

end Node

namespace ScopeKind

structure Alike (k l : ScopeKind) : Prop where
  variant : k.variant = l.variant
  superclass : Option.Rel Text.Anchored k.superclass? l.superclass?
  isAbstract : k.isAbstract = l.isAbstract
  isFinal : k.isFinal = l.isFinal
  isInterface : k.isInterface = l.isInterface

variable {s t : Option String} {isAbstract isFinal : Bool}

theorem alike_ofClass (h : Option.Rel Text.Anchored s t) :
    Alike (.ofClass ⟨s, isAbstract, isFinal⟩) (.ofClass ⟨t, isAbstract, isFinal⟩) :=
  ⟨rfl, h, rfl, rfl, rfl⟩

theorem rel_getD (h : Option.Rel Text.Anchored s t) (d : String) :
    Option.Rel Text.Anchored (some (s.getD d)) (some (t.getD d)) := by
  cases h with
  | none => exact .some (.refl d)
  | some hst => exact .some hst

theorem alike_enumOf (h : Option.Rel Text.Anchored s t) (es es' : List (String × Option String)) :
    Alike (.enumOf ⟨s, isAbstract, isFinal⟩ es) (.enumOf ⟨t, isAbstract, isFinal⟩ es') :=
  ⟨rfl, rel_getD h "T::Enum", rfl, rfl, rfl⟩

theorem alike_structOf (h : Option.Rel Text.Anchored s t) (fs fs' : List StructField) :
    Alike (.structOf ⟨s, isAbstract, isFinal⟩ fs) (.structOf ⟨t, isAbstract, isFinal⟩ fs') :=
  ⟨rfl, rel_getD h "T::Struct", rfl, rfl, rfl⟩

end ScopeKind

namespace Source

variable {u v : Source} {m n : Node} {o : ReadOptions} {p : NodePath}

structure AnchoredAt (names : String → String → Prop) (u v : Source) (p : NodePath) (m n : Node) : Prop where
  file : u.file = v.file
  left : u.node p = .ok m
  right : v.node p = .ok n
  node : m.Anchored names n

theorem AnchoredAt.fail {α β : Type} {R : α → β → Prop} (h : AnchoredAt names u v p m n) (what : Problem) :
    Outcome R (u.fail what p) (v.fail what p) := by
  rw [Source.fail, Source.fail, h.left, h.right]
  change Outcome R (.error (SourceError.problem what u.file m.line))
    (.error (SourceError.problem what v.file n.line))
  rw [h.file, h.node.place.line]
  exact .error _

theorem enumerator_of_kind {e : Node} (he : e.kind ≠ "assignment") :
    u.enumerator p e = u.fail .enumEntry p := by
  rw [enumerator]
  split
  · simp [he]
  · rfl

theorem AnchoredAt.enumerator (h : AnchoredAt names u v p m n) {e e' : Node} (he : e.Anchored names e') :
    Outcome (fun _ _ => True) (u.enumerator p e) (v.enumerator p e') := by
  by_cases hkind : e.kind = "assignment"
  · have halong : e.Alongside names e' := he.alongside (by rw [hkind]; decide)
    have hleft := halong.child?_alongside (by decide : "left" ∉ Node.headRoles)
    have hright := halong.child?_alongside (by decide : "right" ∉ Node.headRoles)
    rw [Source.enumerator, Source.enumerator]
    generalize e.child? "left" = l, e'.child? "left" = l', e.child? "right" = r, e'.child? "right" = r'
      at hleft hright ⊢
    cases hleft with
    | none => exact h.fail _
    | some hl =>
      cases hright with
      | none => exact h.fail _
      | @some r r' hr =>
        have hnew : (r.callName? != some "new") = (r'.callName? != some "new") := by
          rw [bne, bne, hr.anchored.callName?.beq_eq (by decide)]
        dsimp only
        rw [hnew, halong.kind, hl.kind]
        split
        · exact h.fail _
        · split
          · exact h.fail _
          · exact .ok trivial
  · have hkind' : e'.kind ≠ "assignment" := by
      rwa [ne_eq, ← beq_iff_eq, ← he.kind_beq (by decide) (by decide), beq_iff_eq]
    rw [enumerator_of_kind hkind, enumerator_of_kind hkind']
    exact h.fail _

theorem AnchoredAt.enumBlock (h : AnchoredAt names u v p m n) :
    Outcome (fun _ _ => True) (u.enumBlock (p, m)) (v.enumBlock (p, n)) := by
  rw [Source.enumBlock, Source.enumBlock]
  have hblock := h.node.block?
  dsimp only
  generalize m.block? = b, n.block? = b' at hblock ⊢
  cases hblock with
  | none => exact .ok trivial
  | some hb =>
    exact (Outcome.mapM_forall₂ hb.blockStatements fun _ _ he => h.enumerator he).mono fun _ _ _ => trivial

theorem AnchoredAt.structField (h : AnchoredAt names u v p m n) (hfield : m.isFieldCall) :
    Outcome (fun _ _ => True) (u.structField o (p, m)) (v.structField o (p, n)) := by
  have hname : m.callName? = n.callName? := by
    simp only [Node.isFieldCall, Bool.and_eq_true, Bool.or_eq_true, beq_iff_eq] at hfield
    obtain ⟨⟨-, hprop | hconst⟩, -⟩ := hfield
    · rw [hprop, (h.node.callName? _ (by decide)).mp hprop]
    · rw [hconst, (h.node.callName? _ (by decide)).mp hconst]
  have hargs := h.node.arguments
  rw [Source.structField, Source.structField]
  dsimp only
  rw [hname]
  generalize m.arguments = xs, n.arguments = ys at hargs ⊢
  rcases hargs with _ | ⟨hx, _ | ⟨hy, hrest⟩⟩
  · exact h.fail _
  · exact h.fail _
  · have hsome := hx.isSome_symbolName?
    dsimp only
    split
    · next hnone =>
      rw [hnone, Option.isSome_none, eq_comm, Option.isSome_eq_false_iff, Option.isNone_iff_eq_none] at hsome
      rw [hsome]
      exact h.fail _
    · next name hname =>
      rw [hname, Option.isSome_some, eq_comm, Option.isSome_iff_exists] at hsome
      obtain ⟨name', hname'⟩ := hsome
      rw [hname']
      exact .ok trivial

def StatementAnchored (names : String → String → Prop) (u v : Source) (s t : NodePath × Node) : Prop :=
  s.1 = t.1 ∧ AnchoredAt names u v s.1 s.2 t.2

theorem statementAnchored_of_mem (hfile : u.file = v.file) {ss ts : List (NodePath × Node)}
    (h : List.Forall₂ (Node.StatementAnchored names) ss ts) (hss : ∀ s ∈ ss, u.node s.1 = .ok s.2)
    (hts : ∀ t ∈ ts, v.node t.1 = .ok t.2) : List.Forall₂ (StatementAnchored names u v) ss ts := by
  induction h with
  | nil => exact .nil
  | @cons s t ss ts hst _ ih =>
    rw [List.forall_mem_cons] at hss hts
    exact .cons ⟨hst.1, hfile, hss.1, hst.1 ▸ hts.1, hst.2⟩ (ih hss.2 hts.2)

theorem AnchoredAt.statements (h : AnchoredAt names u v p m n) (hkind : m.kind ≠ "constant") :
    List.Forall₂ (StatementAnchored names u v) (m.statements p) (n.statements p) :=
  statementAnchored_of_mem h.file ((h.node.alongside hkind).statements p)
    (fun _ hs => node_of_mem_statements h.left hs) (fun _ ht => node_of_mem_statements h.right ht)

theorem enumBlocks_outcome {ss ts : List (NodePath × Node)}
    (h : List.Forall₂ (StatementAnchored names u v) ss ts) :
    Outcome (fun _ _ => True) ((ss.filter (·.2.isEnumBlock)).mapM u.enumBlock)
      ((ts.filter (·.2.isEnumBlock)).mapM v.enumBlock) := by
  have hblocks := forall₂_filter (fun _ _ hst => hst.2.node.isEnumBlock_eq) h
  refine (Outcome.mapM_forall₂ (S := fun _ _ => True) hblocks ?_).mono fun _ _ _ => trivial
  rintro ⟨q, c⟩ ⟨q', d⟩ ⟨rfl, hcd⟩
  exact hcd.enumBlock

theorem structFields_outcome {ss ts : List (NodePath × Node)}
    (h : List.Forall₂ (StatementAnchored names u v) ss ts) :
    Outcome (fun _ _ => True) ((ss.filter (·.2.isFieldCall)).mapM (u.structField o))
      ((ts.filter (·.2.isFieldCall)).mapM (v.structField o)) := by
  have hcalls := forall₂_filter (fun _ _ hst => hst.2.node.isFieldCall_eq) h
  have hfields := (List.forall₂_and_left _ _).mpr ⟨fun _ hs => (List.mem_filter.mp hs).2, hcalls⟩
  refine (Outcome.mapM_forall₂ (S := fun _ _ => True) hfields ?_).mono fun _ _ _ => trivial
  rintro ⟨q, c⟩ ⟨q', d⟩ ⟨hcall, rfl, hcd⟩
  exact hcd.structField hcall

theorem contains_without {s t : String} (h : Text.Anchored s t) {bases : List String}
    (hbases : ∀ b ∈ bases, Text.IsPath b) :
    bases.contains (Text.without s "::") = bases.contains (Text.without t "::") := by
  induction bases with
  | nil => rfl
  | cons b bases ih =>
    rw [List.forall_mem_cons] at hbases
    rw [List.contains_cons, List.contains_cons, h.without_beq hbases.1, ih hbases.2]

theorem any_base {s t : Option String} (h : Option.Rel Text.Anchored s t) {bases : List String}
    (hbases : ∀ b ∈ bases, Text.IsPath b) :
    ((s.filter (!·.isEmpty)).map (Text.without · "::")).any bases.contains =
      ((t.filter (!·.isEmpty)).map (Text.without · "::")).any bases.contains := by
  cases h with
  | none => rfl
  | @some s t hst =>
    rw [Option.filter_some, Option.filter_some, hst.isEmpty_eq]
    split
    · exact contains_without hst hbases
    · rfl

theorem contains_remark {ss ts : List (NodePath × Node)} (h : List.Forall₂ (StatementAnchored names u v) ss ts)
    {r : Remark} (hr : ∀ kind s, r ≠ .mixin kind s) :
    (ss.map (·.2.remark)).contains r = (ts.map (·.2.remark)).contains r := by
  induction h with
  | nil => rfl
  | @cons s t ss ts hst _ ih =>
    rw [List.map_cons, List.map_cons, List.contains_cons, List.contains_cons, ih, Bool.beq_comm,
      hst.2.node.remark.beq_eq hr, Bool.beq_comm]

theorem AnchoredAt.scopeKind (h : AnchoredAt names u v p m n) (hkind : m.kind ≠ "constant")
    (hbases : ∀ b ∈ o.enumBases ++ o.structBases, Text.IsPath b) :
    Outcome ScopeKind.Alike (u.scopeKind o m (m.statements p)) (v.scopeKind o n (n.statements p)) := by
  have halong := h.node.alongside hkind
  have hstatements := h.statements hkind
  have hrest := forall₂_filter (p := (·.2.remark == .none)) (q := (·.2.remark == .none))
    (fun _ _ hst => hst.2.node.remark.beq_eq nofun) hstatements
  rw [List.forall_mem_append] at hbases
  rw [Source.scopeKind, Source.scopeKind]
  dsimp only
  rw [contains_remark hstatements (r := .isInterface) nofun, contains_remark hstatements (r := .isAbstract) nofun,
    contains_remark hstatements (r := .isFinal) nofun, halong.kind]
  have hsuperclass := halong.superclass?
  rw [any_base hsuperclass hbases.1, any_base hsuperclass hbases.2]
  split
  · exact .ok ⟨rfl, .none, rfl, rfl, rfl⟩
  · split
    · refine (enumBlocks_outcome hrest).bind fun es es' _ => ?_
      exact .ok (ScopeKind.alike_enumOf hsuperclass es.flatten es'.flatten)
    · split
      · refine (structFields_outcome hrest).bind fun fs fs' _ => ?_
        exact .ok (ScopeKind.alike_structOf hsuperclass fs fs')
      · exact .ok (ScopeKind.alike_ofClass hsuperclass)

end Source

end RubyStubs
