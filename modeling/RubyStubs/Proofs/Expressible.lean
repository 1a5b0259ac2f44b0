import Mathlib.Data.List.Forall2
import RubyStubs.Proofs.Interface
import RubyStubs.Stub.Convert
import RubyStubs.Stub.Rbs

namespace RubyStubs

def Method.isExpressible (m : Method) : Bool :=
  m.signatures.isEmpty && !m.result.any TypeExpr.isRaw &&
    m.parameters.all fun p =>
      !p.type.any TypeExpr.isRaw && (p.kind != .block || TypeExpr.isUntyped p.type)

theorem Method.isExpressible_iff {m : Method} :
    m.isExpressible ↔ m.signatures = [] ∧ m.result.any TypeExpr.isRaw = false ∧ ∀ p ∈ m.parameters,
      p.type.any TypeExpr.isRaw = false ∧ (p.kind = .block → TypeExpr.isUntyped p.type) := by
  simp only [isExpressible, Bool.and_eq_true, List.isEmpty_iff, Bool.not_eq_true', List.all_eq_true,
    Bool.or_eq_true, bne_iff_ne, and_assoc, ne_eq, imp_iff_not_or]

def Member.isExpressible (m : Member) : Bool :=
  match m.body with
  | .method b => b.isExpressible
  | .attribute _ b => !b.classLevel && !b.result.any TypeExpr.isRaw
  | .constant (.type t) classLevel => !classLevel && !t.isRaw
  | .mixin _ _ | .code _ => true
  | .constant (.text _) _ | .bare => false

theorem Scope.distinct_of_normal {s : Scope} (h : s.normal = s) :
    distinct s.extended = s.extended ∧ distinct s.included = s.included :=
  ⟨congrArg Scope.extended h, congrArg Scope.included h⟩

def ScopeKind.isExpressible : ScopeKind → Bool
  | .plain | .ofClass _ | .ofModule false => true
  | .ofModule true | .ofEnum _ _ | .ofStruct _ _ => false

namespace Decl

mutual

def isExpressible : Decl → Bool
  | .member m => m.isExpressible
  | .scope s ds => s.kind.isExpressible && s.normal == s && areExpressible ds

def areExpressible : List Decl → Bool
  | [] => true
  | d :: ds => isExpressible d && areExpressible ds

end

theorem isExpressible_cons {d : Decl} {ds : List Decl} (h : areExpressible (d :: ds)) :
    d.isExpressible ∧ areExpressible ds := by
  simpa [areExpressible] using h

theorem isExpressible_scope {s : Scope} {ds : List Decl} (h : (Decl.scope s ds).isExpressible) :
    s.kind.isExpressible ∧ s.normal = s ∧ areExpressible ds := by
  simpa [isExpressible, and_assoc] using h

end Decl

namespace Convert

variable (read : Reader)

theorem type_of_not_isRaw {t : TypeExpr} (h : t.isRaw = false) : type read t = t := by
  cases t with
  | raw text => simp [TypeExpr.isRaw] at h
  | _ => rfl

theorem map_type_of_not_isRaw {t : Option TypeExpr} (h : t.any TypeExpr.isRaw = false) :
    t.map (type read) = t := by
  cases t with
  | none => rfl
  | some t => exact congrArg some (type_of_not_isRaw read (by simpa using h))

theorem block_of_isUntyped {t : Option TypeExpr} (hraw : t.any TypeExpr.isRaw = false) (h : TypeExpr.isUntyped t) :
    block read t = (none, true) := by
  simp [block, map_type_of_not_isRaw read hraw, h]

theorem signatures_method {m : Method} (h : m.isExpressible) :
    (method read m).1.signatures = [Rbs.implicitSignature m] := by
  obtain ⟨-, hresult, htypes⟩ := Method.isExpressible_iff.mp h
  have hresult : m.result.map (type read) = m.result := map_type_of_not_isRaw read hresult
  have hparameters : (m.parameters.filter (·.kind != .block)).map
      (fun p => { p with type := p.type.map (type read) }) = m.parameters.filter (·.kind != .block) := by
    conv_rhs => rw [← List.map_id (m.parameters.filter (·.kind != .block))]
    apply List.map_congr_left
    intro p hp
    rw [map_type_of_not_isRaw read (htypes p (List.mem_of_mem_filter hp)).1]
    rfl
  cases hfind : m.parameters.find? (·.kind == .block) with
  | none => simp [method, hparameters, hresult, hfind, Rbs.implicitSignature]
  | some p =>
    obtain ⟨hraw, huntyped⟩ := htypes p (List.mem_of_find?_eq_some hfind)
    have hkind : p.kind = .block := by simpa using List.find?_some hfind
    have hblock : block read p.type = (none, true) := block_of_isUntyped read hraw (huntyped hkind)
    simp [method, hparameters, hresult, hfind, hblock, Rbs.implicitSignature]

theorem rbs_method {m : Method} (h : m.isExpressible) (st : Style) (level : Int) (name : String) :
    Rbs.method st level name (method read m).1 = Rbs.method st level name m := by
  have hnone : m.signatures = [] := (Method.isExpressible_iff.mp h).1
  have hsignatures : Rbs.signatures (method read m).1 = Rbs.signatures m := by
    simp [Rbs.signatures, signatures_method read h, hnone]
  have hheading : Rbs.heading name (method read m).1 = Rbs.heading name m := rfl
  simp only [Rbs.method, hsignatures, hheading]

theorem rbs_member {m : Member} (h : m.isExpressible) :
    ∃ m', (member read m).1 = some m' ∧ m'.comments = m.comments ∧ m'.body ≠ .bare ∧
      ∀ st level, Rbs.member st level m' = Rbs.member st level m := by
  obtain ⟨name, body, comments⟩ := m
  match body with
  | .method b => exact ⟨_, rfl, rfl, nofun, fun st level => rbs_method read h st level name⟩
  | .attribute k b =>
    obtain ⟨hlevel, hraw⟩ : b.classLevel = false ∧ b.result.any TypeExpr.isRaw = false := by
      simpa [Member.isExpressible] using h
    simp only [member, hlevel]
    refine ⟨_, rfl, rfl, nofun, fun st level => ?_⟩
    simp only [Rbs.member, AttributeKind.complete_classLevel, AttributeKind.complete_result, hlevel,
      map_type_of_not_isRaw read hraw]
  | .constant (.type t) classLevel =>
    obtain ⟨hlevel, hraw⟩ : classLevel = false ∧ t.isRaw = false := by
      simpa [Member.isExpressible] using h
    simp only [member, hlevel, constantType, type_of_not_isRaw read hraw]
    exact ⟨_, rfl, rfl, nofun, fun st level => rfl⟩
  | .constant (.text value) classLevel | .bare => cases h
  | .mixin k target => exact ⟨_, rfl, rfl, nofun, fun st level => rfl⟩
  | .code text => exact ⟨_, rfl, rfl, nofun, fun st level => rfl⟩

end Convert

structure WrittenAlike (st : Style) (d d' : Decl) : Prop where
  isScope : d'.isScope = d.isScope
  hasBare : d.hasBare = false
  hasBare' : d'.hasBare = false
  child : ∀ level qualifier, Layout.child rbs st d' level qualifier = Layout.child rbs st d level qualifier

namespace WrittenAlike

variable {st : Style} {ds ds' : List Decl} (h : List.Forall₂ (WrittenAlike st) ds ds')

include h

theorem all_isScope : ds'.all Decl.isScope = ds.all Decl.isScope := by
  induction h with
  | nil => rfl
  | cons hd _ ih => rw [List.all_cons, List.all_cons, hd.isScope, ih]

theorem not_hasBareIn : Decl.hasBareIn ds = false ∧ Decl.hasBareIn ds' = false := by
  induction h with
  | nil => exact ⟨rfl, rfl⟩
  | cons hd _ ih => simp [Decl.hasBareIn, hd.hasBare, hd.hasBare', ih]

theorem body (hst : st.sorted = false) {s s' : Scope} (hextended : s'.extended = s.extended)
    (hincluded : s'.included = s.included) (level : Int) (qualifier : String) :
    Layout.body st level s' (Layout.blocks rbs st ds' level qualifier) =
      Layout.body st level s (Layout.blocks rbs st ds level qualifier) := by
  have hmixins : Layout.mixins st level s' = Layout.mixins st level s := by
    simp only [Layout.mixins, hextended, hincluded]
  have hlines : ds'.map (Layout.child rbs st · level qualifier) =
      ds.map (Layout.child rbs st · level qualifier) := by
    induction h with
    | nil => rfl
    | cons hd _ ih => rw [List.map_cons, List.map_cons, hd.child, ih]
  rw [Layout.body_blocks rbs hst, Layout.body_blocks rbs hst, hmixins, hlines]

end WrittenAlike

namespace Convert

variable (read : Reader) {st : Style}

theorem kind_of_isExpressible {s : Scope} (h : s.kind.isExpressible) :
    ∃ k, (kind s.kind).1 = some k ∧ (k = .plain ↔ s.kind = .plain) ∧ ∀ qualifier,
      Rbs.opening (Layout.qualify qualifier (scope s k)) = Rbs.opening (Layout.qualify qualifier s) := by
  obtain ⟨name, kind, comments, extended, included, pending⟩ := s
  match kind with
  | .plain => exact ⟨.plain, rfl, by simp, fun _ => rfl⟩
  | .ofClass header => exact ⟨.ofClass { superclass := header.superclass }, rfl, by simp, fun _ => rfl⟩
  | .ofModule false => exact ⟨.ofModule false, rfl, by simp, fun _ => rfl⟩
  | .ofModule true | .ofEnum _ _ | .ofStruct _ _ => cases h

theorem rbs_scope_congr {t t' : Scope} {blocks blocks' : Int → List (String × List String)}
    (hopening : Rbs.opening t' = Rbs.opening t) (hplain : t'.kind = .plain ↔ t.kind = .plain)
    (hcomments : t'.comments = t.comments)
    (hbody : ∀ level, Layout.body st level t' (blocks' level) = Layout.body st level t (blocks level))
    (level : Int) : Layout.scope rbs st level t' blocks' = Layout.scope rbs st level t blocks := by
  by_cases ht : t.kind = .plain
  · rw [Layout.scope_of_plain rbs st level (hplain.mpr ht), Layout.scope_of_plain rbs st level ht, hcomments,
      hbody]
  · have hopening : rbs.opening t' = rbs.opening t := hopening
    rw [Layout.scope_of_framed rbs st level (hplain.not.mpr ht), Layout.scope_of_framed rbs st level ht, hcomments,
      hopening, hbody]
    rfl

theorem writtenAlike_scope (hst : st.sorted = false) {s : Scope} {ds ds' : List Decl} {k : ScopeKind}
    (hnormal : s.normal = s) (hplain : k = .plain ↔ s.kind = .plain)
    (hopening : ∀ qualifier,
      Rbs.opening (Layout.qualify qualifier (scope s k)) = Rbs.opening (Layout.qualify qualifier s))
    (hds : List.Forall₂ (WrittenAlike st) ds ds') :
    WrittenAlike st (.scope s ds) (.scope (scope s k) ds') := by
  have hextended : (scope s k).extended = s.extended := (Scope.distinct_of_normal hnormal).1
  have hincluded : (scope s k).included = s.included := (Scope.distinct_of_normal hnormal).2
  -- Whether a scope is folded depends on its mixins and on which of its children are scopes: no child is dropped.
  have hfolds : Layout.folds (scope s k) ds' = Layout.folds s ds := by
    rw [Layout.folds, Layout.folds, WrittenAlike.all_isScope hds, hextended, hincluded]
  have hbody := WrittenAlike.body hds hst hextended hincluded
  obtain ⟨hbare, hbare'⟩ := WrittenAlike.not_hasBareIn hds
  refine ⟨rfl, hbare, hbare', fun level qualifier => ?_⟩
  have hname : (scope s k).name = s.name := rfl
  have hcomments : (scope s k).comments = s.comments := rfl
  have hkind : ((scope s k).kind == .plain) = (s.kind == .plain) := by
    rw [Bool.eq_iff_iff, beq_iff_eq, beq_iff_eq]
    exact hplain
  have hscope : Layout.scope rbs st level (Layout.qualify qualifier (scope s k)) (Layout.blocks rbs st ds' · "") =
      Layout.scope rbs st level (Layout.qualify qualifier s) (Layout.blocks rbs st ds · "") := by
    apply rbs_scope_congr (hopening qualifier) hplain hcomments
    intro level
    exact hbody level ""
  simp only [Layout.child, hkind, hname, hcomments, hfolds, hbody, hscope]

mutual

theorem decl_writtenAlike (hst : st.sorted = false) :
    ∀ d : Decl, d.isExpressible → ∃ d', (decl read d).1 = some d' ∧ WrittenAlike st d d'
  | .member m, h => by
    obtain ⟨m', hm', hcomments, hbare, hlines⟩ := rbs_member read h
    have hbare' : (Decl.member m').hasBare = false := by simpa [Decl.hasBare] using hbare
    refine ⟨.member m', by simp [decl, hm'], rfl, ?_, hbare', fun level qualifier => ?_⟩
    · rw [Decl.hasBare, beq_eq_false_iff_ne]
      intro hbody
      simp [Decl.isExpressible, Member.isExpressible, hbody] at h
    · rw [Layout.child, Layout.child, hcomments]
      exact congrArg _ (hlines st level)
  | .scope s ds, h => by
    obtain ⟨hkind, hnormal, hds⟩ := Decl.isExpressible_scope h
    obtain ⟨k, hk, hplain, hopening⟩ := kind_of_isExpressible hkind
    refine ⟨.scope (scope s k) (decls read ds).1, ?_, ?_⟩
    · rw [decl]
      rcases hs : kind s.kind with ⟨_ | k', ws⟩
      · simp [hs] at hk
      · simp_all
    · exact writtenAlike_scope hst hnormal hplain hopening (decls_writtenAlike hst ds hds)

theorem decls_writtenAlike (hst : st.sorted = false) :
    ∀ ds : List Decl, Decl.areExpressible ds → List.Forall₂ (WrittenAlike st) ds (decls read ds).1
  | [], _ => .nil
  | d :: ds, h => by
    obtain ⟨hd, hds⟩ := Decl.isExpressible_cons h
    obtain ⟨d', hd', halike⟩ := decl_writtenAlike hst d hd
    simp only [decls, hd']
    exact .cons halike (decls_writtenAlike hst ds hds)

end

/-- What a signature file has a form for, it shows as it was: a program without comments of its own that is
converted has the text that it would have without. -/
theorem program_same_text (st : Style) (hst : st.sorted = false) {s : Scope} {ds : List Decl}
    (hcomments : s.comments = []) (h : (Decl.scope s ds).isExpressible) :
    ∃ text, Rbs.write st (.scope s ds) = .ok text ∧ Rbs.write st (program read (.scope s ds)).1 = .ok text := by
  obtain ⟨-, hnormal, hds⟩ := Decl.isExpressible_scope h
  obtain ⟨hextended, hincluded⟩ := Scope.distinct_of_normal hnormal
  have halike := decls_writtenAlike read hst ds hds
  obtain ⟨hbare, hbare'⟩ := WrittenAlike.not_hasBareIn halike
  have hbody : Layout.body st 0 (scope s .plain) (Layout.blocks rbs st (decls read ds).1 0 "") =
      Layout.body st 0 s (Layout.blocks rbs st ds 0 "") :=
    WrittenAlike.body halike hst hextended hincluded 0 ""
  have hlines : Layout.program rbs st (program read (.scope s ds)).1 = Layout.program rbs st (.scope s ds) := by
    rw [Layout.program, hcomments, ← hbody]
    rfl
  refine ⟨_, if_neg (by simp [Decl.hasBare, hbare]), ?_⟩
  rw [← hlines]
  exact if_neg (by simp [program, Decl.hasBare, hbare'])

theorem program_same_text_folded :
    let find : Method :=
      { parameters := [{ name := "type:", type := some (.nilable .boolean), required := false }, { name := "&blk" }]
        typeParameters := ["U"] }
    let root : Decl := .scope {}
      [.scope { name := "A" }
        [.scope { name := "B", kind := .ofClass { isAbstract := true }, included := ["M"] }
          [.member { name := "find", body := .method find, comments := ["At most one."] },
            .member { name := "size", body := .attribute .writer {} }]]]
    let text := "class A::B\n  include M\n\n  # At most one.\n  def find: [U] (?`type`: bool?) -> void\n\n" ++
      "  attr_writer size: untyped\nend\n"
    root.isExpressible ∧ Rbs.write {} root = .ok text ∧ Rbs.write {} (program default root).1 = .ok text := by
  intro find root text
  have h : root.isExpressible := by decide
  have hwrite : Rbs.write {} root = .ok text := by decide +kernel
  obtain ⟨text', hplain, hconverted⟩ := program_same_text default {} rfl rfl h
  have htext : text' = text := Except.ok.inj (hplain.symm.trans hwrite)
  exact ⟨h, hwrite, htext ▸ hconverted⟩

end Convert
end RubyStubs
