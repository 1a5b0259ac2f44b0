import RubyStubs.Stub.Convert
import Mathlib.Data.List.Forall2
import Mathlib.Tactic.SplitIfs

namespace RubyStubs

namespace Decl

def isDropped : Decl → Bool
  | .scope s _ => s.kind.variant == .ofEnum || s.kind.variant == .ofStruct
  | .member m =>
    match m.body with
    | .attribute _ a => a.classLevel
    | .constant _ classLevel => classLevel
    | .bare => true
    | _ => false

mutual

def visited : Decl → List Decl
  | .member m => [.member m]
  | .scope s ds => .scope s ds :: if (Decl.scope s ds).isDropped then [] else visitedAll ds

def visitedAll : List Decl → List Decl
  | [] => []
  | d :: ds => visited d ++ visitedAll ds

end

end Decl

def Member.label (m : Member) : String :=
  match m.body with
  | .mixin _ target => target
  | .code text => text
  | _ => m.name

/-- The second declaration is of the same variant as the first, with the same name, comments and mixins,
and holds what is kept of the declarations in the first. -/
inductive KeptAs : Decl → Decl → Prop
  | member {m m' : Member} (variant : m'.body.variant = m.body.variant) (label : m'.label = m.label)
      (comments : m'.comments = m.comments) : KeptAs (.member m) (.member m')
  | scope {s s' : Scope} {ds ds' : List Decl} (variant : s'.kind.variant = s.kind.variant)
      (name : s'.name = s.name) (comments : s'.comments = s.comments)
      (extended : s'.extended = s.normal.extended) (included : s'.included = s.normal.included)
      (children : List.Forall₂ KeptAs (ds.filter (!·.isDropped)) ds') : KeptAs (.scope s ds) (.scope s' ds')

def TypeExpr.isBlockType : Option TypeExpr → Bool
  | some (.proc _ _) | some (.nilable (.proc _ _)) => true
  | t => isUntyped t

def Method.hasUnfitBlock (read : Reader) (m : Method) : Bool :=
  (m.parameters.find? (·.kind == .block)).any fun p =>
    !TypeExpr.isBlockType (p.type.map (Convert.type read))

namespace Warning

def all : List Warning :=
  [.code, .enumDropped, .structDropped, .abstractClass, .finalClass, .interfaceModule, .plainScope,
    .classAttribute, .classConstant, .blockType, .bareDropped]

def concerns (read : Reader) : Warning → Decl → Bool
  | .code, d => d.variant == .code
  | .enumDropped, d => d.variant == .ofEnum
  | .structDropped, d => d.variant == .ofStruct
  | .plainScope, d => d.variant == .plain
  | .bareDropped, d => d.variant == .bare
  | .abstractClass, .scope s _ => s.kind.variant == .ofClass && s.kind.header?.any (·.isAbstract)
  | .finalClass, .scope s _ => s.kind.variant == .ofClass && s.kind.header?.any (·.isFinal)
  | .interfaceModule, .scope s _ => s.kind.isInterface
  | .classAttribute, d => d.variant == .attribute && d.isDropped
  | .classConstant, d => d.variant == .constant && d.isDropped
  | .blockType, .member { body := .method m, .. } => m.hasUnfitBlock read
  | _, _ => false

end Warning

namespace Convert

variable (read : Reader)

def notices (d : Decl) : List (Warning × Decl) :=
  (Warning.all.filter (·.concerns read d)).map fun w => (w, d)

theorem block_snd (param : Option TypeExpr) :
    (block read param).2 = TypeExpr.isBlockType (param.map (type read)) := by
  simp only [block]
  generalize param.map (type read) = t
  rcases t with _ | t
  · rfl
  · cases t with
    | nilable t => cases t <;> rfl
    | raw text =>
      simp only [TypeExpr.isBlockType]
      split_ifs with h <;> simp [h]
    | _ => rfl

theorem method_snd (m : Method) : (method read m).2 = !m.hasUnfitBlock read := by
  simp only [method, Method.hasUnfitBlock]
  cases m.parameters.find? (·.kind == .block) with
  | none => rfl
  | some p => simp [block_snd]

theorem member_notices (m : Member) :
    (member read m).2.map (fun w => (w, Decl.member m)) = notices read (.member m) := by
  obtain ⟨name, body, comments⟩ := m
  match body with
  | .method b =>
    have hkept := method_snd read b
    cases h : b.hasUnfitBlock read <;>
      simp [member, notices, Warning.all, Warning.concerns, Decl.variant, MemberBody.variant, hkept, h]
  | .attribute k { classLevel, .. } => cases classLevel <;> rfl
  | .constant v classLevel => cases classLevel <;> rfl
  | .mixin k target => cases k <;> rfl
  | .code text => rfl
  | .bare => rfl

theorem scope_notices (s : Scope) (ds : List Decl) :
    (kind s.kind).2.map (fun w => (w, Decl.scope s ds)) = notices read (.scope s ds) := by
  obtain ⟨name, kind, comments, extended, included, pending⟩ := s
  match kind with
  | .plain => rfl
  | .ofModule isInterface => cases isInterface <;> rfl
  | .ofClass { isAbstract, isFinal, .. } => cases isAbstract <;> cases isFinal <;> rfl
  | .ofEnum header es => rfl
  | .ofStruct header fs => rfl

theorem member_dropped {m : Member} (h : (Decl.member m).isDropped) : (member read m).1 = none := by
  obtain ⟨name, body, comments⟩ := m
  match body with
  | .attribute k b => simp_all [Decl.isDropped, member]
  | .constant v classLevel => simp_all [Decl.isDropped, member]
  | .bare => rfl
  | .method b | .mixin k target | .code text => cases h

theorem member_kept {m : Member} (h : ¬ (Decl.member m).isDropped) :
    ∃ m', (member read m).1 = some m' ∧ KeptAs (.member m) (.member m') := by
  obtain ⟨name, body, comments⟩ := m
  match body with
  | .method b => exact ⟨_, rfl, .member rfl rfl rfl⟩
  | .attribute k b =>
    have hlevel : b.classLevel = false := by simpa [Decl.isDropped] using h
    simp only [member, hlevel]
    exact ⟨_, rfl, .member rfl rfl rfl⟩
  | .constant v classLevel =>
    cases classLevel with
    | false => exact ⟨_, rfl, .member rfl rfl rfl⟩
    | true => exact absurd rfl h
  | .mixin k target => exact ⟨_, rfl, .member rfl rfl rfl⟩
  | .code text => exact ⟨_, rfl, .member rfl rfl rfl⟩
  | .bare => exact absurd rfl h

theorem kind_dropped {k : ScopeKind} : (kind k).1 = none ↔ k.variant = .ofEnum ∨ k.variant = .ofStruct := by
  cases k <;> simp [kind, ScopeKind.variant]

theorem kind_variant {k k' : ScopeKind} (h : (kind k).1 = some k') : k'.variant = k.variant := by
  cases k <;> cases h <;> rfl

theorem scope_dropped_iff (s : Scope) (ds : List Decl) :
    (Decl.scope s ds).isDropped ↔ (kind s.kind).1 = none := by
  simp [Decl.isDropped, kind_dropped]

theorem decl_dropped {d : Decl} (h : d.isDropped) : (decl read d).1 = none := by
  cases d with
  | member m => simp [decl, member_dropped read h]
  | scope s ds =>
    have hkind : (kind s.kind).1 = none := (scope_dropped_iff s ds).mp h
    rw [decl]
    rcases hk : kind s.kind with ⟨_ | k, ws⟩
    · rfl
    · rw [hk] at hkind
      cases hkind

mutual

theorem decl_kept : ∀ d : Decl, ¬ d.isDropped → ∃ d', (decl read d).1 = some d' ∧ KeptAs d d'
  | .member m, h => by
    obtain ⟨m', hm', hkept⟩ := member_kept read h
    exact ⟨.member m', by simp [decl, hm'], hkept⟩
  | .scope s ds, h => by
    have hkind : (kind s.kind).1 ≠ none := fun hnone => h ((scope_dropped_iff s ds).mpr hnone)
    rw [decl]
    rcases hk : kind s.kind with ⟨_ | k, ws⟩
    · rw [hk] at hkind
      exact absurd rfl hkind
    · have hvariant : k.variant = s.kind.variant := kind_variant (by rw [hk])
      exact ⟨_, rfl, .scope hvariant rfl rfl rfl rfl (decls_kept ds)⟩

theorem decls_kept : ∀ ds : List Decl, List.Forall₂ KeptAs (ds.filter (!·.isDropped)) (decls read ds).1
  | [] => .nil
  | d :: ds => by
    have hds := decls_kept ds
    by_cases hd : d.isDropped
    · simp only [decls, decl_dropped read hd, List.filter_cons, hd]
      exact hds
    · obtain ⟨d', hd', hkept⟩ := decl_kept d hd
      simp only [decls, hd', List.filter_cons, hd]
      exact .cons hkept hds

end

mutual

theorem decl_notices : ∀ d : Decl, (decl read d).2 = d.visited.flatMap (notices read)
  | .member m => by simp [decl, Decl.visited, member_notices]
  | .scope s ds => by
    have hnotices := scope_notices read s ds
    rw [decl, Decl.visited, List.flatMap_cons, ← hnotices]
    rcases hk : kind s.kind with ⟨_ | k, ws⟩
    · have hdropped : (Decl.scope s ds).isDropped := (scope_dropped_iff s ds).mpr (by rw [hk])
      simp [hdropped]
    · have hkept : ¬ (Decl.scope s ds).isDropped := by
        rw [scope_dropped_iff, hk]
        exact nofun
      simp [hkept, decls_notices ds]

theorem decls_notices : ∀ ds : List Decl, (decls read ds).2 = (Decl.visitedAll ds).flatMap (notices read)
  | [] => rfl
  | d :: ds => by simp [decls, Decl.visitedAll, decl_notices d, decls_notices ds]

end

theorem notices_dropped {d : Decl} (h : d.isDropped) : ∃ w, notices read d = [(w, d)] := by
  cases d with
  | scope s ds =>
    rw [← scope_notices]
    rcases kind_dropped.mp ((scope_dropped_iff s ds).mp h) with hk | hk
    · cases hkind : s.kind <;> simp_all [ScopeKind.variant, kind]
    · cases hkind : s.kind <;> simp_all [ScopeKind.variant, kind]
  | member m =>
    rw [← member_notices]
    obtain ⟨name, body, comments⟩ := m
    match body with
    | .attribute k b => simp_all [Decl.isDropped, member]
    | .constant v classLevel => simp_all [Decl.isDropped, member]
    | .bare => exact ⟨_, rfl⟩
    | .method b | .mixin k target | .code text => cases h

/-- A converted program has a plain scope at its root and below it, in their places, the declarations that
are kept. The warnings are those that the declarations give rise to, from the top down; no other
declaration than one that is dropped goes missing, and there is one warning for each of these. -/
theorem program_keeps (s : Scope) (ds : List Decl) :
    (∃ s' ds', (program read (.scope s ds)).1 = .scope s' ds' ∧ s'.kind = .plain ∧ s'.name = s.name ∧
      s'.extended = s.normal.extended ∧ s'.included = s.normal.included ∧
      List.Forall₂ KeptAs (ds.filter (!·.isDropped)) ds') ∧
    (program read (.scope s ds)).2 = (Decl.visitedAll ds).flatMap (notices read) ∧
    ∀ d ∈ Decl.visitedAll ds, d.isDropped → ∃ w, notices read d = [(w, d)] := by
  refine ⟨⟨_, _, rfl, rfl, rfl, rfl, rfl, decls_kept read ds⟩, decls_notices read ds, ?_⟩
  intro d _ hd
  exact notices_dropped read hd

def enumInClass : Decl :=
  .scope { name := "A", kind := .ofClass { isAbstract := true } }
    [.scope { name := "E", kind := .enumOf {} [("X", none)] } [],
      .member { name := "x", body := .method {} }]

theorem program_keeps_enum_in_class :
    ∃ d ∈ Decl.visitedAll [enumInClass], d.isDropped ∧ ∃ w, notices default d = [(w, d)] := by
  refine ⟨.scope { name := "E", kind := .enumOf {} [("X", none)] } [], ?_, rfl, ?_⟩
  · exact List.mem_cons_of_mem _ List.mem_cons_self
  · exact (program_keeps default {} [enumInClass]).2.2 _ (List.mem_cons_of_mem _ List.mem_cons_self) rfl

theorem program_root_made_anew :
    ¬ KeptAs (.scope { comments := ["All of it."] } [])
        (program default (.scope { comments := ["All of it."] } [])).1 ∧
      ¬ KeptAs (.scope { name := "A", kind := .ofClass {} } [])
        (program default (.scope { name := "A", kind := .ofClass {} } [])).1 := by
  refine ⟨fun h => ?_, fun h => ?_⟩
  · cases h with
    | scope _ _ comments => cases comments
  · cases h with
    | scope variant => cases variant

end Convert
end RubyStubs
