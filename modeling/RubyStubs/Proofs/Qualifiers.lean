import RubyStubs.Proofs.Agreement
import RubyStubs.Proofs.SigChain
import RubyStubs.Proofs.Statement

namespace RubyStubs

structure Qualification where
  isAbstract : Bool := false
  isImplementation : Bool := false
  isOverride : Bool := false
  isOverridable : Bool := false
  isFinal : Bool := false
  typeParameters : List String := []
  deriving DecidableEq

def SigInfo.qualification (s : SigInfo) : Qualification :=
  ⟨s.isAbstract, s.isImplementation, s.isOverride, s.isOverridable, s.isFinal, s.typeParameters⟩

def Method.qualification (m : Method) : Qualification :=
  ⟨m.isAbstract, m.isImplementation, m.isOverride, m.isOverridable, m.isFinal, m.typeParameters⟩

theorem AttributeKind.complete_qualification (kind : AttributeKind) (name : String) (m : Method) :
    (kind.complete name m).qualification = m.qualification := by
  unfold complete
  split <;> rfl

namespace Node

def Link.isWord (word : String) (l : Link) : Bool := l.name == some word && l.arguments.isEmpty

def Link.typeParameters? (l : Link) : Option (List String) :=
  if l.name = some "type_parameters" then some (l.arguments.map Source.typeParameterName) else none

def qualification (g : Node) (links : List Link) : Qualification where
  isAbstract := links.any (·.isWord "abstract")
  isImplementation := links.any (·.isWord "implementation")
  isOverride := links.any (·.isWord "override")
  isOverridable := links.any (·.isWord "overridable")
  isFinal := g.arguments.any (·.symbolName? == some "final")
  typeParameters := (links.filterMap Link.typeParameters?).getLast?.getD []

end Node

namespace Source

variable {u : Source} {o : ReadOptions} {p s : NodePath} {d g : Node}

theorem sigLink_qualification {info info' : SigInfo} {l : Node.Link} (h : u.sigLink o p info l = .ok info') :
    info'.qualification =
      { isAbstract := info.isAbstract || l.isWord "abstract"
        isImplementation := info.isImplementation || l.isWord "implementation"
        isOverride := info.isOverride || l.isWord "override"
        isOverridable := info.isOverridable || l.isWord "overridable"
        isFinal := info.isFinal
        typeParameters := l.typeParameters?.getD info.typeParameters } := by
  obtain ⟨name, arguments⟩ := l
  unfold sigLink at h
  split at h
  case h_7 => exact absurd h (fail_ne_ok _ p info')
  case h_8 =>
    obtain ⟨parameters, -, h⟩ := bind_eq_ok_iff.mp h
    cases h
    simp_all [SigInfo.qualification, Node.Link.isWord, Node.Link.typeParameters?]
  all_goals
    cases h
    simp_all [SigInfo.qualification, Node.Link.isWord, Node.Link.typeParameters?]

theorem sigLinks_qualification {info info' : SigInfo} {links : List Node.Link}
    (h : u.sigLinks o p info links = .ok info') :
    info'.qualification =
      { isAbstract := info.isAbstract || links.any (·.isWord "abstract")
        isImplementation := info.isImplementation || links.any (·.isWord "implementation")
        isOverride := info.isOverride || links.any (·.isWord "override")
        isOverridable := info.isOverridable || links.any (·.isWord "overridable")
        isFinal := info.isFinal
        typeParameters := (links.filterMap Node.Link.typeParameters?).getLast?.getD info.typeParameters } := by
  induction links generalizing info with
  | nil =>
    cases h
    simp [SigInfo.qualification]
  | cons l links ih =>
    obtain ⟨next, hnext, hrest⟩ := bind_eq_ok_iff.mp h
    have hstep := sigLink_qualification hnext
    simp only [SigInfo.qualification, Qualification.mk.injEq] at hstep
    obtain ⟨habstract, himplementation, hoverride, hoverridable, hfinal, htypes⟩ := hstep
    rw [ih hrest]
    cases hl : l.typeParameters? <;>
      simp [habstract, himplementation, hoverride, hoverridable, hfinal, htypes, hl, Bool.or_assoc,
        List.getLast?_cons]

theorem Signed.qualification (h : u.Signed p s d g) {info : SigInfo} (hinfo : u.sigInfo o s = .ok info) :
    info.qualification = g.qualification (g.sigChain?.getD []) := by
  rw [h.sigInfo] at hinfo
  cases hlinks : g.sigChain? with
  | none =>
    rw [hlinks] at hinfo
    exact absurd hinfo (fail_ne_ok _ s info)
  | some links =>
    rw [hlinks] at hinfo
    rw [sigLinks_qualification hinfo]
    simp [Node.qualification]

theorem method_qualification {info : SigInfo} {eigen : Bool} {comments : List String} {x : Decl}
    (h : u.method p d (some info) eigen comments = .ok x) :
    ∃ m, x.method? = some m ∧ m.qualification = info.qualification := by
  obtain ⟨classLevel, name, defs, parameters, -, -, -, -, rfl⟩ := method_eq_ok_iff.mp h
  exact ⟨info.method parameters classLevel, rfl, rfl⟩

theorem attributes_qualification (sig : Option SigInfo) (eigen : Bool) (comments : List String) :
    Ensures (u.attributes p d sig eigen comments) fun xs =>
      ∀ x ∈ xs, ∃ m, x.method? = some m ∧ m.qualification = {} := by
  unfold attributes
  split
  · exact .error _
  · apply Ensures.mapM
    intro a
    split
    · exact fun x hx => absurd hx (fail_ne_ok _ p x)
    · exact .ok ⟨_, rfl, AttributeKind.complete_qualification _ _ _⟩

/-- Qualifiers are kept exactly if the definition is of a method, or no attribute is there to lose them, or the sig
has none. -/
theorem qualifiers_kept_iff (h : u.Signed p s d g) {eigen : Bool} {ds : List Decl}
    (hread : (u.read o p eigen).result = .ok ds) :
    (∀ x ∈ ds, ∃ m, x.method? = some m ∧ m.qualification = g.qualification (g.sigChain?.getD [])) ↔
      d.isDefinition ∨ ds = [] ∨ g.qualification (g.sigChain?.getD []) = {} := by
  rw [h.read] at hread
  obtain ⟨info, hinfo, hread⟩ := bind_eq_ok_iff.mp hread
  obtain ⟨comments, -, hread⟩ := bind_eq_ok_iff.mp hread
  rw [← h.qualification hinfo]
  by_cases hcall : d.isCall || d.kind == "identifier"
  · rw [if_pos hcall] at hread
    have hempty := attributes_qualification _ _ _ ds hread
    have hdef : ¬ d.isDefinition := by
      intro hdef
      rw [Node.not_call_of_isDefinition hdef] at hcall
      cases hcall
    constructor
    · intro hkept
      cases ds with
      | nil => exact .inr (.inl rfl)
      | cons x xs =>
        obtain ⟨m, hm, hqualified⟩ := hkept x List.mem_cons_self
        obtain ⟨m', hm', hunqualified⟩ := hempty x List.mem_cons_self
        rw [hm] at hm'
        cases hm'
        exact .inr (.inr (hqualified.symm.trans hunqualified))
    · rintro (hmethod | rfl | hnone)
      · exact absurd hmethod hdef
      · exact nofun
      · rw [hnone]
        exact hempty
  · rw [if_neg hcall] at hread
    obtain ⟨x, hx, hread⟩ := bind_eq_ok_iff.mp hread
    cases hread
    obtain ⟨n, -, hdefining, htarget⟩ := h.target
    have hdef : d.isDefinition := Node.isDefinition_of_target? hdefining htarget hcall
    rw [List.forall_mem_singleton]
    exact iff_of_true (method_qualification hx) (.inl hdef)

theorem qualifiers_kept_iff_final :
    let chain : Expr := .send (.word "override") "void" []
    let sig := (Stmt.sig true chain).tree
    let definition := (Stmt.definition false "f" []).tree
    let u : Source := { root := .made "program" "" [sig, definition], file := "a.rb" }
    let ds := [Decl.member { name := "f", body := .method { isOverride := true, isFinal := true } }]
    u.Signed (.child .root 1) (.child .root 0) definition sig ∧ (u.read {} (.child .root 1) false).result = .ok ds ∧
      ∀ x ∈ ds, ∃ m, x.method? = some m ∧ m.qualification = sig.qualification (sig.sigChain?.getD []) := by
  intro chain sig definition u ds
  have hsigned : u.Signed (.child .root 1) (.child .root 0) definition sig := ⟨⟨definition, rfl, rfl, rfl⟩, rfl, rfl⟩
  have hchain : sig.sigChain? = some [⟨some "override", []⟩, ⟨some "void", []⟩] := by
    change some chain.tree.chain.2 = _
    rw [Node.chain_of_receiver? rfl rfl, Node.chain_of_not_isCall (by decide)]
    rfl
  have hread : (u.read {} (.child .root 1) false).result = .ok ds := by
    rw [hsigned.read, hsigned.sigInfo, hchain, commentsBefore_root_child_zero]
    rfl
  exact ⟨hsigned, hread, (qualifiers_kept_iff hsigned hread).mpr (.inl rfl)⟩

theorem attribute_qualifiers_lost :
    let chain : Expr := .send (.word "override") "returns" [.constant "A"]
    let sig := (Stmt.sig false chain).tree
    let accessor := (Stmt.command (.accessor .reader "a")).tree
    let u : Source := { root := .made "program" "" [sig, accessor], file := "a.rb" }
    let m : Method := { result := some (.raw "A") }
    u.Signed (.child .root 1) (.child .root 0) accessor sig ∧
      (sig.qualification (sig.sigChain?.getD [])).isOverride = true ∧
      (u.read {} (.child .root 1) false).result = .ok [.member { name := "a", body := .attribute .reader m }] ∧
      m.qualification.isOverride = false := by
  intro chain sig accessor u m
  have hsigned : u.Signed (.child .root 1) (.child .root 0) accessor sig :=
    ⟨⟨accessor, rfl, by decide +kernel, rfl⟩, rfl, rfl⟩
  have hchain : sig.sigChain? = some [⟨some "override", []⟩, ⟨some "returns", [(Expr.constant "A").tree]⟩] := by
    change some chain.tree.chain.2 = _
    rw [Node.chain_of_receiver? rfl rfl, Node.chain_of_not_isCall (by decide)]
    rfl
  rw [hsigned.read, hsigned.sigInfo, hchain, commentsBefore_root_child_zero]
  exact ⟨hsigned, rfl, rfl, rfl⟩

end Source
end RubyStubs
