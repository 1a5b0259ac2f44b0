import RubyStubs.Proofs.Distinct
import RubyStubs.Proofs.StatementRun

namespace RubyStubs

def Node.isLeft (k : ScopeKind) (n : Node) : Bool :=
  n.remark == .none &&
    match k with
    | .ofEnum _ _ => !n.isEnumBlock
    | .ofStruct _ _ => !n.isFieldCall
    | _ => true

theorem Source.innerStatements_eq_filter (k : ScopeKind) (body : List (NodePath × Node)) :
    innerStatements k body = body.filter (·.2.isLeft k) := by
  unfold innerStatements Node.isLeft
  cases k <;> simp [List.filter_filter, Bool.and_comm]

namespace Stmt

def isEnums : Stmt → Bool
  | .block .enums _ => true
  | _ => false

def isField : Stmt → Bool
  | .command (.field _) => true
  | _ => false

def isDeclaring : Stmt → Bool
  | .mark _ | .command (.mixin _ _) | .command (.field _) | .block .enums _ => false
  | _ => true

def isLeft (k : ScopeKind) (s : Stmt) : Bool :=
  s.remark == .none &&
    match k with
    | .ofEnum _ _ => !s.isEnums
    | .ofStruct _ _ => !s.isField
    | _ => true

theorem isLeft_of_isDeclaring {s : Stmt} (h : s.isDeclaring) (k : ScopeKind) :
    s.isLeft k ∧ ¬ s.isEnums ∧ ¬ s.isField ∧ s.remark = .none := by
  match s with
  | .command (.accessor _ _) | .constant _ _ | .sig _ _ | .definition _ _ _ | .block (.ofClass _ _) _
  | .block (.ofModule _) _ | .block .singleton _ => cases k <;> exact ⟨rfl, nofun, nofun, rfl⟩

theorem eq_of_isEnums {s : Stmt} (h : s.isEnums) : ∃ body, s = .block .enums body := by
  match s with
  | .block .enums body => exact ⟨body, rfl⟩

theorem eq_of_isField {s : Stmt} (h : s.isField) : ∃ f, s = .command (.field f) := by
  match s with
  | .command (.field f) => exact ⟨f, rfl⟩

theorem callName?_tells (s : Stmt) : (s.callName? = some "enums" ↔ s.isEnums) ∧
    ((s.callName? = some "prop" ∨ s.callName? = some "const") ↔ s.isField) := by
  match s with
  | .mark m => cases m <;> simp [callName?, isEnums, isField, Mark.word]
  | .command (.mixin k _) => cases k <;> simp [callName?, isEnums, isField, BareCall.name]
  | .command (.accessor k _) => cases k <;> simp [callName?, isEnums, isField, BareCall.name, AttributeKind.label]
  | .command (.field ⟨_, _, _, immutable, _, _⟩) =>
    cases immutable <;> simp [callName?, isEnums, isField, BareCall.name]
  | .constant _ _ | .sig _ _ | .definition _ _ _ | .block (.ofClass _ _) _ | .block (.ofModule _) _
  | .block .singleton _ | .block .enums _ => simp [callName?, isEnums, isField]

variable {n : Node} {s : Stmt}

theorem Mirrors.isEnumBlock (h : s.Mirrors n) (hmark : ∀ m, s ≠ .mark m) : n.isEnumBlock = s.isEnums := by
  cases henums : s.isEnums with
  | false =>
    have hname : n.callName? ≠ some "enums" := by
      rw [h.callName? hmark, Ne, s.callName?_tells.1, henums]
      exact Bool.false_ne_true
    rw [Node.isEnumBlock, beq_eq_false_iff_ne.mpr hname, Bool.false_and]
  | true =>
    obtain ⟨body, rfl⟩ := eq_of_isEnums henums
    obtain ⟨-, ns, ⟨hcall, hblock⟩, -⟩ := h
    obtain ⟨_, hcallOf, -⟩ := hcall.isCallOf
    obtain ⟨b, hb, -⟩ := hblock.blockStatements hcallOf.isCall
    simp [Node.isEnumBlock, hcallOf.callName?, hb]

theorem Mirrors.isFieldCall (h : s.Mirrors n) (hmark : ∀ m, s ≠ .mark m) : n.isFieldCall = s.isField := by
  have hname : n.callName? = some "prop" ∨ n.callName? = some "const" ↔ s.isField := by
    rw [h.callName? hmark]
    exact s.callName?_tells.2
  have hnamed : (n.callName? == some "prop" || n.callName? == some "const") = s.isField := by
    rw [Bool.eq_iff_iff, ← hname]
    simp
  cases hfield : s.isField with
  | false => rw [Node.isFieldCall, hnamed, hfield, Bool.and_false, Bool.false_and]
  | true =>
    obtain ⟨f, rfl⟩ := eq_of_isField hfield
    obtain ⟨_, hcallOf, -⟩ := h.2.isCallOf
    rw [Node.isFieldCall, hnamed, hfield, hcallOf.isCall, hcallOf.receiver?]
    rfl

theorem Mirrors.isLeft (h : s.Mirrors n) (k : ScopeKind) :
    n.isLeft k = s.isLeft k := by
  unfold Stmt.isLeft Node.isLeft
  rw [h.remark]
  by_cases hmark : ∃ m, s = .mark m
  · obtain ⟨m, rfl⟩ := hmark
    cases m <;> rfl
  · have hmark : ∀ m, s ≠ .mark m := fun m hm => hmark ⟨m, hm⟩
    cases k <;> simp [h.isEnumBlock hmark, h.isFieldCall hmark]

end Stmt

namespace Source

variable {u : Source} {o : ReadOptions} {n : Node} {p : NodePath}

def Shows (ss : List Stmt) (body : List (NodePath × Node)) : Prop :=
  List.Forall₂ (fun s b => s.Mirrors b.2) ss body

theorem shows_places {ss : List Stmt} {q : NodePath} {l : List (Nat × Node)}
    (h : List.Forall₂ Stmt.Mirrors ss (l.map (·.2))) : Shows ss (places q l) := by
  rw [← map_places q l, List.forall₂_map_right_iff] at h
  exact h

theorem comment_spec {c : Node} (h : c.isComment) (ht : Text.startsWith c.text "#") :
    c.remark = .none ∧ c.isEnumBlock = false ∧ c.isFieldCall = false := by
  have hkind : c.kind = "comment" := by simpa [Node.isComment] using h
  have hcall : c.isCall = false := by simp [Node.isCall, Node.callKinds, hkind]
  have hname : c.callName? = none := Node.callName?_eq_none (by simp [hcall]) (by simp [hkind])
  have hmark : '#' ∈ (Text.trim c.text).toList := Text.mem_trim (Text.mem_of_startsWith ht (by decide)) (by decide)
  have hne {w : String} (hw : '#' ∉ w.toList) : Text.trim c.text ≠ w := by
    rintro rfl
    exact hw hmark
  refine ⟨?_, by simp [Node.isEnumBlock, hname], by simp [Node.isFieldCall, hcall]⟩
  rw [Node.remark_eq (hne (by decide)) (hne (by decide)) (hne (by decide)), Node.mixin?_eq_none (by simp [hname])]
  rfl

def mixinTarget? (kind : MixinKind) : Remark → Option String
  | .mixin k target => if k == kind then some target else none
  | _ => none

theorem mixins_eq (kind : MixinKind) (body : List (NodePath × Node)) :
    mixins kind body = distinct ((body.map (·.2.remark)).filterMap (mixinTarget? kind)) := by
  rw [mixins, List.filterMap_map]
  refine congrArg distinct (List.filterMap_congr fun s _ => ?_)
  cases h : s.2.remark <;> simp [mixinTarget?, h]

theorem filter_of_imp {α : Type} {p q : α → Bool} {xs : List α} (h : ∀ x ∈ xs, p x → q x) :
    xs.filter p = (xs.filter q).filter p := by
  rw [List.filter_filter]
  refine List.filter_congr fun x hx => ?_
  cases hp : p x with
  | false => rfl
  | true => simp [h x hx hp]

theorem scopeHeader_filter {body : List (NodePath × Node)}
    (h : ∀ s ∈ body, s.2.isComment → Text.startsWith s.2.text "#") :
    u.scopeHeader o n p body = u.scopeHeader o n p (body.filter (!·.2.isComment)) := by
  -- A comment has no remark and passes neither of the filters for blocks and fields.
  have hspec : ∀ s ∈ body, ¬ (!s.2.isComment) = true →
      s.2.remark = .none ∧ s.2.isEnumBlock = false ∧ s.2.isFieldCall = false := by
    intro s hs hcomment
    have hcomment : s.2.isComment := by simpa using hcomment
    exact comment_spec hcomment (h s hs hcomment)
  have hcontains {x : Remark} (hx : x ≠ .none) : (body.map (·.2.remark)).contains x =
      ((body.filter (!·.2.isComment)).map (·.2.remark)).contains x := by
    rw [Bool.eq_iff_iff, List.contains_iff_mem, List.contains_iff_mem, List.mem_map, List.mem_map]
    constructor
    · rintro ⟨s, hs, rfl⟩
      refine ⟨s, List.mem_filter.mpr ⟨hs, ?_⟩, rfl⟩
      by_contra hcomment
      exact hx (hspec s hs hcomment).1
    · rintro ⟨s, hs, rfl⟩
      exact ⟨s, (List.mem_filter.mp hs).1, rfl⟩
  have hfilter {f : Node → Bool} (hf : ∀ s ∈ body, ¬ (!s.2.isComment) = true → f s.2 = false) :
      (body.filter (·.2.remark == .none)).filter (f ·.2) =
        ((body.filter (!·.2.isComment)).filter (·.2.remark == .none)).filter (f ·.2) := by
    rw [List.filter_filter, List.filter_filter]
    refine filter_of_imp fun s hs hp => ?_
    by_contra hcomment
    rw [hf s hs hcomment] at hp
    cases hp
  have hmixins (k : MixinKind) : mixins k body = mixins k (body.filter (!·.2.isComment)) := by
    rw [mixins, mixins, List.filterMap_filter]
    refine congrArg distinct (List.filterMap_congr fun s hs => ?_)
    split_ifs with hcomment
    · rfl
    · rw [(hspec s hs hcomment).1]
  unfold scopeHeader scopeKind
  simp only [hcontains (x := .isInterface) nofun, hcontains (x := .isAbstract) nofun,
    hcontains (x := .isFinal) nofun, hfilter fun s hs hc => (hspec s hs hc).2.1,
    hfilter fun s hs hc => (hspec s hs hc).2.2, hmixins]

theorem Shows.map_remark {ss : List Stmt} {body : List (NodePath × Node)} (h : Shows ss body) :
    body.map (·.2.remark) = ss.map Stmt.remark := by
  induction h with
  | nil => rfl
  | cons hs _ ih => rw [List.map_cons, List.map_cons, ih, hs.remark]

theorem filter_markStmts {f : Stmt → Bool} (h : ∀ m, f (.mark m) = false) (header : ClassHeader) :
    (Scope.markStmts header).filter f = [] := by
  rw [Scope.markStmts, List.filter_append]
  cases header.isAbstract <;> cases header.isFinal <;> simp [h]

theorem mem_sections {k : ScopeKind} {s : Stmt} (h : s ∈ (Scope.sections k).flatten) :
    (∃ m, s = .mark m) ∨ (∃ header es, k = .ofEnum header es ∧ s.isEnums) ∨
      ∃ header fs, k = .ofStruct header fs ∧ s.isField := by
  have hmarks {header : ClassHeader} (h : s ∈ Scope.markStmts header) : ∃ m, s = .mark m := by
    rcases List.mem_append.mp h with h | h
    · split_ifs at h
      · exact ⟨_, List.mem_singleton.mp h⟩
      · cases h
    · split_ifs at h
      · exact ⟨_, List.mem_singleton.mp h⟩
      · cases h
  cases k with
  | plain => cases h
  | ofModule i =>
    cases i with
    | false => cases h
    | true => exact .inl ⟨_, List.mem_singleton.mp h⟩
  | ofClass header => exact .inl (hmarks (by simpa [Scope.sections] using h))
  | ofEnum header es =>
    simp only [Scope.sections, List.flatten_cons, List.flatten_nil, List.append_nil, List.mem_append,
      List.mem_singleton] at h
    rcases h with h | rfl
    · exact .inl (hmarks h)
    · exact .inr (.inl ⟨header, es, rfl, rfl⟩)
  | ofStruct header fs =>
    simp only [Scope.sections, List.flatten_cons, List.flatten_nil, List.append_nil, List.mem_append,
      List.mem_map] at h
    rcases h with h | ⟨f, -, rfl⟩
    · exact .inl (hmarks h)
    · exact .inr (.inr ⟨header, fs, rfl, rfl⟩)

theorem filter_of_shows {s : Scope} {decls : List Stmt} {body : List (NodePath × Node)}
    (hbody : Shows ((Scope.sections s.kind).flatten ++ (s.mixinStmts ++ decls)) body) {f : Stmt → Bool}
    {g : Node → Bool} (hfg : ∀ st n, Stmt.Mirrors st n → (∀ m, st ≠ .mark m) → g n = f st)
    (hmark : ∀ m, f (.mark m) = false) (hmixin : ∀ k t, f (.command (.mixin k t)) = false) (hnone : ∀ st ∈ decls, f st = false)
    (hremark : ∀ st, f st → st.remark = .none) :
    Shows ((Scope.sections s.kind).flatten.filter f) ((body.filter (·.2.remark == .none)).filter (g ·.2)) := by
  have hstmts : ((Scope.sections s.kind).flatten ++ (s.mixinStmts ++ decls)).filter f =
      (Scope.sections s.kind).flatten.filter f := by
    have hmixins : s.mixinStmts.filter f = [] := by
      rw [List.filter_eq_nil_iff]
      intro st hst
      rcases List.mem_append.mp hst with h | h
      all_goals
        obtain ⟨t, -, rfl⟩ := List.mem_map.mp h
        simp [hmixin]
    have hrest : decls.filter f = [] := by
      rw [List.filter_eq_nil_iff]
      intro st hst
      simp [hnone st hst]
    rw [List.filter_append, List.filter_append, hmixins, hrest, List.append_nil, List.append_nil]
  rw [← hstmts, List.filter_filter]
  -- What a mark calls is not known, but its remark keeps it out.
  refine List.rel_filter (fun st b hst => ?_) hbody
  change f st = true ↔ (g b.2 && b.2.remark == .none) = true
  by_cases hm : ∃ m, st = .mark m
  · obtain ⟨m, rfl⟩ := hm
    rw [hst.remark, hmark]
    cases m <;> simp [Stmt.remark, Mark.remark]
  · rw [hfg st b.2 hst fun m heq => hm ⟨m, heq⟩, hst.remark]
    constructor
    · intro hf
      simp [hf, hremark st hf]
    · intro hboth
      rw [Bool.and_eq_true] at hboth
      exact hboth.1

theorem not_isEmpty_of_isSuperclass {t : String} (h : isSuperclass t) : ¬ t.isEmpty := by
  simp only [isSuperclass, Bool.and_eq_true] at h
  simpa using h.1

theorem superclass?_eq {c : Option String} (h : n.HasSuperclass c) (hc : ∀ t ∈ c, isSuperclass t) :
    n.superclass? = c := by
  cases c with
  | none => rw [Node.superclass?, h, Option.map_none]
  | some t =>
    obtain ⟨sc, e, hsc, he, rfl⟩ := h
    have ht := hc _ rfl
    simp only [isSuperclass, Bool.and_eq_true, beq_iff_eq] at ht
    rw [Node.superclass?, hsc, Option.map_some, he, Option.getD_some, ht.2]

theorem hasText_of_opening {s : Scope} {ns : List Node} (h : s.opening.Mirrors n ns) :
    n.HasText "name" s.name := by
  unfold Scope.opening at h
  cases hk : s.kind <;> rw [hk] at h <;> exact h.2.1

section Body

variable {s : Scope} {decls : List Stmt} {body : List (NodePath × Node)}
  (hdecls : ∀ st ∈ decls, st.isDeclaring)
  (hbody : Shows ((Scope.sections s.kind).flatten ++ (s.mixinStmts ++ decls)) body)

include hdecls hbody

theorem contains_mark (m : Mark) : (body.map (·.2.remark)).contains m.remark =
    ((Scope.sections s.kind).flatten.map Stmt.remark).contains m.remark := by
  have hmixins : m.remark ∉ s.mixinStmts.map Stmt.remark := by
    cases m <;> simp [Scope.mixinStmts, Stmt.remark, Mark.remark]
  have hrest : m.remark ∉ decls.map Stmt.remark := by
    rw [List.mem_map]
    rintro ⟨st, hst, heq⟩
    rw [(Stmt.isLeft_of_isDeclaring (hdecls st hst) s.kind).2.2.2] at heq
    cases m <;> cases heq
  rw [hbody.map_remark, List.map_append, List.map_append, Bool.eq_iff_iff, List.contains_iff_mem,
    List.contains_iff_mem, List.mem_append, List.mem_append]
  simp [hmixins, hrest]

theorem mixins_of_shows (hincluded : s.included.Nodup) (hextended : s.extended.Nodup) :
    mixins .included body = s.included ∧ mixins .extended body = s.extended := by
  have hsections (k : MixinKind) :
      ((Scope.sections s.kind).flatten.map Stmt.remark).filterMap (mixinTarget? k) = [] := by
    rw [List.filterMap_map, List.filterMap_eq_nil_iff]
    intro st hst
    rcases mem_sections hst with ⟨m, rfl⟩ | ⟨_, _, -, henums⟩ | ⟨_, _, -, hfield⟩
    · cases m <;> rfl
    · obtain ⟨body, rfl⟩ := Stmt.eq_of_isEnums henums
      rfl
    · obtain ⟨f, rfl⟩ := Stmt.eq_of_isField hfield
      rfl
  have hrest (k : MixinKind) : (decls.map Stmt.remark).filterMap (mixinTarget? k) = [] := by
    rw [List.filterMap_map, List.filterMap_eq_nil_iff]
    intro st hst
    rw [Function.comp_apply, (Stmt.isLeft_of_isDeclaring (hdecls st hst) s.kind).2.2.2]
    rfl
  have hmixins (k : MixinKind) : mixins k body =
      distinct ((s.mixinStmts.map Stmt.remark).filterMap (mixinTarget? k)) := by
    rw [mixins_eq, hbody.map_remark, List.map_append, List.map_append, List.filterMap_append, List.filterMap_append,
      hsections, hrest, List.nil_append, List.append_nil]
  rw [hmixins, hmixins]
  constructor
  · rw [← distinct_of_nodup hincluded]
    simp [Scope.mixinStmts, Stmt.remark, mixinTarget?, Function.comp_def, distinct_of_nodup hincluded]
  · simp [Scope.mixinStmts, Stmt.remark, mixinTarget?, Function.comp_def, distinct_of_nodup hextended]

theorem enumBlocks_of_shows {header : BasedHeader} {es : List (String × Option String)}
    (hk : s.kind = .ofEnum header es) :
    ((body.filter (·.2.remark == .none)).filter (·.2.isEnumBlock)).mapM u.enumBlock = .ok [es] := by
  have hshows := filter_of_shows hbody (fun st n h hm => h.isEnumBlock hm) (fun _ => rfl) (fun _ _ => rfl)
    (fun st hst => by simpa using (Stmt.isLeft_of_isDeclaring (hdecls st hst) s.kind).2.1)
    (fun st hst => by
      obtain ⟨body, rfl⟩ := Stmt.eq_of_isEnums hst
      rfl)
  have hfilter : (Scope.sections s.kind).flatten.filter Stmt.isEnums =
      [.block .enums (es.map Scope.enumeratorStmt)] := by
    rw [hk, Scope.sections, List.flatten_cons, List.filter_append, filter_markStmts fun _ => rfl]
    rfl
  rw [hfilter] at hshows
  obtain ⟨b, _, hb, hnil, heq⟩ := List.forall₂_cons_left_iff.mp hshows
  cases List.forall₂_nil_left_iff.mp hnil
  rw [heq]
  exact mapM_eq_ok (.cons (enumBlock_eq_ok hb).2 .nil)

theorem fields_of_shows (ho : o.structured = false) {header : BasedHeader} {fs : List StructField}
    (hk : s.kind = .ofStruct header fs) (hfs : ∀ f ∈ fs, Text.isLabel f.name ∧ f.type.isRaw) :
    ((body.filter (·.2.remark == .none)).filter (·.2.isFieldCall)).mapM (u.structField o) = .ok fs := by
  have hshows := filter_of_shows hbody (fun st n h hm => h.isFieldCall hm) (fun _ => rfl) (fun _ _ => rfl)
    (fun st hst => by simpa using (Stmt.isLeft_of_isDeclaring (hdecls st hst) s.kind).2.2.1)
    (fun st hst => by
      obtain ⟨f, rfl⟩ := Stmt.eq_of_isField hst
      rfl)
  have hfilter : (Scope.sections s.kind).flatten.filter Stmt.isField = fs.map fun f => .command (.field f) := by
    have hfields : (fs.map fun f => Stmt.command (.field f)).filter Stmt.isField =
        fs.map fun f => .command (.field f) := by
      rw [List.filter_eq_self]
      intro st hst
      obtain ⟨f, -, rfl⟩ := List.mem_map.mp hst
      rfl
    rw [hk, Scope.sections, List.flatten_cons, List.filter_append, filter_markStmts fun _ => rfl,
      List.flatten_singleton, hfields, List.nil_append]
  rw [hfilter, Shows, List.forall₂_map_left_iff] at hshows
  refine mapM_eq_ok (((List.forall₂_and_left _ _).mpr ⟨hfs, hshows⟩).imp ?_)
  rintro f b ⟨⟨hname, hraw⟩, hb⟩
  exact (structField_eq_ok ho hname hraw hb).2

theorem contains_marks (header : ClassHeader) (rest : List (List Stmt))
    (hk : Scope.sections s.kind = Scope.markStmts header :: rest)
    (hrest : ∀ st ∈ rest.flatten, st.remark = .none) :
    (body.map (·.2.remark)).contains .isAbstract = header.isAbstract ∧
      (body.map (·.2.remark)).contains .isFinal = header.isFinal := by
  have hnone (m : Mark) : m.remark ∉ rest.flatten.map Stmt.remark := by
    rw [List.mem_map]
    rintro ⟨st, hst, heq⟩
    rw [hrest st hst] at heq
    cases m <;> cases heq
  have hcontains (m : Mark) : (body.map (·.2.remark)).contains m.remark =
      ((Scope.markStmts header).map Stmt.remark).contains m.remark := by
    rw [contains_mark hdecls hbody, hk, List.flatten_cons, List.map_append, Bool.eq_iff_iff, List.contains_iff_mem,
      List.contains_iff_mem, List.mem_append, or_iff_left (hnone m)]
  have habstract := hcontains .isAbstract
  have hfinal := hcontains .isFinal
  simp only [Mark.remark] at habstract hfinal
  rw [habstract, hfinal]
  cases hA : header.isAbstract <;> cases hF : header.isFinal <;>
    simp [Scope.markStmts, Stmt.remark, Mark.remark, hA, hF]

theorem scopeKind_of_class (header : ClassHeader) (rest : List (List Stmt))
    (hk : Scope.sections s.kind = Scope.markStmts header :: rest) (hrest : ∀ st ∈ rest.flatten, st.remark = .none)
    {name : String} {ns : List Node} (hn : (Opening.ofClass name header.superclass).Mirrors n ns)
    (hsuper : ∀ t ∈ header.superclass, isSuperclass t) :
    u.scopeKind o n body =
      if header.superclass.any fun t => o.enumBases.contains (Text.without t "::") then do
        let es ← ((body.filter (·.2.remark == .none)).filter (·.2.isEnumBlock)).mapM u.enumBlock
        return .enumOf header es.flatten
      else if header.superclass.any fun t => o.structBases.contains (Text.without t "::") then do
        let fs ← ((body.filter (·.2.remark == .none)).filter (·.2.isFieldCall)).mapM (u.structField o)
        return .structOf header fs
      else .ok (.ofClass header) := by
  obtain ⟨habstract, hfinal⟩ := contains_marks hdecls hbody header rest hk hrest
  have hbase (bases : List String) :
      ((header.superclass.filter (!·.isEmpty)).map (Text.without · "::")).any bases.contains =
        header.superclass.any fun t => bases.contains (Text.without t "::") := by
    cases hc : header.superclass with
    | none => rfl
    | some t =>
      have ht : ¬ t.isEmpty := not_isEmpty_of_isSuperclass (hsuper t hc)
      simp [Option.filter, ht]
  have hmodule : ¬ (n.kind == "module") = true := by simp [hn.1]
  unfold scopeKind
  simp only [habstract, hfinal, superclass?_eq hn.2.2.1 hsuper, hbase]
  rw [if_neg hmodule]

theorem scopeKind_eq_ok (ho : o.structured = false) (hdeclared : s.kind.isDeclared o) {ns : List Node}
    (hn : s.opening.Mirrors n ns) : u.scopeKind o n body = .ok s.kind := by
  unfold Scope.opening at hn
  cases hk : s.kind with
  | plain =>
    rw [hk] at hdeclared
    cases hdeclared
  | ofModule i =>
    rw [hk] at hn
    have hinterface : (body.map (·.2.remark)).contains .isInterface = i := by
      have hmark := contains_mark hdecls hbody .isInterface
      rw [hk] at hmark
      refine hmark.trans ?_
      cases i <;> rfl
    rw [scopeKind, hn.1]
    simp only [beq_self_eq_true, ↓reduceIte, hinterface]
  | ofClass header =>
    rw [hk] at hn hdeclared
    have hbase : ∀ t ∈ header.superclass, isSuperclass t ∧ o.enumBases.contains (Text.without t "::") = false ∧
        o.structBases.contains (Text.without t "::") = false := by
      intro t ht
      rw [Option.mem_def] at ht
      simpa [ScopeKind.isDeclared, ht, and_assoc] using hdeclared
    rw [scopeKind_of_class hdecls hbody header [] (by rw [hk]; rfl) nofun hn fun t ht => (hbase t ht).1]
    cases hc : header.superclass with
    | none => rfl
    | some t =>
      obtain ⟨-, henum, hstruct⟩ := hbase t hc
      simp only [Option.any_some, henum, hstruct, Bool.false_eq_true, ↓reduceIte]
  | ofEnum header es =>
    rw [hk] at hn hdeclared
    simp only [ScopeKind.isDeclared, Bool.and_eq_true] at hdeclared
    obtain ⟨hsuper, henum⟩ := hdeclared
    have hkind := scopeKind_of_class (u := u) (o := o) hdecls hbody header.toHeader
      [[.block .enums (es.map Scope.enumeratorStmt)]] (by rw [hk]; rfl) (by simp [Stmt.remark]) hn
      (by rintro _ ⟨⟩; exact hsuper)
    rw [hkind, if_pos (by simpa [BasedHeader.toHeader] using henum), enumBlocks_of_shows hdecls hbody hk]
    simp [ScopeKind.enumOf, ClassHeader.basedOn, BasedHeader.toHeader]
  | ofStruct header fs =>
    rw [hk] at hn hdeclared
    simp only [ScopeKind.isDeclared, Bool.and_eq_true, Bool.not_eq_true', List.all_eq_true] at hdeclared
    obtain ⟨⟨⟨hsuper, henum⟩, hstruct⟩, hfs⟩ := hdeclared
    have hkind := scopeKind_of_class (u := u) (o := o) hdecls hbody header.toHeader
      [fs.map fun f => .command (.field f)] (by rw [hk]; rfl) (by simp [Stmt.remark]) hn
      (by rintro _ ⟨⟩; exact hsuper)
    rw [hkind, if_neg (by simpa [BasedHeader.toHeader] using henum),
      if_pos (by simpa [BasedHeader.toHeader] using hstruct), fields_of_shows hdecls hbody ho hk hfs]
    rfl

theorem scopeHeader_eq_ok (ho : o.structured = false) (hdeclared : s.isDeclared o) {ns : List Node}
    (hn : s.opening.Mirrors n ns) :
    u.scopeHeader o n p body =
      .ok ([], { name := s.name, kind := s.kind, extended := s.extended, included := s.included }) := by
  simp only [Scope.isDeclared, Bool.and_eq_true, beq_iff_eq, decide_eq_true_eq] at hdeclared
  obtain ⟨⟨⟨⟨hname, hkind⟩, hincluded⟩, hextended⟩, -⟩ := hdeclared
  obtain ⟨c, hc, htext⟩ := hasText_of_opening hn
  obtain ⟨hincludes, hextends⟩ := mixins_of_shows hdecls hbody hincluded hextended
  rw [scopeHeader, hc]
  simp only [scopeKind_eq_ok hdecls hbody ho hkind hn, htext, hname, hincludes, hextends]
  rfl

end Body

theorem not_isLeft (s : Scope) {st : Stmt} (h : st ∈ (Scope.sections s.kind).flatten ++ s.mixinStmts) :
    ¬ st.isLeft s.kind := by
  rcases List.mem_append.mp h with h | h
  · rcases mem_sections h with ⟨m, rfl⟩ | ⟨header, es, hk, henums⟩ | ⟨header, fs, hk, hfield⟩
    · cases m <;> simp [Stmt.isLeft, Stmt.remark, Mark.remark]
    · simp [Stmt.isLeft, hk, henums]
    · simp [Stmt.isLeft, hk, hfield]
  · rcases List.mem_append.mp h with h | h
    all_goals
      obtain ⟨t, -, rfl⟩ := List.mem_map.mp h
      simp [Stmt.isLeft, Stmt.remark]

theorem filter_isLeft_of_shows {s : Scope} {decls : List Stmt} (hdecls : ∀ st ∈ decls, st.isDeclaring)
    {q : NodePath} {l : List (Nat × Node)}
    (hl : List.Forall₂ Stmt.Mirrors ((Scope.sections s.kind).flatten ++ (s.mixinStmts ++ decls)) (l.map (·.2))) :
    ∃ before rest, l = before ++ rest ∧ List.Forall₂ Stmt.Mirrors decls (rest.map (·.2)) ∧
      (places q l).filter (·.2.isLeft s.kind) = places q rest := by
  rw [← List.append_assoc] at hl
  obtain ⟨ms, ns, hsplit, hms, hns⟩ := forall₂_append_left hl
  obtain ⟨before, rest, rfl, rfl, rfl⟩ := List.map_eq_append_iff.mp hsplit
  refine ⟨before, rest, rfl, hns, ?_⟩
  have hbefore : (places q before).filter (·.2.isLeft s.kind) = [] := by
    rw [List.filter_eq_nil_iff]
    intro b hb
    obtain ⟨st, hst, hmirrors⟩ := exists_of_forall₂ (shows_places hms) hb
    rw [hmirrors.isLeft]
    exact not_isLeft s hst
  have hrest : (places q rest).filter (·.2.isLeft s.kind) = places q rest := by
    rw [List.filter_eq_self]
    intro b hb
    obtain ⟨st, hst, hmirrors⟩ := exists_of_forall₂ (shows_places hns) hb
    rw [hmirrors.isLeft]
    exact (Stmt.isLeft_of_isDeclaring (hdecls st hst) s.kind).1
  rw [places_append, List.filter_append, hbefore, hrest, List.nil_append]

end Source

end RubyStubs
