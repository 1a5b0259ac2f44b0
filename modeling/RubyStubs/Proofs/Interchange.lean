import RubyStubs.Proofs.Agreement
import RubyStubs.Proofs.Overloads
import RubyStubs.Proofs.TypeReading

namespace RubyStubs

theorem TypeExpr.isUntyped_iff {t : Option TypeExpr} :
    isUntyped t ↔
      t = none ∨ t = some .untyped ∨ ∃ text, t = some (.raw text) ∧ Text.trim text = "T.untyped" := by
  rcases t with _ | t
  · simp [isUntyped]
  · cases t <;> simp [isUntyped]

namespace Parameter

def Trimmed (p : Parameter) : Prop :=
  ∀ text, p.type = some (.raw text) → TypeExpr.isUntyped p.type → Text.trim text = text

theorem Trimmed.type_cases {p : Parameter} (h : p.Trimmed) (hp : TypeExpr.isUntyped p.type) :
    p.type = none ∨ p.type = some .untyped ∨ p.type = some (.raw "T.untyped") := by
  rcases TypeExpr.isUntyped_iff.mp hp with hnone | huntyped | ⟨text, htext, htrim⟩
  · exact .inl hnone
  · exact .inr (.inl huntyped)
  · rw [h text htext hp] at htrim
    rw [htrim] at htext
    exact .inr (.inr htext)

theorem equivalent_cases {p q : Parameter} (h : p.equivalent q = true) :
    p = q ∨ q = { p with type := q.type } ∧ TypeExpr.isUntyped p.type ∧ TypeExpr.isUntyped q.type := by
  obtain ⟨name, type, default, kind, required⟩ := p
  obtain ⟨name', type', default', kind', required'⟩ := q
  simp only [equivalent, Bool.and_eq_true, Bool.or_eq_true, beq_iff_eq] at h
  obtain ⟨⟨⟨⟨rfl, rfl⟩, rfl⟩, rfl⟩, huntyped | rfl⟩ := h
  · exact .inr ⟨rfl, huntyped⟩
  · exact .inl rfl

theorem eq_of_equivalent {α : Type} {f : Parameter → α} {p q : Parameter} (h : p.equivalent q = true)
    (hf : ∀ r : Parameter, r.Trimmed → TypeExpr.isUntyped r.type → f r = f { r with type := some .untyped })
    (hp : p.Trimmed) (hq : q.Trimmed) : f p = f q := by
  rcases equivalent_cases h with rfl | ⟨hpq, hpu, hqu⟩
  · rfl
  · rw [hf p hp hpu, hf q hq hqu, hpq]

theorem inSig_of_isUntyped {p : Parameter} (hp : p.Trimmed) (h : TypeExpr.isUntyped p.type) :
    p.inSig = { p with type := some .untyped }.inSig := by
  have htype : p.type.elim "T.untyped" TypeExpr.rbi = "T.untyped" := by
    rcases hp.type_cases h with ht | ht | ht <;> rw [ht] <;> rfl
  rw [inSig, htype]
  rfl

end Parameter

theorem map_eq_of_equivalent {α : Type} {f : Parameter → α} {ps qs : List Parameter}
    (h : List.Forall₂ (fun p q => p.equivalent q = true) ps qs)
    (hf : ∀ r : Parameter, r.Trimmed → TypeExpr.isUntyped r.type → f r = f { r with type := some .untyped })
    (hps : ∀ p ∈ ps, p.Trimmed) (hqs : ∀ q ∈ qs, q.Trimmed) : ps.map f = qs.map f := by
  induction h with
  | nil => rfl
  | cons hpq _ ih =>
    rw [List.forall_mem_cons] at hps hqs
    rw [List.map_cons, List.map_cons, Parameter.eq_of_equivalent hpq hf hps.1 hqs.1, ih hps.2 hqs.2]

theorem map_filter_eq_of_equivalent {α : Type} {f : Parameter → α} (test : ParameterKind → Bool)
    {ps qs : List Parameter} (h : List.Forall₂ (fun p q => p.equivalent q = true) ps qs)
    (hf : ∀ r : Parameter, r.Trimmed → TypeExpr.isUntyped r.type → f r = f { r with type := some .untyped })
    (hps : ∀ p ∈ ps, p.Trimmed) (hqs : ∀ q ∈ qs, q.Trimmed) :
    (ps.filter fun p => test p.kind).map f = (qs.filter fun q => test q.kind).map f := by
  have hkinds : List.Forall₂ (fun p q => p.equivalent q = true) (ps.filter fun p => test p.kind)
      (qs.filter fun q => test q.kind) := by
    refine List.rel_filter (fun p q hpq => ?_) h
    have hkind : p.kind = q.kind := by
      rcases Parameter.equivalent_cases hpq with rfl | ⟨hq, -⟩
      · rfl
      · rw [hq]
    simp only [hkind]
  apply map_eq_of_equivalent hkinds hf
  · intro p hp
    exact hps p (List.mem_of_mem_filter hp)
  · intro q hq
    exact hqs q (List.mem_of_mem_filter hq)

namespace Method

def Trimmed (m : Method) : Prop := ∀ p ∈ m.parameters, p.Trimmed

theorem eq_of_equivalent {m n : Method} (h : m.equivalent n = true) : n = { m with parameters := n.parameters } := by
  obtain ⟨-, hrest⟩ := (equivalent_iff m n).mp h
  obtain ⟨ps, _⟩ := m
  obtain ⟨qs, _⟩ := n
  simp only [mk.injEq, true_and] at hrest ⊢
  simp [hrest]

end Method

namespace Rbi

variable {m n : Method} (h : m.equivalent n = true) (hm : m.Trimmed) (hn : n.Trimmed)

include h hm hn

theorem sig_of_equivalent (st : Style) (level : Int) : sig st level m = sig st level n := by
  obtain ⟨hparameters, -⟩ := (Method.equivalent_iff m n).mp h
  have hparams : m.parameters.map Parameter.inSig = n.parameters.map Parameter.inSig :=
    map_eq_of_equivalent hparameters (fun _ => Parameter.inSig_of_isUntyped) hm hn
  rw [sig, sig, hparams, Method.eq_of_equivalent h]
  rfl

theorem definition_of_equivalent (name : String) : definition name m = definition name n := by
  obtain ⟨hparameters, -⟩ := (Method.equivalent_iff m n).mp h
  have hparams : m.parameters.map Parameter.onDefinition = n.parameters.map Parameter.onDefinition :=
    map_eq_of_equivalent hparameters (fun _ _ _ => rfl) hm hn
  have hempty : m.parameters.isEmpty = n.parameters.isEmpty := by
    simpa only [List.isEmpty_map] using congrArg List.isEmpty hparams
  have hlevel : m.classLevel = n.classLevel := by rw [Method.eq_of_equivalent h]
  rw [definition, definition, hparams, hempty, hlevel]

end Rbi

namespace Convert

variable {read : Reader} (hread : TypeExpr.ofText read "T.untyped" = .untyped)

include hread

theorem type_of_isUntyped {p : Parameter} (hp : p.Trimmed) (h : TypeExpr.isUntyped p.type) :
    p.type.map (type read) = none ∨ p.type.map (type read) = some .untyped := by
  rcases hp.type_cases h with ht | ht | ht
  · exact .inl (by rw [ht]; rfl)
  · exact .inr (by rw [ht]; rfl)
  · exact .inr (by rw [ht, Option.map_some, type, hread])

theorem inSignature_of_isUntyped {p : Parameter} (hp : p.Trimmed) (h : TypeExpr.isUntyped p.type) :
    { p with type := p.type.map (type read) }.inSignature = { p with type := some .untyped }.inSignature := by
  rcases type_of_isUntyped hread hp h with ht | ht <;> rw [ht]
  rfl

theorem block_of_isUntyped_trimmed {p : Parameter} (hp : p.Trimmed) (h : TypeExpr.isUntyped p.type) :
    block read p.type = (none, true) := by
  rcases type_of_isUntyped hread hp h with ht | ht <;> simp [block, ht, TypeExpr.isUntyped]

variable {m n : Method} (h : m.equivalent n = true) (hm : m.Trimmed) (hn : n.Trimmed)

include h hm hn

theorem find?_block_of_equivalent :
    (m.parameters.find? (·.kind == .block)).map (fun p => block read p.type) =
      (n.parameters.find? (·.kind == .block)).map fun p => block read p.type := by
  have hblocks := map_filter_eq_of_equivalent (· == .block) ((Method.equivalent_iff m n).mp h).1
    (f := fun p => block read p.type) (fun r hr hru => block_of_isUntyped_trimmed hread hr hru) hm hn
  simpa only [List.head?_map, List.head?_filter] using congrArg List.head? hblocks

theorem render_signature_of_equivalent : (signature read m).render = (signature read n).render := by
  have hparameters : (signature read m).parameters.map Parameter.inSignature =
      (signature read n).parameters.map Parameter.inSignature := by
    simp only [signature, List.map_map]
    apply map_filter_eq_of_equivalent (· != .block) ((Method.equivalent_iff m n).mp h).1 _ hm hn
    intro r hr hru
    exact inSignature_of_isUntyped hread hr hru
  have hblock : (signature read m).block = (signature read n).block := by
    have hfind := congrArg (·.bind Prod.fst) (find?_block_of_equivalent hread h hm hn)
    simp only [Option.bind_map] at hfind
    exact hfind
  have hrest := Method.eq_of_equivalent h
  have hresult : (signature read m).result = (signature read n).result := by rw [hrest]; rfl
  have htypes : (signature read m).typeParameters = (signature read n).typeParameters := by rw [hrest]; rfl
  rw [Signature.render, Signature.render, hparameters, hblock, hresult, htypes]

theorem hasUnfitBlock_of_equivalent : m.hasUnfitBlock read = n.hasUnfitBlock read := by
  have hblock := congrArg (·.any fun b => !b.2) (find?_block_of_equivalent hread h hm hn)
  simpa only [Option.any_map, Function.comp_def, block_snd, Method.hasUnfitBlock] using hblock

theorem rbs_method_of_equivalent (st : Style) (level : Int) (name : String) :
    Rbs.method st level name (method read m).1 = Rbs.method st level name (method read n).1 := by
  have hlevel : (method read m).1.classLevel = (method read n).1.classLevel := by
    change m.classLevel = n.classLevel
    rw [Method.eq_of_equivalent h]
  rw [Rbs.method_eq_iff hlevel, signatures_eq_singleton, signatures_eq_singleton, List.map_singleton,
    List.map_singleton, render_signature_of_equivalent hread h hm hn]

end Convert

theorem Member.agrees_cases {x y : Member} (h : x.agrees y = true) (hx : (Decl.member x).method?.isSome) :
    ∃ a b, a.equivalent b = true ∧ x.name = y.name ∧ ((x.body = .method a ∧ y.body = .method b) ∨
      ∃ k, x.body = .attribute k a ∧ y.body = .attribute k b) := by
  obtain ⟨⟨hname, hbody⟩, -⟩ := (agrees_iff x y).mp h
  obtain ⟨name, body, comments⟩ := x
  obtain ⟨name', body', comments'⟩ := y
  cases hbody with
  | refl =>
    match body with
    | .method m => exact ⟨m, m, m.equivalent_refl, hname, .inl ⟨rfl, rfl⟩⟩
    | .attribute k m => exact ⟨m, m, m.equivalent_refl, hname, .inr ⟨k, rfl, rfl⟩⟩
    | .constant _ _ | .mixin _ _ | .code _ | .bare => cases hx
  | @method a b hab => exact ⟨a, b, hab, hname, .inl ⟨rfl, rfl⟩⟩
  | @accessor k a b hab => exact ⟨a, b, hab, hname, .inr ⟨k, rfl, rfl⟩⟩

section Members

variable {x y : Member} (h : x.agrees y = true) (hmethod : (Decl.member x).method?.isSome)
  (hx : ∀ m ∈ (Decl.member x).method?, m.Trimmed) (hy : ∀ m ∈ (Decl.member y).method?, m.Trimmed)

include h hmethod hx hy

theorem Rbi.member_of_agrees (st : Style) (level : Int) : Rbi.member st level x = Rbi.member st level y := by
  obtain ⟨a, b, hab, hname, hbody⟩ := Member.agrees_cases h hmethod
  obtain ⟨name, _, _⟩ := x
  obtain ⟨_, _, _⟩ := y
  cases hname
  rcases hbody with ⟨rfl, rfl⟩ | ⟨k, rfl, rfl⟩
  · simp only [Rbi.member]
    rw [sig_of_equivalent hab (hx a rfl) (hy b rfl), definition_of_equivalent hab (hx a rfl) (hy b rfl)]
  · have hlevel : a.classLevel = b.classLevel := by rw [Method.eq_of_equivalent hab]
    simp only [Rbi.member]
    rw [sig_of_equivalent hab (hx a rfl) (hy b rfl), hlevel]

theorem Convert.member_of_agrees {read : Reader} (hread : TypeExpr.ofText read "T.untyped" = .untyped) (st : Style)
    (level : Int) :
    (Convert.member read x).1.map (Rbs.member st level) = (Convert.member read y).1.map (Rbs.member st level) ∧
      (Convert.member read x).2 = (Convert.member read y).2 := by
  obtain ⟨a, b, hab, hname, hbody⟩ := Member.agrees_cases h hmethod
  obtain ⟨name, _, _⟩ := x
  obtain ⟨_, _, _⟩ := y
  cases hname
  rcases hbody with ⟨rfl, rfl⟩ | ⟨k, rfl, rfl⟩
  · have hlines := rbs_method_of_equivalent hread hab (hx a rfl) (hy b rfl) st level name
    have hunfit := hasUnfitBlock_of_equivalent hread hab (hx a rfl) (hy b rfl)
    simp only [Convert.member, method_snd, hunfit, and_true]
    exact congrArg some hlines
  · have hlevel : a.classLevel = b.classLevel := by rw [Method.eq_of_equivalent hab]
    have hresult : a.result = b.result := by rw [Method.eq_of_equivalent hab]
    simp only [Convert.member, hlevel, hresult]
    split <;> exact ⟨rfl, rfl⟩

end Members

theorem Dialect.writeNode_member (D : Dialect) (st : Style) (level : Int) {m : Member} (h : m.body ≠ .bare) :
    D.writeNode st (.member m) level = .ok (Layout.comments st level m.comments ++ D.member st level m) := by
  have hbare : (Decl.member m).hasBare = false := by simpa [Decl.hasBare] using h
  rw [writeNode, hbare]
  rfl

theorem Convert.writeNode_member (read : Reader) (st : Style) (level : Int) (m : Member) :
    (Convert.decl read (.member m)).1.map (rbs.writeNode st · level) =
      ((Convert.member read m).1.map (Rbs.member st level)).map fun lines =>
        .ok (Layout.comments st level m.comments ++ lines) := by
  cases hm : (Convert.member read m).1 with
  | none => simp [decl, hm]
  | some n =>
    have hn : n.comments = m.comments ∧ n.body ≠ .bare := by
      revert hm
      simp only [Convert.member]
      split <;> (try split) <;> rintro ⟨⟩ <;> simp
    simp [decl, hm, Dialect.writeNode_member _ _ _ hn.2, hn.1, rbs]

namespace Decl

theorem exists_member_of_method? {d : Decl} {m : Method} (h : d.method? = some m) :
    ∃ x, d = .member x ∧ (x.body = .method m ∨ ∃ k, x.body = .attribute k m) := by
  match d with
  | .member { name, body := .method _, comments } => exact ⟨_, rfl, .inl (congrArg _ (Option.some.inj h))⟩
  | .member { name, body := .attribute k _, comments } =>
    exact ⟨_, rfl, .inr ⟨k, congrArg _ (Option.some.inj h)⟩⟩

theorem agrees_of_mergeable {d : Member} {others : List Decl} (h : (member d).mergeable others = true) {x : Member}
    (hx : member x ∈ member d :: others) : d.agrees x = true := by
  simp only [mergeable, Bool.and_eq_true, bne_iff_ne, List.all_eq_true] at h
  rcases List.mem_cons.mp hx with heq | hx
  · cases heq
    exact (Member.agrees_iff d d).mpr ⟨.refl d, h.1⟩
  · exact h.2 _ hx

/-- Whichever of the methods or attributes that can be merged is kept, nothing is written differently, comments
aside: not in an interface file, nor in a signature file once the text of the untyped type is read as that type. -/
theorem mergeable_interchangeable {d : Decl} {others : List Decl} (hmerge : d.mergeable others = true)
    (hmethods : ∀ x ∈ d :: others, ∃ m, x.method? = some m ∧ m.Trimmed) {x y : Decl} (hx : x ∈ d :: others)
    (hy : y ∈ d :: others) (hcomments : x.comments = y.comments) (st : Style) (level : Int) :
    rbi.writeNode st x level = rbi.writeNode st y level ∧
      ∀ read : Reader, TypeExpr.ofText read "T.untyped" = .untyped →
        (Convert.decl read x).1.map (rbs.writeNode st · level) =
            (Convert.decl read y).1.map (rbs.writeNode st · level) ∧
          (Convert.decl read x).2.map (·.1.message) = (Convert.decl read y).2.map (·.1.message) := by
  obtain ⟨_, hd, -⟩ := hmethods d List.mem_cons_self
  obtain ⟨d, rfl, -⟩ := exists_member_of_method? hd
  obtain ⟨a, ha, hatrim⟩ := hmethods x hx
  obtain ⟨x, rfl, hxbody⟩ := exists_member_of_method? ha
  obtain ⟨b, hb, hbtrim⟩ := hmethods y hy
  obtain ⟨y, rfl, hybody⟩ := exists_member_of_method? hb
  have hxbare : x.body ≠ .bare := by rcases hxbody with h | ⟨k, h⟩ <;> simp [h]
  have hybare : y.body ≠ .bare := by rcases hybody with h | ⟨k, h⟩ <;> simp [h]
  replace hcomments : x.comments = y.comments := hcomments
  have hxy : x.agrees y = true :=
    Member.agrees_trans (Member.agrees_symm (agrees_of_mergeable hmerge hx)) (agrees_of_mergeable hmerge hy)
  have hsome : (member x).method?.isSome := by rw [ha]; rfl
  have hxtrim : ∀ m ∈ (member x).method?, m.Trimmed := by simpa [ha] using hatrim
  have hytrim : ∀ m ∈ (member y).method?, m.Trimmed := by simpa [hb] using hbtrim
  refine ⟨?_, fun read hread => ?_⟩
  · have hlines : rbi.member st level x = rbi.member st level y :=
      Rbi.member_of_agrees hxy hsome hxtrim hytrim st level
    rw [Dialect.writeNode_member _ _ _ hxbare, Dialect.writeNode_member _ _ _ hybare, hcomments, hlines]
  · obtain ⟨hlines, hwarnings⟩ := Convert.member_of_agrees hxy hsome hxtrim hytrim hread st level
    rw [Convert.writeNode_member, Convert.writeNode_member, hlines, hcomments]
    refine ⟨rfl, ?_⟩
    simp only [Convert.decl, hwarnings, List.map_map, Function.comp_def]

theorem mergeable_interchangeable_spelled :
    let spelled (t : Option TypeExpr) : Decl :=
      .member
        { name := "f"
          body := .method { parameters := [{ name := "a:", type := t }, { name := "&b", type := t }] } }
    let read : Reader := fun text => .made "program" text [TypeExpr.untyped.expr.tree]
    let x := spelled (some .untyped)
    let y := spelled (some (.raw "T.untyped"))
    x ≠ y ∧ (spelled none).mergeable [x, y] = true ∧ rbi.writeNode {} x 0 = rbi.writeNode {} y 0 ∧
      (Convert.decl read x).1.map (rbs.writeNode {} · 0) = (Convert.decl read y).1.map (rbs.writeNode {} · 0) := by
  intro spelled read x y
  have hread : TypeExpr.ofText read "T.untyped" = .untyped :=
    TypeExpr.ofText_of_mirrors rfl rfl (Node.filter_proper (Expr.trees_proper [TypeExpr.untyped.expr]))
      (Expr.mirrors_tree _)
  have hmerge : (spelled none).mergeable [x, y] = true := by decide
  have hmethods : ∀ d ∈ [spelled none, x, y], ∃ m, d.method? = some m ∧ m.Trimmed := by
    have htrim : ∀ t ∈ [none, some .untyped, some (.raw "T.untyped")],
        ∃ m, (spelled t).method? = some m ∧ m.Trimmed := by
      intro t ht
      refine ⟨_, rfl, ?_⟩
      simp only [Method.Trimmed, Parameter.Trimmed, List.mem_cons, List.not_mem_nil, or_false] at ht ⊢
      rintro p (rfl | rfl) text rfl - <;> simp at ht <;> subst ht <;> decide
    simpa [x, y] using htrim
  have halike := mergeable_interchangeable hmerge hmethods (x := x) (y := y) (by simp) (by simp) rfl {} 0
  exact ⟨by simp [x, y, spelled], hmerge, halike.1, (halike.2 read hread).1⟩

end Decl

end RubyStubs
