import RubyStubs.Proofs.NodeShape
import RubyStubs.Proofs.Outcome
import RubyStubs.Source.Definition
import RubyStubs.Stub.Convert

namespace RubyStubs

namespace Node

/-- The text of the node is source without errors that holds one statement, the node over again. -/
def Rereads (read : Reader) (n : Node) : Prop :=
  (read n.text).broken = false ∧
    ∃ m, (read n.text).children.filter (!·.isComment) = [m] ∧ m.Isomorphic n

theorem procLayer?_ne_raw (acc : List (String × Node)) (links : List Link) (text : String) :
    procLayer? acc links ≠ some (.raw text) := by
  fun_induction procLayer? acc links with
  | case2 acc name args rest _ ps _ ih => exact ih
  | _ => exact nofun

theorem chainLayer?_ne_raw (n : Node) (text : String) : n.chainLayer? ≠ some (.raw text) := by
  fun_cases chainLayer? n with
  | case7 => exact procLayer?_ne_raw _ _ text
  | _ => exact nofun

theorem referenceLayer_raw {n : Node} {text : String} (h : n.referenceLayer = .raw text) : text = n.text := by
  revert h
  fun_cases referenceLayer n with
  | case1 =>
    intro h
    cases h
    rfl
  | _ => exact nofun

theorem typeLayer_raw {n : Node} {text : String} (h : n.typeLayer = .raw text) : text = n.text := by
  have hraw (h : TypeLayer.raw n.text = .raw text) : text = n.text := (TypeLayer.raw.inj h).symm
  unfold typeLayer at h
  split_ifs at h
  · exact hraw h
  · exact referenceLayer_raw h
  · split at h
    · cases h
    · exact hraw h
  · cases hlayer : n.chainLayer? with
    | none =>
      rw [hlayer] at h
      exact hraw h
    | some layer =>
      rw [hlayer, Option.getD_some] at h
      rw [h] at hlayer
      exact absurd hlayer (n.chainLayer?_ne_raw text)
  · exact hraw h

end Node

namespace Convert

variable {read : Reader} {n : Node}

theorem type_raw_of_rereads (h : n.Rereads read) : type read (.raw n.text) = .ofNode n := by
  obtain ⟨hbroken, m, hm, hiso⟩ := h
  rw [type, TypeExpr.ofText]
  simp only [hm, hbroken]
  exact TypeExpr.ofNode_of_isomorphic hiso

theorem type_ofNode_of_rereads (h : n.Rereads read) : type read (.ofNode n) = .ofNode n := by
  cases hlayer : n.typeLayer with
  | raw text =>
    have htext : TypeExpr.ofNode n = .raw n.text := by
      rw [TypeExpr.ofNode_eq, hlayer, Node.typeLayer_raw hlayer]
      rfl
    rw [htext, type_raw_of_rereads h, htext]
  | _ =>
    rw [TypeExpr.ofNode_eq, hlayer]
    rfl

theorem type_of_rereads (o : ReadOptions) (h : n.Rereads read) : type read (o.type n) = .ofNode n := by
  rw [ReadOptions.type]
  split_ifs
  · exact type_ofNode_of_rereads h
  · exact type_raw_of_rereads h

def entry (read : Reader) (e : String × TypeExpr) : String × TypeExpr := (e.1, type read e.2)

def parameter (read : Reader) (p : Parameter) : Parameter := { p with type := p.type.map (type read) }

def sig (read : Reader) (s : SigInfo) : SigInfo :=
  { s with
    result := s.result.map (type read)
    parameters := s.parameters.map (List.map (entry read)) }

end Convert

namespace Node

def paramEntries (args : List Node) : List Node :=
  match args with
  | [a] => if a.kind == "hash" then a.children.filter (!·.isComment) else [a]
  | args => args

def Link.types (l : Link) : List Node :=
  match l.name, l.arguments with
  | some "returns", [a] => [a]
  | some "params", args => (paramEntries args).filterMap fun a => a.pair?.map (·.2)
  | _, _ => []

def sigTypes (n : Node) : List Node :=
  match n.block?.map blockStatements with
  | some [s] => s.chain.2.flatMap Link.types
  | _ => []

end Node

namespace Source

open RubyStubs.Convert

variable {u : Source} {read : Reader} {o o' : ReadOptions} {p : NodePath}

theorem fail_outcome {α α' : Type} {R : α → α' → Prop} (what : Problem) :
    Outcome R (u.fail what p) (u.fail what p) := by
  rw [fail, fail]
  cases u.node p with
  | error e => exact .error e
  | ok n => exact .error _

theorem any_entry (read : Reader) (es : List (String × TypeExpr)) (name : String) :
    (es.map (entry read)).any (·.1 == name) = es.any (·.1 == name) := by
  simp [entry, List.any_map, Function.comp_def]

theorem sigPairs_outcome {args : List Node} {seen seen' : List (String × TypeExpr)}
    (hargs : ∀ a ∈ args, ∀ e, a.pair? = some e → e.2.Rereads read)
    (hseen : seen.map (entry read) = seen'.map (entry read)) :
    Outcome (SameUnder (List.map (entry read))) (u.sigPairs o p seen args) (u.sigPairs o' p seen' args) := by
  induction args generalizing seen seen' with
  | nil => exact .ok hseen
  | cons a args ih =>
    have hrest := fun b hb => hargs b (List.mem_cons_of_mem a hb)
    cases ha : a.pair? with
    | none =>
      simp only [sigPairs, ha]
      exact fail_outcome _
    | some e =>
      obtain ⟨name, value⟩ := e
      have hany : seen.any (·.1 == name) = seen'.any (·.1 == name) := by
        rw [← any_entry read, hseen, any_entry]
      have hvalue : value.Rereads read := hargs a List.mem_cons_self _ ha
      simp only [sigPairs, ha, hany]
      split_ifs
      · exact fail_outcome _
      · apply ih hrest
        simp [hseen, entry, type_of_rereads _ hvalue]

theorem sigParameters_outcome {args : List Node}
    (hargs : ∀ a ∈ Node.paramEntries args, ∀ e, a.pair? = some e → e.2.Rereads read) :
    Outcome (SameUnder (List.map (entry read))) (u.sigParameters o p args) (u.sigParameters o' p args) := by
  have heq (o : ReadOptions) : u.sigParameters o p args =
      if args.isEmpty then u.fail .paramsArguments p else u.sigPairs o p [] (Node.paramEntries args) := rfl
  rw [heq, heq]
  split_ifs
  · exact fail_outcome _
  · exact sigPairs_outcome hargs rfl

theorem sigLink_outcome {l : Node.Link} {s s' : SigInfo} (hl : ∀ n ∈ l.types, n.Rereads read)
    (hs : sig read s = sig read s') :
    Outcome (SameUnder (sig read)) (u.sigLink o p s l) (u.sigLink o' p s' l) := by
  -- The calls that name no type change both sigs in the same way.
  have hflags (f : SigInfo → SigInfo) (hf : ∀ s, sig read (f s) = f (sig read s)) :
      SameUnder (sig read) (f s) (f s') := by
    rw [SameUnder, hf, hf, hs]
  unfold sigLink
  split
  · exact .ok (hflags (fun s => { s with isAbstract := true }) fun _ => rfl)
  · exact .ok (hflags (fun s => { s with isImplementation := true }) fun _ => rfl)
  · exact .ok (hflags (fun s => { s with isOverride := true }) fun _ => rfl)
  · exact .ok (hflags (fun s => { s with isOverridable := true }) fun _ => rfl)
  · exact .ok (hflags (fun s => { s with isVoid := true }) fun _ => rfl)
  · next a hname hargs =>
    have ha : a.Rereads read := hl a (by simp [Node.Link.types, hname, hargs])
    simp only [sig, SigInfo.mk.injEq] at hs
    refine .ok ?_
    simp [SameUnder, sig, hs, type_of_rereads _ ha]
  · exact fail_outcome _
  · next args hname =>
    have hentries : ∀ a ∈ Node.paramEntries l.arguments, ∀ e, a.pair? = some e → e.2.Rereads read := by
      intro a ha e he
      apply hl
      simp only [Node.Link.types, hname, List.mem_filterMap]
      exact ⟨a, ha, by rw [he]; rfl⟩
    refine (sigParameters_outcome hentries).bind fun es es' hes => .ok ?_
    simp only [sig, SigInfo.mk.injEq] at hs
    simp only [SameUnder] at hes
    simp [SameUnder, sig, hs, hes]
  · exact .ok (hflags (fun s => { s with typeParameters := l.arguments.map typeParameterName }) fun _ => rfl)
  · exact .ok hs

theorem sigLinks_outcome {links : List Node.Link} {s s' : SigInfo}
    (hlinks : ∀ n ∈ links.flatMap Node.Link.types, n.Rereads read) (hs : sig read s = sig read s') :
    Outcome (SameUnder (sig read)) (u.sigLinks o p s links) (u.sigLinks o' p s' links) := by
  induction links generalizing s s' with
  | nil => exact .ok hs
  | cons l links ih =>
    rw [List.flatMap_cons, List.forall_mem_append] at hlinks
    exact (sigLink_outcome hlinks.1 hs).bind fun _ _ h => ih hlinks.2 h

theorem sigInfo_outcome (h : ∀ n, u.node p = .ok n → ∀ t ∈ n.sigTypes, t.Rereads read) :
    Outcome (SameUnder (sig read)) (u.sigInfo o p) (u.sigInfo o' p) := by
  refine Outcome.bind_same (u.node p) fun n hn => ?_
  have htypes := h n hn
  cases hblock : n.block? with
  | none => exact .error _
  | some b =>
    simp only
    rcases hstatements : b.blockStatements with _ | ⟨s, _ | ⟨t, ts⟩⟩
    · exact fail_outcome _
    · refine sigLinks_outcome ?_ rfl
      simpa [Node.sigTypes, hblock, hstatements] using htypes
    · exact fail_outcome _

theorem find?_entry (read : Reader) (es : List (String × TypeExpr)) (name : String) :
    (es.map (entry read)).find? (·.1 == name) = (es.find? (·.1 == name)).map (entry read) := by
  simp [entry, List.find?_map, Function.comp_def]

theorem declared_of_sig {s s' : SigInfo} (hs : sig read s = sig read s') :
    (s.parameters.getD []).map (entry read) = (s'.parameters.getD []).map (entry read) := by
  have hgetD (x : Option (List (String × TypeExpr))) :
      (x.getD []).map (entry read) = (x.map (List.map (entry read))).getD [] := by
    cases x <;> rfl
  rw [hgetD, hgetD]
  exact congrArg (fun s : SigInfo => s.parameters.getD []) hs

theorem typedParameters_outcome {defs : List DefParameter} {s s' : SigInfo} (hs : sig read s = sig read s') :
    Outcome (SameUnder (List.map (parameter read))) (u.typedParameters p defs s)
      (u.typedParameters p defs s') := by
  have hdeclared := declared_of_sig hs
  have hlength : (s.parameters.getD []).length = (s'.parameters.getD []).length := by
    simpa using congrArg List.length hdeclared
  simp only [typedParameters, hlength]
  split_ifs
  · exact fail_outcome _
  · refine (Outcome.mapM fun d _ => ?_).mono fun _ _ => sameUnder_map
    have hfind := congrArg (List.find? (·.1 == d.bareName)) hdeclared
    rw [find?_entry, find?_entry] at hfind
    cases hf : (s.parameters.getD []).find? (·.1 == d.bareName) with
    | none =>
      rw [hf, Option.map_none, eq_comm, Option.map_eq_none_iff] at hfind
      simp only [hfind]
      exact fail_outcome _
    | some e =>
      rw [hf, Option.map_some, eq_comm, Option.map_eq_some_iff] at hfind
      obtain ⟨e', he', hentry⟩ := hfind
      have htype : type read e'.2 = type read e.2 := congrArg Prod.snd hentry
      simp only [he']
      refine .ok ?_
      simp [SameUnder, parameter, htype]

end Source

namespace Convert

variable {read : Reader}

theorem block_congr {t t' : Option TypeExpr} (h : t.map (type read) = t'.map (type read)) :
    block read t = block read t' := by
  simp only [block, h]

theorem filter_parameter (ps : List Parameter) :
    (ps.filter (·.kind != .block)).map (parameter read) = (ps.map (parameter read)).filter (·.kind != .block) := by
  simp [List.filter_map, Function.comp_def, parameter]

theorem find?_parameter (ps : List Parameter) :
    (ps.find? (·.kind == .block)).map (parameter read) = (ps.map (parameter read)).find? (·.kind == .block) := by
  simp [List.find?_map, Function.comp_def, parameter]

theorem method_congr {m m' : Method}
    (hparameters : m.parameters.map (parameter read) = m'.parameters.map (parameter read))
    (hresult : m.result.map (type read) = m'.result.map (type read)) (hlevel : m.classLevel = m'.classLevel)
    (htypes : m.typeParameters = m'.typeParameters) : method read m = method read m' := by
  have hkept : (m.parameters.filter (·.kind != .block)).map (parameter read) =
      (m'.parameters.filter (·.kind != .block)).map (parameter read) := by
    rw [filter_parameter, filter_parameter, hparameters]
  have hfind : (m.parameters.find? (·.kind == .block)).map (parameter read) =
      (m'.parameters.find? (·.kind == .block)).map (parameter read) := by
    rw [find?_parameter, find?_parameter, hparameters]
  unfold parameter at hkept
  rw [method, method, hkept, hresult, hlevel, htypes]
  cases hp : m.parameters.find? (·.kind == .block) with
  | none =>
    rw [hp, Option.map_none, eq_comm, Option.map_eq_none_iff] at hfind
    rw [hfind]
  | some p =>
    rw [hp, Option.map_some, eq_comm, Option.map_eq_some_iff] at hfind
    obtain ⟨q, hq, hqp⟩ := hfind
    have hblock : block read p.type = block read q.type := block_congr (congrArg Parameter.type hqp.symm)
    simp only [hq, hblock]

end Convert
end RubyStubs
