import RubyStubs.TypeExpr.OfNode
import Mathlib.Tactic.SplitIfs

namespace RubyStubs

namespace Node

def made (kind text : String) (parts : List Node) : Node :=
  { kind, text, line := 1, field := none, named := true, missing := false, broken := false, parts }

def playing (n : Node) (role : String) : Node := { n with field := some role }

mutual

def core : Node → Node
  | ⟨kind, text, _, field, named, _, _, parts⟩ =>
    { kind, text, line := 0, field, named, missing := false, broken := false, parts := cores parts }

def cores : List Node → List Node
  | [] => []
  | c :: cs => core c :: cores cs

end

/-- The nodes and all below them are of the same kinds, with the same texts and roles; the roles of
the two nodes themselves are not looked at. -/
def Isomorphic (m n : Node) : Prop :=
  { m.core with field := none } = { n.core with field := none }

theorem cores_eq_map (cs : List Node) : cores cs = cs.map core := by
  induction cs with
  | nil => rfl
  | cons c cs ih => rw [cores, ih, List.map_cons]

@[simp]
theorem kind_core (n : Node) : n.core.kind = n.kind := by
  cases n
  rfl

@[simp]
theorem text_core (n : Node) : n.core.text = n.text := by
  cases n
  rfl

@[simp]
theorem field_core (n : Node) : n.core.field = n.field := by
  cases n
  rfl

@[simp]
theorem named_core (n : Node) : n.core.named = n.named := by
  cases n
  rfl

@[simp]
theorem parts_core (n : Node) : n.core.parts = n.parts.map core := by
  cases n
  exact cores_eq_map _

@[simp]
theorem isComment_core (n : Node) : n.core.isComment = n.isComment := by
  simp [isComment]

@[simp]
theorem isCall_core (n : Node) : n.core.isCall = n.isCall := by
  simp [isCall]

@[simp]
theorem children_core (n : Node) : n.core.children = n.children.map core := by
  simp [children, List.filter_map, Function.comp_def]

@[simp]
theorem child?_core (n : Node) (field : String) : n.core.child? field = (n.child? field).map core := by
  simp only [child?, parts_core, List.find?_map, Function.comp_def, field_core]

theorem filter_core (cs : List Node) :
    (cs.map core).filter (!·.isComment) = (cs.filter (!·.isComment)).map core := by
  simp [List.filter_map, Function.comp_def]

@[simp]
theorem receiver?_core (n : Node) : n.core.receiver? = n.receiver?.map core := by
  by_cases h : n.isCall <;> simp [receiver?, h]

@[simp]
theorem callName?_core (n : Node) : n.core.callName? = n.callName? := by
  simp [callName?, Option.map_map, Function.comp_def]

@[simp]
theorem argumentList?_core (n : Node) : n.core.argumentList? = n.argumentList?.map core := by
  simp only [argumentList?, child?_core, children_core, List.find?_map, Function.comp_def, kind_core,
    Option.map_or]

@[simp]
theorem arguments_core (n : Node) : n.core.arguments = n.arguments.map core := by
  by_cases h : n.isCall
  · cases hl : n.argumentList? <;> simp [arguments, h, hl, filter_core]
  · simp [arguments, h]

@[simp]
theorem symbolName?_core (n : Node) : n.core.symbolName? = n.symbolName? := by
  simp [symbolName?]

@[simp]
theorem pair?_core (n : Node) : n.core.pair? = n.pair?.map (Prod.map id core) := by
  by_cases h : n.kind == "pair"
  · cases hk : n.child? "key" <;> cases hv : n.child? "value" <;> simp [pair?, h, hk, hv]
  · simp [pair?, h]

theorem mapM_pair?_core (cs : List Node) :
    (cs.map core).mapM pair? = (cs.mapM pair?).map (List.map (Prod.map id core)) := by
  induction cs with
  | nil => rfl
  | cons c cs ih =>
    rw [List.map_cons, List.mapM_cons, List.mapM_cons, pair?_core, ih]
    cases c.pair? <;> cases cs.mapM pair? <;> rfl

def Link.core (l : Link) : Link := ⟨l.name, l.arguments.map Node.core⟩

theorem chain_of_receiver? {n r : Node} (hcall : n.isCall) (hr : n.receiver? = some r) :
    n.chain = (r.chain.1, r.chain.2 ++ [⟨n.callName?, n.arguments⟩]) := by
  rw [chain, if_pos hcall]
  split
  · next r' hr' =>
    rw [hr] at hr'
    cases hr'
    rfl
  · next hr' =>
    rw [hr] at hr'
    cases hr'

theorem chain_of_no_receiver {n : Node} (hcall : n.isCall) (hr : n.receiver? = none) :
    n.chain = (none, [⟨n.callName?, n.arguments⟩]) := by
  rw [chain, if_pos hcall]
  split
  · next r hr' =>
    rw [hr] at hr'
    cases hr'
  · rfl

theorem chain_of_not_isCall {n : Node} (hcall : ¬ n.isCall) :
    n.chain = if n.kind == "identifier" then (none, [⟨some n.text, []⟩]) else (some n, []) := by
  rw [chain, if_neg hcall]

@[simp]
theorem chain_core (n : Node) : n.core.chain = (n.chain.1.map core, n.chain.2.map Link.core) := by
  fun_induction chain n with
  | case1 n hcall r hr ih =>
    have hcall' : n.core.isCall := by rwa [isCall_core]
    have hr' : n.core.receiver? = some r.core := by rw [receiver?_core, hr, Option.map_some]
    rw [chain_of_receiver? hcall' hr', ih]
    simp [Link.core]
  | case2 n hcall hr =>
    have hcall' : n.core.isCall := by rwa [isCall_core]
    have hr' : n.core.receiver? = none := by rw [receiver?_core, hr, Option.map_none]
    rw [chain_of_no_receiver hcall' hr']
    simp [Link.core]
  | case3 n hcall hid =>
    have hcall' : ¬ n.core.isCall := by rwa [isCall_core]
    rw [chain_of_not_isCall hcall', kind_core, if_pos hid]
    simp [Link.core]
  | case4 n hcall hid =>
    have hcall' : ¬ n.core.isCall := by rwa [isCall_core]
    rw [chain_of_not_isCall hcall', kind_core, if_neg hid]
    rfl

theorem reference_core (n : Node) :
    n.core.reference = (n.reference.1.map core, n.reference.2.map core) := by
  cases h : n.child? "object" with
  | none =>
    simp only [reference, child?_core, h, children_core, Option.map_none, List.head?_map]
    rw [← List.map_tail, filter_core]
  | some o => simp [reference, h, List.eraseP_map, List.filter_map, Function.comp_def]

theorem namedEntries_core (args : List Node) :
    namedEntries (args.map core) = (namedEntries args).map core := by
  rcases args with _ | ⟨a, _ | ⟨b, bs⟩⟩
  · rfl
  · by_cases h : a.kind == "hash" <;> simp [namedEntries, h]
  · rfl

end Node

namespace TypeLayer

def map (f : Node → Node) : TypeLayer → TypeLayer
  | .raw text => .raw text
  | .boolean => .boolean
  | .untyped => .untyped
  | .nilable n => .nilable (f n)
  | .union ns => .union (ns.map f)
  | .intersection ns => .intersection (ns.map f)
  | .tuple ns => .tuple (ns.map f)
  | .collection k n => .collection k (f n)
  | .hash k v => .hash (f k) (f v)
  | .generic base ns => .generic base (ns.map f)
  | .record fs => .record (fs.map (Prod.map id f))
  | .proc ps r => .proc (ps.map (Prod.map id f)) (r.map f)

theorem assemble_map (t : TypeLayer) (f : Node → Node) (g : Node → TypeExpr) :
    (t.map f).assemble g = t.assemble (g ∘ f) := by
  cases t <;> simp [map, assemble]

theorem assemble_congr {t : TypeLayer} {f g : Node → TypeExpr} (h : ∀ n ∈ t.nodes, f n = g n) :
    t.assemble f = t.assemble g := by
  cases t with
  | raw | boolean | untyped => rfl
  | nilable n | collection k n => simp [assemble, h n List.mem_cons_self]
  | union ns | intersection ns | tuple ns | generic base ns =>
    have hmap : ns.map f = ns.map g := List.map_congr_left h
    simp only [assemble, hmap]
  | hash k v => simp [assemble, h k (by simp [nodes]), h v (by simp [nodes])]
  | record fs =>
    have hfields : fs.map (fun p => (p.1, f p.2)) = fs.map fun p => (p.1, g p.2) := by
      refine List.map_congr_left fun p hp => ?_
      rw [h p.2 (List.mem_map_of_mem hp)]
    simp only [assemble, hfields]
  | proc ps r =>
    have hslots : ps.map (fun p => ({ name := p.1, type := f p.2 } : Slot TypeExpr)) =
        ps.map fun p => { name := p.1, type := g p.2 } := by
      refine List.map_congr_left fun p hp => ?_
      rw [h p.2 (List.mem_append_left _ (List.mem_map_of_mem hp))]
    have hresult : r.map f = r.map g := by
      cases r with
      | none => rfl
      | some n => simp [h n (List.mem_append_right _ List.mem_cons_self)]
    simp only [assemble, hslots, hresult]

end TypeLayer

namespace Node

theorem referenceLayer_core (n : Node) : n.core.referenceLayer = n.referenceLayer.map core := by
  rw [referenceLayer, referenceLayer, reference_core]
  rcases n.reference with ⟨_ | target, args⟩
  · simp [TypeLayer.map]
  · cases hk : collectionOf? (Text.without target.text "::") with
    | none =>
      rcases args with _ | ⟨a, _ | ⟨b, _ | ⟨c, cs⟩⟩⟩
      · simp [hk, TypeLayer.map]
      · simp [hk, TypeLayer.map]
      · by_cases hhash : Text.without target.text "::" == "T::Hash" <;> simp [hk, hhash, TypeLayer.map]
      · simp [hk, TypeLayer.map]
    | some k =>
      rcases args with _ | ⟨a, _ | ⟨b, bs⟩⟩ <;> simp [hk, TypeLayer.map]

theorem procLayer?_core (acc : List (String × Node)) (links : List Link) :
    procLayer? (acc.map (Prod.map id core)) (links.map Link.core) =
      (procLayer? acc links).map (TypeLayer.map core) := by
  induction links generalizing acc with
  | nil => rfl
  | cons l links ih =>
    obtain ⟨name, args⟩ := l
    unfold procLayer?
    simp only [List.map_cons, Link.core]
    by_cases hparams : name == some "params"
    · rw [if_pos hparams, if_pos hparams, namedEntries_core, mapM_pair?_core]
      cases (namedEntries args).mapM pair? with
      | none => rfl
      | some ps =>
        rw [Option.map_some]
        simp only [← List.map_append]
        exact ih (acc ++ ps)
    · rw [if_neg hparams, if_neg hparams]
      rcases args with _ | ⟨a, _ | ⟨b, bs⟩⟩ <;> rcases links with _ | ⟨l, ls⟩
      · by_cases hvoid : name == some "void" <;> simp [hvoid, TypeLayer.map]
      · rfl
      · by_cases hreturns : name == some "returns" <;> simp [hreturns, TypeLayer.map]
      · rfl
      · rfl
      · rfl

theorem chainLayer?_core (n : Node) : n.core.chainLayer? = n.chainLayer?.map (TypeLayer.map core) := by
  rw [chainLayer?, chainLayer?, chain_core]
  rcases n.chain with ⟨_ | root, _ | ⟨⟨name, args⟩, rest⟩⟩
  · rfl
  · rfl
  · rfl
  · simp only [Option.map_some, List.map_cons, Link.core, text_core]
    by_cases hroot : Text.without root.text "::" == "T"
    · simp only [hroot, ↓reduceIte]
      rcases rest with _ | ⟨l, ls⟩ <;> rcases args with _ | ⟨a, as⟩
      · split_ifs <;> rfl
      · simp only [List.map_nil, List.map_cons, List.isEmpty_map]
        split_ifs <;> rfl
      · have hproc := procLayer?_core [] (l :: ls)
        by_cases hname : name == some "proc"
        · simp only [hname, ↓reduceIte]
          exact hproc
        · simp [hname]
      · rfl
    · simp [hroot]

theorem typeLayer_core (n : Node) : n.core.typeLayer = n.typeLayer.map core := by
  rw [typeLayer, typeLayer]
  simp only [kind_core, text_core, isCall_core]
  split_ifs
  · rfl
  · rfl
  · exact referenceLayer_core n
  · simp [TypeLayer.map, filter_core]
  · rw [children_core, filter_core, mapM_pair?_core]
    cases (n.children.filter (!·.isComment)).mapM pair? <;> rfl
  · rw [chainLayer?_core]
    cases n.chainLayer? <;> rfl
  · rfl

theorem chainLayer?_of_field {n : Node} (hcall : n.isCall) (field : Option String) :
    { n with field }.chainLayer? = n.chainLayer? := by
  have hchain : { n with field }.chain = n.chain := by
    cases hr : n.receiver? with
    | none =>
      rw [chain_of_no_receiver hcall hr]
      exact chain_of_no_receiver hcall hr
    | some r =>
      rw [chain_of_receiver? hcall hr]
      exact chain_of_receiver? hcall hr
  rw [chainLayer?, chainLayer?, hchain]

theorem typeLayer_of_field (n : Node) (field : Option String) :
    { n with field }.typeLayer = n.typeLayer := by
  have hsame : { n with field }.isCall = n.isCall := rfl
  by_cases hcall : n.isCall
  · simp only [typeLayer, chainLayer?_of_field hcall]
    rfl
  · simp only [typeLayer, hsame, hcall]
    rfl

end Node

namespace TypeExpr

theorem ofNode_core (n : Node) : ofNode n.core = ofNode n := by
  rw [ofNode_eq, ofNode_eq, Node.typeLayer_core, TypeLayer.assemble_map]
  refine TypeLayer.assemble_congr fun c hc => ?_
  have hlt := Node.sizeOf_lt_of_mem_typeLayer hc
  exact ofNode_core c
termination_by sizeOf n

theorem ofNode_of_isomorphic {m n : Node} (h : m.Isomorphic n) : ofNode m = ofNode n := by
  have hfield (n : Node) : ofNode { n.core with field := none } = ofNode n := by
    rw [ofNode_eq, Node.typeLayer_of_field, ← ofNode_eq, ofNode_core]
  rw [← hfield m, ← hfield n, h]

end TypeExpr
end RubyStubs
