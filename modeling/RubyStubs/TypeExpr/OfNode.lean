import RubyStubs.SyntaxTree.Call
import RubyStubs.TypeExpr.Basic

/-!
The type that a piece of syntax denotes.

`Node.typeLayer` reads the outermost construct of a type off a node and gives the nodes of its
parts; `TypeExpr.ofNode` does so all the way down. What the algebra has no case for is kept as
text. The lemma `sizeOf_lt_of_mem_typeLayer` says that the parts lie below the node.
-/
namespace RubyStubs

/-- The outermost construct of a type, over the nodes of its parts. -/
inductive TypeLayer where
  | raw (text : String)
  | boolean
  | untyped
  | nilable (inner : Node)
  | union (members : List Node)
  | intersection (members : List Node)
  | tuple (members : List Node)
  | collection (kind : Collection) (element : Node)
  | hash (key value : Node)
  | generic (base : String) (arguments : List Node)
  | record (fields : List (String × Node))
  | proc (parameters : List (String × Node)) (result : Option Node)

namespace TypeLayer

def nodes : TypeLayer → List Node
  | .raw _ | .boolean | .untyped => []
  | .nilable n | .collection _ n => [n]
  | .union ns | .intersection ns | .tuple ns | .generic _ ns => ns
  | .hash k v => [k, v]
  | .record fs => fs.map (·.2)
  | .proc ps r => ps.map (·.2) ++ r.toList

end TypeLayer

namespace Node

def reference (n : Node) : Option Node × List Node :=
  match n.child? "object" with
  | some o => (some o, (n.parts.eraseP (·.field == some "object")).filter fun c => c.named && !c.isComment)
  | none => (n.children.head?, n.children.tail.filter (!·.isComment))

def collectionOf? (base : String) : Option Collection :=
  Collection.all.find? fun k => "T::" ++ k.name == base

def referenceLayer (n : Node) : TypeLayer :=
  match n.reference with
  | (none, _) => .raw n.text
  | (some target, args) =>
    let base := Text.without target.text "::"
    match collectionOf? base, args with
    | some k, [a] => .collection k a
    | none, [a, b] => if base == "T::Hash" then .hash a b else .generic target.text [a, b]
    | _, args => .generic target.text args

def namedEntries (args : List Node) : List Node :=
  match args with
  | [a] => if a.kind == "hash" then a.children else [a]
  | args => args

def procLayer? (acc : List (String × Node)) : List Link → Option TypeLayer
  | [] => none
  | ⟨name, args⟩ :: rest =>
    if name == some "params" then
      match (namedEntries args).mapM pair? with
      | some ps => procLayer? (acc ++ ps) rest
      | none => none
    else
      match args, rest with
      | [a], [] => if name == some "returns" then some (.proc acc (some a)) else none
      | [], [] => if name == some "void" then some (.proc acc none) else none
      | _, _ => none

def chainLayer? (n : Node) : Option TypeLayer :=
  match n.chain with
  | (some root, ⟨name, args⟩ :: rest) =>
    if Text.without root.text "::" == "T" then
      match rest, args with
      | [], [] => if name == some "untyped" then some .untyped else none
      | [], a :: as =>
        if name == some "nilable" && as.isEmpty then some (.nilable a)
        else if name == some "any" then some (.union (a :: as))
        else if name == some "all" then some (.intersection (a :: as))
        else none
      | rest, [] => if name == some "proc" then procLayer? [] rest else none
      | _, _ => none
    else none
  | _ => none

def typeLayer (n : Node) : TypeLayer :=
  if n.kind == "constant" || n.kind == "scope_resolution" then
    if Text.without n.text "::" == "T::Boolean" then .boolean else .raw n.text
  else if n.kind == "element_reference" then n.referenceLayer
  else if n.kind == "array" then .tuple (n.children.filter (!·.isComment))
  else if n.kind == "hash" then
    match (n.children.filter (!·.isComment)).mapM pair? with
    | some fields => .record fields
    | none => .raw n.text
  else if n.isCall then n.chainLayer?.getD (.raw n.text)
  else .raw n.text

theorem mem_of_mapM_pair? {ns : List Node} {ps : List (String × Node)} (h : ns.mapM pair? = some ps)
    {p : String × Node} (hp : p ∈ ps) : ∃ n ∈ ns, n.pair? = some p := by
  induction ns generalizing ps with
  | nil =>
    cases h
    cases hp
  | cons n ns ih =>
    rw [List.mapM_cons] at h
    cases hn : n.pair? with
    | none => simp [hn] at h
    | some q =>
      cases hns : ns.mapM pair? with
      | none => simp [hn, hns] at h
      | some qs =>
        simp only [hn, hns, Option.bind_eq_bind, Option.bind_some, Option.pure_def,
          Option.some.injEq] at h
        subst h
        rcases List.mem_cons.mp hp with rfl | hp
        · exact ⟨n, List.mem_cons_self, hn⟩
        · obtain ⟨m, hm, hmp⟩ := ih hns hp
          exact ⟨m, List.mem_cons_of_mem _ hm, hmp⟩

theorem sizeOf_le_of_mem_namedEntries {args : List Node} {c : Node} (h : c ∈ namedEntries args) :
    ∃ a ∈ args, sizeOf c ≤ sizeOf a := by
  unfold namedEntries at h
  split at h
  · next a =>
    split at h
    · exact ⟨a, List.mem_singleton.mpr rfl, Nat.le_of_lt (sizeOf_lt_of_mem_children h)⟩
    · exact ⟨c, h, Nat.le_refl _⟩
  · exact ⟨c, h, Nat.le_refl _⟩

theorem sizeOf_lt_of_procLayer? {links : List Link} {acc : List (String × Node)} {t : TypeLayer}
    {bound : Nat} (h : procLayer? acc links = some t) (hacc : ∀ p ∈ acc, sizeOf p.2 < bound)
    (hlinks : ∀ l ∈ links, ∀ a ∈ l.arguments, sizeOf a < bound) :
    ∀ c ∈ t.nodes, sizeOf c < bound := by
  induction links generalizing acc with
  | nil => cases h
  | cons l rest ih =>
    obtain ⟨name, args⟩ := l
    have hargs : ∀ a ∈ args, sizeOf a < bound := hlinks _ List.mem_cons_self
    unfold procLayer? at h
    split at h
    · split at h
      · next ps hps =>
        refine ih h (fun p hp => ?_) fun l hl => hlinks l (List.mem_cons_of_mem _ hl)
        rcases List.mem_append.mp hp with hp | hp
        · exact hacc p hp
        · obtain ⟨m, hm, hmp⟩ := mem_of_mapM_pair? hps hp
          obtain ⟨a, ha, hle⟩ := sizeOf_le_of_mem_namedEntries hm
          have := sizeOf_lt_of_pair? hmp
          have := hargs a ha
          omega
      · cases h
    · have hparams : ∀ c ∈ acc.map (·.2), sizeOf c < bound := by
        intro c hc
        obtain ⟨p, hp, rfl⟩ := List.mem_map.mp hc
        exact hacc p hp
      split at h
      · next a =>
        split at h
        · cases h
          intro c hc
          rcases List.mem_append.mp hc with hc | hc
          · exact hparams c hc
          · exact hargs c hc
        · cases h
      · split at h
        · cases h
          intro c hc
          rcases List.mem_append.mp hc with hc | hc
          · exact hparams c hc
          · cases hc
        · cases h
      · cases h

theorem sizeOf_lt_of_chainLayer? {n : Node} {t : TypeLayer} (h : n.chainLayer? = some t) :
    ∀ c ∈ t.nodes, sizeOf c < sizeOf n := by
  have hlinks : ∀ l ∈ n.chain.2, ∀ a ∈ l.arguments, sizeOf a < sizeOf n :=
    fun l hl a ha => sizeOf_lt_of_mem_chain hl ha
  unfold chainLayer? at h
  split at h
  · next root name args rest hc =>
    rw [hc] at hlinks
    have hargs : ∀ a ∈ args, sizeOf a < sizeOf n := hlinks _ List.mem_cons_self
    split at h
    · split at h
      · split at h
        · cases h
          intro c hc
          cases hc
        · cases h
      · next a as =>
        split at h
        · cases h
          intro c hc
          exact hargs c (by
            rw [List.mem_singleton.mp hc]
            exact List.mem_cons_self)
        · split at h
          · cases h
            exact hargs
          · split at h
            · cases h
              exact hargs
            · cases h
      · split at h
        · exact sizeOf_lt_of_procLayer? h (fun _ hp => by cases hp)
            fun l hl => hlinks l (List.mem_cons_of_mem _ hl)
        · cases h
      · cases h
    · cases h
  · cases h

theorem sizeOf_lt_of_mem_reference {n c : Node} (h : c ∈ n.reference.2) : sizeOf c < sizeOf n := by
  unfold reference at h
  split at h
  · exact sizeOf_lt_of_mem (List.mem_of_mem_eraseP (List.mem_filter.mp h).1)
  · exact sizeOf_lt_of_mem_children (List.mem_of_mem_tail (List.mem_filter.mp h).1)

theorem sizeOf_lt_of_mem_referenceLayer {n c : Node} (h : c ∈ n.referenceLayer.nodes) :
    sizeOf c < sizeOf n := by
  have key : ∀ c ∈ n.reference.2, sizeOf c < sizeOf n := fun c hc => sizeOf_lt_of_mem_reference hc
  unfold referenceLayer at h
  split at h
  · cases h
  · next target args hr =>
    rw [hr] at key
    simp only at h
    split at h
    · exact key c h
    · split at h
      · exact key c h
      · exact key c h
    · exact key c h

theorem sizeOf_lt_of_mem_typeLayer {n c : Node} (h : c ∈ n.typeLayer.nodes) :
    sizeOf c < sizeOf n := by
  unfold typeLayer at h
  split at h
  · split at h <;> cases h
  · split at h
    · exact sizeOf_lt_of_mem_referenceLayer h
    · split at h
      · exact sizeOf_lt_of_mem_children (List.mem_filter.mp h).1
      · split at h
        · split at h
          · next fields hf =>
            obtain ⟨p, hp, rfl⟩ := List.mem_map.mp h
            obtain ⟨m, hm, hmp⟩ := mem_of_mapM_pair? hf hp
            exact Nat.lt_trans (sizeOf_lt_of_pair? hmp)
              (sizeOf_lt_of_mem_children (List.mem_filter.mp hm).1)
          · cases h
        · split at h
          · cases hc : n.chainLayer? with
            | none =>
              rw [hc] at h
              cases h
            | some t =>
              rw [hc] at h
              exact sizeOf_lt_of_chainLayer? hc c h
          · cases h

end Node

namespace TypeLayer

def assemble (f : Node → TypeExpr) : TypeLayer → TypeExpr
  | .raw text => .raw text
  | .boolean => .boolean
  | .untyped => .untyped
  | .nilable n => .nilable (f n)
  | .union ns => .union (ns.map f)
  | .intersection ns => .intersection (ns.map f)
  | .tuple ns => .tuple (ns.map f)
  | .collection k n => .collection k (f n)
  | .hash k v => .hash (f k) (f v)
  | .generic base ns => .generic (.raw base) (ns.map f)
  | .record fs => .record (fs.map fun p => (p.1, f p.2))
  | .proc ps r => .proc (ps.map fun p => { name := p.1, type := f p.2 }) (r.map f)

/-- As `assemble`, where types are known of the parts only. -/
def assembleWith : (t : TypeLayer) → ((n : Node) → n ∈ t.nodes → TypeExpr) → TypeExpr
  | .raw text, _ => .raw text
  | .boolean, _ => .boolean
  | .untyped, _ => .untyped
  | .nilable n, f => .nilable (f n List.mem_cons_self)
  | .union ns, f => .union (ns.attach.map fun n => f n.1 n.2)
  | .intersection ns, f => .intersection (ns.attach.map fun n => f n.1 n.2)
  | .tuple ns, f => .tuple (ns.attach.map fun n => f n.1 n.2)
  | .collection k n, f => .collection k (f n List.mem_cons_self)
  | .hash k v, f =>
    .hash (f k List.mem_cons_self) (f v (List.mem_cons_of_mem _ List.mem_cons_self))
  | .generic base ns, f => .generic (.raw base) (ns.attach.map fun n => f n.1 n.2)
  | .record fs, f => .record (fs.attach.map fun p => (p.1.1, f p.1.2 (List.mem_map_of_mem p.2)))
  | .proc ps r, f =>
    .proc
      (ps.attach.map fun p =>
        { name := p.1.1, type := f p.1.2 (List.mem_append_left _ (List.mem_map_of_mem p.2)) })
      (r.attach.map fun n =>
        f n.1 (List.mem_append_right _ (Option.mem_toList.mpr n.2)))

theorem assembleWith_const (t : TypeLayer) (f : Node → TypeExpr) :
    t.assembleWith (fun n _ => f n) = t.assemble f := by
  cases t with
  | record fs => exact congrArg _ (List.attach_map_val (l := fs) (f := fun p => (p.1, f p.2)))
  | proc ps r =>
    have hp := List.attach_map_val (l := ps)
      (f := fun p => ({ name := p.1, type := f p.2 } : Slot TypeExpr))
    simp only [assembleWith, assemble, hp, Option.attach_map_val]
  | _ => simp [assembleWith, assemble]

end TypeLayer

namespace TypeExpr

def ofNode (n : Node) : TypeExpr :=
  n.typeLayer.assembleWith fun c _ => ofNode c
termination_by sizeOf n
decreasing_by exact Node.sizeOf_lt_of_mem_typeLayer (by assumption)

theorem ofNode_eq (n : Node) : ofNode n = n.typeLayer.assemble ofNode := by
  rw [ofNode]
  exact TypeLayer.assembleWith_const n.typeLayer ofNode

def ofText (read : Reader) (text : String) : TypeExpr :=
  let tree := read text
  match tree.children.filter (!·.isComment) with
  | [n] => if tree.broken then .raw (Text.trim text) else ofNode n
  | _ => .raw (Text.trim text)

end TypeExpr
end RubyStubs
