import RubyStubs.Proofs.Conversion
import RubyStubs.Proofs.Expressible
import RubyStubs.Proofs.StructuredReading
import RubyStubs.Proofs.TypeReading

namespace RubyStubs

namespace TypeExpr

mutual

def leaves : TypeExpr → List String
  | .raw text => [text]
  | .boolean | .untyped => []
  | .nilable t | .collection _ t => leaves t
  | .union ts | .intersection ts | .tuple ts => leavesAll ts
  | .hash k v => leaves k ++ leaves v
  | .generic base ts => leaves base ++ leavesAll ts
  | .record fs => leavesFields fs
  | .proc ps result =>
    match result with
    | none => leavesSlots ps
    | some t => leavesSlots ps ++ leaves t

def leavesAll : List TypeExpr → List String
  | [] => []
  | t :: ts => leaves t ++ leavesAll ts

def leavesFields : List (String × TypeExpr) → List String
  | [] => []
  | (_, t) :: fs => leaves t ++ leavesFields fs

def leavesSlots : List (Slot TypeExpr) → List String
  | [] => []
  | ⟨_, t, _⟩ :: ps => leaves t ++ leavesSlots ps

end

mutual

def mapLeaves (f : String → TypeExpr) : TypeExpr → TypeExpr
  | .raw text => f text
  | .boolean => .boolean
  | .untyped => .untyped
  | .nilable t => .nilable (mapLeaves f t)
  | .collection k t => .collection k (mapLeaves f t)
  | .union ts => .union (mapLeavesAll f ts)
  | .intersection ts => .intersection (mapLeavesAll f ts)
  | .tuple ts => .tuple (mapLeavesAll f ts)
  | .hash k v => .hash (mapLeaves f k) (mapLeaves f v)
  | .generic base ts => .generic (mapLeaves f base) (mapLeavesAll f ts)
  | .record fs => .record (mapLeavesFields f fs)
  | .proc ps result =>
    match result with
    | none => .proc (mapLeavesSlots f ps) none
    | some t => .proc (mapLeavesSlots f ps) (some (mapLeaves f t))

def mapLeavesAll (f : String → TypeExpr) : List TypeExpr → List TypeExpr
  | [] => []
  | t :: ts => mapLeaves f t :: mapLeavesAll f ts

def mapLeavesFields (f : String → TypeExpr) : List (String × TypeExpr) → List (String × TypeExpr)
  | [] => []
  | (k, t) :: fs => (k, mapLeaves f t) :: mapLeavesFields f fs

def mapLeavesSlots (f : String → TypeExpr) : List (Slot TypeExpr) → List (Slot TypeExpr)
  | [] => []
  | ⟨k, t, d⟩ :: ps => ⟨k, mapLeaves f t, d⟩ :: mapLeavesSlots f ps

end

section MapLeaves

variable {f : String → TypeExpr}

theorem forall_mem_append_iff {p q : Prop} {xs ys : List String} (hxs : p ↔ ∀ x ∈ xs, f x = .raw x)
    (hys : q ↔ ∀ y ∈ ys, f y = .raw y) : p ∧ q ↔ ∀ x ∈ xs ++ ys, f x = .raw x := by
  rw [hxs, hys, List.forall_mem_append]

mutual

theorem mapLeaves_eq_self_iff : ∀ t : TypeExpr, t.mapLeaves f = t ↔ ∀ text ∈ t.leaves, f text = .raw text
  | .raw text => by simp [mapLeaves, leaves]
  | .boolean | .untyped => by simp [mapLeaves, leaves]
  | .nilable t => by simp [mapLeaves, leaves, mapLeaves_eq_self_iff t]
  | .collection k t => by simp [mapLeaves, leaves, mapLeaves_eq_self_iff t]
  | .union ts => by simp [mapLeaves, leaves, mapLeavesAll_eq_self_iff ts]
  | .intersection ts => by simp [mapLeaves, leaves, mapLeavesAll_eq_self_iff ts]
  | .tuple ts => by simp [mapLeaves, leaves, mapLeavesAll_eq_self_iff ts]
  | .hash k v => by
    rw [mapLeaves, hash.injEq, leaves]
    exact forall_mem_append_iff (mapLeaves_eq_self_iff k) (mapLeaves_eq_self_iff v)
  | .generic base ts => by
    rw [mapLeaves, generic.injEq, leaves]
    exact forall_mem_append_iff (mapLeaves_eq_self_iff base) (mapLeavesAll_eq_self_iff ts)
  | .record fs => by simp [mapLeaves, leaves, mapLeavesFields_eq_self_iff fs]
  | .proc ps none => by simp [mapLeaves, leaves, mapLeavesSlots_eq_self_iff ps]
  | .proc ps (some t) => by
    rw [mapLeaves, proc.injEq, Option.some.injEq, leaves]
    exact forall_mem_append_iff (mapLeavesSlots_eq_self_iff ps) (mapLeaves_eq_self_iff t)

theorem mapLeavesAll_eq_self_iff :
    ∀ ts : List TypeExpr, mapLeavesAll f ts = ts ↔ ∀ text ∈ leavesAll ts, f text = .raw text
  | [] => by simp [mapLeavesAll, leavesAll]
  | t :: ts => by
    rw [mapLeavesAll, List.cons.injEq, leavesAll]
    exact forall_mem_append_iff (mapLeaves_eq_self_iff t) (mapLeavesAll_eq_self_iff ts)

theorem mapLeavesFields_eq_self_iff :
    ∀ fs : List (String × TypeExpr), mapLeavesFields f fs = fs ↔ ∀ text ∈ leavesFields fs, f text = .raw text
  | [] => by simp [mapLeavesFields, leavesFields]
  | (k, t) :: fs => by
    rw [mapLeavesFields, List.cons.injEq, Prod.mk.injEq, eq_self, true_and, leavesFields]
    exact forall_mem_append_iff (mapLeaves_eq_self_iff t) (mapLeavesFields_eq_self_iff fs)

theorem mapLeavesSlots_eq_self_iff :
    ∀ ps : List (Slot TypeExpr), mapLeavesSlots f ps = ps ↔ ∀ text ∈ leavesSlots ps, f text = .raw text
  | [] => by simp [mapLeavesSlots, leavesSlots]
  | ⟨k, t, d⟩ :: ps => by
    rw [mapLeavesSlots, List.cons.injEq, Slot.mk.injEq, eq_self, eq_self, true_and, and_true, leavesSlots]
    exact forall_mem_append_iff (mapLeaves_eq_self_iff t) (mapLeavesSlots_eq_self_iff ps)

end

end MapLeaves

def IsClear (read : Reader) (t : TypeExpr) : Prop := ∀ text ∈ t.leaves, (ofText read text).isRaw

theorem leavesAll_eq_flatMap (ts : List TypeExpr) : leavesAll ts = ts.flatMap leaves := by
  induction ts with
  | nil => rfl
  | cons t ts ih => rw [leavesAll, ih, List.flatMap_cons]

theorem leavesFields_eq_flatMap (fs : List (String × TypeExpr)) :
    leavesFields fs = fs.flatMap fun f => f.2.leaves := by
  induction fs with
  | nil => rfl
  | cons f fs ih => rw [leavesFields, ih, List.flatMap_cons]

theorem leavesSlots_eq_flatMap (ps : List (Slot TypeExpr)) : leavesSlots ps = ps.flatMap fun p => p.type.leaves := by
  induction ps with
  | nil => rfl
  | cons p ps ih => rw [leavesSlots, ih, List.flatMap_cons]

end TypeExpr

def TypeLayer.texts : TypeLayer → List String
  | .raw text | .generic text _ => [text]
  | _ => []

theorem TypeLayer.leaves_assemble (l : TypeLayer) (f : Node → TypeExpr) :
    (l.assemble f).leaves = l.texts ++ l.nodes.flatMap fun c => (f c).leaves := by
  cases l with
  | proc ps result =>
    cases result <;>
      simp [assemble, TypeExpr.leaves, texts, nodes, TypeExpr.leavesSlots_eq_flatMap, List.flatMap_map]
  | _ =>
    simp [assemble, TypeExpr.leaves, texts, nodes, TypeExpr.leavesAll_eq_flatMap, TypeExpr.leavesFields_eq_flatMap,
      List.flatMap_map]

inductive Node.InType : Node → Node → Prop where
  | self (n : Node) : InType n n
  | part {n c m : Node} (hc : c ∈ n.typeLayer.nodes) (hm : InType c m) : InType n m

namespace TypeExpr

variable {read : Reader}

theorem mem_leaves_ofNode_iff {n : Node} {text : String} :
    text ∈ (ofNode n).leaves ↔ ∃ m, n.InType m ∧ text ∈ m.typeLayer.texts := by
  constructor
  · intro h
    induction hsize : sizeOf n using Nat.strongRecOn generalizing n with
    | ind size ih =>
      rw [ofNode_eq, TypeLayer.leaves_assemble, List.mem_append, List.mem_flatMap] at h
      rcases h with htext | ⟨c, hc, htext⟩
      · exact ⟨n, .self n, htext⟩
      · have hlt : sizeOf c < size := hsize ▸ Node.sizeOf_lt_of_mem_typeLayer hc
        obtain ⟨m, hm, hmtext⟩ := ih (sizeOf c) hlt htext rfl
        exact ⟨m, .part hc hm, hmtext⟩
  · rintro ⟨m, hm, htext⟩
    induction hm with
    | self n =>
      rw [ofNode_eq, TypeLayer.leaves_assemble]
      exact List.mem_append_left _ htext
    | part hc _ ih =>
      rw [ofNode_eq, TypeLayer.leaves_assemble]
      exact List.mem_append_right _ (List.mem_flatMap.mpr ⟨_, hc, ih htext⟩)

theorem isClear_ofNode_iff {n : Node} (h : ∀ m, n.InType m → m.Rereads read) :
    (ofNode n).IsClear read ↔
      ∀ m base ns, n.InType m → m.typeLayer = .generic base ns → (ofText read base).isRaw := by
  constructor
  · intro hclear m base ns hm hlayer
    apply hclear
    exact mem_leaves_ofNode_iff.mpr ⟨m, hm, by rw [hlayer]; exact List.mem_cons_self⟩
  · intro hbases text htext
    obtain ⟨m, hm, htext⟩ := mem_leaves_ofNode_iff.mp htext
    cases hlayer : m.typeLayer with
    | raw kept =>
      rw [hlayer, TypeLayer.texts, List.mem_singleton] at htext
      have hagain : ofText read m.text = ofNode m := Convert.type_raw_of_rereads (h m hm)
      rw [htext, Node.typeLayer_raw hlayer, hagain, ofNode_eq, hlayer]
      rfl
    | generic base ns =>
      rw [hlayer, TypeLayer.texts, List.mem_singleton] at htext
      rw [htext]
      exact hbases m base ns hm hlayer
    | _ =>
      rw [hlayer] at htext
      cases htext

/-- The type comes out clear if it is text that reads as a clear type, or clear without being read. -/
def ConvertsClear (read : Reader) : TypeExpr → Prop
  | .raw text => (ofText read text).IsClear read
  | t => t.IsClear read

theorem isClear_type_iff (t : TypeExpr) : (Convert.type read t).IsClear read ↔ t.ConvertsClear read := by
  cases t <;> rfl

end TypeExpr

def Signature.types (s : Signature) : List TypeExpr :=
  s.parameters.filterMap (·.type) ++ s.result.toList ++ (s.block.map (·.type)).toList

def Method.types (m : Method) : List TypeExpr :=
  m.parameters.filterMap (·.type) ++ m.result.toList ++ m.signatures.flatMap Signature.types

def Member.types (m : Member) : List TypeExpr :=
  match m.body with
  | .method b | .attribute _ b => b.types
  | .constant (.type t) _ => [t]
  | _ => []

namespace Decl

mutual

def members : Decl → List Member
  | .member m => [m]
  | .scope _ ds => membersAll ds

def membersAll : List Decl → List Member
  | [] => []
  | d :: ds => members d ++ membersAll ds

end

def types (d : Decl) : List TypeExpr := d.members.flatMap Member.types

theorem mem_membersAll_append {m : Member} (ds es : List Decl) :
    m ∈ membersAll (ds ++ es) ↔ m ∈ membersAll ds ∨ m ∈ membersAll es := by
  induction ds with
  | nil => simp [membersAll]
  | cons d ds ih => rw [List.cons_append, membersAll, membersAll, List.mem_append, List.mem_append, ih, or_assoc]

theorem mem_membersAll_toList {m : Member} (d : Option Decl) :
    m ∈ membersAll d.toList ↔ ∃ d', d = some d' ∧ m ∈ d'.members := by
  cases d <;> simp [membersAll]

end Decl

namespace Convert

variable (read : Reader)

mutual

theorem mem_members_decl_iff {m' : Member} : ∀ d : Decl,
    (∃ d', (decl read d).1 = some d' ∧ m' ∈ d'.members) ↔ ∃ m, .member m ∈ d.visited ∧ (member read m).1 = some m'
  | .member m => by
    simp only [decl, Decl.visited, List.mem_singleton, Decl.member.injEq, Option.map_eq_some_iff]
    constructor
    · rintro ⟨_, ⟨n, hn, rfl⟩, hm'⟩
      rw [Decl.members, List.mem_singleton] at hm'
      exact ⟨m, rfl, hm' ▸ hn⟩
    · rintro ⟨m, rfl, hm'⟩
      exact ⟨_, ⟨m', hm', rfl⟩, List.mem_cons_self⟩
  | .scope s ds => by
    rw [decl, Decl.visited]
    rcases hk : kind s.kind with ⟨_ | k, ws⟩
    · have hdropped : (Decl.scope s ds).isDropped := (scope_dropped_iff s ds).mpr (by rw [hk])
      simp [hdropped]
    · have hkept : ¬ (Decl.scope s ds).isDropped := by
        rw [scope_dropped_iff, hk]
        exact nofun
      simp [hkept, Decl.members, mem_members_decls_iff ds]

theorem mem_members_decls_iff {m' : Member} : ∀ ds : List Decl,
    m' ∈ Decl.membersAll (decls read ds).1 ↔ ∃ m, .member m ∈ Decl.visitedAll ds ∧ (member read m).1 = some m'
  | [] => by simp [decls, Decl.membersAll, Decl.visitedAll]
  | d :: ds => by
    rw [decls, Decl.mem_membersAll_append, Decl.mem_membersAll_toList, mem_members_decl_iff d,
      mem_members_decls_iff ds, Decl.visitedAll]
    simp only [List.mem_append, or_and_right, exists_or]

end

end Convert

def Method.ConvertsClear (read : Reader) (m : Method) : Prop :=
  (∀ p ∈ m.parameters, p.kind ≠ .block → ∀ t ∈ p.type, t.ConvertsClear read) ∧
    (∀ t ∈ m.result, t.ConvertsClear read) ∧
    ∀ p, m.parameters.find? (·.kind == .block) = some p → (Convert.block read p.type).1.isSome →
      ∀ t ∈ p.type, t.ConvertsClear read

def Member.ConvertsClear (read : Reader) (m : Member) : Prop :=
  match m.body with
  | .method b => b.ConvertsClear read
  | .attribute _ b => b.classLevel = false → ∀ t ∈ b.result, t.ConvertsClear read
  | .constant (.type t) classLevel => classLevel = false → t.ConvertsClear read
  | .constant (.text value) classLevel =>
    classLevel = false → (Convert.constantType read (.text value)).IsClear read
  | _ => True

namespace Convert

variable (read : Reader)

theorem isClear_block_iff {param : Option TypeExpr} {b : Block} (h : (block read param).1 = some b) :
    b.type.IsClear read ↔ ∀ t ∈ param, t.ConvertsClear read := by
  cases param with
  | none => cases h
  | some t =>
    have hclear : (∀ t' ∈ some t, t'.ConvertsClear read) ↔ (type read t).IsClear read := by
      simp [TypeExpr.isClear_type_iff]
    rw [hclear]
    -- A callable type and a nilable one have the same texts in them; nothing else makes a block.
    simp only [block, Option.map_some] at h
    generalize type read t = u at h
    split_ifs at h
    split at h
    · next ps r heq =>
      cases heq
      cases h
      rfl
    · next ps r heq =>
      cases heq
      cases h
      rfl
    · cases h

def blockOf (m : Method) : Option Block :=
  (m.parameters.find? (·.kind == .block)).bind fun p => (block read p.type).1

theorem types_method (m : Method) :
    let parameters := (m.parameters.filter (·.kind != .block)).filterMap fun p => p.type.map (type read)
    let result := (m.result.map (type read)).toList
    (method read m).1.types =
      parameters ++ result ++ (parameters ++ result ++ ((blockOf read m).map (·.type)).toList) := by
  rw [method, blockOf]
  cases m.parameters.find? (·.kind == .block) <;>
    simp [Method.types, Signature.types, List.filterMap_map]

theorem mem_types_method_iff (m : Method) (t : TypeExpr) :
    t ∈ (method read m).1.types ↔
      (∃ p ∈ m.parameters, p.kind ≠ .block ∧ ∃ u ∈ p.type, type read u = t) ∨
        (∃ u ∈ m.result, type read u = t) ∨ ∃ b ∈ blockOf read m, b.type = t := by
  have hparameters : (t ∈ (m.parameters.filter (·.kind != .block)).filterMap fun p => p.type.map (type read)) ↔
      ∃ p ∈ m.parameters, p.kind ≠ .block ∧ ∃ u ∈ p.type, type read u = t := by
    simp [and_assoc]
  have htwice (p q r : Prop) : (p ∨ q) ∨ (p ∨ q) ∨ r ↔ p ∨ q ∨ r := by tauto
  rw [types_method, List.mem_append, List.mem_append, List.mem_append, List.mem_append, hparameters, htwice]
  simp only [Option.mem_toList, Option.mem_def, Option.map_eq_some_iff]

theorem forall_types_method_iff (m : Method) :
    (∀ t ∈ (method read m).1.types, t.IsClear read) ↔ m.ConvertsClear read := by
  have hblock : (∀ b ∈ blockOf read m, b.type.IsClear read) ↔
      ∀ p, m.parameters.find? (·.kind == .block) = some p → (block read p.type).1.isSome →
        ∀ t ∈ p.type, t.ConvertsClear read := by
    simp only [blockOf, Option.mem_def, Option.bind_eq_some_iff, Option.isSome_iff_exists]
    constructor
    · rintro h p hp ⟨b, hb⟩
      exact (isClear_block_iff read hb).mp (h b ⟨p, hp, hb⟩)
    · rintro h b ⟨p, hp, hb⟩
      exact (isClear_block_iff read hb).mpr (h p hp ⟨b, hb⟩)
  rw [Method.ConvertsClear, ← hblock]
  simp only [mem_types_method_iff, ← TypeExpr.isClear_type_iff]
  constructor
  · intro h
    refine ⟨fun p hp hkind t ht => ?_, fun t ht => ?_, fun b hb => ?_⟩
    · exact h _ (.inl ⟨p, hp, hkind, t, ht, rfl⟩)
    · exact h _ (.inr (.inl ⟨t, ht, rfl⟩))
    · exact h _ (.inr (.inr ⟨b, hb, rfl⟩))
  · rintro ⟨hparameters, hresult, hblock⟩ t (⟨p, hp, hkind, u, hu, rfl⟩ | ⟨u, hu, rfl⟩ | ⟨b, hb, rfl⟩)
    · exact hparameters p hp hkind u hu
    · exact hresult u hu
    · exact hblock b hb

theorem forall_types_complete_iff {P : TypeExpr → Prop} (k : AttributeKind) (name : String)
    (result : Option TypeExpr) : (∀ t ∈ (k.complete name { result }).types, P t) ↔ ∀ t ∈ result, P t := by
  cases k <;> cases result <;> simp [AttributeKind.complete, Method.types]

theorem forall_types_member_iff (m : Member) :
    (∀ m', (member read m).1 = some m' → ∀ t ∈ m'.types, t.IsClear read) ↔ m.ConvertsClear read := by
  obtain ⟨name, body, comments⟩ := m
  match body with
  | .method b => simp [member, Member.types, Member.ConvertsClear, forall_types_method_iff]
  | .attribute k b =>
    cases hlevel : b.classLevel with
    | true => simp [member, Member.ConvertsClear, hlevel]
    | false =>
      simp [member, Member.types, Member.ConvertsClear, hlevel, forall_types_complete_iff,
        ← TypeExpr.isClear_type_iff]
  | .constant v true => cases v <;> simp [member, Member.ConvertsClear]
  | .constant v false =>
    cases v <;> simp [member, Member.types, Member.ConvertsClear, constantType, TypeExpr.isClear_type_iff]
  | .mixin k target => simp [member, Member.types, Member.ConvertsClear]
  | .code text => simp [member, Member.types, Member.ConvertsClear]
  | .bare => simp [member, Member.ConvertsClear]

/-- A converted program is clear exactly where the types of the members it keeps are: those that are text once they
are read, all others as they stand. A type is what it is with each text in it read only if it is text itself or has no
text in it that reads as another type. If the text of each node in a type reads as that node, the type of a node is
clear but for what generic types are applied to. -/
theorem no_leftovers_iff :
    (∀ s ds, (∀ t ∈ (program read (.scope s ds)).1.types, t.IsClear read) ↔
      ∀ m, .member m ∈ Decl.visitedAll ds → m.ConvertsClear read) ∧
    (∀ t : TypeExpr, type read t = t.mapLeaves (.ofText read) ↔
      t.isRaw ∨ ∀ text ∈ t.leaves, TypeExpr.ofText read text = .raw text) ∧
    ∀ n : Node, (∀ m, n.InType m → m.Rereads read) → ((TypeExpr.ofNode n).IsClear read ↔
      ∀ m base ns, n.InType m → m.typeLayer = .generic base ns → (TypeExpr.ofText read base).isRaw) := by
  refine ⟨fun s ds => ?_, fun t => ?_, fun n => TypeExpr.isClear_ofNode_iff⟩
  · have hmembers (m' : Member) : m' ∈ (program read (.scope s ds)).1.members ↔
        ∃ m, .member m ∈ Decl.visitedAll ds ∧ (member read m).1 = some m' := mem_members_decls_iff read ds
    simp only [Decl.types, List.mem_flatMap, hmembers, ← forall_types_member_iff]
    constructor
    · intro h m hm m' hm' t ht
      exact h t ⟨m', ⟨m, hm, hm'⟩, ht⟩
    · rintro h t ⟨m', ⟨m, hm, hm'⟩, ht⟩
      exact h m hm m' hm' t ht
  · by_cases hraw : t.isRaw = true
    · refine iff_of_true ?_ (.inl hraw)
      cases t with
      | raw text => rw [type, TypeExpr.mapLeaves]
      | _ => cases hraw
    · rw [type_of_not_isRaw read (by simpa using hraw), eq_comm, TypeExpr.mapLeaves_eq_self_iff]
      exact (or_iff_right hraw).symm

section Sample

open Source

def sampleLeaf : Node := sampleNode "constant" "A" none []

theorem sample_typeLayer : sampleType.typeLayer = .nilable sampleLeaf := by
  have hroot : ¬ (sampleNode "constant" "T" (some "receiver") []).isCall := by decide
  have hchain : sampleType.chain =
      (some (sampleNode "constant" "T" (some "receiver") []), [⟨some "nilable", [sampleLeaf]⟩]) := by
    rw [Node.chain_of_receiver? rfl rfl, Node.chain_of_not_isCall hroot]
    rfl
  rw [Expr.typeLayer_of_isCall rfl, Node.chainLayer?, hchain]
  rfl

theorem sampleLeaf_typeLayer : sampleLeaf.typeLayer = .raw "A" := by
  rw [Node.typeLayer, if_pos (by decide), if_neg (by decide)]
  rfl

theorem sampleType_rereads : sampleType.Rereads sampleReader := ⟨rfl, sampleType, rfl, rfl⟩

theorem sample_ofText : TypeExpr.ofText sampleReader "T.nilable(A)" = TypeExpr.ofNode sampleType :=
  type_raw_of_rereads sampleType_rereads

theorem sample_inType {m : Node} (h : sampleType.InType m) : m = sampleType ∨ m = sampleLeaf := by
  cases h with
  | self => exact .inl rfl
  | part hc hm =>
    rw [sample_typeLayer, TypeLayer.nodes, List.mem_singleton] at hc
    subst hc
    cases hm with
    | self => exact .inr rfl
    | part hc _ =>
      rw [sampleLeaf_typeLayer] at hc
      cases hc

theorem no_leftovers_iff_sample :
    (∀ m, sampleType.InType m → m.Rereads sampleReader) ∧
      ∀ t ∈ (program sampleReader (.scope {} sampleDecls)).1.types, t.IsClear sampleReader := by
  have hrereads (m : Node) (hm : sampleType.InType m) : m.Rereads sampleReader := by
    rcases sample_inType hm with rfl | rfl
    · exact sampleType_rereads
    · exact ⟨rfl, sampleLeaf, rfl, rfl⟩
  obtain ⟨hprogram, -, hnode⟩ := no_leftovers_iff sampleReader
  have hclear : (TypeExpr.ofNode sampleType).IsClear sampleReader := by
    refine (hnode sampleType hrereads).mpr fun m base ns hm hgeneric => ?_
    rcases sample_inType hm with rfl | rfl
    · rw [sample_typeLayer] at hgeneric
      cases hgeneric
    · rw [sampleLeaf_typeLayer] at hgeneric
      cases hgeneric
  refine ⟨hrereads, (hprogram {} sampleDecls).mpr fun m hm => ?_⟩
  obtain rfl : m = { name := "f", body := .method { result := some (.raw "T.nilable(A)") } } := by
    simpa [sampleDecls, Decl.visitedAll, Decl.visited] using hm
  simpa [Member.ConvertsClear, Method.ConvertsClear, TypeExpr.ConvertsClear, sample_ofText] using hclear

theorem nested_text_left :
    (¬ ∀ (read : Reader) (s : Scope) (ds : List Decl), ∀ t ∈ (program read (.scope s ds)).1.types, t.IsClear read) ∧
      ¬ ∀ (read : Reader) (t : TypeExpr), type read t = t.mapLeaves (.ofText read) := by
  have htext : TypeExpr.ofText sampleReader "T.nilable(A)" = .nilable (.raw "A") := by
    rw [sample_ofText, TypeExpr.ofNode_eq, sample_typeLayer, TypeLayer.assemble, TypeExpr.ofNode_eq,
      sampleLeaf_typeLayer]
    rfl
  let t : TypeExpr := .collection .array (.raw "T.nilable(A)")
  constructor
  · intro h
    have hclear := h sampleReader {} [.member { name := "f", body := .method { result := some t } }] t
      List.mem_cons_self "T.nilable(A)" List.mem_cons_self
    rw [htext] at hclear
    cases hclear
  · intro h
    have hconverted := h sampleReader t
    rw [TypeExpr.mapLeaves, TypeExpr.mapLeaves, htext] at hconverted
    cases hconverted

end Sample

end Convert
end RubyStubs
