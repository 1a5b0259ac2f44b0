import RubyStubs.Proofs.AnchoredText
import RubyStubs.Proofs.NodeShape
import Mathlib.Data.List.Forall2

namespace RubyStubs

section Related

variable {α α' β β' : Type} {R : α → α' → Prop} {S : β → β' → Prop} {xs : List α} {ys : List α'}

theorem forall₂_head? (h : List.Forall₂ R xs ys) : Option.Rel R xs.head? ys.head? := by
  cases h with
  | nil => exact .none
  | cons hxy _ => exact .some hxy

theorem forall₂_tail (h : List.Forall₂ R xs ys) : List.Forall₂ R xs.tail ys.tail := by
  cases h with
  | nil => exact .nil
  | cons _ hrest => exact hrest

theorem forall₂_filter {p : α → Bool} {q : α' → Bool} (hpq : ∀ x y, R x y → p x = q y)
    (h : List.Forall₂ R xs ys) : List.Forall₂ R (xs.filter p) (ys.filter q) :=
  List.rel_filter (fun {x y} hxy => by simp [hpq x y hxy]) h

theorem rel_mono {R' : α → α' → Prop} (hR : ∀ x y, R x y → R' x y) {x : Option α} {y : Option α'}
    (h : Option.Rel R x y) : Option.Rel R' x y := by
  cases h with
  | none => exact .none
  | some hxy => exact .some (hR _ _ hxy)

theorem forall₂_find? {p : α → Bool} {q : α' → Bool} (hpq : ∀ x y, R x y → p x = q y)
    (h : List.Forall₂ R xs ys) : Option.Rel (fun x y => R x y ∧ p x = true) (xs.find? p) (ys.find? q) := by
  induction h with
  | nil => exact .none
  | @cons x y xs ys hxy hrest ih =>
    rw [List.find?_cons, List.find?_cons, ← hpq x y hxy]
    cases hp : p x with
    | true => exact .some ⟨hxy, hp⟩
    | false => exact ih

theorem forall₂_eraseP {p : α → Bool} {q : α' → Bool} (hpq : ∀ x y, R x y → p x = q y)
    (h : List.Forall₂ R xs ys) : List.Forall₂ R (xs.eraseP p) (ys.eraseP q) := by
  induction h with
  | nil => exact .nil
  | @cons x y xs ys hxy hrest ih =>
    rw [List.eraseP_cons, List.eraseP_cons, hpq x y hxy]
    cases q y with
    | true => exact hrest
    | false => exact .cons hxy ih

theorem forall₂_map_of_mem {f : α → β} {g : α' → β'} (h : List.Forall₂ R xs ys)
    (hfg : ∀ x ∈ xs, ∀ y, R x y → S (f x) (g y)) : List.Forall₂ S (xs.map f) (ys.map g) := by
  induction h with
  | nil => exact .nil
  | @cons x y xs ys hxy hrest ih =>
    exact .cons (hfg x List.mem_cons_self y hxy) (ih fun z hz => hfg z (List.mem_cons_of_mem x hz))

theorem forall₂_mapM {f : α → Option β} {g : α' → Option β'} (hfg : ∀ x y, R x y → Option.Rel S (f x) (g y))
    (h : List.Forall₂ R xs ys) : Option.Rel (List.Forall₂ S) (xs.mapM f) (ys.mapM g) := by
  induction h with
  | nil => exact .some .nil
  | @cons x y xs ys hxy hrest ih =>
    rw [List.mapM_cons, List.mapM_cons]
    have hhead := hfg x y hxy
    generalize f x = z, g y = z', xs.mapM f = zs, ys.mapM g = zs' at hhead ih ⊢
    cases hhead with
    | none => exact .none
    | some hz =>
      cases ih with
      | none => exact .none
      | some hzs => exact .some (.cons hz hzs)

theorem rel_or {x x' : Option α} {y y' : Option α'} (h : Option.Rel R x y) (h' : Option.Rel R x' y') :
    Option.Rel R (x.or x') (y.or y') := by
  cases h with
  | none => exact h'
  | some hxy => exact .some hxy

theorem rel_isSome {x : Option α} {y : Option α'} (h : Option.Rel R x y) : x.isSome = y.isSome := by
  cases h <;> rfl

end Related

namespace Node

def headRoles : List String := ["receiver", "scope", "object"]

structure SamePlace (m n : Node) : Prop where
  line : m.line = n.line
  field : m.field = n.field
  named : m.named = n.named
  missing : m.missing = n.missing
  broken : m.broken = n.broken

def keyName (n : Node) : String := n.symbolName?.getD n.text

/-- The second tree is the first with `::` in front of any number of constants `T` that head something.
The names that keys stand for are related as `names` says. -/
inductive Anchored (names : String → String → Prop) : Node → Node → Prop
  | lone {m n : Node} (hconstant : m.kind = "constant" ∧ m.text = "T" ∧ m.parts = [])
      (hrole : m.field.any headRoles.contains = true) (hplace : SamePlace m n)
      (hscope : n.kind = "scope_resolution" ∧ n.text = "::T" ∧ n.children = [{ m with field := some "name" }]) :
      Anchored names m n
  | within {m n : Node} (hkind : m.kind = n.kind) (hplace : SamePlace m n)
      (htext : Text.Anchored m.text n.text) (hkey : m.field = some "key" → names m.keyName n.keyName)
      (hparts : List.Forall₂ (Anchored names) m.parts n.parts) : Anchored names m n

structure Alongside (names : String → String → Prop) (m n : Node) : Prop where
  kind : m.kind = n.kind
  place : SamePlace m n
  text : Text.Anchored m.text n.text
  key : m.field = some "key" → names m.keyName n.keyName
  parts : List.Forall₂ (Anchored names) m.parts n.parts

variable {names : String → String → Prop} {m n : Node}

namespace Anchored

theorem alongside (h : m.Anchored names n) (hkind : m.kind ≠ "constant") : m.Alongside names n := by
  cases h with
  | lone hconstant => exact absurd hconstant.1 hkind
  | within hkind hplace htext hkey hparts => exact ⟨hkind, hplace, htext, hkey, hparts⟩

theorem place (h : m.Anchored names n) : SamePlace m n := by
  cases h with
  | lone _ _ hplace => exact hplace
  | within _ hplace => exact hplace

theorem text (h : m.Anchored names n) : Text.Anchored m.text n.text := by
  cases h with
  | lone hconstant _ _ hscope =>
    rw [hconstant.2.1, hscope.2.1]
    exact .lone
  | within _ _ htext => exact htext

theorem contains_kind (h : m.Anchored names n) {kinds : List String} (hconstant : "constant" ∉ kinds)
    (hscope : "scope_resolution" ∉ kinds) : kinds.contains m.kind = kinds.contains n.kind := by
  cases h with
  | lone hm _ _ hn =>
    rw [hm.1, hn.1]
    simp [hconstant, hscope]
  | within hkind => rw [hkind]

theorem kind_beq (h : m.Anchored names n) {kind : String} (hconstant : kind ≠ "constant")
    (hscope : kind ≠ "scope_resolution") : (m.kind == kind) = (n.kind == kind) := by
  cases h with
  | lone hm _ _ hn =>
    rw [hm.1, hn.1]
    simp [hconstant.symm, hscope.symm]
  | within hkind => rw [hkind]

theorem isComment_eq (h : m.Anchored names n) : m.isComment = n.isComment :=
  h.kind_beq (by decide) (by decide)

theorem isSequence_eq (h : m.Anchored names n) : m.isSequence = n.isSequence :=
  h.contains_kind (by decide) (by decide)

theorem isCall_eq (h : m.Anchored names n) : m.isCall = n.isCall :=
  h.contains_kind (by decide) (by decide)

theorem alongside_of_kind (h : m.Anchored names n) {kind : String} (hkind : (m.kind == kind) = true)
    (hconstant : kind ≠ "constant") : m.Alongside names n := by
  refine h.alongside fun heq => hconstant ?_
  rw [← beq_iff_eq.mp hkind, heq]

theorem alongside_of_isCall (h : m.Anchored names n) (hcall : m.isCall) : m.Alongside names n := by
  refine h.alongside fun hkind => ?_
  rw [isCall, hkind] at hcall
  cases hcall

theorem filter_comments {ms ns : List Node} (h : List.Forall₂ (Anchored names) ms ns) :
    List.Forall₂ (Anchored names) (ms.filter (!·.isComment)) (ns.filter (!·.isComment)) :=
  forall₂_filter (fun _ _ hmn => by rw [hmn.isComment_eq]) h

end Anchored

theorem Anchored.refl (hnames : ∀ s, names s s) (n : Node) : n.Anchored names n := by
  refine .within rfl ⟨rfl, rfl, rfl, rfl, rfl⟩ (.refl _) (fun _ => hnames _) ?_
  refine List.forall₂_same.mpr fun c hc => ?_
  have hlt := sizeOf_lt_of_mem hc
  exact Anchored.refl hnames c
termination_by sizeOf n

def head (role : String) : Node := (made "constant" "T" []).playing role

def anchoredHead (role : String) : Node :=
  (made "scope_resolution" "::T" [(made "constant" "T" []).playing "name"]).playing role

theorem head_anchored {role : String} (h : role ∈ headRoles) : (head role).Anchored names (anchoredHead role) := by
  refine .lone ⟨rfl, rfl, rfl⟩ ?_ ⟨rfl, rfl, rfl, rfl, rfl⟩ ⟨rfl, rfl, rfl⟩
  simpa [head, playing] using h

theorem made_alongside (kind : String) {s t : String} (htext : Text.Anchored s t) {ms ns : List Node}
    (hparts : List.Forall₂ (Anchored names) ms ns) : (made kind s ms).Alongside names (made kind t ns) :=
  ⟨rfl, ⟨rfl, rfl, rfl, rfl, rfl⟩, htext, nofun, hparts⟩

namespace Alongside

theorem playing (h : m.Alongside names n) {role : String} (hrole : role ≠ "key") :
    (m.playing role).Alongside names (n.playing role) :=
  ⟨h.kind, ⟨h.place.line, rfl, h.place.named, h.place.missing, h.place.broken⟩, h.text,
    fun hkey => absurd (Option.some.inj hkey) hrole, h.parts⟩

theorem anchored (h : m.Alongside names n) : m.Anchored names n :=
  .within h.kind h.place h.text h.key h.parts

theorem children (h : m.Alongside names n) : List.Forall₂ (Anchored names) m.children n.children :=
  forall₂_filter (fun _ _ hc => hc.place.named) h.parts

theorem child? (h : m.Alongside names n) (field : String) :
    Option.Rel (fun c d => c.Anchored names d ∧ c.field = some field) (m.child? field) (n.child? field) := by
  have hfind := forall₂_find? (p := (·.field == some field)) (q := (·.field == some field))
    (fun _ _ hc => by rw [hc.place.field]) h.parts
  refine rel_mono ?_ hfind
  rintro c d ⟨hcd, hfield⟩
  exact ⟨hcd, by simpa using hfield⟩

theorem child?_alongside (h : m.Alongside names n) {field : String} (hfield : field ∉ headRoles) :
    Option.Rel (Alongside names) (m.child? field) (n.child? field) := by
  refine rel_mono ?_ (h.child? field)
  rintro c d ⟨hcd, hc⟩
  cases hcd with
  | lone _ hrole =>
    rw [hc] at hrole
    simp [hfield] at hrole
  | within hkind hplace htext hkey hparts => exact ⟨hkind, hplace, htext, hkey, hparts⟩

theorem find?_alongside (h : m.Alongside names n) (kinds : List String) (hconstant : "constant" ∉ kinds)
    (hscope : "scope_resolution" ∉ kinds) :
    Option.Rel (Alongside names) (m.children.find? (kinds.contains ·.kind))
      (n.children.find? (kinds.contains ·.kind)) := by
  refine rel_mono ?_ (forall₂_find? (fun _ _ hc => hc.contains_kind hconstant hscope) h.children)
  rintro c d ⟨hcd, hc⟩
  refine hcd.alongside fun hkind => hconstant ?_
  rw [hkind] at hc
  simpa using hc

theorem argumentList? (h : m.Alongside names n) :
    Option.Rel (Alongside names) m.argumentList? n.argumentList? := by
  have hlist := h.find?_alongside ["argument_list"] (by decide) (by decide)
  simp only [List.contains_cons, List.contains_nil, Bool.or_false] at hlist
  exact rel_or (h.child?_alongside (by decide)) hlist

end Alongside

namespace Anchored

theorem receiver? (h : m.Anchored names n) : Option.Rel (Anchored names) m.receiver? n.receiver? := by
  rw [Node.receiver?, Node.receiver?, ← h.isCall_eq]
  split
  · next hcall => exact rel_mono (fun _ _ hcd => hcd.1) ((h.alongside_of_isCall hcall).child? "receiver")
  · exact .none

theorem block? (h : m.Anchored names n) : Option.Rel (Alongside names) m.block? n.block? := by
  rw [Node.block?, Node.block?, ← h.isCall_eq]
  split
  · next hcall =>
    have halong := h.alongside_of_isCall hcall
    exact rel_or (halong.child?_alongside (by decide)) (halong.find?_alongside _ (by decide) (by decide))
  · exact .none

theorem arguments (h : m.Anchored names n) : List.Forall₂ (Anchored names) m.arguments n.arguments := by
  rw [Node.arguments, Node.arguments, ← h.isCall_eq]
  split
  · next hcall =>
    have hlist := (h.alongside_of_isCall hcall).argumentList?
    generalize m.argumentList? = l, n.argumentList? = l' at hlist ⊢
    cases hlist with
    | none => exact .nil
    | some hl => exact filter_comments hl.children
  · exact .nil

end Anchored

def SameWords (x y : Option String) : Prop := ∀ w : String, 'T' ∉ w.toList → (x = some w ↔ y = some w)

theorem SameWords.beq_eq {x y : Option String} (h : SameWords x y) {w : String} (hw : 'T' ∉ w.toList) :
    (x == some w) = (y == some w) := by
  rw [Bool.eq_iff_iff, beq_iff_eq, beq_iff_eq]
  exact h w hw

theorem sameWords_of_text {s t : String} (h : Text.Anchored s t) : SameWords (some s) (some t) := by
  intro w hw
  rw [Option.some.injEq, Option.some.injEq]
  exact h.eq_iff hw

theorem Anchored.callName? (h : m.Anchored names n) : SameWords m.callName? n.callName? := by
  cases h with
  | lone hm _ _ hn =>
    have hm' : m.callName? = some "T" := by simp [Node.callName?, hm.1, hm.2.1]
    have hn' : n.callName? = none := by simp [Node.callName?, isCall, callKinds, hn.1]
    rw [hm', hn']
    intro w hw
    refine iff_of_false ?_ (Option.some_ne_none w).symm
    rintro ⟨⟩
    exact hw (by decide)
  | within hkind hplace htext hkey hparts =>
    have halong : m.Alongside names n := ⟨hkind, hplace, htext, hkey, hparts⟩
    rw [Node.callName?, Node.callName?, isCall, isCall, hkind]
    by_cases hname : (n.kind == "identifier" || n.kind == "constant") = true
    · rw [if_pos hname, if_pos hname]
      exact sameWords_of_text htext
    · rw [if_neg hname, if_neg hname]
      split
      · have hmethod := halong.child?_alongside (by decide : "method" ∉ headRoles)
        generalize m.child? "method" = x, n.child? "method" = y at hmethod ⊢
        cases hmethod with
        | none => exact fun _ _ => Iff.rfl
        | some hcd => exact sameWords_of_text hcd.text
      · exact fun _ _ => Iff.rfl

structure Link.Anchored (names : String → String → Prop) (l l' : Link) : Prop where
  name : SameWords l.name l'.name
  arguments : List.Forall₂ (Node.Anchored names) l.arguments l'.arguments

theorem Anchored.chain (h : m.Anchored names n) :
    Option.Rel (Anchored names) m.chain.1 n.chain.1 ∧ List.Forall₂ (Link.Anchored names) m.chain.2 n.chain.2 := by
  fun_induction Node.chain m generalizing n with
  | case1 m hcall r hr ih =>
    have hreceiver := h.receiver?
    rw [hr] at hreceiver
    generalize hr' : n.receiver? = x at hreceiver
    cases hreceiver with
    | some hrr =>
      rw [chain_of_receiver? (h.isCall_eq ▸ hcall) hr']
      obtain ⟨hroot, hlinks⟩ := ih hrr
      exact ⟨hroot, List.rel_append hlinks (.cons ⟨h.callName?, h.arguments⟩ .nil)⟩
  | case2 m hcall hr =>
    have hreceiver := h.receiver?
    rw [hr] at hreceiver
    generalize hr' : n.receiver? = x at hreceiver
    cases hreceiver with
    | none =>
      rw [chain_of_no_receiver (h.isCall_eq ▸ hcall) hr']
      exact ⟨.none, .cons ⟨h.callName?, h.arguments⟩ .nil⟩
  | case3 m hcall hid =>
    have hid' : n.kind == "identifier" := by rwa [← h.kind_beq (by decide) (by decide)]
    rw [chain_of_not_isCall (h.isCall_eq ▸ hcall), if_pos hid']
    exact ⟨.none, .cons ⟨sameWords_of_text h.text, .nil⟩ .nil⟩
  | case4 m hcall hid =>
    have hid' : ¬ n.kind == "identifier" := by rwa [← h.kind_beq (by decide) (by decide)]
    rw [chain_of_not_isCall (h.isCall_eq ▸ hcall), if_neg hid']
    exact ⟨.some h, .nil⟩

def SameName (names : String → String → Prop) (s t : String) : Prop := names s t ∧ Text.Anchored s t

theorem Alongside.keyName (h : m.Alongside names n) : Text.Anchored m.keyName n.keyName := by
  rw [Node.keyName, Node.keyName, symbolName?, symbolName?, h.kind]
  split
  · have hstart := h.text.dropStart (p := (· == ':')) (by decide)
    have hends := (hstart.dropStart (p := fun c => c == '"' || c == '\'') (by decide)).dropEnd
      (p := fun c => c == '"' || c == '\'') (by decide)
    exact hends.dropEnd (by decide)
  · exact h.text

def EntryAnchored (names : String → String → Prop) (e e' : String × Node) : Prop :=
  SameName names e.1 e'.1 ∧ e.2.Anchored names e'.2

theorem Anchored.pair? (h : m.Anchored names n) : Option.Rel (EntryAnchored names) m.pair? n.pair? := by
  rw [Node.pair?, Node.pair?, ← h.kind_beq (by decide) (by decide)]
  split
  · next hkind =>
    have halong := h.alongside_of_kind hkind (by decide)
    have hkey := halong.child? "key"
    have hkey' := halong.child?_alongside (by decide : "key" ∉ headRoles)
    have hvalue := halong.child? "value"
    generalize m.child? "key" = k, n.child? "key" = k', m.child? "value" = v, n.child? "value" = v'
      at hkey hkey' hvalue ⊢
    cases hkey' with
    | none => exact .none
    | some hk =>
      cases hvalue with
      | none => exact .none
      | some hv =>
        cases hkey with
        | some hkey => exact .some ⟨⟨hk.key hkey.2, hk.keyName⟩, hv.1⟩
  · exact .none

theorem Anchored.reference (h : m.Anchored names n) (hkind : m.kind ≠ "constant") :
    Option.Rel (Anchored names) m.reference.1 n.reference.1 ∧
      List.Forall₂ (Anchored names) m.reference.2 n.reference.2 := by
  have halong := h.alongside hkind
  have hobject := halong.child? "object"
  rw [Node.reference, Node.reference]
  generalize m.child? "object" = o, n.child? "object" = o' at hobject ⊢
  cases hobject with
  | none => exact ⟨forall₂_head? halong.children, filter_comments (forall₂_tail halong.children)⟩
  | some ho =>
    refine ⟨.some ho.1, forall₂_filter ?_ (forall₂_eraseP ?_ halong.parts)⟩
    · intro c d hcd
      rw [hcd.place.named, hcd.isComment_eq]
    · intro c d hcd
      rw [hcd.place.field]

theorem namedEntries_anchored {ms ns : List Node} (h : List.Forall₂ (Anchored names) ms ns) :
    List.Forall₂ (Anchored names) (namedEntries ms) (namedEntries ns) := by
  rcases h with _ | ⟨hmn, _ | ⟨hmn', hrest⟩⟩
  · exact .nil
  · simp only [namedEntries, ← hmn.kind_beq (by decide : "hash" ≠ "constant") (by decide)]
    split
    · next hhash => exact (hmn.alongside_of_kind hhash (by decide)).children
    · exact .cons hmn .nil
  · exact .cons hmn (.cons hmn' hrest)

end Node

namespace TypeExpr

/-- Types that differ by `::` in front of constants `T` in the texts they keep. The names of fields and
parameters are such texts too, and related as `names` says. -/
inductive Alike (names : String → String → Prop) : TypeExpr → TypeExpr → Prop
  | raw {s t : String} (h : Text.Anchored s t) : Alike names (.raw s) (.raw t)
  | boolean : Alike names .boolean .boolean
  | untyped : Alike names .untyped .untyped
  | nilable {t u : TypeExpr} (h : Alike names t u) : Alike names (.nilable t) (.nilable u)
  | union {ts us : List TypeExpr} (h : List.Forall₂ (Alike names) ts us) : Alike names (.union ts) (.union us)
  | intersection {ts us : List TypeExpr} (h : List.Forall₂ (Alike names) ts us) :
      Alike names (.intersection ts) (.intersection us)
  | tuple {ts us : List TypeExpr} (h : List.Forall₂ (Alike names) ts us) : Alike names (.tuple ts) (.tuple us)
  | collection (kind : Collection) {t u : TypeExpr} (h : Alike names t u) :
      Alike names (.collection kind t) (.collection kind u)
  | hash {k k' v v' : TypeExpr} (hkey : Alike names k k') (hvalue : Alike names v v') :
      Alike names (.hash k v) (.hash k' v')
  | generic {b b' : TypeExpr} {ts us : List TypeExpr} (hbase : Alike names b b')
      (h : List.Forall₂ (Alike names) ts us) : Alike names (.generic b ts) (.generic b' us)
  | record {fs gs : List (String × TypeExpr)}
      (hnames : List.Forall₂ (Node.SameName names) (fs.map (·.1)) (gs.map (·.1)))
      (h : List.Forall₂ (Alike names) (fs.map (·.2)) (gs.map (·.2))) : Alike names (.record fs) (.record gs)
  | proc {ps qs : List (Slot TypeExpr)} {r r' : Option TypeExpr}
      (hnames : List.Forall₂ (Node.SameName names) (ps.map (·.name)) (qs.map (·.name)))
      (hdefaults : ps.map (·.default) = qs.map (·.default))
      (h : List.Forall₂ (Alike names) (ps.map (·.type)) (qs.map (·.type)))
      (hresult : Option.Rel (Alike names) r r') : Alike names (.proc ps r) (.proc qs r')

end TypeExpr

namespace TypeLayer

inductive Alike (names : String → String → Prop) : TypeLayer → TypeLayer → Prop
  | raw {s t : String} (h : Text.Anchored s t) : Alike names (.raw s) (.raw t)
  | boolean : Alike names .boolean .boolean
  | untyped : Alike names .untyped .untyped
  | nilable {m n : Node} (h : m.Anchored names n) : Alike names (.nilable m) (.nilable n)
  | union {ms ns : List Node} (h : List.Forall₂ (Node.Anchored names) ms ns) : Alike names (.union ms) (.union ns)
  | intersection {ms ns : List Node} (h : List.Forall₂ (Node.Anchored names) ms ns) :
      Alike names (.intersection ms) (.intersection ns)
  | tuple {ms ns : List Node} (h : List.Forall₂ (Node.Anchored names) ms ns) : Alike names (.tuple ms) (.tuple ns)
  | collection (kind : Collection) {m n : Node} (h : m.Anchored names n) :
      Alike names (.collection kind m) (.collection kind n)
  | hash {k k' v v' : Node} (hkey : k.Anchored names k') (hvalue : v.Anchored names v') :
      Alike names (.hash k v) (.hash k' v')
  | generic {b b' : String} {ms ns : List Node} (hbase : Text.Anchored b b')
      (h : List.Forall₂ (Node.Anchored names) ms ns) : Alike names (.generic b ms) (.generic b' ns)
  | record {fs gs : List (String × Node)} (h : List.Forall₂ (Node.EntryAnchored names) fs gs) :
      Alike names (.record fs) (.record gs)
  | proc {ps qs : List (String × Node)} {r r' : Option Node}
      (h : List.Forall₂ (Node.EntryAnchored names) ps qs) (hresult : Option.Rel (Node.Anchored names) r r') :
      Alike names (.proc ps r) (.proc qs r')

variable {names : String → String → Prop} {t t' : TypeLayer}

theorem Alike.assemble (h : t.Alike names t') {f : Node → TypeExpr}
    (hf : ∀ m ∈ t.nodes, ∀ n, m.Anchored names n → (f m).Alike names (f n)) :
    (t.assemble f).Alike names (t'.assemble f) := by
  cases h with
  | raw h => exact .raw h
  | boolean => exact .boolean
  | untyped => exact .untyped
  | nilable h => exact .nilable (hf _ List.mem_cons_self _ h)
  | union h => exact .union (forall₂_map_of_mem h hf)
  | intersection h => exact .intersection (forall₂_map_of_mem h hf)
  | tuple h => exact .tuple (forall₂_map_of_mem h hf)
  | collection kind h => exact .collection kind (hf _ List.mem_cons_self _ h)
  | hash hkey hvalue => exact .hash (hf _ (by simp [nodes]) _ hkey) (hf _ (by simp [nodes]) _ hvalue)
  | generic hbase h => exact .generic (.raw hbase) (forall₂_map_of_mem h hf)
  | @record fs gs h =>
    refine .record ?_ ?_
    · rw [List.map_map, List.map_map]
      exact forall₂_map_of_mem h fun _ _ _ he => he.1
    · rw [List.map_map, List.map_map]
      exact forall₂_map_of_mem h fun e he _ hee => hf _ (List.mem_map_of_mem he) _ hee.2
  | @proc ps qs r r' h hresult =>
    refine .proc ?_ ?_ ?_ ?_
    · rw [List.map_map, List.map_map]
      exact forall₂_map_of_mem h fun _ _ _ he => he.1
    · simp [Function.comp_def, List.map_const', h.length_eq]
    · rw [List.map_map, List.map_map]
      exact forall₂_map_of_mem h fun e he _ hee =>
        hf _ (List.mem_append_left _ (List.mem_map_of_mem he)) _ hee.2
    · cases hresult with
      | none => exact .none
      | some hr => exact .some (hf _ (List.mem_append_right _ List.mem_cons_self) _ hr)

end TypeLayer

namespace Node

variable {names : String → String → Prop} {m n : Node}

theorem collectionOf?_without {s t : String} (h : Text.Anchored s t) :
    collectionOf? (Text.without s "::") = collectionOf? (Text.without t "::") := by
  have hpath (kind : Collection) : Text.IsPath ("T::" ++ kind.name) := by cases kind <;> decide
  have hsame (kind : Collection) :
      ("T::" ++ kind.name == Text.without s "::") = ("T::" ++ kind.name == Text.without t "::") := by
    rw [Bool.beq_comm, h.without_beq (hpath kind), Bool.beq_comm]
  simp only [collectionOf?, hsame]

theorem Anchored.referenceLayer (h : m.Anchored names n) (hkind : m.kind ≠ "constant") :
    m.referenceLayer.Alike names n.referenceLayer := by
  obtain ⟨htarget, hargs⟩ := h.reference hkind
  rw [Node.referenceLayer, Node.referenceLayer]
  generalize m.reference = x, n.reference = y at htarget hargs ⊢
  obtain ⟨target, args⟩ := x
  obtain ⟨target', args'⟩ := y
  cases htarget with
  | none => exact .raw h.text
  | @some target target' htarget =>
    have hbase := htarget.text
    simp only [collectionOf?_without hbase, hbase.without_beq (by decide : Text.IsPath "T::Hash")]
    cases collectionOf? (Text.without target'.text "::") with
    | none =>
      rcases hargs with _ | ⟨ha, _ | ⟨hb, _ | ⟨hc, hrest⟩⟩⟩
      · exact .generic hbase .nil
      · exact .generic hbase (.cons ha .nil)
      · dsimp only
        split
        · exact .hash ha hb
        · exact .generic hbase (.cons ha (.cons hb .nil))
      · exact .generic hbase (.cons ha (.cons hb (.cons hc hrest)))
    | some kind =>
      rcases hargs with _ | ⟨ha, _ | ⟨hb, hrest⟩⟩
      · exact .generic hbase .nil
      · exact .collection kind ha
      · exact .generic hbase (.cons ha (.cons hb hrest))

theorem procLayer?_alike {es es' : List (String × Node)} (hes : List.Forall₂ (EntryAnchored names) es es')
    {ls ls' : List Link} (hls : List.Forall₂ (Link.Anchored names) ls ls') :
    Option.Rel (TypeLayer.Alike names) (procLayer? es ls) (procLayer? es' ls') := by
  induction hls generalizing es es' with
  | nil => exact .none
  | @cons l l' ls ls' hl hls ih =>
    obtain ⟨name, args⟩ := l
    obtain ⟨name', args'⟩ := l'
    obtain ⟨hname, hargs⟩ := hl
    dsimp only at hname hargs
    unfold procLayer?
    rw [hname.beq_eq (by decide : 'T' ∉ "params".toList)]
    split
    · have hpairs := forall₂_mapM (fun _ _ hcd => hcd.pair?) (namedEntries_anchored hargs)
      generalize (namedEntries args).mapM Node.pair? = ps, (namedEntries args').mapM Node.pair? = ps' at hpairs ⊢
      cases hpairs with
      | none => exact .none
      | some hps => exact ih (List.rel_append hes hps)
    · rcases hargs with _ | ⟨ha, _ | ⟨hb, hrest⟩⟩ <;> rcases hls with _ | ⟨hl', hls⟩
      · dsimp only
        rw [hname.beq_eq (by decide : 'T' ∉ "void".toList)]
        split
        · exact .some (.proc hes .none)
        · exact .none
      · exact .none
      · dsimp only
        rw [hname.beq_eq (by decide : 'T' ∉ "returns".toList)]
        split
        · exact .some (.proc hes (.some ha))
        · exact .none
      · exact .none
      · exact .none
      · exact .none

theorem Anchored.chainLayer? (h : m.Anchored names n) :
    Option.Rel (TypeLayer.Alike names) m.chainLayer? n.chainLayer? := by
  obtain ⟨hroot, hlinks⟩ := h.chain
  rw [Node.chainLayer?, Node.chainLayer?]
  generalize m.chain = x, n.chain = y at hroot hlinks ⊢
  obtain ⟨root, links⟩ := x
  obtain ⟨root', links'⟩ := y
  dsimp only at hroot hlinks
  cases hroot with
  | none => exact .none
  | some hroot =>
    cases hlinks with
    | nil => exact .none
    | @cons l l' ls ls' hl hls =>
      obtain ⟨name, args⟩ := l
      obtain ⟨name', args'⟩ := l'
      obtain ⟨hname, hargs⟩ := hl
      dsimp only at hname hargs ⊢
      rw [hroot.text.without_beq (by decide : Text.IsPath "T")]
      split
      · rcases hls with _ | ⟨hl', hls⟩ <;> rcases hargs with _ | ⟨ha, hargs⟩
        · dsimp only
          rw [hname.beq_eq (by decide : 'T' ∉ "untyped".toList)]
          split
          · exact .some .untyped
          · exact .none
        · have hempty : ∀ {ms ns : List Node}, List.Forall₂ (Anchored names) ms ns → ms.isEmpty = ns.isEmpty := by
            rintro _ _ (_ | _) <;> rfl
          dsimp only
          rw [hname.beq_eq (by decide : 'T' ∉ "nilable".toList), hname.beq_eq (by decide : 'T' ∉ "any".toList),
            hname.beq_eq (by decide : 'T' ∉ "all".toList), hempty hargs]
          split
          · exact .some (.nilable ha)
          · split
            · exact .some (.union (.cons ha hargs))
            · split
              · exact .some (.intersection (.cons ha hargs))
              · exact .none
        · dsimp only
          rw [hname.beq_eq (by decide : 'T' ∉ "proc".toList)]
          split
          · exact procLayer?_alike .nil (.cons hl' hls)
          · exact .none
        · exact .none
      · exact .none

theorem Anchored.typeLayer (h : m.Anchored names n) : m.typeLayer.Alike names n.typeLayer := by
  have hconstant : (m.kind == "constant" || m.kind == "scope_resolution") =
      (n.kind == "constant" || n.kind == "scope_resolution") := by
    cases h with
    | lone hm _ _ hn => rw [hm.1, hn.1]; rfl
    | within hkind => rw [hkind]
  rw [Node.typeLayer, Node.typeLayer, hconstant, h.text.without_beq (by decide : Text.IsPath "T::Boolean"),
    h.kind_beq (by decide : "element_reference" ≠ "constant") (by decide),
    h.kind_beq (by decide : "array" ≠ "constant") (by decide),
    h.kind_beq (by decide : "hash" ≠ "constant") (by decide), h.isCall_eq]
  by_cases hc : (n.kind == "constant" || n.kind == "scope_resolution") = true
  · rw [if_pos hc, if_pos hc]
    split
    · exact .boolean
    · exact .raw h.text
  · rw [if_neg hc, if_neg hc]
    have halong : m.Alongside names n := h.alongside fun hkind => hc (by rw [← hconstant, hkind]; rfl)
    split
    · exact h.referenceLayer fun hkind => hc (by rw [← hconstant, hkind]; rfl)
    · split
      · exact .tuple (filter_comments halong.children)
      · split
        · have hfields := forall₂_mapM (fun _ _ hcd => hcd.pair?) (filter_comments halong.children)
          generalize (m.children.filter (!·.isComment)).mapM Node.pair? = fs,
            (n.children.filter (!·.isComment)).mapM Node.pair? = fs' at hfields ⊢
          cases hfields with
          | none => exact .raw h.text
          | some hfs => exact .record hfs
        · split
          · have hlayer := h.chainLayer?
            generalize m.chainLayer? = t, n.chainLayer? = t' at hlayer ⊢
            cases hlayer with
            | none => exact .raw h.text
            | some ht => exact ht
          · exact .raw h.text

end Node

namespace TypeExpr

variable {names : String → String → Prop}

theorem ofNode_alike {m n : Node} (h : m.Anchored names n) : (ofNode m).Alike names (ofNode n) := by
  rw [ofNode_eq, ofNode_eq]
  refine h.typeLayer.assemble fun c hc d hcd => ?_
  have hlt := Node.sizeOf_lt_of_mem_typeLayer hc
  exact ofNode_alike hcd
termination_by sizeOf m

end TypeExpr
end RubyStubs
