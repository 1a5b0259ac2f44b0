import RubyStubs.Proofs.AnchoredReading
import RubyStubs.Proofs.TypeRoutes
import RubyStubs.Stub.Convert
import Mathlib.Algebra.Order.BigOperators.Group.List
import Mathlib.Algebra.Order.Group.Nat
import Mathlib.Algebra.Ring.Nat

namespace RubyStubs

variable {names : String → String → Prop}

namespace Node

variable {m n : Node}

mutual

/-- The texts of the parts of each node stand in its text, one after another. -/
def isLaid : Node → Bool
  | ⟨_, text, _, _, _, _, _, parts⟩ =>
    (parts.flatMap (·.text.toList)).isSublist text.toList && areLaid parts

def areLaid : List Node → Bool
  | [] => true
  | c :: cs => isLaid c && areLaid cs

end

def weight (n : Node) : Nat := n.text.toList.countP (· != ':')

theorem areLaid_eq_all (cs : List Node) : areLaid cs = cs.all isLaid := by
  induction cs with
  | nil => rfl
  | cons c cs ih => rw [areLaid, ih, List.all_cons]

theorem isLaid_iff : n.isLaid ↔
    (n.parts.flatMap (·.text.toList)).Sublist n.text.toList ∧ ∀ c ∈ n.parts, c.isLaid := by
  obtain ⟨kind, text, line, field, named, missing, broken, parts⟩ := n
  rw [isLaid, areLaid_eq_all, Bool.and_eq_true, List.isSublist_iff_sublist, List.all_eq_true]

theorem isLaid_of_mem {c : Node} (h : n.isLaid) (hc : c ∈ n.parts) : c.isLaid := (isLaid_iff.mp h).2 c hc

theorem sum_weight_le (h : n.isLaid) : (n.parts.map weight).sum ≤ n.weight := by
  have hle := (isLaid_iff.mp h).1.countP_le (p := (· != ':'))
  rw [List.countP_flatMap] at hle
  exact hle

theorem weight_le {c : Node} (h : n.isLaid) (hc : c ∈ n.parts) : c.weight ≤ n.weight := by
  have hsum : c.weight ≤ (n.parts.map weight).sum := List.le_sum_of_mem (List.mem_map_of_mem hc)
  exact hsum.trans (sum_weight_le h)

theorem add_weight_le {c d : Node} (h : n.isLaid) (hc : c ∈ n.parts) (hd : d ∈ n.parts) (hcd : c ≠ d) :
    c.weight + d.weight ≤ n.weight := by
  refine le_trans ?_ (sum_weight_le h)
  generalize n.parts = cs at hc hd
  induction cs with
  | nil => cases hc
  | cons x cs ih =>
    rw [List.map_cons, List.sum_cons]
    rcases List.mem_cons.mp hc with rfl | hc' <;> rcases List.mem_cons.mp hd with rfl | hd'
    · exact absurd rfl hcd
    · have hle : d.weight ≤ (cs.map weight).sum := List.le_sum_of_mem (List.mem_map_of_mem hd')
      omega
    · have hle : c.weight ≤ (cs.map weight).sum := List.le_sum_of_mem (List.mem_map_of_mem hc')
      omega
    · have hle := ih hc' hd'
      omega

def letCall? (n : Node) : Option (Node × Node) :=
  match n.chain, n.arguments with
  | (some root, [link]), [_, t] => if link.name == some "let" then some (root, t) else none
  | _, _ => none

def letParts? (tree : Node) : Option (Node × Node) :=
  match tree.broken, tree.children with
  | false, [n] => n.letCall?
  | _, _ => none

def letHead? (tree : Node) : Option String := tree.letParts?.map (·.1.text)

theorem Anchored.letCall? (h : m.Anchored names n) :
    Option.Rel (fun x y => x.1.Anchored names y.1 ∧ x.2.Anchored names y.2) m.letCall? n.letCall? := by
  obtain ⟨hroot, hlinks⟩ := h.chain
  have hargs := h.arguments
  rw [Node.letCall?, Node.letCall?]
  generalize m.chain = x, n.chain = y, m.arguments = xs, n.arguments = ys at hroot hlinks hargs ⊢
  obtain ⟨root, links⟩ := x
  obtain ⟨root', links'⟩ := y
  dsimp only at hroot hlinks
  cases hroot with
  | none => exact .none
  | some hroot =>
    rcases hlinks with _ | ⟨hl, _ | ⟨_, _⟩⟩
    · exact .none
    · rcases hargs with _ | ⟨_, _ | ⟨ht, _ | ⟨_, _⟩⟩⟩
      · exact .none
      · exact .none
      · dsimp only
        rw [hl.name.beq_eq (by decide)]
        split
        · exact .some ⟨hroot, ht⟩
        · exact .none
      · exact .none
    · exact .none

theorem letCall?_of_constant (h : n.kind = "constant") : n.letCall? = none := by
  have hcall : ¬ n.isCall := by simp [isCall, callKinds, h]
  have hchain := chain_of_not_isCall hcall
  rw [if_neg (by simp [h])] at hchain
  rw [letCall?, hchain]

theorem callName?_of_isCall (h : n.isCall) : n.callName? = (n.child? "method").map (·.text) := by
  have hkind : (n.kind == "identifier" || n.kind == "constant") = false := by
    simp only [isCall, callKinds, List.contains_iff_mem, List.mem_cons, List.not_mem_nil, or_false] at h
    rcases h with h | h | h <;> rw [h] <;> rfl
  rw [callName?, hkind, if_neg Bool.false_ne_true, if_pos h]

theorem links_ne_nil (h : n.isCall) : n.chain.2 ≠ [] := by
  cases hr : n.receiver? with
  | none =>
    rw [chain_of_no_receiver h hr]
    exact List.cons_ne_nil _ _
  | some r =>
    rw [chain_of_receiver? h hr]
    exact List.append_ne_nil_of_right_ne_nil _ (List.cons_ne_nil _ _)

theorem eq_of_chain_singleton {r : Node} {l : Link} (h : n.chain = (some r, [l])) :
    n.isCall ∧ n.receiver? = some r ∧ l = ⟨n.callName?, n.arguments⟩ := by
  have hcall : n.isCall := by
    by_contra hcall
    rw [chain_of_not_isCall hcall] at h
    split at h <;> cases h
  refine ⟨hcall, ?_⟩
  cases hr : n.receiver? with
  | none =>
    rw [chain_of_no_receiver hcall hr] at h
    cases h
  | some r' =>
    rw [chain_of_receiver? hcall hr, Prod.mk.injEq] at h
    obtain ⟨hroot, hlinks⟩ := h
    have hnil : r'.chain.2 = [] ∧ [(⟨n.callName?, n.arguments⟩ : Link)] = [l] := by
      simpa [List.append_eq_singleton_iff] using hlinks
    obtain ⟨hnil, hl⟩ := hnil
    have hcall' : ¬ r'.isCall := fun hc => links_ne_nil hc hnil
    rw [chain_of_not_isCall hcall'] at hroot
    split at hroot
    · cases hroot
    · cases hroot
      exact ⟨rfl, (List.cons.inj hl).1.symm⟩

theorem letCall?_eq_some {r t : Node} (h : n.letCall? = some (r, t)) :
    n.child? "receiver" = some r ∧ (∃ c, n.child? "method" = some c ∧ c.text = "let") ∧ t ∈ n.arguments := by
  unfold letCall? at h
  split at h
  · next root link first second hchain hargs =>
    obtain ⟨hcall, hreceiver, rfl⟩ := eq_of_chain_singleton hchain
    split at h
    · next hname =>
      cases h
      rw [receiver?, if_pos hcall] at hreceiver
      refine ⟨hreceiver, ?_, by rw [hargs]; simp⟩
      rw [callName?_of_isCall hcall, beq_iff_eq, Option.map_eq_some_iff] at hname
      exact hname
    · cases h
  · cases h

theorem letCall?_of_receiver {r first t : Node} (hcall : n.isCall) (hr : n.receiver? = some r)
    (hroot : r.isCall = false ∧ r.kind ≠ "identifier") (hname : n.callName? = some "let")
    (hargs : n.arguments = [first, t]) : n.letCall? = some (r, t) := by
  have hchain : r.chain = (some r, []) := by
    rw [chain_of_not_isCall (by simp [hroot.1]), if_neg (by simpa using hroot.2)]
  rw [letCall?, chain_of_receiver? hcall hr, hchain, hname, hargs]
  rfl

theorem Anchored.letParts? (h : m.Anchored names n) :
    Option.Rel (fun x y => x.1.Anchored names y.1 ∧ x.2.Anchored names y.2) m.letParts? n.letParts? := by
  cases h with
  | lone hm _ _ hn =>
    have hm' : m.letParts? = none := by
      have hchildren : m.children = [] := by rw [children, hm.2.2, List.filter_nil]
      rw [Node.letParts?, hchildren]
      cases m.broken <;> rfl
    have hn' : n.letParts? = none := by
      rw [Node.letParts?, hn.2.2]
      cases n.broken with
      | true => rfl
      | false => exact letCall?_of_constant hm.1
    rw [hm', hn']
    exact .none
  | within hkind hplace htext hkey hparts =>
    have halong : m.Alongside names n := ⟨hkind, hplace, htext, hkey, hparts⟩
    have hchildren := halong.children
    rw [Node.letParts?, Node.letParts?, hplace.broken]
    generalize m.children = ms, n.children = ns at hchildren ⊢
    cases n.broken with
    | true => exact .none
    | false =>
      rcases hchildren with _ | ⟨hcd, _ | ⟨_, _⟩⟩
      · exact .none
      · exact hcd.letCall?
      · exact .none

theorem exists_part_of_mem_arguments {a : Node} (h : a ∈ n.arguments) : ∃ l ∈ n.parts, a ∈ l.parts := by
  rw [arguments] at h
  split at h
  · split at h
    · next l hl =>
      refine ⟨l, ?_, mem_parts_of_mem_children (List.mem_filter.mp h).1⟩
      rw [argumentList?, Option.or_eq_some_iff] at hl
      obtain hfield | ⟨-, hkind⟩ := hl
      · exact mem_parts_of_child? hfield
      · exact mem_parts_of_mem_children (List.mem_of_find?_eq_some hkind)
    · cases h
  · cases h

theorem weight_lt_of_letCall? {t r : Node} (h : n.isLaid) (ht : n.letCall? = some (r, t))
    (hr : r.text = "T") : t.weight < n.weight := by
  obtain ⟨hreceiver, ⟨c, hc, hname⟩, harg⟩ := letCall?_eq_some ht
  have hrn : r ∈ n.parts := mem_parts_of_child? hreceiver
  have hcn : c ∈ n.parts := mem_parts_of_child? hc
  have hr1 : r.weight = 1 := by rw [weight, hr]; decide
  have hc3 : c.weight = 3 := by rw [weight, hname]; decide
  obtain ⟨l, hl, htl⟩ := exists_part_of_mem_arguments harg
  have htl' : t.weight ≤ l.weight := weight_le (isLaid_of_mem h hl) htl
  by_cases hlr : l = r
  · have hcn' := weight_le h hcn
    rw [hlr] at htl'
    omega
  · have hsum := add_weight_le h hl hrn hlr
    omega

theorem weight_lt_of_letParts? {t r : Node} (h : n.isLaid) (ht : n.letParts? = some (r, t))
    (hr : r.text = "T") : t.weight < n.weight := by
  unfold Node.letParts? at ht
  split at ht
  · next c _ hchildren =>
    have hc : c ∈ n.parts := mem_parts_of_mem_children (by rw [hchildren]; exact List.mem_singleton_self c)
    exact (weight_lt_of_letCall? (isLaid_of_mem h hc) ht hr).trans_le (weight_le h hc)
  · cases ht

end Node

namespace Convert

variable {read : Reader} {w w' : String}

theorem letType?_eq (read : Reader) (value : String) :
    letType? read value =
      (read value).letParts?.bind fun x => if x.1.text == "T" then some (.ofNode x.2) else none := by
  rw [letType?, Node.letParts?]
  generalize (read value).broken = broken, (read value).children = children
  cases broken with
  | true => rfl
  | false =>
    rcases children with _ | ⟨n, _ | ⟨_, _⟩⟩
    · rfl
    · dsimp only
      rw [Node.letCall?]
      generalize n.chain = chain, n.arguments = args
      obtain ⟨_ | root, links⟩ := chain
      · rfl
      · rcases links with _ | ⟨link, _ | ⟨_, _⟩⟩
        · rfl
        · rcases args with _ | ⟨_, _ | ⟨t, _ | ⟨_, _⟩⟩⟩
          · rfl
          · rfl
          · by_cases hname : link.name = some "let" <;> simp [hname]
          · rfl
        · rfl
    · rfl

theorem constantType_of_letParts? {r t : Node} (h : (read w).letParts? = some (r, t)) :
    constantType read (.text w) = if r.text == "T" then .ofNode t else .raw w := by
  rw [constantType, letType?_eq, h, Option.bind_some]
  split <;> rfl

theorem constantType_of_no_letParts (h : (read w).letParts? = none) :
    constantType read (.text w) = .raw w := by
  rw [constantType, letType?_eq, h, Option.bind_none, Option.getD_none]

theorem not_alike_raw {t : Node} {s : String} (h : t.weight < s.toList.countP (· != ':')) :
    ¬ (TypeExpr.ofNode t).Alike names (.raw s) := by
  intro halike
  rw [TypeExpr.ofNode_eq] at halike
  cases hlayer : t.typeLayer with
  | raw text =>
    rw [hlayer] at halike
    cases halike with
    | raw hs =>
      rw [← hs.countP_ne_colon, Node.typeLayer_raw hlayer, Node.weight] at h
      exact lt_irrefl _ h
  | _ =>
    rw [hlayer] at halike
    cases halike

theorem constantType_alike_iff (h : (read w).Anchored names (read w')) (hvalue : Text.Anchored w w')
    (hlaid : (read w).isLaid) (htext : (read w).text.toList.Sublist w.toList) :
    (constantType read (.text w)).Alike names (constantType read (.text w')) ↔
      ¬ ((read w).letHead? = some "T" ∧ (read w').letHead? = some "::T") := by
  have hparts := h.letParts?
  rw [Node.letHead?, Node.letHead?]
  cases hm : (read w).letParts? with
  | none =>
    rw [hm] at hparts
    generalize hn : (read w').letParts? = x at hparts
    cases hparts
    rw [constantType_of_no_letParts hm, constantType_of_no_letParts hn]
    exact iff_of_true (.raw hvalue) (by simp)
  | some x =>
    obtain ⟨r, t⟩ := x
    rw [hm] at hparts
    generalize hn : (read w').letParts? = y at hparts
    cases hparts with
    | @some _ y hxy =>
      obtain ⟨r', t'⟩ := y
      obtain ⟨hr, ht⟩ := hxy
      dsimp only at hr ht
      rw [constantType_of_letParts? hm, constantType_of_letParts? hn]
      by_cases hlone : r.text = "T"
      · have hanchored := hr.text
        rw [hlone] at hanchored
        obtain hlone' | hcolons := hanchored.eq_or_eq_of_lone
        · simp only [hlone, hlone', beq_self_eq_true, ↓reduceIte, Option.map_some]
          exact iff_of_true (TypeExpr.ofNode_alike ht) (by decide)
        · have hne : ("::T" == "T") = false := by decide
          simp only [hlone, hcolons, hne, beq_self_eq_true, ↓reduceIte, Bool.false_eq_true, Option.map_some]
          refine iff_of_false (not_alike_raw ?_) (by simp)
          have hshort := Node.weight_lt_of_letParts? hlaid hm hlone
          rw [← hvalue.countP_ne_colon]
          exact hshort.trans_le htext.countP_le
      · have hlone' : r'.text ≠ "T" := fun heq => hlone (heq ▸ hr.text).eq_of_eq_lone
        simp only [hlone, hlone', beq_iff_eq, ↓reduceIte, Option.map_some, Option.some.injEq,
          false_and, not_false_eq_true, iff_true]
        exact .raw hvalue

theorem constantType_of_colons (h : (read w).letHead? = some "::T") :
    constantType read (.text w) = .raw w := by
  rw [Node.letHead?, Option.map_eq_some_iff] at h
  obtain ⟨⟨r, t⟩, hparts, hr⟩ := h
  rw [constantType_of_letParts? hparts, if_neg (by rw [hr]; decide)]

end Convert

/-- Whether constants `T` have `::` in front of them changes neither the type that a node denotes, but for
the texts it keeps, nor what is a sig, nor the variant of a class or module. It does not change the type of
a constant either, unless it stands in front of the `T` of the constant's own `T.let`: then the value is
kept as text. -/
theorem Node.anchored_recognized_iff {m n : Node} (h : m.Anchored names n) :
    (TypeExpr.ofNode m).Alike names (TypeExpr.ofNode n) ∧ m.isSig = n.isSig ∧
      (∀ (u v : Source) (o : ReadOptions) (p : NodePath), u.file = v.file → u.node p = .ok m → v.node p = .ok n →
        m.kind = "class" ∨ m.kind = "module" → (∀ b ∈ o.enumBases ++ o.structBases, Text.IsPath b) →
        Outcome ScopeKind.Alike (u.scopeKind o m (m.statements p)) (v.scopeKind o n (n.statements p))) ∧
      ∀ (read : Reader) (w w' : String), read w = m → read w' = n → Text.Anchored w w' → m.isLaid →
        m.text.toList.Sublist w.toList →
        ((Convert.constantType read (.text w)).Alike names (Convert.constantType read (.text w')) ↔
            ¬ (m.letHead? = some "T" ∧ n.letHead? = some "::T")) ∧
          (n.letHead? = some "::T" → Convert.constantType read (.text w') = .raw w') := by
  refine ⟨TypeExpr.ofNode_alike h, h.isSig_eq, ?_, ?_⟩
  · intro u v o p hfile hm hn hkind hbases
    have hat : Source.AnchoredAt names u v p m n := ⟨hfile, hm, hn, h⟩
    refine hat.scopeKind ?_ hbases
    obtain hkind | hkind := hkind <;> rw [hkind] <;> decide
  · rintro read w w' rfl rfl hvalue hlaid htext
    exact ⟨Convert.constantType_alike_iff h hvalue hlaid htext, Convert.constantType_of_colons⟩

theorem Node.anchored_recognized_iff_inside :
    let untyped (head : Node) (text : String) : Node :=
      made "call" text [head, (made "identifier" "untyped" []).playing "method"]
    let value (type : Node) (arguments text : String) : Node :=
      made "program" text
        [made "call" text
          [head "receiver", (made "identifier" "let" []).playing "method",
            (made "argument_list" arguments [made "integer" "1" [], type]).playing "arguments"]]
    let derived (head : Node) (base text : String) : Node :=
      made "class" text
        [(made "constant" "A" []).playing "name",
          (made "superclass" ("< " ++ base)
            [made "scope_resolution" base [head, (made "constant" "Struct" []).playing "name"]]).playing "superclass"]
    let read : Reader := fun w =>
      if w == "T.let(1, T.untyped)" then value (untyped (head "receiver") "T.untyped") "(1, T.untyped)" w
      else value (untyped (anchoredHead "receiver") "::T.untyped") "(1, ::T.untyped)" w
    let u : Source := { root := derived (head "scope") "T::Struct" "class A < T::Struct; end", file := "a.rb" }
    let v : Source :=
      { root := derived (anchoredHead "scope") "::T::Struct" "class A < ::T::Struct; end", file := "a.rb" }
    (Convert.constantType read (.text "T.let(1, T.untyped)")).Alike Eq
        (Convert.constantType read (.text "T.let(1, ::T.untyped)")) ∧
      Outcome ScopeKind.Alike (u.scopeKind {} u.root (u.root.statements .root))
        (v.scopeKind {} v.root (v.root.statements .root)) := by
  intro untyped value derived read u v
  have hunchanged : (read "T.let(1, ::T.untyped)").letParts? =
      some (head "receiver", untyped (anchoredHead "receiver") "::T.untyped") :=
    letCall?_of_receiver rfl rfl ⟨rfl, by decide⟩ rfl rfl
  have hrefl (n : Node) : n.Anchored Eq n := .refl (fun _ => rfl) n
  have htype : Text.Anchored "T.untyped" "::T.untyped" := by
    simpa using Text.Anchored.of_append "" ".untyped" (by decide) (by decide)
  have harguments : Text.Anchored "(1, T.untyped)" "(1, ::T.untyped)" := by
    simpa using Text.Anchored.of_append "(1, " ".untyped)" (by decide) (by decide)
  have hvalue : Text.Anchored "T.let(1, T.untyped)" "T.let(1, ::T.untyped)" := by
    simpa using Text.Anchored.of_append "T.let(1, " ".untyped)" (by decide) (by decide)
  have hbase : Text.Anchored "T::Struct" "::T::Struct" := by
    simpa using Text.Anchored.of_append "" "::Struct" (by decide) (by decide)
  have hsuperclass : Text.Anchored ("< " ++ "T::Struct") ("< " ++ "::T::Struct") := by
    simpa using Text.Anchored.of_append "< " "::Struct" (by decide) (by decide)
  have hclass : Text.Anchored "class A < T::Struct; end" "class A < ::T::Struct; end" := by
    simpa using Text.Anchored.of_append "class A < " "::Struct; end" (by decide) (by decide)
  have huntyped : (untyped (head "receiver") "T.untyped").Anchored Eq
      (untyped (anchoredHead "receiver") "::T.untyped") :=
    (made_alongside "call" htype (.cons (head_anchored (by decide)) (.cons (hrefl _) .nil))).anchored
  have hvalues : (read "T.let(1, T.untyped)").Anchored Eq (read "T.let(1, ::T.untyped)") := by
    refine (made_alongside "program" hvalue (.cons (made_alongside "call" hvalue ?_).anchored .nil)).anchored
    refine .cons (hrefl _) (.cons (hrefl _) (.cons ?_ .nil))
    exact ((made_alongside _ harguments (.cons (hrefl _) (.cons huntyped .nil))).playing (by decide)).anchored
  have hroots : u.root.Anchored Eq v.root := by
    refine (made_alongside "class" hclass (.cons (hrefl _) (.cons ?_ .nil))).anchored
    refine ((made_alongside "superclass" hsuperclass (.cons ?_ .nil)).playing (by decide)).anchored
    exact (made_alongside _ hbase (.cons (head_anchored (by decide)) (.cons (hrefl _) .nil))).anchored
  have hlaid : (read "T.let(1, T.untyped)").isLaid := by decide
  have hbases : ∀ b ∈ ({} : ReadOptions).enumBases ++ ({} : ReadOptions).structBases, Text.IsPath b := by decide
  refine ⟨?_, ?_⟩
  · have hiff := ((anchored_recognized_iff hvalues).2.2.2 read _ _ rfl rfl hvalue hlaid (.refl _)).1
    refine hiff.mpr ?_
    rintro ⟨-, hanchored⟩
    rw [letHead?, hunchanged] at hanchored
    exact absurd (Option.some.inj hanchored) (by decide)
  · exact (anchored_recognized_iff hroots).2.2.1 u v {} .root rfl rfl rfl (.inl rfl) hbases

/-- `::` in front of the `T` of `T.let` hides the type from the conversion, which keeps the value instead. -/
theorem Convert.anchored_let_kept_as_text :
    let integer : Node := .made "constant" "Integer" []
    let value (head : Node) (text : String) : Node :=
      .made "program" text
        [.made "call" text
          [head, (Node.made "identifier" "let" []).playing "method",
            (Node.made "argument_list" "(1, Integer)" [.made "integer" "1" [], integer]).playing "arguments"]]
    let read : Reader := fun w =>
      value (if w == "T.let(1, Integer)" then .head "receiver" else .anchoredHead "receiver") w
    (read "T.let(1, Integer)").Anchored Eq (read "::T.let(1, Integer)") ∧
      Convert.constantType read (.text "T.let(1, Integer)") = .raw "Integer" ∧
      Convert.constantType read (.text "::T.let(1, Integer)") = .raw "::T.let(1, Integer)" ∧
      ¬ TypeExpr.Alike Eq (.raw "Integer") (.raw "::T.let(1, Integer)") := by
  intro integer value read
  have hleft : (read "T.let(1, Integer)").letParts? = some (.head "receiver", integer) :=
    Node.letCall?_of_receiver rfl rfl ⟨rfl, by decide⟩ rfl rfl
  have hright : (read "::T.let(1, Integer)").letParts? = some (.anchoredHead "receiver", integer) :=
    Node.letCall?_of_receiver rfl rfl ⟨rfl, by decide⟩ rfl rfl
  have hvalue : Text.Anchored "T.let(1, Integer)" "::T.let(1, Integer)" := by
    simpa using Text.Anchored.of_append "" ".let(1, Integer)" (by decide) (by decide)
  have hrefl (n : Node) : n.Anchored Eq n := .refl (fun _ => rfl) n
  refine ⟨?_, ?_, ?_, ?_⟩
  · refine (Node.made_alongside "program" hvalue (.cons (Node.made_alongside "call" hvalue ?_).anchored .nil)).anchored
    exact .cons (Node.head_anchored (by decide)) (.cons (hrefl _) (.cons (hrefl _) .nil))
  · have htype : Convert.constantType read (.text "T.let(1, Integer)") = TypeExpr.ofNode integer :=
      Convert.constantType_of_letParts? hleft
    have hplain : (Text.without "Integer" "::" == "T::Boolean") = false := by decide
    rw [htype, TypeExpr.ofNode_eq]
    simp [Node.typeLayer, integer, Node.made, hplain, TypeLayer.assemble]
  · exact Convert.constantType_of_letParts? hright
  · rintro (⟨hraw⟩)
    exact absurd hraw.countP_ne_colon (by decide)

end RubyStubs
