import RubyStubs.Proofs.Expression

namespace RubyStubs

namespace TypeExpr

def procHead : List Expr → Expr
  | [] => .send (.constant "T") "proc" []
  | params => .send (.send (.constant "T") "proc" []) "params" params

mutual

def expr : TypeExpr → Expr
  | .raw text => .constant text
  | .boolean => .constant "T::Boolean"
  | .untyped => .send (.constant "T") "untyped" []
  | .nilable t => .send (.constant "T") "nilable" [expr t]
  | .union ts => .send (.constant "T") "any" (exprs ts)
  | .intersection ts => .send (.constant "T") "all" (exprs ts)
  | .tuple ts => .array (exprs ts)
  | .collection k t => .reference (.constant ("T::" ++ k.name)) [expr t]
  | .hash k v => .reference (.constant "T::Hash") [expr k, expr v]
  | .generic base ts => .reference (expr base) (exprs ts)
  | .record fs => .hash (fieldExprs fs)
  | .proc ps result =>
    match result with
    | none => .send (procHead (slotExprs ps)) "void" []
    | some t => .send (procHead (slotExprs ps)) "returns" [expr t]

def exprs : List TypeExpr → List Expr
  | [] => []
  | t :: ts => expr t :: exprs ts

def fieldExprs : List (String × TypeExpr) → List Expr
  | [] => []
  | (k, t) :: fs => .pair k (expr t) :: fieldExprs fs

def slotExprs : List (Slot TypeExpr) → List Expr
  | [] => []
  | ⟨k, t, _⟩ :: ps => .pair k (expr t) :: slotExprs ps

end

def isReserved (base : String) (arity : Nat) : Bool :=
  ((Node.collectionOf? (Text.without base "::")).isSome && arity == 1) ||
    (Text.without base "::" == "T::Hash" && arity == 2)

mutual

/-- The text of the type says all of it: text kept verbatim is no other spelling of a type of the algebra,
the names in it are labels, and no parameter has a default. -/
def isReadable : TypeExpr → Bool
  | .raw text => Text.without text "::" != "T::Boolean"
  | .boolean | .untyped => true
  | .nilable t | .collection _ t => isReadable t
  | .union ts | .intersection ts => !ts.isEmpty && areReadable ts
  | .tuple ts => areReadable ts
  | .hash k v => isReadable k && isReadable v
  | .generic (.raw base) ts => !isReserved base ts.length && areReadable ts
  | .generic _ _ => false
  | .record fs => areReadableFields fs
  | .proc ps none => areReadableSlots ps
  | .proc ps (some t) => areReadableSlots ps && isReadable t

def areReadable : List TypeExpr → Bool
  | [] => true
  | t :: ts => isReadable t && areReadable ts

def areReadableFields : List (String × TypeExpr) → Bool
  | [] => true
  | (k, t) :: fs => Text.isLabel k && isReadable t && areReadableFields fs

def areReadableSlots : List (Slot TypeExpr) → Bool
  | [] => true
  | ⟨k, t, d⟩ :: ps => Text.isLabel k && d.isNone && isReadable t && areReadableSlots ps

end

theorem text_send {receiver : Expr} {name : String} {args : List Expr} (h : args ≠ []) :
    (Expr.send receiver name args).text =
      receiver.text ++ "." ++ name ++ "(" ++ commas (Expr.texts args) ++ ")" := by
  have hargs : ¬ args.isEmpty := by simpa using h
  rw [Expr.text, if_neg hargs]
  simp only [String.append_assoc]

theorem exprs_ne_nil {ts : List TypeExpr} (h : !ts.isEmpty) : exprs ts ≠ [] := by
  cases ts with
  | nil => simp at h
  | cons t ts => exact nofun

mutual

theorem text_expr : ∀ t : TypeExpr, t.isReadable → t.expr.text = t.rbi
  | .raw _, _ | .boolean, _ => rfl
  | .untyped, _ => by decide
  | .nilable t, h => by
    rw [expr, text_send (List.cons_ne_nil _ _), Expr.texts, text_expr t h]
    rfl
  | .union ts, h => by
    simp only [isReadable, Bool.and_eq_true] at h
    rw [expr, text_send (exprs_ne_nil h.1), texts_exprs ts h.2]
    rfl
  | .intersection ts, h => by
    simp only [isReadable, Bool.and_eq_true] at h
    rw [expr, text_send (exprs_ne_nil h.1), texts_exprs ts h.2]
    rfl
  | .tuple ts, h => by rw [expr, Expr.text, texts_exprs ts h, rbi]
  | .collection k t, h => by simp [expr, Expr.text, Expr.texts, rbi, commas, text_expr t h]
  | .hash k v, h => by
    simp only [isReadable, Bool.and_eq_true] at h
    simp [expr, Expr.text, Expr.texts, rbi, commas, text_expr k h.1, text_expr v h.2, String.append_assoc]
  | .generic (.raw base) ts, h => by
    simp only [isReadable, Bool.and_eq_true] at h
    rw [expr, Expr.text, texts_exprs ts h.2]
    rfl
  | .record fs, h => by rw [expr, Expr.text, texts_fieldExprs fs h, rbi]
  | .proc ps none, h => by
    rw [expr, Expr.text, text_procHead ps h, rbi]
    simp [String.append_assoc]
  | .proc ps (some t), h => by
    simp only [isReadable, Bool.and_eq_true] at h
    rw [expr, text_send (List.cons_ne_nil _ _), text_procHead ps h.1, Expr.texts, text_expr t h.2, rbi]
    simp [commas, Expr.texts, String.append_assoc]

theorem texts_exprs : ∀ ts : List TypeExpr, areReadable ts → Expr.texts (exprs ts) = rbiAll ts
  | [], _ => rfl
  | t :: ts, h => by
    simp only [areReadable, Bool.and_eq_true] at h
    rw [exprs, Expr.texts, rbiAll, text_expr t h.1, texts_exprs ts h.2]

theorem texts_fieldExprs : ∀ fs : List (String × TypeExpr), areReadableFields fs →
    Expr.texts (fieldExprs fs) = rbiFields fs
  | [], _ => rfl
  | (k, t) :: fs, h => by
    simp only [areReadableFields, Bool.and_eq_true] at h
    rw [fieldExprs, Expr.texts, rbiFields, Expr.text, text_expr t h.1.2, texts_fieldExprs fs h.2]

theorem text_procHead : ∀ ps : List (Slot TypeExpr), areReadableSlots ps →
    (procHead (slotExprs ps)).text =
      "T.proc" ++ if ps.isEmpty then "" else ".params(" ++ commas (rbiSlots ps) ++ ")"
  | [], _ => by decide
  | p :: ps, h => by
    have hslots := texts_slotExprs (p :: ps) h
    rw [slotExprs] at hslots ⊢
    rw [procHead, text_send (List.cons_ne_nil _ _), hslots]
    · simp only [List.isEmpty_cons, Bool.false_eq_true, ↓reduceIte, ← String.append_assoc]
      rfl
    · exact nofun

theorem texts_slotExprs : ∀ ps : List (Slot TypeExpr), areReadableSlots ps →
    Expr.texts (slotExprs ps) = rbiSlots ps
  | [], _ => rfl
  | ⟨k, t, d⟩ :: ps, h => by
    simp only [areReadableSlots, Bool.and_eq_true] at h
    rw [slotExprs, Expr.texts, rbiSlots, Expr.text, text_expr t h.1.2, texts_slotExprs ps h.2]

end

end TypeExpr

namespace Expr

variable {n : Node}

theorem Mirrors.typeLayer_constant {text : String} (h : Mirrors (.constant text) n) :
    n.typeLayer = if Text.without text "::" == "T::Boolean" then .boolean else .raw text := by
  obtain ⟨hkind, rfl⟩ := h
  rw [Node.typeLayer]
  rcases hkind with hk | hk <;> simp [hk]

theorem Mirrors.typeLayer_array {items : List Expr} (h : Mirrors (.array items) n) :
    ∃ ns, n.typeLayer = .tuple ns ∧ MirrorsAll items ns := by
  obtain ⟨hkind, hitems⟩ := h
  exact ⟨_, by simp [Node.typeLayer, hkind], hitems⟩

theorem Mirrors.typeLayer_reference {target : String} {args : List Expr}
    (h : Mirrors (.reference (.constant target) args) n) :
    ∃ o ns, n.typeLayer = n.referenceLayer ∧ n.reference = (some o, ns) ∧ o.text = target ∧
      MirrorsAll args ns := by
  obtain ⟨o, ns, href, htarget, hargs⟩ := h.reference
  exact ⟨o, ns, by simp [Node.typeLayer, h.1], href, htarget.2, hargs⟩

theorem typeLayer_of_isCall (h : n.isCall) : n.typeLayer = n.chainLayer?.getD (.raw n.text) := by
  have hkind : n.kind = "call" ∨ n.kind = "method_call" ∨ n.kind = "command_call" := by
    simpa [Node.isCall, Node.callKinds] using h
  rw [Node.typeLayer, h]
  rcases hkind with hk | hk | hk <;> simp [hk]

theorem without_T : Text.without "T" "::" = "T" := by decide

theorem Mirrors.chain_T {name : String} {args : List Expr} (h : Mirrors (.send (.constant "T") name args) n) :
    ∃ r ns, n.chain = (some r, [⟨some name, ns⟩]) ∧ r.text = "T" ∧ MirrorsAll args ns := by
  obtain ⟨r, ns, hr, hchain, hargs⟩ := h.chain_send
  rw [hr.chain_constant] at hchain
  exact ⟨r, ns, hchain, hr.2, hargs⟩

theorem namedEntries_of_pairs {ns : List Node} {ps : List (String × Node)} (h : ns.mapM Node.pair? = some ps) :
    Node.namedEntries ns = ns := by
  rcases ns with _ | ⟨a, _ | ⟨b, bs⟩⟩
  · rfl
  · have hkind : a.kind = "pair" := by
      by_contra hkind
      simp [List.mapM_cons, Node.pair?, hkind] at h
    simp [Node.namedEntries, hkind]
  · rfl

theorem Mirrors.procHead {params : List Expr} {P : List (String × Node) → Prop}
    (h : Mirrors (TypeExpr.procHead params) n)
    (hparams : ∀ ns, MirrorsAll params ns → ∃ ps, ns.mapM Node.pair? = some ps ∧ P ps) :
    ∃ root links ps, n.chain = (some root, ⟨some "proc", []⟩ :: links) ∧ root.text = "T" ∧ P ps ∧
      ∀ rest, Node.procLayer? [] (links ++ rest) = Node.procLayer? ps rest := by
  cases params with
  | nil =>
    obtain ⟨ps, hps, hP⟩ := hparams [] rfl
    cases hps
    obtain ⟨root, ns, hchain, hroot, rfl⟩ := Mirrors.chain_T h
    exact ⟨root, [], [], hchain, hroot, hP, fun _ => rfl⟩
  | cons param params =>
    obtain ⟨r, ns, hr, hchain, hns⟩ := Mirrors.chain_send h
    obtain ⟨root, _, hrchain, hroot, rfl⟩ := hr.chain_T
    obtain ⟨ps, hps, hP⟩ := hparams ns hns
    rw [hrchain] at hchain
    refine ⟨root, [⟨some "params", ns⟩], ps, hchain, hroot, hP, fun rest => ?_⟩
    simp [Node.procLayer?, namedEntries_of_pairs hps, hps]

end Expr

namespace TypeExpr

open RubyStubs.Expr

theorem chainLayer?_proc {n root : Node} {links : List Node.Link} {last : Node.Link}
    (hchain : n.chain = (some root, ⟨some "proc", []⟩ :: links ++ [last])) (hroot : root.text = "T") :
    n.chainLayer? = Node.procLayer? [] (links ++ [last]) := by
  cases links <;> simp [Node.chainLayer?, hchain, hroot, without_T]

theorem referenceLayer_of_not_reserved {n o : Node} {ns : List Node} (href : n.reference = (some o, ns))
    (h : isReserved o.text ns.length = false) : n.referenceLayer = .generic o.text ns := by
  simp only [isReserved, Bool.or_eq_false_iff, Bool.and_eq_false_iff] at h
  rw [Node.referenceLayer, href]
  simp only
  split
  · next k a hk =>
    simp [hk] at h
  · next a b hk =>
    have hbase : ¬ Text.without o.text "::" == "T::Hash" := by simpa using h.2
    rw [if_neg hbase]
  · rfl

mutual

theorem ofNode_of_mirrors : ∀ (t : TypeExpr) (n : Node), t.isReadable → t.expr.Mirrors n → ofNode n = t
  | .raw text, n, h, hn => by
    have htext : ¬ Text.without text "::" == "T::Boolean" := by simpa [isReadable] using h
    rw [ofNode_eq, hn.typeLayer_constant, if_neg htext]
    rfl
  | .boolean, n, _, hn => by
    rw [ofNode_eq, hn.typeLayer_constant]
    rfl
  | .untyped, n, _, hn => by
    obtain ⟨r, ns, hchain, hr, rfl⟩ := hn.chain_T
    rw [ofNode_eq, typeLayer_of_isCall hn.1.1]
    simp [Node.chainLayer?, hchain, hr, without_T, TypeLayer.assemble]
  | .nilable t, n, h, hn => by
    obtain ⟨r, ns, hchain, hr, m, _, rfl, hm, rfl⟩ := hn.chain_T
    rw [ofNode_eq, typeLayer_of_isCall hn.1.1]
    simp [Node.chainLayer?, hchain, hr, without_T, TypeLayer.assemble, ofNode_of_mirrors t m h hm]
  | .union ts, n, h, hn => by
    simp only [isReadable, Bool.and_eq_true] at h
    obtain ⟨r, ns, hchain, hr, hns⟩ := hn.chain_T
    have hts := ofNodes_of_mirrors ts ns h.2 hns
    rw [ofNode_eq, typeLayer_of_isCall hn.1.1]
    rcases ns with _ | ⟨m, ms⟩
    · simp [← hts] at h
    · simp [Node.chainLayer?, hchain, hr, without_T, TypeLayer.assemble, ← hts]
  | .intersection ts, n, h, hn => by
    simp only [isReadable, Bool.and_eq_true] at h
    obtain ⟨r, ns, hchain, hr, hns⟩ := hn.chain_T
    have hts := ofNodes_of_mirrors ts ns h.2 hns
    rw [ofNode_eq, typeLayer_of_isCall hn.1.1]
    rcases ns with _ | ⟨m, ms⟩
    · simp [← hts] at h
    · simp [Node.chainLayer?, hchain, hr, without_T, TypeLayer.assemble, ← hts]
  | .tuple ts, n, h, hn => by
    obtain ⟨ns, hlayer, hns⟩ := hn.typeLayer_array
    rw [ofNode_eq, hlayer]
    exact congrArg tuple (ofNodes_of_mirrors ts ns h hns)
  | .collection k t, n, h, hn => by
    obtain ⟨o, ns, hlayer, href, htext, m, _, rfl, hm, rfl⟩ := hn.typeLayer_reference
    have hkind : Node.collectionOf? (Text.without ("T::" ++ k.name) "::") = some k := by cases k <;> decide
    rw [ofNode_eq, hlayer]
    simp [Node.referenceLayer, href, htext, hkind, TypeLayer.assemble, ofNode_of_mirrors t m h hm]
  | .hash k v, n, h, hn => by
    simp only [isReadable, Bool.and_eq_true] at h
    obtain ⟨o, ns, hlayer, href, htext, a, _, rfl, ha, b, _, rfl, hb, rfl⟩ := hn.typeLayer_reference
    have hbase : Text.without "T::Hash" "::" = "T::Hash" := by decide
    have hkind : Node.collectionOf? "T::Hash" = none := by decide
    rw [ofNode_eq, hlayer]
    simp [Node.referenceLayer, href, htext, hbase, hkind, TypeLayer.assemble, ofNode_of_mirrors k a h.1 ha,
      ofNode_of_mirrors v b h.2 hb]
  | .generic (.raw base) ts, n, h, hn => by
    simp only [isReadable, Bool.and_eq_true, Bool.not_eq_true'] at h
    obtain ⟨o, ns, hlayer, href, htext, hns⟩ := hn.typeLayer_reference
    have hts := ofNodes_of_mirrors ts ns h.2 hns
    rw [ofNode_eq, hlayer, referenceLayer_of_not_reserved href]
    · simp [TypeLayer.assemble, htext, hts]
    · rw [htext, ← List.length_map (f := ofNode), hts]
      exact h.1
  | .record fs, n, h, hn => by
    obtain ⟨ps, hps, hfs⟩ := fields_of_mirrors fs _ h hn.2
    rw [ofNode_eq]
    simp [Node.typeLayer, hn.1, hps, TypeLayer.assemble, hfs]
  | .proc ss none, n, h, hn => by
    obtain ⟨r, ns, hr, hchain, rfl⟩ := hn.chain_send
    obtain ⟨root, links, ps, hrchain, hroot, hss, hlayer⟩ :=
      hr.procHead fun ns hns => slots_of_mirrors ss ns h hns
    rw [hrchain] at hchain
    rw [ofNode_eq, typeLayer_of_isCall hn.1.1, chainLayer?_proc hchain hroot, hlayer]
    simp [Node.procLayer?, TypeLayer.assemble, hss]
  | .proc ss (some t), n, h, hn => by
    simp only [isReadable, Bool.and_eq_true] at h
    obtain ⟨r, ns, hr, hchain, m, _, rfl, hm, rfl⟩ := hn.chain_send
    obtain ⟨root, links, ps, hrchain, hroot, hss, hlayer⟩ :=
      hr.procHead fun ns hns => slots_of_mirrors ss ns h.1 hns
    rw [hrchain] at hchain
    rw [ofNode_eq, typeLayer_of_isCall hn.1.1, chainLayer?_proc hchain hroot, hlayer]
    simp [Node.procLayer?, TypeLayer.assemble, hss, ofNode_of_mirrors t m h.2 hm]

theorem fields_of_mirrors : ∀ (fs : List (String × TypeExpr)) (ns : List Node), areReadableFields fs →
    MirrorsAll (fieldExprs fs) ns →
      ∃ ps, ns.mapM Node.pair? = some ps ∧ ps.map (fun p => (p.1, ofNode p.2)) = fs
  | [], ns, _, hns => by
    cases hns
    exact ⟨[], rfl, rfl⟩
  | (k, t) :: fs, ns, h, hns => by
    simp only [areReadableFields, Bool.and_eq_true] at h
    obtain ⟨m, ms, rfl, hm, hms⟩ := hns
    obtain ⟨v, hpair, hv⟩ := hm.pair? h.1.1
    obtain ⟨ps, hps, hfs⟩ := fields_of_mirrors fs ms h.2 hms
    refine ⟨(k, v) :: ps, ?_, ?_⟩
    · simp [List.mapM_cons, hpair, hps]
    · rw [List.map_cons, ofNode_of_mirrors t v h.1.2 hv, hfs]

theorem slots_of_mirrors : ∀ (ss : List (Slot TypeExpr)) (ns : List Node), areReadableSlots ss →
    MirrorsAll (slotExprs ss) ns →
      ∃ ps, ns.mapM Node.pair? = some ps ∧
        ps.map (fun p => ({ name := p.1, type := ofNode p.2 } : Slot TypeExpr)) = ss
  | [], ns, _, hns => by
    cases hns
    exact ⟨[], rfl, rfl⟩
  | ⟨k, t, d⟩ :: ss, ns, h, hns => by
    simp only [areReadableSlots, Bool.and_eq_true, Option.isNone_iff_eq_none] at h
    obtain ⟨m, ms, rfl, hm, hms⟩ := hns
    obtain ⟨v, hpair, hv⟩ := hm.pair? h.1.1.1
    obtain ⟨ps, hps, hss⟩ := slots_of_mirrors ss ms h.2 hms
    refine ⟨(k, v) :: ps, ?_, ?_⟩
    · simp [List.mapM_cons, hpair, hps]
    · rw [List.map_cons, ofNode_of_mirrors t v h.1.2 hv, hss, h.1.1.2]

theorem ofNodes_of_mirrors : ∀ (ts : List TypeExpr) (ns : List Node), areReadable ts →
    MirrorsAll (exprs ts) ns → ns.map ofNode = ts
  | [], ns, _, hns => by
    cases hns
    rfl
  | t :: ts, ns, h, hns => by
    simp only [areReadable, Bool.and_eq_true] at h
    obtain ⟨m, ms, rfl, hm, hms⟩ := hns
    rw [List.map_cons, ofNode_of_mirrors t m h.1 hm, ofNodes_of_mirrors ts ms h.2 hms]

end

theorem ofText_of_mirrors {read : Reader} {text : String} {t : TypeExpr} {n : Node} (ht : t.isReadable)
    (hbroken : (read text).broken = false) (hn : (read text).children.filter (!·.isComment) = [n])
    (hmirrors : t.expr.Mirrors n) : ofText read text = t := by
  rw [ofText]
  simp only [hn, hbroken]
  exact ofNode_of_mirrors t n ht hmirrors

/-- A type is written as an expression that has syntax nodes to mirror it, and every one of them denotes
the type again; so does the text, if it is read as such a node and nothing else. -/
theorem ofNode_written (t : TypeExpr) (h : t.isReadable) :
    t.expr.text = t.rbi ∧ (∃ n, t.expr.Mirrors n) ∧ (∀ n, t.expr.Mirrors n → ofNode n = t) ∧
      ∀ (read : Reader) (n : Node), (read t.rbi).broken = false →
        (read t.rbi).children.filter (!·.isComment) = [n] → t.expr.Mirrors n → ofText read t.rbi = t :=
  ⟨text_expr t h, ⟨_, mirrors_tree t.expr⟩, fun n hn => ofNode_of_mirrors t n h hn,
    fun _ _ hbroken hn hmirrors => ofText_of_mirrors h hbroken hn hmirrors⟩

def nestedProc : TypeExpr :=
  .proc [⟨"x", .nilable (.raw "::A::B"), none⟩, ⟨"y", .hash (.raw "String") .boolean, none⟩]
    (some (.generic (.raw "Box") [.union [.tuple [.raw "A"], .record [("k", .untyped)]]]))

theorem ofNode_written_nested_proc :
    nestedProc.isReadable ∧
      ofText (fun text => .made "program" text [nestedProc.expr.tree]) nestedProc.rbi = nestedProc := by
  have hreadable : nestedProc.isReadable := by decide
  refine ⟨hreadable, (ofNode_written nestedProc hreadable).2.2.2 _ nestedProc.expr.tree rfl ?_ ?_⟩
  · exact Node.filter_proper (trees_proper [nestedProc.expr])
  · exact mirrors_tree nestedProc.expr

end TypeExpr
end RubyStubs
