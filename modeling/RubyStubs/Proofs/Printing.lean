import RubyStubs.Proofs.Interface

namespace RubyStubs

namespace Text

theorem blanks_append (m n : Int) : ∃ k, ∀ s, blanks m ++ (blanks n ++ s) = blanks k ++ s := by
  refine ⟨m.toNat + n.toNat, fun s => ?_⟩
  have hsum : ((m.toNat : Int) + n.toNat).toNat = m.toNat + n.toNat := by omega
  rw [← String.append_assoc, blanks, blanks, blanks, hsum, ← String.ofList_append, List.replicate_append_replicate]

theorem trimEnd_comment (s : String) : ∃ t, trimEnd ("# " ++ s) = "#" ++ t := by
  refine ⟨dropEnd isBlank (" " ++ s), ?_⟩
  have hsplit : ("# " ++ s).toList.reverse = (" " ++ s).toList.reverse ++ ['#'] := by simp
  have hmark : (['#'] : List Char).dropWhile isBlank = ['#'] := by decide
  have hdrop : ("# " ++ s).toList.reverse.dropWhile isBlank =
      (" " ++ s).toList.reverse.dropWhile isBlank ++ ['#'] := by
    rw [hsplit, List.dropWhile_append]
    split_ifs with hempty
    · rw [hmark, List.isEmpty_iff.mp hempty, List.nil_append]
    · rfl
  rw [trimEnd, dropEnd, dropEnd, hdrop, List.reverse_append, String.ofList_append]
  rfl

end Text

namespace Printed

variable {ss ss' : List Stmt} {ls ls' : List String}

theorem append (h : Printed ss ls) (h' : Printed ss' ls') : Printed (ss ++ ss') (ls ++ ls') := by
  induction h with
  | nil => exact h'
  | empty n _ ih => exact .empty n ih
  | comment n text _ ih => exact .comment n text ih
  | line n hl _ ih => exact .line n hl ih
  | sig n m hlines hinner _ ih => simpa using Printed.sig n m hlines hinner ih
  | block n m hinner _ _ ih => simpa using Printed.block n m hinner ih

theorem eq_nil_of_nil (h : Printed ss []) : ss = [] := by
  cases h
  rfl

theorem one {s : Stmt} {l : String} (n : Int) (h : s.line? = some l) : Printed [s] [Text.blanks n ++ l] :=
  .line n h .nil

theorem comments (h : Printed ss ls) (st : Style) (level : Int) (cs : List String) :
    Printed ss (Layout.comments st level cs ++ ls) := by
  induction cs with
  | nil => exact h
  | cons c cs ih =>
    obtain ⟨text, htext⟩ := Text.trimEnd_comment c
    rw [Layout.comments, List.map_cons, List.cons_append, Style.indented, htext]
    exact .comment _ text ih

theorem indent (h : Printed ss ls) (k : Int) : Printed ss (ls.map (Text.blanks k ++ ·)) := by
  induction h with
  | nil => exact .nil
  | empty n _ ih =>
    obtain ⟨m, hm⟩ := Text.blanks_append k n
    rw [List.map_cons, show Text.blanks k ++ Text.blanks n = Text.blanks m by simpa using hm ""]
    exact .empty m ih
  | comment n text _ ih =>
    obtain ⟨m, hm⟩ := Text.blanks_append k n
    rw [List.map_cons, hm]
    exact .comment m text ih
  | line n hl _ ih =>
    obtain ⟨m, hm⟩ := Text.blanks_append k n
    rw [List.map_cons, hm]
    exact .line m hl ih
  | @sig n m isFinal chain lines inner hlines hinner _ ls _ ih =>
    obtain ⟨n', hn⟩ := Text.blanks_append k n
    obtain ⟨m', hm⟩ := Text.blanks_append k m
    have hinner' : Indented lines (inner.map (Text.blanks k ++ ·)) := by
      refine List.forall₂_map_right_iff.mpr (hinner.imp ?_)
      rintro l _ ⟨j, rfl⟩
      obtain ⟨j', hj⟩ := Text.blanks_append k j
      exact ⟨j', hj l⟩
    rw [List.map_cons, List.map_append, List.map_cons, hn, hm]
    exact .sig n' m' hlines hinner' ih
  | block n m _ _ ihinner ih =>
    obtain ⟨n', hn⟩ := Text.blanks_append k n
    obtain ⟨m', hm⟩ := Text.blanks_append k m
    rw [List.map_cons, List.map_append, List.map_cons, hn, hm]
    exact .block n' m' ihinner ih

theorem addBlock (h : Printed ss ls) (h' : Printed ss' ls') : Printed (ss ++ ss') (Layout.addBlock ls ls') := by
  unfold Layout.addBlock
  split_ifs with hempty
  · rw [List.isEmpty_iff] at hempty
    subst hempty
    rw [h.eq_nil_of_nil]
    exact h'
  · rw [List.append_assoc]
    exact h.append (.empty 0 h')

theorem foldl_addBlock {sss : List (List Stmt)} {lss : List (List String)} (hs : List.Forall₂ Printed sss lss)
    (h : Printed ss ls) : Printed (ss ++ sss.flatten) (lss.foldl Layout.addBlock ls) := by
  induction hs generalizing ss ls with
  | nil => simpa using h
  | cons hhead _ ih =>
    rw [List.flatten_cons, ← List.append_assoc, List.foldl_cons]
    exact ih (h.addBlock hhead)

theorem joinSections {sss : List (List Stmt)} {lss : List (List String)} (hs : List.Forall₂ Printed sss lss) :
    Printed sss.flatten (Layout.joinSections lss) := by
  -- A section without lines has no statements, so leaving it out loses none.
  have hkept : ∃ kept, List.Forall₂ Printed kept (lss.filter (!·.isEmpty)) ∧ kept.flatten = sss.flatten := by
    induction hs with
    | nil => exact ⟨[], .nil, rfl⟩
    | @cons ss ls sss lss hhead _ ih =>
      obtain ⟨kept, hkept, hflatten⟩ := ih
      cases ls with
      | nil => exact ⟨kept, hkept, by rw [List.flatten_cons, hhead.eq_nil_of_nil, hflatten, List.nil_append]⟩
      | cons l ls => exact ⟨ss :: kept, .cons hhead hkept, by rw [List.flatten_cons, List.flatten_cons, hflatten]⟩
  obtain ⟨kept, hkept, hflatten⟩ := hkept
  rw [← hflatten]
  exact foldl_addBlock hkept .nil

end Printed

theorem intercalate_append (sep : String) (xs : List String) {ys : List String} (h : ys ≠ []) :
    sep.intercalate (xs ++ ys) = String.join (xs.map (· ++ sep)) ++ sep.intercalate ys := by
  induction xs with
  | nil => simp
  | cons x xs ih =>
    have hrest : xs ++ ys ≠ [] := by simp [h]
    rw [List.cons_append, String.intercalate_cons_of_ne_nil hrest, ih, List.map_cons, String.join_cons]
    simp only [String.append_assoc]

namespace Rbi

theorem qualifiers_eq_map (m : Method) : m.qualifiers = m.qualifierCalls.map Expr.callText := by
  have hflag (b : Bool) (name : String) :
      (if b then [name] else []) = (if b then [((name, []) : Expr.Call)] else []).map Expr.callText := by
    cases b <;> simp [Expr.callText]
  have htypes : (if m.typeParameters.isEmpty then []
      else ["type_parameters(" ++ TypeExpr.commas (m.typeParameters.map (":" ++ ·)) ++ ")"]) =
      (if m.typeParameters.isEmpty then []
        else [(("type_parameters", m.typeParameters.map .symbol) : Expr.Call)]).map Expr.callText := by
    cases hempty : m.typeParameters.isEmpty with
    | true => rfl
    | false =>
      simp [Expr.callText, Expr.texts_eq_map, hempty, Function.comp_def, Expr.text, ← String.append_assoc]
  rw [Method.qualifiers, Method.qualifierCalls, hflag, hflag, hflag, hflag, htypes]
  simp only [List.map_append]

theorem callText_resultCall (m : Method) : Expr.callText m.resultCall = resultCall m := by
  cases h : m.result <;>
    simp [Method.resultCall, resultCall, Expr.callText, Expr.texts, Expr.text, TypeExpr.commas, h,
      ← String.append_assoc]

theorem texts_pairs (ps : List Parameter) : Expr.texts (ps.map Parameter.pair) = ps.map Parameter.inSig := by
  rw [Expr.texts_eq_map, List.map_map]
  rfl

theorem paramsCall_eq_map (m : Method) :
    m.paramsCall.map Expr.callText = if m.parameters.isEmpty then []
      else ["params(" ++ TypeExpr.commas (m.parameters.map Parameter.inSig) ++ ")"] := by
  unfold Method.paramsCall
  cases hempty : m.parameters.isEmpty with
  | true => rfl
  | false => simp [Expr.callText, texts_pairs, hempty, ← String.append_assoc]

theorem text_sigChain (m : Method) :
    (Expr.chained (m.qualifierCalls ++ m.paramsCall ++ [m.resultCall])).text =
      ".".intercalate (m.qualifiers ++ (if m.parameters.isEmpty then []
        else ["params(" ++ TypeExpr.commas (m.parameters.map Parameter.inSig) ++ ")"]) ++ [resultCall m]) := by
  rw [Expr.text_chained (by simp), List.map_append, List.map_append, ← qualifiers_eq_map, paramsCall_eq_map,
    List.map_singleton, callText_resultCall]

theorem broken_withCommas (p : String) (ps : List String) (rest : String) :
    Broken (TypeExpr.commas (p :: ps) ++ (")" ++ rest)) (withCommas (p :: ps) ++ [")" ++ rest]) := by
  induction ps generalizing p with
  | nil =>
    rw [TypeExpr.commas, String.intercalate_singleton]
    exact .closing p (.whole _)
  | cons q qs ih =>
    rw [TypeExpr.commas, String.intercalate_cons_cons, String.append_assoc]
    exact .comma p (ih q)

theorem broken_sigChain (m : Method) (h : m.parameters ≠ []) :
    Broken (Expr.chained (m.qualifierCalls ++ m.paramsCall ++ [m.resultCall])).text
      ((String.join (m.qualifiers.map (· ++ ".")) ++ "params(") ::
        (withCommas (m.parameters.map Parameter.inSig) ++ [")." ++ resultCall m])) := by
  obtain ⟨p, ps, hp⟩ := List.exists_cons_of_ne_nil h
  have htail : Broken (TypeExpr.commas (m.parameters.map Parameter.inSig) ++ (")" ++ ("." ++ resultCall m)))
      (withCommas (m.parameters.map Parameter.inSig) ++ [")" ++ ("." ++ resultCall m)]) := by
    rw [hp]
    exact broken_withCommas p.inSig (ps.map Parameter.inSig) ("." ++ resultCall m)
  have hclose : ")." ++ resultCall m = ")" ++ ("." ++ resultCall m) := by
    rw [← String.append_assoc]
    rfl
  have hopen : String.join (m.qualifiers.map (· ++ ".")) ++ "params(" =
      String.join (m.qualifiers.map (· ++ ".")) ++ "params" ++ "(" := by
    rw [String.append_assoc]
    rfl
  have htext : (Expr.chained (m.qualifierCalls ++ m.paramsCall ++ [m.resultCall])).text =
      String.join (m.qualifiers.map (· ++ ".")) ++ "params" ++ "(" ++
        (TypeExpr.commas (m.parameters.map Parameter.inSig) ++ (")" ++ ("." ++ resultCall m))) := by
    rw [text_sigChain, List.append_assoc, intercalate_append _ _ (by simp), if_neg (by simpa using h), ← hclose]
    simp [String.append_assoc]
  rw [htext, hclose, hopen]
  exact .opened _ htail

theorem printed_sig (st : Style) (level : Int) (m : Method) : Printed [m.sigStmt] (sig st level m) := by
  unfold sig
  simp only
  split_ifs with hbreak
  · have hparameters : m.parameters ≠ [] := by
      intro hnil
      simp [hnil] at hbreak
    have hinner (lines : List String) : Indented lines (lines.map (st.indented (level + 2))) :=
      List.forall₂_map_right_iff.mpr (List.forall₂_same.mpr fun _ _ => ⟨_, rfl⟩)
    have hlast : Indented [")." ++ resultCall m] [st.indented (level + 1) (")." ++ resultCall m)] :=
      .cons ⟨_, rfl⟩ .nil
    have hall := fun isFinal => @Printed.sig (level * st.tabSize) (level * st.tabSize) isFinal _ _ _
      (broken_sigChain m hparameters)
      (.cons ⟨(level + 1) * st.tabSize, rfl⟩ (List.rel_append (hinner _) hlast)) [] [] .nil
    simpa [sigBlock, Style.indented, Method.sigStmt, Stmt.sigWord, sigWord] using hall m.isFinal
  · refine .line (level * st.tabSize) ?_ .nil
    rw [Method.sigStmt, Stmt.line?, text_sigChain, sigLine]
    simp
    rfl

theorem onDefinition_eq {p : Parameter} (h : p.isDeclared) : p.onDefinition = p.formal.text := by
  simp only [Parameter.isDeclared, Bool.and_eq_true, beq_iff_eq] at h
  have hname : p.name = p.formal.markedName := h.1.1.1.2
  have hkind : p.formal.kind = p.kind := rfl
  have hdefault : p.formal.default = p.default := rfl
  rw [Formal.text, ← hname, hkind, hdefault, Parameter.onDefinition]
  cases p.default <;> cases p.kind <;> simp [String.append_assoc]

theorem printed_definition (st : Style) (level : Int) (name : String) {m : Method} (h : m.isDeclared) :
    Printed [.definition m.classLevel name (m.parameters.map Parameter.formal)]
      [st.indented level (definition name m)] := by
  have hparameters : ∀ p ∈ m.parameters, p.isDeclared := by
    simp only [Method.isDeclared, Bool.and_eq_true] at h
    exact List.all_eq_true.mp h.1.1.1.1
  have htexts : m.parameters.map Parameter.onDefinition = (m.parameters.map Parameter.formal).map Formal.text := by
    rw [List.map_map]
    exact List.map_congr_left fun p hp => onDefinition_eq (hparameters p hp)
  refine .one _ ?_
  rw [Stmt.line?, Stmt.definitionText, ← htexts, List.isEmpty_map]
  rfl

theorem printed_eigen {ss : List Stmt} {ls : List String} (h : Printed ss ls) (st : Style) (level : Int)
    (classLevel : Bool) : Printed (inSingleton classLevel ss) (eigen st level classLevel ls) := by
  cases classLevel with
  | false => exact h
  | true => exact .block _ _ (h.indent st.tabSize) .nil

theorem printed_command (st : Style) (level : Int) {c : BareCall} {text : String} (h : c.text = text) :
    Printed [.command c] [st.indented level text] := .one _ (by rw [Stmt.line?, h])

theorem text_mixin (k : MixinKind) (target : String) : (BareCall.mixin k target).text = mixinWord k ++ target := by
  cases k <;> simp [BareCall.text, BareCall.name, BareCall.args, Expr.texts, Expr.text, TypeExpr.commas, mixinWord]

theorem text_accessor (k : AttributeKind) (name : String) :
    (BareCall.accessor k name).text = "attr_" ++ k.label ++ " :" ++ name := by
  cases k <;> simp [BareCall.text, BareCall.name, BareCall.args, Expr.texts, Expr.text, TypeExpr.commas,
    AttributeKind.label, ← String.append_assoc]

theorem text_field (f : StructField) : (BareCall.field f).text = f.call := by
  obtain ⟨name, type, optional, immutable, default, factory⟩ := f
  apply String.toList_inj.mp
  cases optional <;> cases immutable <;> cases default <;> cases factory <;>
    simp [BareCall.text, BareCall.name, BareCall.args, BareCall.options, Expr.texts, Expr.text, TypeExpr.commas,
      StructField.call]

theorem printed_member (st : Style) (level : Int) {m : Member} {top : Bool} (h : m.isDeclared top) :
    Printed m.stmts (member st level m) := by
  obtain ⟨name, body, comments⟩ := m
  match body with
  | .method b => exact (printed_sig st level b).append (printed_definition st level name h)
  | .attribute k b =>
    refine printed_eigen ?_ st level b.classLevel
    exact (printed_sig st level b).append (printed_command st level (text_accessor k name))
  | .constant v classLevel => exact printed_eigen (.one _ rfl) st level classLevel
  | .mixin k target => exact printed_command st level (text_mixin k target)
  | .code _ | .bare => exact absurd h Bool.false_ne_true

theorem printed_lines {α : Type} {stmt : α → Stmt} {text : α → String} (st : Style) (level : Int)
    (h : ∀ x, (stmt x).line? = some (text x)) (xs : List α) :
    Printed (xs.map stmt) (xs.map fun x => st.indented level (text x)) := by
  induction xs with
  | nil => exact .nil
  | cons x xs ih => exact .line _ (h x) ih

theorem printed_markers (st : Style) (level : Int) (h : ClassHeader) :
    Printed (Scope.markStmts h) (markers st level h) := by
  have hif (b : Bool) (m : Mark) :
      Printed (if b then [.mark m] else []) (if b then [st.indented level m.word] else []) := by
    cases b with
    | false => exact .nil
    | true => exact .one _ rfl
  exact (hif h.isAbstract .isAbstract).append (hif h.isFinal .isFinal)

theorem text_enumerator (e : String × Option String) :
    (Scope.enumeratorStmt e).line? = some (enumerator e) := by
  obtain ⟨name, _ | literal⟩ := e
  · simp [Scope.enumeratorStmt, Stmt.line?, enumerator, Expr.text, String.append_assoc]
  · apply congrArg some
    apply String.toList_inj.mp
    simp [enumerator, Expr.text, Expr.texts, TypeExpr.commas]

theorem printed_sections (st : Style) (level : Int) (s : Scope) :
    List.Forall₂ Printed (Scope.sections s.kind) (sections st level s) := by
  unfold Scope.sections sections
  cases s.kind with
  | plain => exact .nil
  | ofModule i =>
    refine .cons ?_ .nil
    cases i with
    | false => exact .nil
    | true => exact .one _ rfl
  | ofClass h => exact .cons (printed_markers st level h) .nil
  | ofEnum h es =>
    refine .cons (printed_markers st level h.toHeader) (.cons ?_ .nil)
    exact .block _ _ (printed_lines st (level + 1) text_enumerator es) .nil
  | ofStruct h fs =>
    refine .cons (printed_markers st level h.toHeader) (.cons ?_ .nil)
    exact printed_lines st level (fun f => by rw [Stmt.line?, text_field]) fs

theorem printed_mixins (st : Style) (level : Int) (s : Scope) :
    Printed s.mixinStmts (Layout.mixins st level s) := by
  have hkind (k : MixinKind) (ts : List String) :
      Printed (ts.map fun t => .command (.mixin k t)) (ts.map fun t => st.indented level (mixinWord k ++ t)) :=
    printed_lines st level (fun t => by rw [Stmt.line?, text_mixin]) ts
  exact (hkind .included s.included).append (hkind .extended s.extended)

theorem opening_eq {o : ReadOptions} {s : Scope} (h : s.kind.isDeclared o) : opening s = s.opening.text := by
  have hclass (header : ClassHeader) (hh : header.superclass.all (!·.isEmpty)) :
      classOpening s header = (Opening.ofClass s.name header.superclass).text := by
    unfold classOpening
    cases hsuper : header.superclass with
    | none => rfl
    | some c =>
      rw [hsuper] at hh
      have hempty : ¬ c.isEmpty := by simpa using hh
      simp only [if_neg hempty]
      rfl
  unfold opening Scope.opening
  cases hk : s.kind with
  | plain => rw [hk] at h; cases h
  | ofModule i => rfl
  | ofClass header =>
    rw [hk] at h
    refine hclass header ?_
    cases hsuper : header.superclass with
    | none => rfl
    | some c =>
      simp only [ScopeKind.isDeclared, hsuper, Option.all_some, isSuperclass, Bool.and_eq_true] at h
      exact h.1.1.1
  | ofEnum header _ =>
    rw [hk] at h
    simp only [ScopeKind.isDeclared, isSuperclass, Bool.and_eq_true] at h
    exact hclass header.toHeader h.1.1
  | ofStruct header _ =>
    rw [hk] at h
    simp only [ScopeKind.isDeclared, isSuperclass, Bool.and_eq_true] at h
    exact hclass header.toHeader h.1.1.1.1

theorem scope_eq {o : ReadOptions} {s : Scope} (h : s.kind.isDeclared o) (st : Style) (level : Int)
    (blocks : Int → List (String × List String)) :
    Layout.scope rbi st level s blocks = Layout.comments st level s.comments ++
      Layout.framed st level (opening s)
        (sections st (level + 1) s ++ [Layout.body st (level + 1) s (blocks (level + 1))]) := by
  unfold Layout.scope
  split
  · next hk =>
    rw [hk] at h
    cases h
  · rfl

theorem printed_body {st : Style} (hst : st.sorted = false) (level : Int) (s : Scope) {sss : List (List Stmt)}
    {blocks : List (String × List String)} (h : List.Forall₂ Printed sss (blocks.map (·.2))) :
    Printed (s.mixinStmts ++ sss.flatten) (Layout.body st level s blocks) := by
  have hfold := (printed_mixins st level s).foldl_addBlock h
  unfold Layout.body Layout.ordered
  rw [hst, if_neg Bool.false_ne_true]
  rwa [List.foldl_map] at hfold

mutual

theorem printed_child {st : Style} (hst : st.sorted = false) {o : ReadOptions} {top : Bool} :
    ∀ (d : Decl) (level : Int), d.isDeclared o top → Printed d.stmts (Layout.child rbi st d level "")
  | .member m, level, h => by
    rw [Decl.stmts, Layout.child]
    exact (printed_member st level h).comments st level m.comments
  | .scope s ds, level, h => by
    simp only [Decl.isDeclared, Scope.isDeclared, Bool.and_eq_true] at h
    have hkind : s.kind.isDeclared o := h.1.1.1.1.2
    have hplain : (s.kind == .plain && !s.name.isEmpty) = false := by
      cases hk : s.kind with
      | plain => rw [hk] at hkind; cases hkind
      | _ => rfl
    have hname : Layout.qualify "" s = s := by simp [Layout.qualify]
    have hbody := printed_body hst (level + 1) s (printed_blocks hst ds (level + 1) h.2)
    have hinner := Printed.joinSections (List.rel_append (printed_sections st (level + 1) s) (.cons hbody .nil))
    rw [Layout.child, if_neg (by simp [hplain]), hname, scope_eq hkind]
    refine Printed.comments ?_ st level s.comments
    rw [List.flatten_append, List.flatten_singleton, ← Decl.stmtsAll_eq_flatten] at hinner
    rw [Layout.framed, opening_eq hkind, Decl.stmts]
    exact .block _ _ hinner .nil

theorem printed_blocks {st : Style} (hst : st.sorted = false) {o : ReadOptions} {top : Bool} :
    ∀ (ds : List Decl) (level : Int), Decl.areDeclared o top ds →
      List.Forall₂ Printed (ds.map Decl.stmts) ((Layout.blocks rbi st ds level "").map (·.2))
  | [], level, _ => .nil
  | d :: ds, level, h => by
    simp only [Decl.areDeclared, Bool.and_eq_true] at h
    rw [Layout.blocks]
    exact .cons (printed_child hst d level h.1) (printed_blocks hst ds level h.2)

end

theorem member_ne_bare {m : Member} {top : Bool} (h : m.isDeclared top) : (m.body == .bare) = false := by
  obtain ⟨name, body, comments⟩ := m
  match body with
  | .method _ | .attribute _ _ | .constant _ _ | .mixin _ _ | .code _ => rfl
  | .bare => cases h

mutual

theorem not_hasBare {o : ReadOptions} {top : Bool} : ∀ d : Decl, d.isDeclared o top → d.hasBare = false
  | .member _, h => member_ne_bare h
  | .scope s ds, h => by
    simp only [Decl.isDeclared, Bool.and_eq_true] at h
    exact not_hasBareIn ds h.2

theorem not_hasBareIn {o : ReadOptions} {top : Bool} :
    ∀ ds : List Decl, Decl.areDeclared o top ds → Decl.hasBareIn ds = false
  | [], _ => rfl
  | d :: ds, h => by
    simp only [Decl.areDeclared, Bool.and_eq_true] at h
    rw [Decl.hasBareIn, not_hasBare d h.1, not_hasBareIn ds h.2]
    rfl

end

theorem lines_eq_intercalate (l : String) (ls : List String) :
    String.join ((l :: ls).map (· ++ "\n")) = "\n".intercalate (l :: ls) ++ "\n" := by
  induction ls generalizing l with
  | nil => simp
  | cons k ks ih =>
    rw [List.map_cons, String.join_cons, ih, String.intercalate_cons_cons]
    simp only [String.append_assoc]

theorem write_eq_ok {st : Style} (hst : st.sorted = false) (strictness : String) {o : ReadOptions} {s : Scope}
    {ds : List Decl} (h : Decl.isInterface o (.scope s ds)) :
    ∃ text, write st strictness (.scope s ds) = .ok text ∧ WrittenAs (Decl.stmtsAll ds) text := by
  simp only [Decl.isInterface, Bool.and_eq_true, beq_iff_eq] at h
  obtain ⟨hs, hds⟩ := h
  have hmixins : s.mixinStmts = [] := by
    rw [hs]
    rfl
  have hbody := printed_body hst 0 s (printed_blocks hst ds 0 hds)
  rw [hmixins, List.nil_append, ← Decl.stmtsAll_eq_flatten] at hbody
  have hprogram : Printed (Decl.stmtsAll ds) (Layout.program rbi st (.scope s ds)) :=
    hbody.comments st 0 s.comments
  have hbare : (Decl.scope s ds).hasBare = false := not_hasBareIn ds hds
  refine ⟨_, by rw [write, Dialect.write, hbare, if_neg Bool.false_ne_true], ?_⟩
  generalize Layout.program rbi st (.scope s ds) = ls at hprogram
  have hheading : ("# typed: " ++ strictness ++ "\n") =
      Text.blanks 0 ++ ("#" ++ (" typed: " ++ strictness)) ++ "\n" := by
    apply String.toList_inj.mp
    simp [Text.blanks]
  cases ls with
  | nil =>
    refine ⟨_, .comment 0 (" typed: " ++ strictness) (.empty 0 hprogram), ?_⟩
    rw [hheading]
    simp [Text.blanks]
  | cons l ls =>
    refine ⟨_, .comment 0 (" typed: " ++ strictness) hprogram, ?_⟩
    rw [List.map_cons, String.join_cons, lines_eq_intercalate, hheading, String.append_assoc]

end Rbi

end RubyStubs
