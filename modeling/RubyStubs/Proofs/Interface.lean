import RubyStubs.Proofs.Statement
import RubyStubs.Stub.Rbi

namespace RubyStubs

namespace Expr

abbrev Call := String × List Expr

def callText (c : Call) : String :=
  c.1 ++ if c.2.isEmpty then "" else "(" ++ TypeExpr.commas (texts c.2) ++ ")"

def firstCall (c : Call) : Expr := if c.2.isEmpty then .word c.1 else .call c.1 c.2

def chained : List Call → Expr
  | [] => .word ""
  | c :: cs => cs.foldl (fun e d => .send e d.1 d.2) (firstCall c)

theorem text_firstCall (c : Call) : (firstCall c).text = callText c := by
  unfold firstCall callText
  split_ifs
  · simp [text]
  · simp [text, String.append_assoc]

theorem text_chained {cs : List Call} (h : cs ≠ []) : (chained cs).text = ".".intercalate (cs.map callText) := by
  have hfold (cs : List Call) (e : Expr) (t : String) (he : e.text = t) :
      (cs.foldl (fun e d => .send e d.1 d.2) e).text = ".".intercalate (t :: cs.map callText) := by
    induction cs generalizing e t with
    | nil => simpa using he
    | cons c cs ih =>
      have htext : (Expr.send e c.1 c.2).text = t ++ "." ++ callText c := by
        simp [text, callText, he, String.append_assoc]
      rw [List.foldl_cons, ih (.send e c.1 c.2) (t ++ "." ++ callText c) htext, List.map_cons]
      cases cs with
      | nil => simp
      | cons d ds => simp [String.append_assoc]
  cases cs with
  | nil => exact absurd rfl h
  | cons c cs => exact hfold cs (firstCall c) (callText c) (text_firstCall c)

end Expr

def Parameter.formal (p : Parameter) : Formal := ⟨p.kind, p.bareName, p.default⟩

def Parameter.pair (p : Parameter) : Expr := .pair p.bareName (.fragment (p.type.elim "T.untyped" TypeExpr.rbi))

namespace Method

def qualifierCalls (m : Method) : List Expr.Call :=
  (if m.isAbstract then [("abstract", [])] else []) ++
    (if m.isImplementation then [("implementation", [])] else []) ++
    (if m.isOverride then [("override", [])] else []) ++
    (if m.isOverridable then [("overridable", [])] else []) ++
    (if m.typeParameters.isEmpty then [] else [("type_parameters", m.typeParameters.map .symbol)])

def paramsCall (m : Method) : List Expr.Call :=
  if m.parameters.isEmpty then [] else [("params", m.parameters.map Parameter.pair)]

def resultCall (m : Method) : Expr.Call := m.result.elim ("void", []) fun t => ("returns", [.fragment t.rbi])

def sigStmt (m : Method) : Stmt :=
  .sig m.isFinal (.chained (m.qualifierCalls ++ m.paramsCall ++ [m.resultCall]))

end Method

def inSingleton (classLevel : Bool) (ss : List Stmt) : List Stmt :=
  if classLevel then [.block .singleton ss] else ss

def Member.stmts (m : Member) : List Stmt :=
  match m.body with
  | .method b => [b.sigStmt, .definition b.classLevel m.name (b.parameters.map Parameter.formal)]
  | .attribute k b => inSingleton b.classLevel [b.sigStmt, .command (.accessor k m.name)]
  | .constant v classLevel => inSingleton classLevel [.constant m.name (.fragment (Rbi.constantText v))]
  | .mixin k target => [.command (.mixin k target)]
  | .code _ | .bare => []

namespace Scope

def markStmts (h : ClassHeader) : List Stmt :=
  (if h.isAbstract then [.mark .isAbstract] else []) ++ (if h.isFinal then [.mark .isFinal] else [])

def enumeratorStmt (e : String × Option String) : Stmt :=
  .constant e.1 (e.2.elim (.word "new") fun literal => .call "new" [.fragment literal])

def sections : ScopeKind → List (List Stmt)
  | .plain => []
  | .ofModule i => [if i then [.mark .isInterface] else []]
  | .ofClass h => [markStmts h]
  | .ofEnum h es => [markStmts h.toHeader, [.block .enums (es.map enumeratorStmt)]]
  | .ofStruct h fs => [markStmts h.toHeader, fs.map fun f => .command (.field f)]

def mixinStmts (s : Scope) : List Stmt :=
  s.included.map (fun t => .command (.mixin .included t)) ++ s.extended.map fun t => .command (.mixin .extended t)

def opening (s : Scope) : Opening :=
  match s.kind with
  | .ofModule _ => .ofModule s.name
  | k => .ofClass s.name (k.header?.bind (·.superclass))

end Scope

namespace Decl

mutual

def stmts : Decl → List Stmt
  | .member m => m.stmts
  | .scope s ds => [.block s.opening ((Scope.sections s.kind).flatten ++ (s.mixinStmts ++ stmtsAll ds))]

def stmtsAll : List Decl → List Stmt
  | [] => []
  | d :: ds => stmts d ++ stmtsAll ds

end

end Decl

theorem Decl.stmtsAll_eq_flatten (ds : List Decl) : Decl.stmtsAll ds = (ds.map Decl.stmts).flatten := by
  induction ds with
  | nil => rfl
  | cons d ds ih => rw [Decl.stmtsAll, ih, List.map_cons, List.flatten_cons]

def TypeExpr.isRaw : TypeExpr → Bool
  | .raw _ => true
  | _ => false

def Parameter.isDeclared (p : Parameter) : Bool :=
  Text.isLabel p.bareName && p.name == p.formal.markedName && p.kind == .ofName p.name &&
    p.required == p.default.isNone && p.type.any TypeExpr.isRaw

def Method.isDeclared (m : Method) : Bool :=
  m.parameters.all Parameter.isDeclared && decide (m.parameters.map Parameter.bareName).Nodup &&
    m.result.all TypeExpr.isRaw && m.typeParameters.all (fun t => Text.isLabel t && !t.isEmpty) &&
    m.signatures.isEmpty

def Member.isDeclared (top : Bool) (m : Member) : Bool :=
  match m.body with
  | .method b => b.isDeclared
  | .attribute k b =>
    Text.isLabel m.name && b.isDeclared && b.result.isSome &&
      b == k.complete m.name { result := b.result, classLevel := b.classLevel }
  | .constant (.text _) _ => true
  | .mixin _ target => top && m.name == target
  | _ => false

def isSuperclass (text : String) : Bool :=
  !text.isEmpty && Text.trim (Text.dropStart (· == '<') text) == text

def ScopeKind.isDeclared (o : ReadOptions) : ScopeKind → Bool
  | .plain => false
  | .ofModule _ => true
  | .ofClass h => h.superclass.all fun c =>
    isSuperclass c && !o.enumBases.contains (Text.without c "::") && !o.structBases.contains (Text.without c "::")
  | .ofEnum h _ => isSuperclass h.superclass && o.enumBases.contains (Text.without h.superclass "::")
  | .ofStruct h fs =>
    isSuperclass h.superclass && !o.enumBases.contains (Text.without h.superclass "::") &&
      o.structBases.contains (Text.without h.superclass "::") &&
      fs.all fun f => Text.isLabel f.name && f.type.isRaw

def Scope.isDeclared (o : ReadOptions) (s : Scope) : Bool :=
  Text.names s.name == [s.name] && s.kind.isDeclared o && decide s.included.Nodup && decide s.extended.Nodup &&
    s.pending.isEmpty

namespace Decl

mutual

def isDeclared (o : ReadOptions) (top : Bool) : Decl → Bool
  | .member m => m.isDeclared top
  | .scope s ds => s.isDeclared o && areDeclared o false ds

def areDeclared (o : ReadOptions) (top : Bool) : List Decl → Bool
  | [] => true
  | d :: ds => isDeclared o top d && areDeclared o top ds

end

def isInterface (o : ReadOptions) : Decl → Bool
  | .scope s ds => s == { comments := s.comments } && areDeclared o true ds
  | .member _ => false

end Decl

end RubyStubs
