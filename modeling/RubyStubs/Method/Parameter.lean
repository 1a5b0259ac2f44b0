import RubyStubs.TypeExpr.Like
import RubyStubs.TypeExpr.Render

namespace RubyStubs

inductive ParameterKind where
  | normal | splat | doubleSplat | block | keyword
  deriving DecidableEq, Repr

namespace ParameterKind

def label : ParameterKind → String
  | .normal => "normal"
  | .splat => "splat"
  | .doubleSplat => "double_splat"
  | .block => "block"
  | .keyword => "keyword"

def all : List ParameterKind := [.normal, .splat, .doubleSplat, .block, .keyword]

def ofLabel? (s : String) : Option ParameterKind := all.find? (·.label == s)

theorem ofLabel?_label (k : ParameterKind) : ofLabel? k.label = some k := by cases k <;> decide

def splitMarker : List Char → Option ParameterKind × List Char
  | '*' :: '*' :: cs => (some .doubleSplat, cs)
  | '*' :: cs => (some .splat, cs)
  | '&' :: cs => (some .block, cs)
  | cs => (none, cs)

def ofName (name : String) : ParameterKind :=
  match (splitMarker name.toList).1 with
  | some k => k
  | none => if Text.endsIn name ':' then .keyword else .normal

end ParameterKind

structure Parameter where
  name : String
  type : Option TypeExpr := none
  default : Option String := none
  kind : ParameterKind := .ofName name
  required : Bool := default.isNone
  deriving DecidableEq, Repr

namespace Parameter

def build (name : String) (type : TypeLike) (default kind : Option String)
    (required : Option Bool) : Except BuildError Parameter := do
  let type ← type.toType?
  let kind ← match kind with
    | none => .ok (ParameterKind.ofName name)
    | some s =>
      match ParameterKind.ofLabel? s with
      | some k => .ok k
      | none => .error (.unknownParameterKind s)
  return { name, type, default, kind, required := required.getD default.isNone }

def bareName (p : Parameter) : String :=
  match p.kind with
  | .keyword => Text.dropEnd (· == ':') p.name
  | _ => String.ofList (ParameterKind.splitMarker p.name.toList).2

def onDefinition (p : Parameter) : String :=
  match p.default, p.kind with
  | none, _ => p.name
  | some d, .keyword => p.name ++ " " ++ d
  | some d, _ => p.name ++ " = " ++ d

def inSig (p : Parameter) : String :=
  p.bareName ++ ": " ++ (p.type.elim "T.untyped" TypeExpr.rbi)

def reservedNames : List String :=
  ["type", "interface", "out", "in", "instance", "extension", "top", "bot", "self", "nil", "void"]

def inSignature (p : Parameter) : String :=
  let type := p.type.elim "untyped" TypeExpr.rbs
  let name := if reservedNames.contains p.bareName then "`" ++ p.bareName ++ "`" else p.bareName
  let mark := if p.required then "" else "?"
  match p.kind with
  | .splat => "*" ++ type ++ " " ++ name
  | .doubleSplat => "**" ++ type ++ " " ++ name
  | .keyword => mark ++ name ++ ": " ++ type
  | _ => mark ++ type ++ " " ++ name

def equivalent (p q : Parameter) : Bool :=
  p.name == q.name && p.kind == q.kind && p.default == q.default && p.required == q.required &&
    ((TypeExpr.isUntyped p.type && TypeExpr.isUntyped q.type) || p.type == q.type)

theorem equivalent_refl (p : Parameter) : p.equivalent p = true := by simp [equivalent]

theorem equivalent_symm {p q : Parameter} (h : p.equivalent q = true) : q.equivalent p = true := by
  simp only [equivalent, Bool.and_eq_true, Bool.or_eq_true, beq_iff_eq] at h ⊢
  obtain ⟨⟨⟨⟨hn, hk⟩, hd⟩, hr⟩, ht⟩ := h
  exact ⟨⟨⟨⟨hn.symm, hk.symm⟩, hd.symm⟩, hr.symm⟩,
    ht.elim (fun h => .inl ⟨h.2, h.1⟩) (fun h => .inr h.symm)⟩

end Parameter
end RubyStubs
