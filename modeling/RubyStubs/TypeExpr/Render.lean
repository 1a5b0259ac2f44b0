import RubyStubs.TypeExpr.Basic

namespace RubyStubs
namespace TypeExpr

def commas (parts : List String) : String := ", ".intercalate parts

def braced (text : String) : String := "\x7b " ++ text ++ " \x7d"

mutual

def rbi : TypeExpr → String
  | .raw text => text
  | .boolean => "T::Boolean"
  | .untyped => "T.untyped"
  | .nilable t => "T.nilable(" ++ rbi t ++ ")"
  | .union ts => "T.any(" ++ commas (rbiAll ts) ++ ")"
  | .intersection ts => "T.all(" ++ commas (rbiAll ts) ++ ")"
  | .tuple ts => "[" ++ commas (rbiAll ts) ++ "]"
  | .collection k t => "T::" ++ k.name ++ "[" ++ rbi t ++ "]"
  | .hash k v => "T::Hash[" ++ rbi k ++ ", " ++ rbi v ++ "]"
  | .generic b ts => rbi b ++ "[" ++ commas (rbiAll ts) ++ "]"
  | .record fs => braced (commas (rbiFields fs))
  | .proc ps result =>
    "T.proc" ++ (if ps.isEmpty then "" else ".params(" ++ commas (rbiSlots ps) ++ ")") ++
      match result with
      | none => ".void"
      | some t => ".returns(" ++ rbi t ++ ")"

def rbiAll : List TypeExpr → List String
  | [] => []
  | t :: ts => rbi t :: rbiAll ts

def rbiFields : List (String × TypeExpr) → List String
  | [] => []
  | (k, t) :: fs => (k ++ ": " ++ rbi t) :: rbiFields fs

def rbiSlots : List (Slot TypeExpr) → List String
  | [] => []
  | ⟨k, t, _⟩ :: ps => (k ++ ": " ++ rbi t) :: rbiSlots ps

end

mutual

def rbs : TypeExpr → String
  | .raw text => text
  | .boolean => "bool"
  | .untyped => "untyped"
  | .nilable t => rbs t ++ "?"
  | .union ts => "(" ++ " | ".intercalate (rbsAll ts) ++ ")"
  | .intersection ts => "(" ++ " & ".intercalate (rbsAll ts) ++ ")"
  | .tuple ts => "[" ++ commas (rbsAll ts) ++ "]"
  | .collection k t => "::" ++ k.name ++ "[" ++ rbs t ++ "]"
  | .hash k v => "::Hash[" ++ rbs k ++ ", " ++ rbs v ++ "]"
  | .generic b ts => rbs b ++ "[" ++ commas (rbsAll ts) ++ "]"
  | .record fs => braced (commas (rbsFields fs))
  | .proc ps result =>
    "(" ++ commas (rbsSlots ps) ++ ") -> " ++
      match result with
      | none => "void"
      | some t => rbs t

def rbsAll : List TypeExpr → List String
  | [] => []
  | t :: ts => rbs t :: rbsAll ts

def rbsFields : List (String × TypeExpr) → List String
  | [] => []
  | (k, t) :: fs => (k ++ ": " ++ rbs t) :: rbsFields fs

def rbsSlots : List (Slot TypeExpr) → List String
  | [] => []
  | ⟨k, t, d⟩ :: ps => ((if d.isSome then "?" else "") ++ rbs t ++ " " ++ k) :: rbsSlots ps

end

mutual

def describe : TypeExpr → String
  | .raw text => text
  | .boolean => "T::Boolean"
  | .untyped => "T.untyped"
  | .nilable t => "Nilable<" ++ describe t ++ ">"
  | .union ts => "Union<" ++ commas (describeAll ts) ++ ">"
  | .intersection ts => "Intersection<" ++ commas (describeAll ts) ++ ">"
  | .tuple ts => "[" ++ commas (describeAll ts) ++ "]"
  | .collection k t => k.name ++ "<" ++ describe t ++ ">"
  | .hash k v => "Hash<" ++ describe k ++ ", " ++ describe v ++ ">"
  | .generic b ts => describe b ++ "<" ++ commas (describeAll ts) ++ ">"
  | .record fs => braced (commas (describeFields fs))
  | .proc ps result =>
    "(" ++ commas (describeSlots ps) ++ ") -> " ++
      match result with
      | none => "void"
      | some t => describe t

def describeAll : List TypeExpr → List String
  | [] => []
  | t :: ts => describe t :: describeAll ts

def describeFields : List (String × TypeExpr) → List String
  | [] => []
  | (k, t) :: fs => (k ++ ": " ++ describe t) :: describeFields fs

def describeSlots : List (Slot TypeExpr) → List String
  | [] => []
  | ⟨k, t, _⟩ :: ps => (k ++ ": " ++ describe t) :: describeSlots ps

end

theorem rbsAll_eq_map (ts : List TypeExpr) : rbsAll ts = ts.map rbs := by
  induction ts with
  | nil => rfl
  | cons t ts ih => simp [rbsAll, ih]

end TypeExpr
end RubyStubs
