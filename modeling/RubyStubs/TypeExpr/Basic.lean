import RubyStubs.Text.Blank

namespace RubyStubs

inductive Collection where
  | array | set | range | enumerable | enumerator
  deriving DecidableEq, Repr

namespace Collection

def name : Collection → String
  | .array => "Array"
  | .set => "Set"
  | .range => "Range"
  | .enumerable => "Enumerable"
  | .enumerator => "Enumerator"

def all : List Collection := [.array, .set, .range, .enumerable, .enumerator]

end Collection

structure Slot (α : Type) where
  name : String
  type : α
  default : Option String := none
  deriving DecidableEq, Repr

/-- A type expression. `raw` keeps text verbatim for all that the algebra has no case for; a
callable without a result type returns nothing of use. -/
inductive TypeExpr where
  | raw (text : String)
  | boolean
  | untyped
  | nilable (inner : TypeExpr)
  | union (members : List TypeExpr)
  | intersection (members : List TypeExpr)
  | tuple (members : List TypeExpr)
  | collection (kind : Collection) (element : TypeExpr)
  | hash (key value : TypeExpr)
  | generic (base : TypeExpr) (arguments : List TypeExpr)
  | record (fields : List (String × TypeExpr))
  | proc (parameters : List (Slot TypeExpr)) (result : Option TypeExpr)
  deriving Repr

namespace TypeExpr

instance : Inhabited TypeExpr := ⟨.untyped⟩

mutual

def same : TypeExpr → TypeExpr → Bool
  | .raw a, .raw b => a == b
  | .boolean, .boolean => true
  | .untyped, .untyped => true
  | .nilable a, .nilable b => same a b
  | .union as, .union bs => sameAll as bs
  | .intersection as, .intersection bs => sameAll as bs
  | .tuple as, .tuple bs => sameAll as bs
  | .collection k a, .collection l b => k == l && same a b
  | .hash k v, .hash l w => same k l && same v w
  | .generic a as, .generic b bs => same a b && sameAll as bs
  | .record as, .record bs => sameFields as bs
  | .proc as none, .proc bs none => sameSlots as bs
  | .proc as (some r), .proc bs (some s) => sameSlots as bs && same r s
  | _, _ => false

def sameAll : List TypeExpr → List TypeExpr → Bool
  | [], [] => true
  | a :: as, b :: bs => same a b && sameAll as bs
  | _, _ => false

def sameFields : List (String × TypeExpr) → List (String × TypeExpr) → Bool
  | [], [] => true
  | (k, a) :: as, (l, b) :: bs => k == l && same a b && sameFields as bs
  | _, _ => false

def sameSlots : List (Slot TypeExpr) → List (Slot TypeExpr) → Bool
  | [], [] => true
  | ⟨k, a, d⟩ :: as, ⟨l, b, e⟩ :: bs => k == l && same a b && d == e && sameSlots as bs
  | _, _ => false

end

mutual

theorem same_refl : ∀ t : TypeExpr, same t t = true
  | .raw _ | .boolean | .untyped => by simp [same]
  | .nilable t => by simp [same, same_refl t]
  | .union ts | .intersection ts | .tuple ts => by simp [same, sameAll_refl ts]
  | .collection _ t => by simp [same, same_refl t]
  | .hash k v => by simp [same, same_refl k, same_refl v]
  | .generic b ts => by simp [same, same_refl b, sameAll_refl ts]
  | .record fs => by simp [same, sameFields_refl fs]
  | .proc ps none => by simp [same, sameSlots_refl ps]
  | .proc ps (some r) => by simp [same, sameSlots_refl ps, same_refl r]

theorem sameAll_refl : ∀ ts : List TypeExpr, sameAll ts ts = true
  | [] => by simp [sameAll]
  | t :: ts => by simp [sameAll, same_refl t, sameAll_refl ts]

theorem sameFields_refl : ∀ fs : List (String × TypeExpr), sameFields fs fs = true
  | [] => by simp [sameFields]
  | (_, t) :: fs => by simp [sameFields, same_refl t, sameFields_refl fs]

theorem sameSlots_refl : ∀ ps : List (Slot TypeExpr), sameSlots ps ps = true
  | [] => by simp [sameSlots]
  | ⟨_, t, _⟩ :: ps => by simp [sameSlots, same_refl t, sameSlots_refl ps]

end

mutual

theorem eq_of_same : ∀ a b : TypeExpr, same a b = true → a = b
  | .raw a, b, h => by cases b <;> simp_all [same]
  | .boolean, b, h => by cases b <;> simp_all [same]
  | .untyped, b, h => by cases b <;> simp_all [same]
  | .nilable a, b, h => by
    cases b <;> simp only [same, Bool.false_eq_true] at h
    exact congrArg _ (eq_of_same a _ h)
  | .union as, b, h => by
    cases b <;> simp only [same, Bool.false_eq_true] at h
    exact congrArg _ (eq_of_sameAll as _ h)
  | .intersection as, b, h => by
    cases b <;> simp only [same, Bool.false_eq_true] at h
    exact congrArg _ (eq_of_sameAll as _ h)
  | .tuple as, b, h => by
    cases b <;> simp only [same, Bool.false_eq_true] at h
    exact congrArg _ (eq_of_sameAll as _ h)
  | .collection k a, b, h => by
    cases b <;> simp only [same, Bool.false_eq_true, Bool.and_eq_true, beq_iff_eq] at h
    rw [h.1, eq_of_same a _ h.2]
  | .hash k v, b, h => by
    cases b <;> simp only [same, Bool.false_eq_true, Bool.and_eq_true] at h
    rw [eq_of_same k _ h.1, eq_of_same v _ h.2]
  | .generic a as, b, h => by
    cases b <;> simp only [same, Bool.false_eq_true, Bool.and_eq_true] at h
    rw [eq_of_same a _ h.1, eq_of_sameAll as _ h.2]
  | .record as, b, h => by
    cases b <;> simp only [same, Bool.false_eq_true] at h
    exact congrArg _ (eq_of_sameFields as _ h)
  | .proc as none, b, h => by
    match b with
    | .proc bs none => rw [same] at h; rw [eq_of_sameSlots as bs h]
    | .proc bs (some s) => simp [same] at h
    | .raw _ | .boolean | .untyped | .nilable _ | .union _ | .intersection _ | .tuple _
    | .collection _ _ | .hash _ _ | .generic _ _ | .record _ => simp [same] at h
  | .proc as (some r), b, h => by
    match b with
    | .proc bs none => simp [same] at h
    | .proc bs (some s) =>
      simp only [same, Bool.and_eq_true] at h
      rw [eq_of_sameSlots as bs h.1, eq_of_same r s h.2]
    | .raw _ | .boolean | .untyped | .nilable _ | .union _ | .intersection _ | .tuple _
    | .collection _ _ | .hash _ _ | .generic _ _ | .record _ => simp [same] at h

theorem eq_of_sameAll : ∀ as bs : List TypeExpr, sameAll as bs = true → as = bs
  | [], [], _ => rfl
  | [], _ :: _, h => by simp [sameAll] at h
  | _ :: _, [], h => by simp [sameAll] at h
  | a :: as, b :: bs, h => by
    simp only [sameAll, Bool.and_eq_true] at h
    rw [eq_of_same a b h.1, eq_of_sameAll as bs h.2]

theorem eq_of_sameFields : ∀ as bs : List (String × TypeExpr), sameFields as bs = true → as = bs
  | [], [], _ => rfl
  | [], _ :: _, h => by simp [sameFields] at h
  | _ :: _, [], h => by simp [sameFields] at h
  | (k, a) :: as, (l, b) :: bs, h => by
    simp only [sameFields, Bool.and_eq_true, beq_iff_eq] at h
    rw [h.1.1, eq_of_same a b h.1.2, eq_of_sameFields as bs h.2]

theorem eq_of_sameSlots : ∀ as bs : List (Slot TypeExpr), sameSlots as bs = true → as = bs
  | [], [], _ => rfl
  | [], _ :: _, h => by simp [sameSlots] at h
  | _ :: _, [], h => by simp [sameSlots] at h
  | ⟨k, a, d⟩ :: as, ⟨l, b, e⟩ :: bs, h => by
    simp only [sameSlots, Bool.and_eq_true, beq_iff_eq] at h
    rw [h.1.1.1, eq_of_same a b h.1.1.2, h.1.2, eq_of_sameSlots as bs h.2]

end

theorem same_iff (a b : TypeExpr) : same a b = true ↔ a = b :=
  ⟨eq_of_same a b, fun h => h ▸ same_refl a⟩

instance : DecidableEq TypeExpr := fun a b => decidable_of_iff _ (same_iff a b)

def isUntyped : Option TypeExpr → Bool
  | none => true
  | some .untyped => true
  | some (.raw text) => Text.trim text == "T.untyped"
  | some _ => false

/-- The fields of a record as a look-up table: a repeated name keeps its first place and takes
the last type. -/
def putField : List (String × TypeExpr) → String → TypeExpr → List (String × TypeExpr)
  | [], k, t => [(k, t)]
  | (l, u) :: fs, k, t => if l == k then (l, t) :: fs else (l, u) :: putField fs k t

def table (fields : List (String × TypeExpr)) : List (String × TypeExpr) :=
  fields.foldl (fun acc f => putField acc f.1 f.2) []

end TypeExpr
end RubyStubs
