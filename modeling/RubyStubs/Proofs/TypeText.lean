import RubyStubs.TypeExpr.Render
import Mathlib.Logic.Function.Iterate

/-!
How much the text of a type in a signature file tells of the type. A `?` after a callable type reads as one after its
result, so that types which differ in this alone are written alike; types that differ in anything else are not.
-/

namespace RubyStubs

namespace Text

def typeMarks : List Char := [' ', ',', ':', '?', '(', ')', '[', ']', '\x7b', '\x7d', '|', '&']

def isNameChar (c : Char) : Bool := !typeMarks.contains c

def isName (s : String) : Bool := !s.isEmpty && s.toList.all isNameChar

def isPathChar (c : Char) : Bool := isNameChar c || c == ':'

def isConstantName (s : String) : Bool :=
  (s.toList.head?.any fun c => isNameChar c && !c.isLower) && s.toList.all isPathChar

def Stops (s : List Char) : Prop := ∀ c ∈ s.head?, c ∈ [' ', ',', ')', ']']

theorem stops_nil : Stops [] := nofun

theorem stops_cons {c : Char} {s : List Char} (h : c ∈ [' ', ',', ')', ']']) : Stops (c :: s) := by
  intro d hd
  cases hd
  exact h

theorem stops_bracket (s : List Char) : Stops (']' :: s) := stops_cons (by decide)

theorem stops_comma (s : List Char) : Stops (',' :: s) := stops_cons (by decide)

theorem stops_blank (s : List Char) : Stops (' ' :: s) := stops_cons (by decide)

theorem append_inj_of_all {p : Char → Bool} {a b s s' : List Char} (ha : ∀ c ∈ a, p c) (hb : ∀ c ∈ b, p c)
    (hs : ∀ c ∈ s.head?, p c = false) (hs' : ∀ c ∈ s'.head?, p c = false) (h : a ++ s = b ++ s') :
    a = b ∧ s = s' := by
  have run {a s : List Char} (ha : ∀ c ∈ a, p c) (hs : ∀ c ∈ s.head?, p c = false) : (a ++ s).takeWhile p = a := by
    rw [List.takeWhile_append_of_pos ha]
    cases s with
    | nil => simp
    | cons c s => simp [hs c rfl]
  have hab : a = b := by rw [← run ha hs, h, run hb hs']
  subst hab
  exact ⟨rfl, List.append_cancel_left h⟩

theorem marks_inj {k k' : Nat} {s s' : List Char} (hs : Stops s) (hs' : Stops s')
    (h : List.replicate k '?' ++ s = List.replicate k' '?' ++ s') : k = k' ∧ s = s' := by
  have other {s : List Char} (hs : Stops s) : ∀ c ∈ s.head?, (c == '?') = false := by
    intro c hc
    have hmem := hs c hc
    simp only [List.mem_cons, List.not_mem_nil, or_false] at hmem
    rcases hmem with rfl | rfl | rfl | rfl <;> rfl
  obtain ⟨hreplicate, hrest⟩ := append_inj_of_all (p := (· == '?')) (by simp) (by simp) (other hs) (other hs') h
  exact ⟨by simpa using congrArg List.length hreplicate, hrest⟩

section Listed

variable {α β : Type}

def listed (sep : List Char) (text : α → List Char) : List α → List Char
  | [] => []
  | x :: xs => text x ++ xs.flatMap fun y => sep ++ text y

theorem intercalate_map (sep : List Char) (text : α → List Char) (xs : List α) :
    sep.intercalate (xs.map text) = listed sep text xs := by
  induction xs with
  | nil => rfl
  | cons x xs ih =>
    cases xs with
    | nil => simp [listed]
    | cons y ys =>
      simp only [List.map_cons, List.intercalate_cons_cons] at ih ⊢
      rw [ih]
      simp [listed]

/-- The text of `x` tells `form x`, and where it ends, wherever it stands. -/
def Tells (text : α → List Char) (ok : α → Bool) (form : α → β) (x : α) : Prop :=
  ∀ ⦃y⦄, ok y → ∀ ⦃s s'⦄, Stops s → Stops s' → text x ++ s = text y ++ s' → form x = form y ∧ s = s'

variable {text : α → List Char} {ok : α → Bool} {form : α → β} {c d : Char} {sep s s' : List Char} {xs ys : List α}

theorem stops_flatMap (hc : c ∈ [' ', ',', ')', ']']) (hd : d ∈ [' ', ',', ')', ']']) (zs : List α) (s : List Char) :
    Stops ((zs.flatMap fun z => c :: sep ++ text z) ++ d :: s) := by
  cases zs with
  | nil => exact stops_cons hd
  | cons z zs => exact stops_cons hc

theorem flatMap_tells (hc : c ∈ [' ', ',', ')', ']']) (hd : d ∈ [' ', ',', ')', ']']) (hcd : c ≠ d)
    (hxs : ∀ x ∈ xs, Tells text ok form x) (hys : ys.all ok)
    (h : (xs.flatMap fun x => c :: sep ++ text x) ++ d :: s = (ys.flatMap fun y => c :: sep ++ text y) ++ d :: s') :
    xs.map form = ys.map form ∧ s = s' := by
  induction xs generalizing ys with
  | nil =>
    cases ys with
    | nil => exact ⟨rfl, (List.cons.inj h).2⟩
    | cons y ys => exact absurd (List.cons.inj h).1.symm hcd
  | cons x xs ih =>
    cases ys with
    | nil => exact absurd (List.cons.inj h).1 hcd
    | cons y ys =>
      rw [List.all_cons, Bool.and_eq_true] at hys
      simp only [List.flatMap_cons, List.cons_append, List.append_assoc, List.cons.injEq, true_and,
        List.append_cancel_left_eq] at h
      obtain ⟨hxy, hrest⟩ := hxs x List.mem_cons_self hys.1 (stops_flatMap hc hd xs s) (stops_flatMap hc hd ys s')
        (by simpa using h)
      obtain ⟨hmap, hs⟩ := ih (fun x hx => hxs x (List.mem_cons_of_mem _ hx)) hys.2 hrest
      exact ⟨by rw [List.map_cons, List.map_cons, hxy, hmap], hs⟩

theorem listed_tells (hc : c ∈ [' ', ',', ')', ']']) (hd : d ∈ [' ', ',', ')', ']']) (hcd : c ≠ d)
    (hne : ∀ x, ok x → ∃ e cs, text x = e :: cs ∧ e ≠ d)
    (hxs : ∀ x ∈ xs, Tells text ok form x) (hxs' : xs.all ok) (hys : ys.all ok)
    (h : listed (c :: sep) text xs ++ d :: s = listed (c :: sep) text ys ++ d :: s') :
    xs.map form = ys.map form ∧ s = s' := by
  cases xs with
  | nil =>
    cases ys with
    | nil => exact ⟨rfl, (List.cons.inj h).2⟩
    | cons y ys =>
      obtain ⟨e, cs, he, hed⟩ := hne y (List.all_eq_true.mp hys y List.mem_cons_self)
      simp only [listed, he] at h
      exact absurd (List.cons.inj h).1.symm hed
  | cons x xs =>
    cases ys with
    | nil =>
      obtain ⟨e, cs, he, hed⟩ := hne x (List.all_eq_true.mp hxs' x List.mem_cons_self)
      simp only [listed, he] at h
      exact absurd (List.cons.inj h).1 hed
    | cons y ys =>
      rw [List.all_cons, Bool.and_eq_true] at hys
      simp only [listed, List.append_assoc] at h
      obtain ⟨hxy, hrest⟩ := hxs x List.mem_cons_self hys.1 (stops_flatMap hc hd xs s) (stops_flatMap hc hd ys s') h
      obtain ⟨hmap, hs⟩ := flatMap_tells hc hd hcd (fun x hx => hxs x (List.mem_cons_of_mem _ hx)) hys.2 hrest
      exact ⟨by rw [List.map_cons, List.map_cons, hxy, hmap], hs⟩

end Listed

end Text

namespace TypeExpr

def optional : TypeExpr → TypeExpr
  | .proc ps (some r) => .proc ps (some (optional r))
  | t => .nilable t

mutual

def asRead : TypeExpr → TypeExpr
  | .raw text => .raw text
  | .boolean => .boolean
  | .untyped => .untyped
  | .nilable t => optional (asRead t)
  | .union ts => .union (asReadAll ts)
  | .intersection ts => .intersection (asReadAll ts)
  | .tuple ts => .tuple (asReadAll ts)
  | .collection k t => .collection k (asRead t)
  | .hash k v => .hash (asRead k) (asRead v)
  | .generic b ts => .generic (asRead b) (asReadAll ts)
  | .record fs => .record (asReadFields fs)
  | .proc ps none => .proc (asReadSlots ps) none
  | .proc ps (some r) => .proc (asReadSlots ps) (some (asRead r))

def asReadAll : List TypeExpr → List TypeExpr
  | [] => []
  | t :: ts => asRead t :: asReadAll ts

def asReadFields : List (String × TypeExpr) → List (String × TypeExpr)
  | [] => []
  | (k, t) :: fs => (k, asRead t) :: asReadFields fs

def asReadSlots : List (Slot TypeExpr) → List (Slot TypeExpr)
  | [] => []
  | ⟨k, t, d⟩ :: ps => ⟨k, asRead t, d⟩ :: asReadSlots ps

end

mutual

/-- Text kept verbatim and the bases of generic types are constants, unions and intersections have two members at
least, the names in a type are identifiers, and no parameter has a default. -/
def isRegular : TypeExpr → Bool
  | .raw text => Text.isConstantName text
  | .boolean | .untyped => true
  | .nilable t | .collection _ t => isRegular t
  | .union ts | .intersection ts => 2 ≤ ts.length && areRegular ts
  | .tuple ts => areRegular ts
  | .hash k v => isRegular k && isRegular v
  | .generic (.raw base) ts => Text.isConstantName base && areRegular ts
  | .generic _ _ => false
  | .record fs => areRegularFields fs
  | .proc ps none => areRegularSlots ps
  | .proc ps (some r) => areRegularSlots ps && isRegular r

def areRegular : List TypeExpr → Bool
  | [] => true
  | t :: ts => isRegular t && areRegular ts

def areRegularFields : List (String × TypeExpr) → Bool
  | [] => true
  | (k, t) :: fs => Text.isName k && isRegular t && areRegularFields fs

def areRegularSlots : List (Slot TypeExpr) → Bool
  | [] => true
  | ⟨k, t, d⟩ :: ps => Text.isName k && isRegular t && d.isNone && areRegularSlots ps

end

def isRegularField (f : String × TypeExpr) : Bool := Text.isName f.1 && f.2.isRegular

def isRegularSlot (p : Slot TypeExpr) : Bool := Text.isName p.name && p.type.isRegular && p.default.isNone

section Maps

theorem asReadAll_eq_map (ts : List TypeExpr) : asReadAll ts = ts.map asRead := by
  induction ts with
  | nil => rfl
  | cons t ts ih => simp [asReadAll, ih]

theorem asReadFields_eq_map (fs : List (String × TypeExpr)) : asReadFields fs = fs.map fun f => (f.1, asRead f.2) := by
  induction fs with
  | nil => rfl
  | cons f fs ih => simp [asReadFields, ih]

theorem asReadSlots_eq_map (ps : List (Slot TypeExpr)) :
    asReadSlots ps = ps.map fun p => { p with type := asRead p.type } := by
  induction ps with
  | nil => rfl
  | cons p ps ih => simp [asReadSlots, ih]

theorem areRegular_eq_all (ts : List TypeExpr) : areRegular ts = ts.all isRegular := by
  induction ts with
  | nil => rfl
  | cons t ts ih => simp [areRegular, ih]

theorem areRegularFields_eq_all (fs : List (String × TypeExpr)) : areRegularFields fs = fs.all isRegularField := by
  induction fs with
  | nil => rfl
  | cons f fs ih => simp [areRegularFields, isRegularField, ih]

theorem areRegularSlots_eq_all (ps : List (Slot TypeExpr)) : areRegularSlots ps = ps.all isRegularSlot := by
  induction ps with
  | nil => rfl
  | cons p ps ih => simp [areRegularSlots, isRegularSlot, ih]

theorem rbsFields_eq_map (fs : List (String × TypeExpr)) : rbsFields fs = fs.map fun f => f.1 ++ ": " ++ rbs f.2 := by
  induction fs with
  | nil => rfl
  | cons f fs ih => simp [rbsFields, ih]

theorem rbsSlots_eq_map (ps : List (Slot TypeExpr)) :
    rbsSlots ps = ps.map fun p => (if p.default.isSome then "?" else "") ++ rbs p.type ++ " " ++ p.name := by
  induction ps with
  | nil => rfl
  | cons p ps ih => simp [rbsSlots, ih]

end Maps

theorem rbs_optional (t : TypeExpr) : (optional t).rbs = t.rbs ++ "?" := by
  fun_induction optional t with
  | case1 ps r ih => simp [rbs, ih, String.append_assoc]
  | case2 t => rfl

mutual

theorem rbs_asRead : ∀ t : TypeExpr, (asRead t).rbs = t.rbs
  | .raw _ | .boolean | .untyped => rfl
  | .nilable t => by rw [asRead, rbs_optional, rbs_asRead t, rbs]
  | .union ts | .intersection ts | .tuple ts => by simp [asRead, rbs, rbs_asReadAll ts]
  | .collection _ t => by simp [asRead, rbs, rbs_asRead t]
  | .hash k v => by simp [asRead, rbs, rbs_asRead k, rbs_asRead v]
  | .generic b ts => by simp [asRead, rbs, rbs_asRead b, rbs_asReadAll ts]
  | .record fs => by simp [asRead, rbs, rbs_asReadFields fs]
  | .proc ps none => by simp [asRead, rbs, rbs_asReadSlots ps]
  | .proc ps (some r) => by simp [asRead, rbs, rbs_asReadSlots ps, rbs_asRead r]

theorem rbs_asReadAll : ∀ ts : List TypeExpr, rbsAll (asReadAll ts) = rbsAll ts
  | [] => rfl
  | t :: ts => by simp [asReadAll, rbsAll, rbs_asRead t, rbs_asReadAll ts]

theorem rbs_asReadFields : ∀ fs : List (String × TypeExpr), rbsFields (asReadFields fs) = rbsFields fs
  | [] => rfl
  | (_, t) :: fs => by simp [asReadFields, rbsFields, rbs_asRead t, rbs_asReadFields fs]

theorem rbs_asReadSlots : ∀ ps : List (Slot TypeExpr), rbsSlots (asReadSlots ps) = rbsSlots ps
  | [] => rfl
  | ⟨_, t, _⟩ :: ps => by simp [asReadSlots, rbsSlots, rbs_asRead t, rbs_asReadSlots ps]

end

section Chars

open Text

def chars (t : TypeExpr) : List Char := t.rbs.toList

def fieldChars (f : String × TypeExpr) : List Char := f.1.toList ++ ':' :: ' ' :: chars f.2

def slotChars (p : Slot TypeExpr) : List Char :=
  (if p.default.isSome then ['?'] else []) ++ chars p.type ++ ' ' :: p.name.toList

def resultChars : Option TypeExpr → List Char
  | none => ['v', 'o', 'i', 'd']
  | some r => chars r

theorem chars_nilable (t : TypeExpr) : chars (.nilable t) = chars t ++ ['?'] := by simp [chars, rbs]

theorem rbsAll_chars (sep : List Char) (ts : List TypeExpr) :
    sep.intercalate ((rbsAll ts).map String.toList) = listed sep chars ts := by
  rw [rbsAll_eq_map, List.map_map, ← intercalate_map]
  rfl

theorem rbsFields_chars (sep : List Char) (fs : List (String × TypeExpr)) :
    sep.intercalate ((rbsFields fs).map String.toList) = listed sep fieldChars fs := by
  rw [rbsFields_eq_map, List.map_map, ← intercalate_map]
  congr 2
  funext f
  simp [fieldChars, chars]

theorem rbsSlots_chars (sep : List Char) (ps : List (Slot TypeExpr)) :
    sep.intercalate ((rbsSlots ps).map String.toList) = listed sep slotChars ps := by
  rw [rbsSlots_eq_map, List.map_map, ← intercalate_map]
  congr 2
  funext p
  by_cases hp : p.default.isSome <;> simp [slotChars, chars, hp]

theorem chars_union (ts : List TypeExpr) : chars (.union ts) = '(' :: listed [' ', '|', ' '] chars ts ++ [')'] := by
  simp [chars, rbs, rbsAll_chars]

theorem chars_intersection (ts : List TypeExpr) :
    chars (.intersection ts) = '(' :: listed [' ', '&', ' '] chars ts ++ [')'] := by
  simp [chars, rbs, rbsAll_chars]

theorem chars_tuple (ts : List TypeExpr) : chars (.tuple ts) = '[' :: listed [',', ' '] chars ts ++ [']'] := by
  simp [chars, rbs, commas, rbsAll_chars]

theorem chars_collection (k : Collection) (t : TypeExpr) :
    chars (.collection k t) = ':' :: ':' :: (k.name.toList ++ '[' :: chars t ++ [']']) := by
  simp [chars, rbs]

theorem chars_hash (k v : TypeExpr) :
    chars (.hash k v) = ':' :: ':' :: ("Hash".toList ++ '[' :: chars k ++ ',' :: ' ' :: chars v ++ [']']) := by
  simp [chars, rbs]

theorem chars_generic (b : TypeExpr) (ts : List TypeExpr) :
    chars (.generic b ts) = chars b ++ '[' :: listed [',', ' '] chars ts ++ [']'] := by
  simp [chars, rbs, commas, rbsAll_chars]

theorem chars_record (fs : List (String × TypeExpr)) :
    chars (.record fs) = '\x7b' :: ' ' :: listed [',', ' '] fieldChars fs ++ [' ', '\x7d'] := by
  simp [chars, rbs, braced, commas, rbsFields_chars]

theorem chars_proc (ps : List (Slot TypeExpr)) (r : Option TypeExpr) :
    chars (.proc ps r) =
      '(' :: listed [',', ' '] slotChars ps ++ [')', ' ', '-', '>', ' '] ++ resultChars r := by
  cases r <;> simp [chars, rbs, resultChars, commas, rbsSlots_chars]

def lead : TypeExpr → Char
  | .raw _ | .generic _ _ => 'A'
  | .boolean => 'b'
  | .untyped => 'u'
  | .nilable t => lead t
  | .union _ | .intersection _ | .proc _ _ => '('
  | .tuple _ => '['
  | .collection _ _ | .hash _ _ => ':'
  | .record _ => '\x7b'

def leadOf (c : Char) : Char := if isNameChar c && !c.isLower then 'A' else c

theorem lead_mem (t : TypeExpr) : lead t ∈ ['A', 'b', 'u', '(', '[', ':', '\x7b'] := by
  fun_induction lead t with
  | case5 t ih => exact ih
  | _ => decide

theorem exists_of_isConstantName {text : String} (h : isConstantName text) :
    ∃ c cs, text.toList = c :: cs ∧ leadOf c = 'A' := by
  obtain ⟨hhead, -⟩ := Bool.and_eq_true_iff.mp h
  cases hcs : text.toList with
  | nil => simp [hcs] at hhead
  | cons c cs =>
    rw [hcs] at hhead
    exact ⟨c, cs, rfl, if_pos hhead⟩

theorem exists_of_isName {name : String} (h : isName name) :
    ∃ c cs, name.toList = c :: cs ∧ isNameChar c := by
  obtain ⟨hne, hall⟩ := Bool.and_eq_true_iff.mp h
  cases hcs : name.toList with
  | nil => simp_all
  | cons c cs => exact ⟨c, cs, rfl, List.all_eq_true.mp hall c (by simp [hcs])⟩

theorem chars_eq_cons : ∀ t : TypeExpr, t.isRegular → ∃ c cs, chars t = c :: cs ∧ leadOf c = lead t
  | .raw text, h => exists_of_isConstantName h
  | .boolean, _ => ⟨'b', ['o', 'o', 'l'], rfl, rfl⟩
  | .untyped, _ => ⟨'u', "ntyped".toList, rfl, rfl⟩
  | .nilable t, h => by
    obtain ⟨c, cs, hcs, hlead⟩ := chars_eq_cons t h
    exact ⟨c, cs ++ ['?'], by rw [chars_nilable, hcs]; rfl, hlead⟩
  | .union ts, _ => ⟨'(', _, chars_union ts, rfl⟩
  | .intersection ts, _ => ⟨'(', _, chars_intersection ts, rfl⟩
  | .tuple ts, _ => ⟨'[', _, chars_tuple ts, rfl⟩
  | .collection k t, _ => ⟨':', _, chars_collection k t, rfl⟩
  | .hash k v, _ => ⟨':', _, chars_hash k v, rfl⟩
  | .generic (.raw base) ts, h => by
    obtain ⟨c, cs, hcs, hlead⟩ := exists_of_isConstantName (Bool.and_eq_true_iff.mp h).1
    have hbase : chars (.raw base) = c :: cs := hcs
    exact ⟨c, _, by rw [chars_generic, hbase]; rfl, hlead⟩
  | .record fs, _ => ⟨'\x7b', _, chars_record fs, rfl⟩
  | .proc ps r, _ => ⟨'(', _, chars_proc ps r, rfl⟩

theorem lead_eq {t u : TypeExpr} (ht : t.isRegular) (hu : u.isRegular) {s s' : List Char}
    (h : chars t ++ s = chars u ++ s') : lead t = lead u := by
  obtain ⟨c, cs, hc, hlead⟩ := chars_eq_cons t ht
  obtain ⟨d, ds, hd, hlead'⟩ := chars_eq_cons u hu
  rw [hc, hd] at h
  rw [← hlead, ← hlead', (List.cons.inj h).1]

theorem exists_head_ne {t : TypeExpr} (ht : t.isRegular) {d : Char}
    (hd : leadOf d ∉ ['A', 'b', 'u', '(', '[', ':', '\x7b']) : ∃ c cs, chars t = c :: cs ∧ c ≠ d := by
  obtain ⟨c, cs, hc, hlead⟩ := chars_eq_cons t ht
  refine ⟨c, cs, hc, ?_⟩
  rintro rfl
  exact hd (hlead ▸ lead_mem t)

end Chars

section Reads

open Text

def Reads (t : TypeExpr) : Prop :=
  ∀ ⦃u⦄, u.isRegular → ∀ (k k' : Nat) ⦃s s'⦄, Stops s → Stops s' →
    chars t ++ (List.replicate k '?' ++ s) = chars u ++ (List.replicate k' '?' ++ s') →
      optional^[k] (asRead t) = optional^[k'] (asRead u) ∧ s = s'

theorem Reads.tells {t : TypeExpr} (h : Reads t) : Tells chars isRegular asRead t := by
  intro u hu s s' hs hs' heq
  exact h hu 0 0 hs hs' heq

theorem Reads.nilable {t : TypeExpr} (h : Reads t) : Reads (.nilable t) := by
  intro u hu k k' s s' hs hs' heq
  apply h hu (k + 1) k' hs hs'
  rw [← heq, chars_nilable, List.append_assoc]
  rfl

theorem reads_of_bare {t : TypeExpr} (h : ∀ u, u.isRegular → (∀ v, u ≠ .nilable v) → ∀ (k k' : Nat) ⦃s s'⦄,
      Stops s → Stops s' →
    chars t ++ (List.replicate k '?' ++ s) = chars u ++ (List.replicate k' '?' ++ s') →
      optional^[k] (asRead t) = optional^[k'] (asRead u) ∧ s = s') : Reads t := by
  intro u
  induction u using lead.induct with
  | case5 u ih =>
    intro hu k k' s s' hs hs' heq
    apply ih hu k (k' + 1) hs hs'
    rw [heq, chars_nilable, List.append_assoc]
    rfl
  | _ => exact fun hu => h _ hu nofun

theorem eq_of_rest {t u : TypeExpr} (htu : asRead t = asRead u) {k k' : Nat} {s s' : List Char} (hs : Stops s)
    (hs' : Stops s') (h : List.replicate k '?' ++ s = List.replicate k' '?' ++ s') :
    optional^[k] (asRead t) = optional^[k'] (asRead u) ∧ s = s' := by
  obtain ⟨rfl, rfl⟩ := marks_inj hs hs' h
  rw [htu]
  exact ⟨rfl, rfl⟩

theorem head_marks (k : Nat) {s : List Char} (hs : Stops s) :
    ∀ c ∈ (List.replicate k '?' ++ s).head?, c ∈ ['?', ' ', ',', ')', ']'] := by
  intro c hc
  cases k with
  | zero => exact List.mem_cons_of_mem _ (hs c hc)
  | succ k =>
    cases hc
    exact List.mem_cons_self

theorem not_isPathChar_marks (k : Nat) {s : List Char} (hs : Stops s) :
    ∀ c ∈ (List.replicate k '?' ++ s).head?, isPathChar c = false := by
  have hnone : ['?', ' ', ',', ')', ']'].any isPathChar = false := by decide
  intro c hc
  simpa using List.any_eq_false.mp hnone c (head_marks k hs c hc)

theorem not_isPathChar_bracket (s : List Char) : ∀ c ∈ ('[' :: s).head?, isPathChar c = false := by
  intro c hc
  cases hc
  rfl

theorem marks_ne_bracket (k : Nat) {s s' : List Char} (hs : Stops s) : List.replicate k '?' ++ s ≠ '[' :: s' := by
  intro h
  have hmem := head_marks k hs '[' (by rw [h]; rfl)
  revert hmem
  decide

theorem all_isPathChar {text : String} (h : isConstantName text) : ∀ c ∈ text.toList, isPathChar c :=
  List.all_eq_true.mp (Bool.and_eq_true_iff.mp h).2

theorem all_isNameChar {name : String} (h : isName name) : ∀ c ∈ name.toList, isNameChar c :=
  List.all_eq_true.mp (Bool.and_eq_true_iff.mp h).2

theorem types_tell {c d : Char} {sep s s' : List Char} {ts us : List TypeExpr} (hc : c ∈ [' ', ',', ')', ']'])
    (hd : d ∈ [')', ']']) (hcd : c ≠ d) (hts : ts.all isRegular) (hus : us.all isRegular)
    (hreads : ∀ t ∈ ts, Reads t) (h : listed (c :: sep) chars ts ++ d :: s = listed (c :: sep) chars us ++ d :: s') :
    asReadAll ts = asReadAll us ∧ s = s' := by
  have hbegin : leadOf d ∉ ['A', 'b', 'u', '(', '[', ':', '\x7b'] := by
    simp only [List.mem_cons, List.not_mem_nil, or_false] at hd
    rcases hd with rfl | rfl
    · decide
    · decide
  rw [asReadAll_eq_map, asReadAll_eq_map]
  have hstop : d ∈ [' ', ',', ')', ']'] := List.mem_cons_of_mem _ (List.mem_cons_of_mem _ hd)
  have hne (t : TypeExpr) (ht : t.isRegular) : ∃ e cs, chars t = e :: cs ∧ e ≠ d := exists_head_ne ht hbegin
  exact listed_tells hc hstop hcd hne (fun t ht => (hreads t ht).tells) hts hus h

theorem exists_of_isRegular_generic {b : TypeExpr} {ts : List TypeExpr} (h : (TypeExpr.generic b ts).isRegular) :
    ∃ base, b = .raw base ∧ isConstantName base ∧ ts.all isRegular := by
  cases b with
  | raw base =>
    rw [isRegular, areRegular_eq_all, Bool.and_eq_true] at h
    exact ⟨base, rfl, h⟩
  | _ => cases h

theorem reads_raw {text : String} (h : isConstantName text) : Reads (.raw text) := by
  apply reads_of_bare
  intro u hu hbare k k' s s' hs hs' heq
  have hlead : lead u = 'A' := (lead_eq (t := .raw text) h hu heq).symm
  cases u with
  | raw text' =>
    obtain ⟨htext, hrest⟩ := append_inj_of_all (all_isPathChar h) (all_isPathChar hu) (not_isPathChar_marks k hs)
      (not_isPathChar_marks k' hs') heq
    exact eq_of_rest (by rw [String.toList_inj.mp htext]) hs hs' hrest
  | generic b us =>
    obtain ⟨base, rfl, hname, -⟩ := exists_of_isRegular_generic hu
    rw [chars_generic, List.append_assoc, List.append_assoc] at heq
    obtain ⟨-, hrest⟩ := append_inj_of_all (all_isPathChar h) (all_isPathChar hname) (not_isPathChar_marks k hs)
      (not_isPathChar_bracket _) heq
    exact absurd hrest (marks_ne_bracket k hs)
  | nilable v => exact absurd rfl (hbare v)
  | _ => simp [lead] at hlead

theorem reads_generic {base : String} {ts : List TypeExpr} (h : (TypeExpr.generic (.raw base) ts).isRegular)
    (hreads : ∀ t ∈ ts, Reads t) : Reads (.generic (.raw base) ts) := by
  obtain ⟨_, hbase, hname, hts⟩ := exists_of_isRegular_generic h
  cases hbase
  apply reads_of_bare
  intro u hu hbare k k' s s' hs hs' heq
  have hlead : lead u = 'A' := (lead_eq h hu heq).symm
  rw [chars_generic, List.append_assoc, List.append_assoc] at heq
  cases u with
  | raw text =>
    obtain ⟨-, hrest⟩ := append_inj_of_all (all_isPathChar hname) (all_isPathChar hu) (not_isPathChar_bracket _)
      (not_isPathChar_marks k' hs') heq
    exact absurd hrest.symm (marks_ne_bracket k' hs')
  | generic b us =>
    obtain ⟨base', rfl, hname', hus⟩ := exists_of_isRegular_generic hu
    rw [chars_generic, List.append_assoc, List.append_assoc] at heq
    obtain ⟨htext, hargs⟩ := append_inj_of_all (all_isPathChar hname) (all_isPathChar hname')
      (not_isPathChar_bracket _) (not_isPathChar_bracket _) heq
    obtain ⟨hall, hrest⟩ := types_tell (by decide) (by decide) (by decide) hts hus hreads (List.cons.inj hargs).2
    exact eq_of_rest (by simp only [asRead, hall, String.toList_inj.mp htext]) hs hs' hrest
  | nilable v => exact absurd rfl (hbare v)
  | _ => simp [lead] at hlead

theorem reads_tuple {ts : List TypeExpr} (h : (TypeExpr.tuple ts).isRegular) (hreads : ∀ t ∈ ts, Reads t) :
    Reads (.tuple ts) := by
  apply reads_of_bare
  intro u hu hbare k k' s s' hs hs' heq
  have hlead : lead u = '[' := (lead_eq h hu heq).symm
  rw [isRegular, areRegular_eq_all] at h
  cases u with
  | tuple us =>
    rw [isRegular, areRegular_eq_all] at hu
    simp only [chars_tuple, List.cons_append, List.append_assoc, List.cons.injEq, true_and] at heq
    obtain ⟨hall, hrest⟩ := types_tell (by decide) (by decide) (by decide) h hu hreads heq
    exact eq_of_rest (by rw [asRead, asRead, hall]) hs hs' hrest
  | nilable v => exact absurd rfl (hbare v)
  | _ => simp [lead] at hlead

theorem reads_boolean : Reads .boolean := by
  apply reads_of_bare
  intro u hu hbare k k' s s' hs hs' heq
  have hlead : lead u = 'b' := (lead_eq rfl hu heq).symm
  cases u with
  | boolean => exact eq_of_rest rfl hs hs' (List.append_cancel_left heq)
  | nilable v => exact absurd rfl (hbare v)
  | _ => simp [lead] at hlead

theorem reads_untyped : Reads .untyped := by
  apply reads_of_bare
  intro u hu hbare k k' s s' hs hs' heq
  have hlead : lead u = 'u' := (lead_eq rfl hu heq).symm
  cases u with
  | untyped => exact eq_of_rest rfl hs hs' (List.append_cancel_left heq)
  | nilable v => exact absurd rfl (hbare v)
  | _ => simp [lead] at hlead

theorem all_isPathChar_name (kind : Collection) : ∀ c ∈ kind.name.toList, isPathChar c := by
  cases kind <;> exact List.all_eq_true.mp (by decide)

theorem all_isPathChar_hash : ∀ c ∈ "Hash".toList, isPathChar c := List.all_eq_true.mp (by decide)

theorem name_ne_hash (kind : Collection) : kind.name.toList ≠ "Hash".toList := by cases kind <;> decide

theorem reads_collection {kind : Collection} {t : TypeExpr} (h : t.isRegular) (hreads : Reads t) :
    Reads (.collection kind t) := by
  apply reads_of_bare
  intro u hu hbare k k' s s' hs hs' heq
  have hlead : lead u = ':' := (lead_eq (t := .collection kind t) h hu heq).symm
  cases u with
  | collection kind' u =>
    simp only [chars_collection, List.cons_append, List.append_assoc, List.cons.injEq, true_and] at heq
    obtain ⟨hname, helement⟩ := append_inj_of_all (all_isPathChar_name kind) (all_isPathChar_name kind')
      (not_isPathChar_bracket _) (not_isPathChar_bracket _) heq
    have hkind : kind = kind' := by
      revert hname
      cases kind <;> cases kind' <;> decide
    have hu : u.isRegular := hu
    obtain ⟨hinner, hrest⟩ := hreads.tells hu (stops_bracket _) (stops_bracket _)
      (List.cons.inj helement).2
    exact eq_of_rest (by rw [asRead, asRead, hkind, hinner]) hs hs' (List.cons.inj hrest).2
  | hash l v =>
    simp only [chars_collection, chars_hash, List.cons_append, List.append_assoc, List.cons.injEq, true_and] at heq
    obtain ⟨hname, -⟩ := append_inj_of_all (all_isPathChar_name kind) all_isPathChar_hash (not_isPathChar_bracket _)
      (not_isPathChar_bracket _) heq
    exact absurd hname (name_ne_hash kind)
  | nilable v => exact absurd rfl (hbare v)
  | _ => simp [lead] at hlead

theorem reads_hash {key value : TypeExpr} (h : (TypeExpr.hash key value).isRegular) (hkey : Reads key)
    (hvalue : Reads value) : Reads (.hash key value) := by
  apply reads_of_bare
  intro u hu hbare k k' s s' hs hs' heq
  have hlead : lead u = ':' := (lead_eq h hu heq).symm
  cases u with
  | collection kind u =>
    simp only [chars_collection, chars_hash, List.cons_append, List.append_assoc, List.cons.injEq, true_and] at heq
    obtain ⟨hname, -⟩ := append_inj_of_all all_isPathChar_hash (all_isPathChar_name kind) (not_isPathChar_bracket _)
      (not_isPathChar_bracket _) heq
    exact absurd hname.symm (name_ne_hash kind)
  | hash l v =>
    obtain ⟨hl, hv⟩ := Bool.and_eq_true_iff.mp hu
    simp only [chars_hash, List.cons_append, List.append_assoc, List.cons.injEq, true_and] at heq
    have hpair := (List.cons.inj (List.append_cancel_left heq)).2
    obtain ⟨hfirst, hpair⟩ := hkey.tells hl (stops_comma _) (stops_comma _) hpair
    obtain ⟨hsecond, hrest⟩ := hvalue.tells hv (stops_bracket _) (stops_bracket _)
      (List.cons.inj (List.cons.inj hpair).2).2
    exact eq_of_rest (by rw [asRead, asRead, hfirst, hsecond]) hs hs' (List.cons.inj hrest).2
  | nilable v => exact absurd rfl (hbare v)
  | _ => simp [lead] at hlead

theorem not_isNameChar_colon (s : List Char) : ∀ c ∈ (':' :: s).head?, isNameChar c = false := by
  intro c hc
  cases hc
  rfl

theorem tells_field {f : String × TypeExpr} (h : isRegularField f) (hreads : Reads f.2) :
    Tells fieldChars isRegularField (fun f => (f.1, asRead f.2)) f := by
  intro g hg s s' hs hs' heq
  obtain ⟨hname, -⟩ := Bool.and_eq_true_iff.mp h
  obtain ⟨hname', htype'⟩ := Bool.and_eq_true_iff.mp hg
  rw [fieldChars, fieldChars, List.append_assoc, List.append_assoc] at heq
  obtain ⟨hkey, hvalue⟩ := append_inj_of_all (all_isNameChar hname) (all_isNameChar hname') (not_isNameChar_colon _)
    (not_isNameChar_colon _) heq
  obtain ⟨htype, hrest⟩ := hreads.tells htype' hs hs' (List.cons.inj (List.cons.inj hvalue).2).2
  exact ⟨Prod.ext (String.toList_inj.mp hkey) htype, hrest⟩

theorem reads_record {fs : List (String × TypeExpr)} (h : (TypeExpr.record fs).isRegular)
    (hreads : ∀ f ∈ fs, Reads f.2) : Reads (.record fs) := by
  apply reads_of_bare
  intro u hu hbare k k' s s' hs hs' heq
  have hlead : lead u = '\x7b' := (lead_eq h hu heq).symm
  rw [isRegular, areRegularFields_eq_all] at h
  have hne (f : String × TypeExpr) (hf : isRegularField f) : ∃ c cs, fieldChars f = c :: cs ∧ c ≠ ' ' := by
    obtain ⟨c, cs, hcs, hc⟩ := exists_of_isName (Bool.and_eq_true_iff.mp hf).1
    refine ⟨c, _, by rw [fieldChars, hcs]; rfl, ?_⟩
    rintro rfl
    cases hc
  cases u with
  | record gs =>
    rw [isRegular, areRegularFields_eq_all] at hu
    simp only [chars_record, List.cons_append, List.append_assoc, List.cons.injEq, true_and] at heq
    obtain ⟨hmap, hrest⟩ := listed_tells (by decide) (by decide) (by decide) hne
      (fun f hf => tells_field (List.all_eq_true.mp h f hf) (hreads f hf)) h hu heq
    apply eq_of_rest _ hs hs' (List.cons.inj hrest).2
    rw [asRead, asRead, asReadFields_eq_map, asReadFields_eq_map, hmap]
  | nilable v => exact absurd rfl (hbare v)
  | _ => simp [lead] at hlead

theorem tells_slot {p : Slot TypeExpr} (h : isRegularSlot p) (hreads : Reads p.type) :
    Tells slotChars isRegularSlot (fun p => { p with type := asRead p.type }) p := by
  intro q hq s s' hs hs' heq
  obtain ⟨name, type, default⟩ := p
  obtain ⟨name', type', default'⟩ := q
  simp only [isRegularSlot, Bool.and_eq_true, Option.isNone_iff_eq_none] at h hq
  obtain ⟨⟨hname, -⟩, rfl⟩ := h
  obtain ⟨⟨hname', htype'⟩, rfl⟩ := hq
  simp only [slotChars, Option.isSome_none, Bool.false_eq_true, if_false, List.nil_append, List.append_assoc] at heq
  obtain ⟨htype, hrest⟩ := hreads.tells htype' (stops_blank _) (stops_blank _) heq
  have stop {s : List Char} (hs : Stops s) : ∀ c ∈ s.head?, isNameChar c = false := by
    have hnone : [' ', ',', ')', ']'].any isNameChar = false := by decide
    intro c hc
    simpa using List.any_eq_false.mp hnone c (hs c hc)
  obtain ⟨hkey, hrest⟩ := append_inj_of_all (all_isNameChar hname) (all_isNameChar hname') (stop hs) (stop hs')
    (List.cons.inj hrest).2
  have hkey := String.toList_inj.mp hkey
  exact ⟨by simp only [htype, hkey], hrest⟩

section Parens

variable {c : Char} {ts us : List TypeExpr} {ps : List (Slot TypeExpr)} {r : Option TypeExpr} {s s' : List Char}

def memberChars (c : Char) (ts : List TypeExpr) : List Char := '(' :: listed [' ', c, ' '] chars ts ++ [')']

theorem exists_members (h : 2 ≤ ts.length) (c : Char) (s : List Char) :
    ∃ t ∈ ts, ∃ s', memberChars c ts ++ s = '(' :: (chars t ++ ' ' :: c :: s') := by
  match ts, h with
  | t :: u :: ts, _ =>
    let rest := chars u ++ ((ts.flatMap fun v => [' ', c, ' '] ++ chars v) ++ ')' :: s)
    refine ⟨t, List.mem_cons_self, ' ' :: rest, ?_⟩
    simp only [rest, memberChars, listed, List.flatMap_cons, List.cons_append, List.nil_append, List.append_assoc]

theorem members_ne {d : Char} (hcd : c ≠ d) (hts : 2 ≤ ts.length) (hus : 2 ≤ us.length) (hus' : us.all isRegular)
    (hreads : ∀ t ∈ ts, Reads t) : memberChars c ts ++ s ≠ memberChars d us ++ s' := by
  intro heq
  obtain ⟨t, ht, a, ha⟩ := exists_members hts c s
  obtain ⟨u, hu, b, hb⟩ := exists_members hus d s'
  rw [ha, hb] at heq
  obtain ⟨-, hrest⟩ := (hreads t ht).tells (List.all_eq_true.mp hus' u hu) (stops_blank _) (stops_blank _)
    (List.cons.inj heq).2
  exact hcd (List.cons.inj (List.cons.inj hrest).2).1

theorem members_ne_proc (hc : isNameChar c = false) (hts : 2 ≤ ts.length) (hts' : ts.all isRegular)
    (hps : ps.all isRegularSlot) (hreads : (∀ t ∈ ts, Reads t) ∨ ∀ p ∈ ps, Reads p.type) :
    memberChars c ts ++ s ≠ chars (.proc ps r) ++ s' := by
  intro heq
  obtain ⟨t, ht, a, ha⟩ := exists_members hts c s
  have htype := List.all_eq_true.mp hts' t ht
  rw [ha, chars_proc] at heq
  cases ps with
  | nil =>
    obtain ⟨e, cs, he, hne⟩ := exists_head_ne (d := ')') htype (by decide)
    rw [he] at heq
    exact hne (List.cons.inj (List.cons.inj heq).2).1
  | cons p ps =>
    have hp := List.all_eq_true.mp hps p List.mem_cons_self
    simp only [isRegularSlot, Bool.and_eq_true, Option.isNone_iff_eq_none] at hp
    obtain ⟨⟨hname, hslot⟩, hdefault⟩ := hp
    obtain ⟨d, cs, hcs, hd⟩ := exists_of_isName hname
    simp only [listed, slotChars, hdefault, hcs, Option.isSome_none, Bool.false_eq_true, if_false, List.nil_append,
      List.cons_append, List.append_assoc, List.cons.injEq, true_and] at heq
    have hrest : c = d := by
      rcases hreads with hreads | hreads
      · obtain ⟨-, hrest⟩ := (hreads t ht).tells hslot (stops_blank _) (stops_blank _) heq
        exact (List.cons.inj (List.cons.inj hrest).2).1
      · obtain ⟨-, hrest⟩ := (hreads p List.mem_cons_self).tells htype (stops_blank _) (stops_blank _) heq.symm
        exact (List.cons.inj (List.cons.inj hrest).2).1.symm
    rw [hrest, hd] at hc
    cases hc

theorem isRegular_members (h : (TypeExpr.union ts).isRegular) : 2 ≤ ts.length ∧ ts.all isRegular := by
  rw [isRegular, areRegular_eq_all, Bool.and_eq_true, decide_eq_true_iff] at h
  exact h

theorem isRegular_proc (h : (TypeExpr.proc ps r).isRegular) : ps.all isRegularSlot ∧ r.all isRegular := by
  cases r with
  | none => exact ⟨by rwa [isRegular, areRegularSlots_eq_all] at h, rfl⟩
  | some t => rwa [isRegular, areRegularSlots_eq_all, Bool.and_eq_true] at h

theorem members_tell {u : TypeExpr} (hc : isNameChar c = false) (hts : 2 ≤ ts.length) (hts' : ts.all isRegular)
    (hreads : ∀ t ∈ ts, Reads t) (hu : u.isRegular) (hbare : ∀ v, u ≠ .nilable v) (hlead : lead u = '(')
    (h : memberChars c ts ++ s = chars u ++ s') :
    ∃ us, (u = .union us ∧ c = '|' ∨ u = .intersection us ∧ c = '&') ∧ asReadAll ts = asReadAll us ∧ s = s' := by
  have same {us : List TypeExpr} (hus : us.all isRegular) (h : memberChars c ts ++ s = memberChars c us ++ s') :
      asReadAll ts = asReadAll us ∧ s = s' := by
    simp only [memberChars, List.cons_append, List.append_assoc, List.cons.injEq, true_and] at h
    exact types_tell (by decide) (by decide) (by decide) hts' hus hreads h
  cases u with
  | union us =>
    obtain ⟨hus, hus'⟩ := isRegular_members hu
    rw [chars_union] at h
    by_cases hbar : c = '|'
    · subst hbar
      exact ⟨us, .inl ⟨rfl, rfl⟩, same hus' h⟩
    · exact absurd h (members_ne hbar hts hus hus' hreads)
  | intersection us =>
    obtain ⟨hus, hus'⟩ := isRegular_members hu
    rw [chars_intersection] at h
    by_cases hbar : c = '&'
    · subst hbar
      exact ⟨us, .inr ⟨rfl, rfl⟩, same hus' h⟩
    · exact absurd h (members_ne hbar hts hus hus' hreads)
  | proc ps r => exact absurd h (members_ne_proc hc hts hts' (isRegular_proc hu).1 (.inl hreads))
  | nilable v => exact absurd rfl (hbare v)
  | _ => simp [lead] at hlead

end Parens

theorem reads_union {ts : List TypeExpr} (h : (TypeExpr.union ts).isRegular) (hreads : ∀ t ∈ ts, Reads t) :
    Reads (.union ts) := by
  obtain ⟨hlength, hts⟩ := isRegular_members h
  apply reads_of_bare
  intro u hu hbare k k' s s' hs hs' heq
  have hlead : lead u = '(' := (lead_eq h hu heq).symm
  rw [chars_union] at heq
  obtain ⟨us, ⟨rfl, -⟩ | ⟨-, hsign⟩, hall, hrest⟩ := members_tell (by decide) hlength hts hreads hu hbare hlead heq
  · exact eq_of_rest (by rw [asRead, asRead, hall]) hs hs' hrest
  · exact absurd hsign (by decide)

theorem reads_intersection {ts : List TypeExpr} (h : (TypeExpr.intersection ts).isRegular)
    (hreads : ∀ t ∈ ts, Reads t) : Reads (.intersection ts) := by
  obtain ⟨hlength, hts⟩ := isRegular_members h
  apply reads_of_bare
  intro u hu hbare k k' s s' hs hs' heq
  have hlead : lead u = '(' := (lead_eq h hu heq).symm
  rw [chars_intersection] at heq
  obtain ⟨us, ⟨-, hsign⟩ | ⟨rfl, -⟩, hall, hrest⟩ := members_tell (by decide) hlength hts hreads hu hbare hlead heq
  · exact absurd hsign (by decide)
  · exact eq_of_rest (by rw [asRead, asRead, hall]) hs hs' hrest

theorem iterate_optional_proc (ps : List (Slot TypeExpr)) (r : TypeExpr) (k : Nat) :
    optional^[k] (.proc ps (some r)) = .proc ps (some (optional^[k] r)) := by
  induction k generalizing r with
  | zero => rfl
  | succ k ih => exact ih (optional r)

theorem asRead_proc (ps : List (Slot TypeExpr)) (r : Option TypeExpr) :
    asRead (.proc ps r) = .proc (asReadSlots ps) (r.map asRead) := by
  cases r <;> rfl

theorem void_ne {t : TypeExpr} (h : t.isRegular) {s s' : List Char} : resultChars none ++ s ≠ chars t ++ s' := by
  intro heq
  obtain ⟨c, cs, hcs, hc⟩ := exists_head_ne (d := 'v') h (by decide)
  rw [hcs] at heq
  exact hc (List.cons.inj heq).1.symm

theorem reads_proc {ps : List (Slot TypeExpr)} {r : Option TypeExpr} (h : (TypeExpr.proc ps r).isRegular)
    (hreads : ∀ p ∈ ps, Reads p.type) (hresult : ∀ t, r = some t → Reads t) : Reads (.proc ps r) := by
  obtain ⟨hps, hr⟩ := isRegular_proc h
  apply reads_of_bare
  intro u hu hbare k k' s s' hs hs' heq
  have hlead : lead u = '(' := (lead_eq h hu heq).symm
  cases u with
  | union us =>
    obtain ⟨hlength, hus⟩ := isRegular_members hu
    rw [chars_union] at heq
    exact absurd heq.symm (members_ne_proc (by decide) hlength hus hps (.inr hreads))
  | intersection us =>
    obtain ⟨hlength, hus⟩ := isRegular_members hu
    rw [chars_intersection] at heq
    exact absurd heq.symm (members_ne_proc (by decide) hlength hus hps (.inr hreads))
  | proc qs r' =>
    obtain ⟨hqs, hr'⟩ := isRegular_proc hu
    have hne (p : Slot TypeExpr) (hp : isRegularSlot p) : ∃ c cs, slotChars p = c :: cs ∧ c ≠ ')' := by
      simp only [isRegularSlot, Bool.and_eq_true, Option.isNone_iff_eq_none] at hp
      obtain ⟨c, cs, hcs, hc⟩ := exists_head_ne (d := ')') hp.1.2 (by decide)
      exact ⟨c, _, by rw [slotChars, hp.2, hcs]; rfl, hc⟩
    simp only [chars_proc, List.cons_append, List.append_assoc, List.cons.injEq, true_and] at heq
    obtain ⟨hslots, hrest⟩ := listed_tells (by decide) (by decide) (by decide) hne
      (fun p hp => tells_slot (List.all_eq_true.mp hps p hp) (hreads p hp)) hps hqs heq
    simp only [List.nil_append, List.cons.injEq, true_and] at hrest
    rw [asRead_proc, asRead_proc, asReadSlots_eq_map, asReadSlots_eq_map, hslots]
    cases r with
    | none =>
      cases r' with
      | none =>
        obtain ⟨rfl, rfl⟩ := marks_inj hs hs' (List.append_cancel_left hrest)
        exact ⟨rfl, rfl⟩
      | some t' => exact absurd hrest (void_ne hr')
    | some t =>
      cases r' with
      | none => exact absurd hrest.symm (void_ne hr)
      | some t' =>
        -- The marks after a callable type are read as marks after its result, on both sides.
        obtain ⟨htypes, hrest⟩ := hresult t rfl hr' k k' hs hs' hrest
        rw [Option.map_some, Option.map_some, iterate_optional_proc, iterate_optional_proc, htypes]
        exact ⟨rfl, hrest⟩
  | nilable v => exact absurd rfl (hbare v)
  | _ => simp [lead] at hlead

mutual

theorem reads : ∀ t : TypeExpr, t.isRegular → Reads t
  | .raw text, h => reads_raw h
  | .boolean, _ => reads_boolean
  | .untyped, _ => reads_untyped
  | .nilable t, h => (reads t h).nilable
  | .union ts, h => reads_union h (readsAll ts (Bool.and_eq_true_iff.mp h).2)
  | .intersection ts, h => reads_intersection h (readsAll ts (Bool.and_eq_true_iff.mp h).2)
  | .tuple ts, h => reads_tuple h (readsAll ts h)
  | .collection _ t, h => reads_collection h (reads t h)
  | .hash k v, h => reads_hash h (reads k (Bool.and_eq_true_iff.mp h).1) (reads v (Bool.and_eq_true_iff.mp h).2)
  | .generic (.raw _) ts, h => reads_generic h (readsAll ts (Bool.and_eq_true_iff.mp h).2)
  | .record fs, h => reads_record h (readsFields fs h)
  | .proc ps none, h => reads_proc h (readsSlots ps h) nofun
  | .proc ps (some r), h => by
    obtain ⟨hps, hr⟩ := Bool.and_eq_true_iff.mp h
    apply reads_proc h (readsSlots ps hps)
    intro t ht
    cases ht
    exact reads r hr

theorem readsAll : ∀ ts : List TypeExpr, areRegular ts → ∀ t ∈ ts, Reads t
  | [], _ => nofun
  | t :: ts, h => by
    obtain ⟨ht, hts⟩ := Bool.and_eq_true_iff.mp h
    exact List.forall_mem_cons.mpr ⟨reads t ht, readsAll ts hts⟩

theorem readsFields : ∀ fs : List (String × TypeExpr), areRegularFields fs → ∀ f ∈ fs, Reads f.2
  | [], _ => nofun
  | (k, t) :: fs, h => by
    simp only [areRegularFields, Bool.and_eq_true] at h
    exact List.forall_mem_cons.mpr ⟨reads t h.1.2, readsFields fs h.2⟩

theorem readsSlots : ∀ ps : List (Slot TypeExpr), areRegularSlots ps → ∀ p ∈ ps, Reads p.type
  | [], _ => nofun
  | ⟨k, t, d⟩ :: ps, h => by
    simp only [areRegularSlots, Bool.and_eq_true] at h
    exact List.forall_mem_cons.mpr ⟨reads t h.1.1.2, readsSlots ps h.2⟩

end

end Reads

/-- Two types have one text in a signature file exactly if they read as the same type, with each `?` after a callable
type that has a result put after the result. -/
theorem rbs_eq_iff_asRead_eq {t u : TypeExpr} (ht : t.isRegular) (hu : u.isRegular) :
    t.rbs = u.rbs ↔ t.asRead = u.asRead := by
  constructor
  · intro h
    have hchars : chars t ++ [] = chars u ++ [] := by rw [chars, chars, h]
    exact (reads t ht hu 0 0 Text.stops_nil Text.stops_nil hchars).1
  · intro h
    rw [← rbs_asRead t, ← rbs_asRead u, h]

theorem rbs_eq_iff_asRead_eq_union_result :
    let ps : List (Slot TypeExpr) := [{ name := "x", type := .nilable (.raw "A::B") }]
    let r : TypeExpr := .union [.boolean, .tuple [.untyped]]
    let t : TypeExpr := .nilable (.proc ps (some r))
    let u : TypeExpr := .proc ps (some (.nilable r))
    t.isRegular ∧ u.isRegular ∧ t.asRead = u.asRead ∧ t.rbs = u.rbs := by
  intro ps r t u
  have ht : t.isRegular := by decide
  have hu : u.isRegular := by decide
  have hread : t.asRead = u.asRead := rfl
  exact ⟨ht, hu, hread, (rbs_eq_iff_asRead_eq ht hu).mpr hread⟩

theorem optional_callable_ambiguous :
    let t : TypeExpr := .nilable (.proc [] (some (.raw "X")))
    let u : TypeExpr := .proc [] (some (.nilable (.raw "X")))
    t.isRegular ∧ u.isRegular ∧ t ≠ u ∧ t.rbs = "() -> X?" ∧ u.rbs = "() -> X?" :=
  ⟨by decide, by decide, nofun, by decide, by decide⟩

end TypeExpr
end RubyStubs
