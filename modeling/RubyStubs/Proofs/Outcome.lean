import RubyStubs.Journal
import Mathlib.Data.List.Forall2

namespace RubyStubs

variable {ε α α' β β' : Type}

theorem bind_eq_ok_iff {x : Except ε α} {f : α → Except ε β} {b : β} :
    x >>= f = .ok b ↔ ∃ a, x = .ok a ∧ f a = .ok b := by
  cases x <;> simp [bind, Except.bind]

theorem mapM_eq_ok_iff {f : α → Except ε β} {xs : List α} {ys : List β} :
    xs.mapM f = .ok ys ↔ List.Forall₂ (fun x y => f x = .ok y) xs ys := by
  induction xs generalizing ys with
  | nil => simp [pure, Except.pure, eq_comm]
  | cons x xs ih =>
    rw [List.mapM_cons, bind_eq_ok_iff, List.forall₂_cons_left_iff]
    apply exists_congr
    intro y
    rw [bind_eq_ok_iff]
    simp only [ih, pure, Except.pure, Except.ok.injEq]
    constructor
    · rintro ⟨hy, zs, hzs, rfl⟩
      exact ⟨zs, hy, hzs, rfl⟩
    · rintro ⟨zs, hy, hzs, rfl⟩
      exact ⟨hy, zs, hzs, rfl⟩

def Ensures (x : Except ε β) (P : β → Prop) : Prop := ∀ b, x = .ok b → P b

namespace Ensures

variable {P : β → Prop}

theorem ok {b : β} (h : P b) : Ensures (.ok b : Except ε β) P := by
  intro b' hb
  cases hb
  exact h

theorem error (e : ε) : Ensures (.error e) P := nofun

theorem mono {Q : β → Prop} {x : Except ε β} (h : Ensures x P) (hPQ : ∀ b, P b → Q b) : Ensures x Q :=
  fun b hb => hPQ b (h b hb)

theorem bind {x : Except ε α} {f : α → Except ε β} (h : ∀ a, x = .ok a → Ensures (f a) P) :
    Ensures (x >>= f) P := by
  intro b hb
  obtain ⟨a, ha, hb⟩ := bind_eq_ok_iff.mp hb
  exact h a ha b hb

theorem mapM {f : α → Except ε β} {xs : List α} (h : ∀ x, Ensures (f x) P) :
    Ensures (xs.mapM f) fun ys => ∀ y ∈ ys, P y := by
  induction xs with
  | nil => exact ok (by simp)
  | cons x xs ih =>
    rw [List.mapM_cons]
    apply bind
    intro y hy
    apply bind
    intro ys hys
    exact ok (List.forall_mem_cons.mpr ⟨h x y hy, ih ys hys⟩)

end Ensures

inductive Outcome (R : α → α' → Prop) : Except ε α → Except ε α' → Prop
  | error (e : ε) : Outcome R (.error e) (.error e)
  | ok {a : α} {a' : α'} (h : R a a') : Outcome R (.ok a) (.ok a')

namespace Outcome

variable {R : α → α' → Prop} {S : β → β' → Prop}

theorem refl {R : α → α → Prop} (h : ∀ a, R a a) (x : Except ε α) : Outcome R x x := by
  cases x with
  | error e => exact .error e
  | ok a => exact .ok (h a)

theorem mono {R' : α → α' → Prop} (h : ∀ a a', R a a' → R' a a') {x : Except ε α} {x' : Except ε α'}
    (hx : Outcome R x x') : Outcome R' x x' := by
  cases hx with
  | error e => exact .error e
  | ok haa' => exact .ok (h _ _ haa')

theorem bind {x : Except ε α} {x' : Except ε α'} {f : α → Except ε β} {f' : α' → Except ε β'}
    (hx : Outcome R x x') (hf : ∀ a a', R a a' → Outcome S (f a) (f' a')) :
    Outcome S (x >>= f) (x' >>= f') := by
  cases hx with
  | error e => exact .error e
  | ok h => exact hf _ _ h

theorem map {x : Except ε α} {x' : Except ε α'} {f : α → β} {f' : α' → β'} (hx : Outcome R x x')
    (hf : ∀ a a', R a a' → S (f a) (f' a')) : Outcome S (f <$> x) (f' <$> x') := by
  cases hx with
  | error e => exact .error e
  | ok h => exact .ok (hf _ _ h)

theorem bind_same (x : Except ε α) {f : α → Except ε β} {f' : α → Except ε β'}
    (hf : ∀ a, x = .ok a → Outcome S (f a) (f' a)) : Outcome S (x >>= f) (x >>= f') := by
  cases x with
  | error e => exact .error e
  | ok a => exact hf a rfl

theorem mapM {f : α → Except ε β} {f' : α → Except ε β'} {xs : List α}
    (h : ∀ x ∈ xs, Outcome S (f x) (f' x)) : Outcome (List.Forall₂ S) (xs.mapM f) (xs.mapM f') := by
  induction xs with
  | nil => exact .ok .nil
  | cons x xs ih =>
    rw [List.mapM_cons, List.mapM_cons]
    have hx : Outcome S (f x) (f' x) := h x List.mem_cons_self
    have hxs : Outcome (List.Forall₂ S) (xs.mapM f) (xs.mapM f') :=
      ih fun y hy => h y (List.mem_cons_of_mem x hy)
    refine hx.bind fun y y' hy => ?_
    exact hxs.bind fun ys ys' hys => .ok (.cons hy hys)

theorem mapM_forall₂ {f : α → Except ε β} {f' : α' → Except ε β'} {xs : List α} {xs' : List α'}
    (h : List.Forall₂ R xs xs') (hf : ∀ a a', R a a' → Outcome S (f a) (f' a')) :
    Outcome (List.Forall₂ S) (xs.mapM f) (xs'.mapM f') := by
  induction h with
  | nil => exact .ok .nil
  | @cons x x' xs xs' hxx' _ ih =>
    rw [List.mapM_cons, List.mapM_cons]
    refine (hf x x' hxx').bind fun y y' hy => ?_
    exact ih.bind fun ys ys' hys => .ok (.cons hy hys)

end Outcome

def SameUnder (f : α → β) (a a' : α) : Prop := f a = f a'

theorem sameUnder_map {f : α → β} {xs ys : List α} (h : List.Forall₂ (SameUnder f) xs ys) :
    SameUnder (List.map f) xs ys := by
  induction h with
  | nil => rfl
  | cons hxy _ ih => exact congrArg₂ List.cons hxy ih

theorem outcome_eq_iff {x y : Except ε α} : Outcome Eq x y ↔ x = y := by
  constructor
  · rintro (e | rfl)
    · rfl
    · rfl
  · rintro rfl
    exact .refl (fun _ => rfl) x

namespace Journal

structure Alike (R : α → α' → Prop) (x : Journal ε α) (y : Journal ε α') : Prop where
  notices : x.notices = y.notices
  result : Outcome R x.result y.result

variable {R : α → α' → Prop} {S : β → β' → Prop}

theorem Alike.refl {R : α → α → Prop} (h : ∀ a, R a a) (x : Journal ε α) : Alike R x x :=
  ⟨rfl, .refl h x.result⟩

theorem Alike.ofExcept {x : Except ε α} {y : Except ε α'} (h : Outcome R x y) :
    Alike R (ofExcept x) (ofExcept y) :=
  ⟨rfl, h⟩

theorem Alike.bind {x : Journal ε α} {y : Journal ε α'} {f : α → Journal ε β} {g : α' → Journal ε β'}
    (h : Alike R x y) (hf : ∀ a a', x.result = .ok a → R a a' → Alike S (f a) (g a')) :
    Alike S (x >>= f) (y >>= g) := by
  obtain ⟨notices, result⟩ := x
  obtain ⟨notices', result'⟩ := y
  obtain ⟨hnotices, hresult⟩ := h
  cases hresult with
  | error e =>
    rw [bind_error rfl, bind_error rfl]
    exact ⟨hnotices, .error e⟩
  | @ok a a' haa' =>
    obtain ⟨hrest, houtcome⟩ := hf a a' rfl haa'
    rw [bind_ok rfl, bind_ok rfl]
    exact ⟨congrArg₂ (· ++ ·) hnotices hrest, houtcome⟩

theorem alike_eq_iff {x y : Journal ε α} : Alike Eq x y ↔ x = y := by
  constructor
  · rintro ⟨hnotices, hresult⟩
    obtain ⟨notices, result⟩ := x
    cases hnotices
    cases outcome_eq_iff.mp hresult
    rfl
  · rintro rfl
    exact .refl (fun _ => rfl) x

theorem Alike.collect {R : List β → List β' → Prop} (hnil : R [] [])
    (happend : ∀ xs xs' ys ys', R xs xs' → R ys ys' → R (xs ++ ys) (xs' ++ ys')) {xs : List α}
    {f : (x : α) → x ∈ xs → Journal ε (List β)} {g : (x : α) → x ∈ xs → Journal ε (List β')}
    (h : ∀ x hx, Alike R (f x hx) (g x hx)) : Alike R (Journal.collect xs f) (Journal.collect xs g) := by
  induction xs with
  | nil => exact ⟨rfl, .ok hnil⟩
  | cons x xs ih =>
    refine (h x List.mem_cons_self).bind fun ys ys' _ hys => ?_
    refine (ih fun z hz => h z (List.mem_cons_of_mem x hz)).bind fun zs zs' _ hzs => ?_
    exact ⟨rfl, .ok (happend _ _ _ _ hys hzs)⟩

end Journal
end RubyStubs
