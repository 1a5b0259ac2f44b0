import Mathlib.Data.List.Perm.Basic
import Mathlib.Data.List.Nodup
import RubyStubs.Decl.Merge

namespace RubyStubs

section Adding

variable {α : Type} [BEq α]

theorem addAllNew_append (xs ys zs : List α) :
    addAllNew xs (ys ++ zs) = addAllNew (addAllNew xs ys) zs := by
  simp [addAllNew, List.foldl_append]

theorem distinct_append (xs ys : List α) : distinct (xs ++ ys) = addAllNew (distinct xs) ys :=
  addAllNew_append [] xs ys

variable [LawfulBEq α]

theorem addNew_of_mem {xs : List α} {x : α} (h : x ∈ xs) : addNew xs x = xs := by
  simp [addNew, h]

theorem addNew_of_not_mem {xs : List α} {x : α} (h : x ∉ xs) : addNew xs x = xs ++ [x] := by
  simp [addNew, h]

theorem addAllNew_of_subset {xs ys : List α} (h : ∀ y ∈ ys, y ∈ xs) : addAllNew xs ys = xs := by
  induction ys with
  | nil => rfl
  | cons y ys ih =>
    change addAllNew (addNew xs y) ys = xs
    rw [addNew_of_mem (h y (by simp))]
    exact ih fun z hz => h z (List.mem_cons_of_mem _ hz)

theorem addAllNew_addNew (xs ys : List α) (z : α) :
    addAllNew xs (addNew ys z) = addNew (addAllNew xs ys) z := by
  by_cases hz : z ∈ ys
  · rw [addNew_of_mem hz, addNew_of_mem (mem_addAllNew.mpr (.inr hz))]
  · rw [addNew_of_not_mem hz, addAllNew_append]
    rfl

theorem addAllNew_addAllNew (xs ys zs : List α) :
    addAllNew xs (addAllNew ys zs) = addAllNew xs (ys ++ zs) := by
  rw [addAllNew_append]
  induction zs generalizing ys with
  | nil => rfl
  | cons z zs ih =>
    change addAllNew xs (addAllNew (addNew ys z) zs) = addAllNew (addNew (addAllNew xs ys) z) zs
    rw [ih, addAllNew_addNew]

theorem mem_distinct {xs : List α} {x : α} : x ∈ distinct xs ↔ x ∈ xs := by
  simp [distinct, mem_addAllNew]

theorem distinct_distinct_append (xs ys : List α) :
    distinct (distinct xs ++ ys) = distinct (xs ++ ys) := by
  have h : distinct (distinct xs) = distinct xs := addAllNew_addAllNew [] [] xs
  rw [distinct_append, distinct_append, h]

theorem addAllNew_eq_append (xs : List α) {ys : List α} (hy : ys.Nodup) (h : ∀ y ∈ ys, y ∉ xs) :
    addAllNew xs ys = xs ++ ys := by
  induction ys generalizing xs with
  | nil => simp [addAllNew]
  | cons y ys ih =>
    obtain ⟨hy, hys⟩ := List.nodup_cons.mp hy
    change addAllNew (addNew xs y) ys = _
    rw [addNew_of_not_mem (h y (by simp)), ih _ hys, List.append_assoc, List.singleton_append]
    intro z hz hzx
    rcases List.mem_append.mp hzx with hzx | hzy
    · exact h z (List.mem_cons_of_mem _ hz) hzx
    · exact hy (List.mem_singleton.mp hzy ▸ hz)

theorem distinct_of_nodup {xs : List α} (h : xs.Nodup) : distinct xs = xs :=
  (addAllNew_eq_append [] h (by simp)).trans (List.nil_append xs)

theorem addAllNew_eq_reverse_loop (xs ys : List α) :
    addAllNew xs.reverse ys = List.eraseDupsBy.loop (· == ·) ys xs := by
  induction ys generalizing xs with
  | nil => rfl
  | cons y ys ih =>
    change addAllNew (addNew xs.reverse y) ys = _
    rw [List.eraseDupsBy.loop]
    by_cases hy : y ∈ xs
    · have ha : xs.any (y == ·) = true := by simpa using hy
      rw [addNew_of_mem (by simpa using hy), ih, ha]
    · have ha : xs.any (y == ·) = false := by
        rw [List.any_eq_false]
        intro z hz hyz
        exact hy ((beq_iff_eq.mp hyz) ▸ hz)
      rw [addNew_of_not_mem (by simpa using hy), ← List.reverse_cons, ih, ha]

theorem distinct_eq_eraseDups (xs : List α) : distinct xs = xs.eraseDups :=
  addAllNew_eq_reverse_loop [] xs

theorem distinct_cons (x : α) (xs : List α) :
    distinct (x :: xs) = x :: distinct (xs.filter (· != x)) := by
  rw [distinct_eq_eraseDups, distinct_eq_eraseDups, List.eraseDups_cons]
  rfl

omit [BEq α] [LawfulBEq α] in
theorem eq_singleton_iff_of_nodup {xs : List α} (h : xs.Nodup) (x : α) :
    xs = [x] ↔ x ∈ xs ∧ ∀ y ∈ xs, y = x := by
  rw [← List.perm_singleton, List.perm_ext_iff_of_nodup h (List.nodup_singleton x)]
  simp only [List.mem_singleton]
  constructor
  · intro h
    exact ⟨(h x).mpr rfl, fun y hy => (h y).mp hy⟩
  · rintro ⟨hx, h⟩ y
    exact ⟨h y, fun hy => hy ▸ hx⟩

theorem distinct_eq_singleton_iff (xs : List α) (x : α) :
    distinct xs = [x] ↔ x ∈ xs ∧ ∀ y ∈ xs, y = x := by
  simp only [eq_singleton_iff_of_nodup (nodup_distinct xs), mem_distinct]

theorem filter_distinct_eq_singleton_iff (xs : List α) (p : α → Bool) (x : α) :
    (distinct xs).filter p = [x] ↔ (x ∈ xs ∧ p x = true) ∧ ∀ y ∈ xs, p y = true → y = x := by
  simp only [eq_singleton_iff_of_nodup ((nodup_distinct xs).filter p), List.mem_filter, mem_distinct,
    and_imp]

theorem distinct_length_le_one_iff (xs : List α) :
    (distinct xs).length ≤ 1 ↔ ∀ x ∈ xs, ∀ y ∈ xs, x = y := by
  constructor
  · intro h x hx y hy
    have hx' : x ∈ distinct xs := mem_distinct.mpr hx
    have hy' : y ∈ distinct xs := mem_distinct.mpr hy
    obtain ⟨z, hz⟩ := List.length_eq_one_iff.mp (Nat.le_antisymm h (List.length_pos_of_mem hx'))
    rw [hz, List.mem_singleton] at hx' hy'
    rw [hx', hy']
  · intro h
    cases xs with
    | nil => simp [distinct, addAllNew]
    | cons x xs =>
      rw [(distinct_eq_singleton_iff _ x).mpr ⟨by simp, fun y hy => h y hy x (by simp)⟩]
      simp

end Adding

section Agreement

variable {α : Type} [BEq α] [LawfulBEq α]

theorem sameItems_iff (xs ys : List α) : sameItems xs ys = true ↔ ∀ x, x ∈ xs ↔ x ∈ ys := by
  simp only [sameItems, Bool.and_eq_true, List.all_eq_true, List.contains_iff_mem]
  constructor
  · rintro ⟨hxy, hyx⟩ x
    exact ⟨hxy x, hyx x⟩
  · intro h
    exact ⟨fun x => (h x).mp, fun x => (h x).mpr⟩

theorem itemsAgree_iff (lists : List (List α)) :
    itemsAgree lists = true ↔
      ∀ xs ∈ lists, ∀ ys ∈ lists, xs ≠ [] → ys ≠ [] → ∀ x, x ∈ xs ↔ x ∈ ys := by
  have hmem : ∀ xs, xs ∈ lists.filter (!·.isEmpty) ↔ xs ∈ lists ∧ xs ≠ [] := by simp
  have hall : (∀ xs ∈ lists, ∀ ys ∈ lists, xs ≠ [] → ys ≠ [] → ∀ x, x ∈ xs ↔ x ∈ ys) ↔
      ∀ xs ∈ lists.filter (!·.isEmpty), ∀ ys ∈ lists.filter (!·.isEmpty), ∀ x, x ∈ xs ↔ x ∈ ys := by
    simp only [hmem]
    exact ⟨fun h xs hx ys hy => h xs hx.1 ys hy.1 hx.2 hy.2,
      fun h xs hx ys hy hxe hye => h xs ⟨hx, hxe⟩ ys ⟨hy, hye⟩⟩
  rw [hall, itemsAgree]
  split
  · next he => simp [he]
  · next zs rest he =>
    simp only [he, List.all_eq_true, sameItems_iff]
    constructor
    · intro h
      have hz : ∀ xs ∈ zs :: rest, ∀ x, x ∈ zs ↔ x ∈ xs := by
        intro xs hx
        rcases List.mem_cons.mp hx with rfl | hx
        · exact fun _ => Iff.rfl
        · exact h xs hx
      intro xs hx ys hy x
      exact (hz xs hx x).symm.trans (hz ys hy x)
    · intro h xs hx
      exact h zs (by simp) xs (List.mem_cons_of_mem _ hx)

theorem itemsAgree_map_of_nil {β : Type} {f : β → List α} {xs : List β} (h : ∀ x ∈ xs, f x = []) :
    itemsAgree (xs.map f) = true := by
  rw [itemsAgree_iff, List.forall_mem_map]
  intro x hx _ _ hne
  exact absurd (h x hx) hne

end Agreement

section Filled

variable {α : Type}

theorem firstFilled_cons (xs ys : List α) (lists : List (List α)) :
    firstFilled xs (ys :: lists) = if ys = [] then firstFilled xs lists else ys := by
  cases ys <;> simp [firstFilled]

theorem firstFilled_append (xs : List (List α)) (ys : List (List α)) :
    firstFilled [] (xs ++ ys) =
      if firstFilled [] xs = [] then firstFilled [] ys else firstFilled [] xs := by
  induction xs with
  | nil => simp [firstFilled]
  | cons x xs ih =>
    rw [List.cons_append, firstFilled_cons, firstFilled_cons, ih]
    by_cases hx : x = [] <;> simp [hx]

theorem firstFilled_eq_nil_iff (lists : List (List α)) :
    firstFilled [] lists = [] ↔ ∀ xs ∈ lists, xs = [] := by
  induction lists with
  | nil => simp [firstFilled]
  | cons x xs ih =>
    rw [firstFilled_cons, List.forall_mem_cons]
    by_cases hx : x = []
    · simp [hx, ih]
    · simp [hx]

theorem firstFilled_map_eq_nil {β : Type} {f : β → List α} {xs : List β} (h : ∀ x ∈ xs, f x = []) :
    firstFilled [] (xs.map f) = [] :=
  (firstFilled_eq_nil_iff _).mpr (List.forall_mem_map.mpr h)

theorem firstFilled_of_mem {xs : List α} {lists : List (List α)} (h : xs ∈ lists) :
    firstFilled xs lists = firstFilled [] lists := by
  cases hf : lists.find? (!·.isEmpty) with
  | some ys => simp [firstFilled, hf]
  | none =>
    have hx := List.find?_eq_none.mp hf xs h
    simp only [firstFilled, hf, Option.getD_none]
    simpa using hx

theorem mem_firstFilled {lists : List (List α)}
    (h : ∀ xs ∈ lists, ∀ ys ∈ lists, xs ≠ [] → ys ≠ [] → ∀ x, x ∈ xs ↔ x ∈ ys) (x : α) :
    x ∈ firstFilled [] lists ↔ ∃ xs ∈ lists, x ∈ xs := by
  induction lists with
  | nil => simp [firstFilled]
  | cons ys lists ih =>
    have ih := ih fun xs hx zs hz => h xs (List.mem_cons_of_mem _ hx) zs (List.mem_cons_of_mem _ hz)
    rw [firstFilled_cons, List.exists_mem_cons_iff]
    by_cases hy : ys = []
    · simp [hy, ih]
    · simp only [hy, ↓reduceIte]
      constructor
      · exact .inl
      · rintro (hx | ⟨xs, hm, hx⟩)
        · exact hx
        · exact (h ys (by simp) xs (List.mem_cons_of_mem _ hm) hy (List.ne_nil_of_mem hx) x).mpr hx

theorem firstFilled_mem {lists : List (List α)} (h : firstFilled [] lists ≠ []) :
    firstFilled [] lists ∈ lists := by
  induction lists with
  | nil => exact absurd rfl h
  | cons xs lists ih =>
    rw [firstFilled_cons] at h ⊢
    by_cases hx : xs = []
    · simp only [hx, ↓reduceIte] at h ⊢
      exact List.mem_cons_of_mem _ (ih h)
    · simp [hx]

end Filled

end RubyStubs
