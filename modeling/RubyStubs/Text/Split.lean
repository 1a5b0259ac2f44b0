namespace RubyStubs.Text

def split (sep : Char) : List Char → List (List Char)
  | [] => [[]]
  | c :: cs =>
    if c == sep then [] :: split sep cs
    else
      match split sep cs with
      | [] => [[c]]
      | p :: ps => (c :: p) :: ps

theorem split_ne_nil (sep : Char) (cs : List Char) : split sep cs ≠ [] := by
  fun_cases split sep cs <;> simp

section

variable {sep : Char} {xs ys : List Char}

theorem split_append_sep (sep : Char) (xs ys : List Char) :
    split sep (xs ++ sep :: ys) = split sep xs ++ split sep ys := by
  induction xs with
  | nil => simp [split]
  | cons x xs ih =>
    rw [List.cons_append, split, split, ih]
    by_cases hx : x = sep
    · simp [hx]
    · obtain ⟨p, ps, hp⟩ := List.exists_cons_of_ne_nil (split_ne_nil sep xs)
      simp [hx, hp]

theorem split_append_of_not_mem (hxs : sep ∉ xs) {p : List Char} {ps : List (List Char)}
    (hys : split sep ys = p :: ps) : split sep (xs ++ ys) = (xs ++ p) :: ps := by
  induction xs with
  | nil => exact hys
  | cons x xs ih =>
    rw [List.mem_cons, not_or] at hxs
    rw [List.cons_append, split, ih hxs.2, if_neg (by simpa using Ne.symm hxs.1)]
    rfl

theorem split_of_not_mem (hxs : sep ∉ xs) : split sep xs = [xs] := by
  have hsplit : split sep (xs ++ []) = [xs ++ []] := split_append_of_not_mem hxs rfl
  rwa [List.append_nil] at hsplit

end

end RubyStubs.Text
