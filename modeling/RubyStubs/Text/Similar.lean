namespace RubyStubs.Text

def commonStart : List Char → List Char → Nat
  | a :: as, b :: bs => if a == b then commonStart as bs + 1 else 0
  | _, _ => 0

structure Stretch where
  left : Nat := 0
  right : Nat := 0
  size : Nat := 0

def longestStretch (as bs : List Char) : Stretch :=
  let all := (List.range as.length).flatMap fun left =>
    (List.range bs.length).map fun right =>
      ({ left, right, size := commonStart (as.drop left) (bs.drop right) } : Stretch)
  all.foldl (fun best s => if best.size < s.size then s else best) {}

def matched (as bs : List Char) : Nat :=
  let s := longestStretch as bs
  if 0 < s.size ∧ s.left < as.length then
    matched (as.take s.left) (bs.take s.right) + s.size +
      matched (as.drop (s.left + s.size)) (bs.drop (s.right + s.size))
  else 0
termination_by as.length
decreasing_by
  all_goals
    rename_i h
    simp only [s] at h
    simp only [List.length_take, List.length_drop]
    omega

def likeness (a b : String) : Nat × Nat :=
  (2 * matched a.toList b.toList, a.toList.length + b.toList.length)

def better (a b : (Nat × Nat) × String) : Bool :=
  let l := a.1.1 * b.1.2
  let r := b.1.1 * a.1.2
  r < l || (r == l && decide (b.2 ≤ a.2))

def closest (word : String) (known : List String) : List String :=
  let near := (known.map fun k => (likeness k word, k)).filter fun (r, _) => 3 * r.2 ≤ 5 * r.1
  ((near.mergeSort better).take 3).map (·.2) |>.mergeSort fun a b => decide (a ≤ b)

end RubyStubs.Text
