namespace RubyStubs.Text

def isBlank (c : Char) : Bool :=
  let n := c.toNat
  (9 ≤ n && n ≤ 13) || (28 ≤ n && n ≤ 32) || n == 0x85 || n == 0xA0 || n == 0x1680 ||
    (0x2000 ≤ n && n ≤ 0x200A) || n == 0x2028 || n == 0x2029 || n == 0x202F || n == 0x205F ||
    n == 0x3000

def dropStart (p : Char → Bool) (s : String) : String :=
  String.ofList (s.toList.dropWhile p)

def dropEnd (p : Char → Bool) (s : String) : String :=
  String.ofList (s.toList.reverse.dropWhile p).reverse

def dropEnds (p : Char → Bool) (s : String) : String :=
  dropEnd p (dropStart p s)

def trimEnd (s : String) : String := dropEnd isBlank s

def trim (s : String) : String := dropEnds isBlank s

theorem dropStart_eq_self {p : Char → Bool} {s : String}
    (h : ∀ c, s.toList.head? = some c → p c = false) : dropStart p s = s := by
  unfold dropStart
  cases hs : s.toList with
  | nil => rw [List.dropWhile_nil, ← hs, String.ofList_toList]
  | cons c cs =>
    have hc := h c (by simp [hs])
    simp [List.dropWhile, hc, ← hs]

theorem dropEnd_eq_self {p : Char → Bool} {s : String}
    (h : ∀ c, s.toList.getLast? = some c → p c = false) : dropEnd p s = s := by
  unfold dropEnd
  cases hs : s.toList.reverse with
  | nil => rw [List.dropWhile_nil, ← hs, List.reverse_reverse, String.ofList_toList]
  | cons c cs =>
    have hc := h c (by rw [← List.head?_reverse, hs]; rfl)
    simp [List.dropWhile, hc, ← hs]

def startsWith (s start : String) : Bool := start.toList.isPrefixOf s.toList

def without (s start : String) : String :=
  if startsWith s start then String.ofList (s.toList.drop start.toList.length) else s

def endsIn (s : String) (c : Char) : Bool := s.toList.getLast? == some c

def blanks (n : Int) : String := String.ofList (List.replicate n.toNat ' ')

def dropBlank (s : String) : String :=
  match s.toList with
  | ' ' :: cs => String.ofList cs
  | _ => s

def namePieces : List Char → List (List Char)
  | [] => [[]]
  | ':' :: ':' :: cs => [] :: namePieces cs
  | c :: cs =>
    match namePieces cs with
    | [] => [[c]]
    | p :: ps => (c :: p) :: ps

def names (s : String) : List String :=
  (namePieces s.toList).filterMap fun p => if p.isEmpty then none else some (String.ofList p)

end RubyStubs.Text
