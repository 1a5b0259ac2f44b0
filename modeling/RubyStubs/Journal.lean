namespace RubyStubs

structure Journal (ε α : Type) where
  notices : List String
  result : Except ε α

namespace Journal

variable {ε α β : Type}

def ofExcept (x : Except ε α) : Journal ε α := ⟨[], x⟩

def notice (s : String) : Journal ε Unit := ⟨[s], .ok ()⟩

instance : Monad (Journal ε) where
  pure a := ⟨[], .ok a⟩
  bind x f :=
    match x.result with
    | .error e => ⟨x.notices, .error e⟩
    | .ok a => ⟨x.notices ++ (f a).notices, (f a).result⟩

theorem bind_ok {x : Journal ε α} {a : α} (h : x.result = .ok a) (f : α → Journal ε β) :
    x >>= f = ⟨x.notices ++ (f a).notices, (f a).result⟩ := by
  simp [bind, h]

theorem bind_error {x : Journal ε α} {e : ε} (h : x.result = .error e) (f : α → Journal ε β) :
    x >>= f = ⟨x.notices, .error e⟩ := by
  simp [bind, h]

def collect : (xs : List α) → ((x : α) → x ∈ xs → Journal ε (List β)) → Journal ε (List β)
  | [], _ => pure []
  | x :: xs, f => do
    let ys ← f x List.mem_cons_self
    let zs ← collect xs fun z h => f z (List.mem_cons_of_mem _ h)
    return ys ++ zs

end Journal
end RubyStubs
