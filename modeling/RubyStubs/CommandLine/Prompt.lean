import RubyStubs.Conflict.Resolve
import RubyStubs.Text.Numeral

namespace RubyStubs
namespace Prompt

def choice? (count : Nat) (line : String) : Option Nat :=
  if line.isEmpty then some 0
  else
    match Text.integer? line with
    | some (.ofNat n) => if n ≤ count then some n else none
    | _ => none

def ask {α : Type} (candidates : List α) : List String → Option (Option α) × List String
  | [] => (none, [])
  | l :: ls =>
    match choice? candidates.length l with
    | none => ask candidates ls
    | some 0 => (some none, ls)
    | some (n + 1) => (some candidates[n]?, ls)

def lines : List Char → List (List Char)
  | [] => []
  | c :: cs =>
    if c == '\n' then [] :: lines cs
    else
      match lines cs with
      | [] => [[c]]
      | l :: ls => (c :: l) :: ls

end Prompt

/-- Keeps what is asked for. Its state is the answers that are left; it fails when there are none. -/
def Policy.asking : Policy (List String) Unit where
  choose _ ds s :=
    match Prompt.ask ds s with
    | (some kept, s) => (.ok kept, s)
    | (none, s) => (.error (), s)

end RubyStubs
