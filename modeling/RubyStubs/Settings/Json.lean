import RubyStubs.Settings.Data
import RubyStubs.Text.Hex
import RubyStubs.Text.Numeral

namespace RubyStubs
namespace Json

inductive Frame where
  | list (items : List Data)
  | map (entries : List (Data × Data)) (key : Option Data)

structure Stack where
  frames : List Frame := []
  value : Option Data := none

namespace Stack

def push (s : Stack) (d : Data) : Stack :=
  match s.frames with
  | [] => { s with value := some d }
  | .list items :: fs => { s with frames := .list (d :: items) :: fs }
  | .map entries none :: fs => { s with frames := .map entries (some d) :: fs }
  | .map entries (some k) :: fs => { s with frames := .map ((k, d) :: entries) none :: fs }

/-- Entries under a single key `$map` are pairs, whose keys need not be text. -/
def mapOf (entries : List (Data × Data)) : Data :=
  match entries with
  | [(.text "$map", .list pairs)] =>
    .mapping (pairs.filterMap fun
      | .list [k, v] => some (k, v)
      | _ => none)
  | _ => .mapping entries

def close (s : Stack) : Option Stack :=
  match s.frames with
  | .list items :: fs => some (push { s with frames := fs } (.list items.reverse))
  | .map entries none :: fs => some (push { s with frames := fs } (mapOf entries.reverse))
  | _ => none

end Stack

inductive State where
  | between
  | word (seen : List Char)
  | text (seen : List Char)
  | escape (seen : List Char)
  | code (seen : List Char) (left value : Nat)

def fraction? (cs : List Char) : Option Data :=
  let whole := cs.takeWhile (· != '.')
  let part := (cs.dropWhile (· != '.')).drop 1
  (Text.integer? (String.ofList (whole ++ part))).map fun n => .fraction ⟨n, part.length⟩

def wordValue? (seen : List Char) : Option Data :=
  let s := String.ofList seen.reverse
  if s == "null" then some .null
  else if s == "true" then some (.bool true)
  else if s == "false" then some (.bool false)
  else if seen.contains '.' then fraction? seen.reverse
  else (Text.integer? s).map .int

def start (c : Char) (s : Stack) : Option (State × Stack) :=
  if c == '"' then some (.text [], s)
  else if c == '[' then some (.between, { s with frames := .list [] :: s.frames })
  else if c == '\x7b' then some (.between, { s with frames := .map [] none :: s.frames })
  else if c == ']' || c == '\x7d' then s.close.map (.between, ·)
  else if Text.isBlank c || c == ',' || c == ':' then some (.between, s)
  else some (.word [c], s)

def escaped (c : Char) : Char :=
  if c == 'n' then '\n' else if c == 't' then '\t' else if c == 'r' then '\r'
  else if c == 'b' then '\x08' else if c == 'f' then '\x0c' else c

def isWordEnd (c : Char) : Bool :=
  Text.isBlank c || c == ',' || c == ':' || c == ']' || c == '\x7d'

def step (c : Char) (s : Stack) : State → Option (State × Stack)
  | .between => start c s
  | .word seen =>
    if isWordEnd c then (wordValue? seen).bind fun d => start c (s.push d)
    else some (.word (c :: seen), s)
  | .text seen =>
    if c == '"' then some (.between, s.push (.text (String.ofList seen.reverse)))
    else if c == '\\' then some (.escape seen, s)
    else some (.text (c :: seen), s)
  | .escape seen =>
    if c == 'u' then some (.code seen 3 0, s) else some (.text (escaped c :: seen), s)
  | .code seen left value => do
    let d ← Text.hexDigit? c
    match left with
    | 0 => return (.text (Char.ofNat (value * 16 + d) :: seen), s)
    | n + 1 => return (.code seen n (value * 16 + d), s)

def readFrom (state : State) (s : Stack) : List Char → Option Data
  | [] =>
    match state, s.frames with
    | .between, [] => s.value
    | .word seen, [] => wordValue? seen
    | _, _ => none
  | c :: cs => do
    let (state, s) ← step c s state
    readFrom state s cs

end Json

def Data.ofJson? (text : String) : Option Data := Json.readFrom .between {} text.toList

end RubyStubs
