import RubyStubs.Files.Error
import RubyStubs.Files.PathName
import RubyStubs.Text.Lines
import RubyStubs.Text.Utf8

/-!
A tree of files as a list of entries, each under its components from the root of the file system. Nothing else is there
but the directories above an entry or above the working directory.
-/
namespace RubyStubs

inductive FileEntry where
  | file (bytes : List UInt8)
  | directory
  deriving DecidableEq

/-- No two entries are in the same place. `here` is the working directory. -/
structure FileTree where
  entries : List (List String × FileEntry) := []
  nodup : (entries.map (·.1)).Nodup := by exact List.nodup_nil
  here : List String := []

namespace FileTree

def start (t : FileTree) (p : PathName) : List String := if p.rooted then [] else t.here.reverse

def resolveFrom (above : List String) : List String → List String
  | [] => above.reverse
  | c :: cs => if c == ".." then resolveFrom above.tail cs else resolveFrom (c :: above) cs

def resolve (t : FileTree) (p : PathName) : List String := resolveFrom (t.start p) p.parts

def entry? (t : FileTree) (parts : List String) : Option FileEntry :=
  if parts.isPrefixOf t.here then some .directory
  else
    match t.entries.find? (·.1 == parts) with
    | some (_, e) => some e
    | none => if t.entries.any (parts.isPrefixOf ·.1) then some .directory else none

def longestName : Nat := 255

def longestPath : Nat := 4095

def isTooLong (component : String) : Bool := longestName < component.utf8ByteSize

/-- Goes on from a place, whose components are given innermost first. Only a directory leads
further, be it up or down. -/
def follow (t : FileTree) (place : List String) : List String → Except FileError FileEntry
  | [] =>
    match t.entry? place.reverse with
    | some e => .ok e
    | none => .error .missing
  | c :: cs =>
    match t.entry? place.reverse with
    | none => .error .missing
    | some (.file _) => .error .notDirectory
    | some .directory =>
      if c == ".." then t.follow place.tail cs
      else if isTooLong c then .error .nameTooLong
      else t.follow (c :: place) cs

def check (p : PathName) : Except FileError Unit :=
  if p.parts.any (·.toList.contains '\x00') then .error .badName
  else if longestPath < p.toText.utf8ByteSize then .error .nameTooLong
  else .ok ()

def find (t : FileTree) (p : PathName) : Except FileError FileEntry := do
  check p
  t.follow (t.start p) p.parts

def get? (t : FileTree) (p : PathName) : Option FileEntry := (t.find p).toOption

def read (t : FileTree) (p : PathName) : Except FileError (List UInt8) := do
  match ← t.find p with
  | .file bytes => return bytes
  | .directory => .error .isDirectory

/-- The text that bytes spell, with every line break a line feed. -/
def textOf (bytes : List UInt8) : String :=
  String.ofList (Text.unifyBreaks (Text.decodeBytes bytes))

def text? (t : FileTree) (p : PathName) : Option String := (t.read p).toOption.map textOf

theorem nodup_replaced (t : FileTree) (parts : List String) (e : FileEntry) :
    ((t.entries.filter (·.1 != parts) ++ [(parts, e)]).map (·.1)).Nodup := by
  rw [List.map_append, List.nodup_append]
  refine ⟨t.nodup.sublist (List.filter_sublist.map _), by simp, fun a ha b hb => ?_⟩
  obtain ⟨x, hx, rfl⟩ := List.mem_map.mp ha
  have hne := (List.mem_filter.mp hx).2
  rw [List.map_singleton, List.mem_singleton] at hb
  rw [hb]
  simpa using hne

def putAt (t : FileTree) (parts : List String) (e : FileEntry) : FileTree :=
  { t with entries := t.entries.filter (·.1 != parts) ++ [(parts, e)], nodup := t.nodup_replaced parts e }

def put (t : FileTree) (p : PathName) (e : FileEntry) : FileTree := t.putAt (t.resolve p) e

def enter (t : FileTree) (place : List String) : List String → Except FileError (FileTree × List String)
  | [] => .ok (t, place)
  | c :: cs =>
    if c == ".." then t.enter place.tail cs
    else if isTooLong c then .error .nameTooLong
    else
      match t.entry? (c :: place).reverse with
      | some .directory => t.enter (c :: place) cs
      | some (.file _) => .error (if cs.isEmpty then .occupied else .notDirectory)
      | none => (t.putAt (c :: place).reverse .directory).enter (c :: place) cs

def write (t : FileTree) (p : PathName) (bytes : List UInt8) : Except FileError FileTree := do
  check p
  match p.parts.getLast? with
  | none => .error .isDirectory
  | some name =>
    let (t, place) ← t.enter (t.start p) p.parts.dropLast
    if name == ".." then .error .isDirectory
    if isTooLong name then .error .nameTooLong
    let parts := (name :: place).reverse
    if t.entry? parts == some .directory then .error .isDirectory
    return t.putAt parts (.file bytes)

def ofEntries (here : List String) (entries : List (PathName × FileEntry)) : FileTree :=
  entries.foldl (fun t e => t.put e.1 e.2) { here }

def filesBelow (t : FileTree) (p : PathName) : List (List String) :=
  let top := t.resolve p
  match t.get? p with
  | some .directory =>
    t.entries.filterMap fun (parts, e) =>
      match e with
      | .directory => none
      | .file _ =>
        if top.isPrefixOf parts && top.length < parts.length then some (parts.drop top.length)
        else none
  | _ => []

end FileTree
end RubyStubs
