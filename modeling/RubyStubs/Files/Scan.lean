import RubyStubs.Files.FileTree

namespace RubyStubs
namespace FileTree

def skippedDirectories : List String :=
  [".git", ".bundle", "node_modules", "vendor", "tmp", "log", "coverage", "dist", "build", "pkg",
    ".yardoc", "sorbet"]

def isRubyName (name : String) : Bool :=
  match name.toList.reverse with
  | 'b' :: 'r' :: '.' :: _ :: _ => true
  | _ => false

def isUnder (file : List String) (path : PathName) : Bool :=
  !path.rooted && path.parts.isPrefixOf file

def isWanted (inclusions exclusions : List PathName) (file : List String) : Bool :=
  file.dropLast.all (!skippedDirectories.contains ·) && file.getLast?.any isRubyName &&
    (inclusions.isEmpty || inclusions.any (isUnder file)) && !exclusions.any (isUnder file)

def nameLt (a b : String) : Bool := a.toList.lex b.toList fun c d => Nat.blt c.toNat d.toNat

def pathLe (a b : List String) : Bool := !b.lex a nameLt

def scan (t : FileTree) (root : PathName) (inclusions exclusions : List PathName) :
    List (List String) :=
  ((t.filesBelow root).filter (isWanted inclusions exclusions)).mergeSort pathLe

theorem mem_scan {t : FileTree} {root : PathName} {inclusions exclusions : List PathName}
    {file : List String} :
    file ∈ t.scan root inclusions exclusions ↔
      file ∈ t.filesBelow root ∧ isWanted inclusions exclusions file = true := by
  unfold scan
  rw [List.mem_mergeSort, List.mem_filter]

end FileTree
end RubyStubs
