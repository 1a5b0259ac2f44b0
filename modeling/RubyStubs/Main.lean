import RubyStubs.CommandLine.ParsedTexts
import RubyStubs.CommandLine.Run
import RubyStubs.Settings.Json

namespace RubyStubs

partial def filesBelow (parts : List String) : IO (List (PathName × FileEntry)) := do
  let mut found := []
  for e in ← (System.mkFilePath ("." :: parts)).readDir do
    let below := parts ++ [e.fileName]
    if ← e.path.isDir then
      found := found ++ ({ parts := below }, .directory) :: (← filesBelow below)
    else
      let bytes ← IO.FS.readBinFile e.path
      found := found ++ [({ parts := below }, .file bytes.toList)]
  return found

def parsedTexts : IO ParsedTexts := do
  match ← IO.getEnv "STUBSMITH_PARSED" with
  | none => return {}
  | some path =>
    let text ← IO.FS.readFile path
    return (Data.ofJson? text).elim {} ParsedTexts.ofData

def writeChanges (before after : FileTree) : IO Unit := do
  for (parts, entry) in after.entries do
    if let .file bytes := entry then
      if before.entry? parts != some entry then
        IO.FS.createDirAll (System.mkFilePath ("" :: parts.dropLast))
        IO.FS.writeBinFile (System.mkFilePath ("" :: parts)) ⟨bytes.toArray⟩

/-- Performs a command, which is begun anew with one more answer each time that it lacks one. -/
partial def converse (e : Environment) (s : Session) (args : List String) :
    IO (Option Failure × Session) := do
  let r := Command.perform e s args
  if r.1 == some .aborted then
    IO.eprint "Keep which definition? (0 to remove all) [0]: "
    let line ← (← IO.getStdin).getLine
    if line.isEmpty then return r
    converse e { s with answers := s.answers ++ [String.ofList (line.toList.filter (· != '\n'))] } args
  else return r

def runCommandLine (args : List String) : IO UInt32 := do
  let parsed ← parsedTexts
  let here := PathName.ofText (← IO.currentDir).toString
  let files := FileTree.ofEntries here.parts (← filesBelow [])
  let interactive ← (← IO.getStdin).isTty
  let e : Environment := { read := parsed.reader, yaml := parsed.yamlReader, interactive }
  let s : Session :=
    { files, registry := { entries := [("add_version", .addVersion), ("strict", .strict)] } }
  let (failure, after) ← converse e s args
  IO.print after.printed
  for n in after.notices do
    IO.eprintln n
  writeChanges files after.files
  match failure with
  | none => return 0
  | some f =>
    IO.eprintln (f.message?.getD f.remark)
    return UInt32.ofNat f.exitCode

end RubyStubs

def main (args : List String) : IO UInt32 := RubyStubs.runCommandLine args
