import LayerDoc.CommandLine

/-!
# The program

Reads the files that the command line names, does the command, and writes what comes of it.
-/

open LayerDoc

/-- What there is under a path. -/
def readContent (path : String) : IO FileContent := do
  try
    return .text (← IO.FS.readFile path)
  catch _ =>
    return .absent

/-- The text of a path without its last part. -/
def folderOf (path : String) : String :=
  Path.root path ++ Path.ofParts (Path.parts path).dropLast

/-- Write a text under a path, in a folder that is made if it is not there. -/
def writeContent (path text : String) : IO Unit := do
  let folder := folderOf path
  if !folder.isEmpty then IO.FS.createDirAll folder
  IO.FS.writeFile path text

/-- Show a text, or fail if it cannot be shown. -/
def showText (text : Option String) : IO UInt32 := do
  match text with
  | some text => IO.print text; return 0
  | none => return 1

/-- Run the program on the words of its command line. -/
def main (words : List String) : IO UInt32 := do
  match CommandLine.parse words with
  | none => return 2
  | some command =>
    let contents ← command.inputs.mapM fun path => do return (path, ← readContent path)
    let files (path : String) : FileContent := (contents.lookup path).getD .absent
    match CommandLine.run files Supply.start command with
    | .error e =>
      match (CommandLine.Result.failed e).error with
      | some message => IO.eprintln message
      | none => pure ()
      return 1
    | .ok answer =>
      try
        match answer.written with
        | some (path, text) => writeContent path text
        | none => pure ()
        showText answer.shown
      catch _ => return 1
