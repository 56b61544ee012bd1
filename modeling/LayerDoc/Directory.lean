import LayerDoc.Files

/-!
# Directories

The directory in which a command works: files with their texts, in folders. Paths are walked part by
part: two points lead to the folder around a folder, and nothing can be reached through what is not
there. Of what lies outside nothing is known but that there are folders around the directory.
-/

namespace LayerDoc

/-- A directory: its files and its folders by the parts of their paths. Around every file there is a
folder, which need not be listed. -/
structure Directory where
  files : List (List String × String)
  folders : List (List String)

/-- What a path leads to. -/
inductive Place where
  | folder (parts : List String)
  | file (parts : List String) (text : String)
  /-- A name that is free, in a folder. -/
  | free (parts : List String)
  /-- A place outside of the directory: a folder around it, or else a free name. -/
  | outside (isFolder : Bool)
  /-- A name that is too long. -/
  | tooLong
  /-- What cannot be reached. -/
  | nowhere
  deriving DecidableEq, Repr

namespace Directory

/-- The directory that holds files with given paths. -/
def ofFiles (files : List (String × String)) : Directory :=
  ⟨files.map fun f => (Path.parts f.1, f.2), []⟩

/-- Whether there is a folder. -/
def hasFolder (d : Directory) (parts : List String) : Bool :=
  parts.isEmpty || d.folders.any parts.isPrefixOf ||
    d.files.any fun f => parts.isPrefixOf f.1 && parts ≠ f.1

/-- What is found under the parts of a path in an existing folder. -/
def lookup (d : Directory) (parts : List String) : Place :=
  match d.files.lookup parts with
  | some text => .file parts text
  | none => if d.hasFolder parts then .folder parts else .free parts

/-- Go on from a place by one part. -/
def step (d : Directory) : Place → String → Place
  | .folder parts, name =>
    if name = ".." then (if parts.isEmpty then .outside true else .folder parts.dropLast)
    else if Path.longestPart < name.utf8ByteSize then .tooLong
    else d.lookup (parts ++ [name])
  | .outside true, name =>
    if name = ".." then .outside true
    else if Path.longestPart < name.utf8ByteSize then .tooLong
    else .outside false
  | .tooLong, _ => .tooLong
  | _, _ => .nowhere

/-- The place from which a path is walked. -/
def start (path : String) : Place :=
  if !Path.isNameable path then .nowhere
  else if Path.longest < path.utf8ByteSize then .tooLong
  else if (Path.root path).isEmpty then .folder []
  else .outside true

/-- What a path leads to. -/
def place (d : Directory) (path : String) : Place := (Path.parts path).foldl d.step (start path)

/-- The path of the file that is always empty, and takes every text. -/
def nothing : String := "/dev/null"

/-- What there is under a path. -/
def content (d : Directory) (path : String) : FileContent :=
  match if path = nothing then .file [] "" else d.place path with
  | .file _ text => .text text
  | .folder _ => .directory
  | .outside true => .directory
  | .tooLong => .unreachable
  | _ => .absent

/-! ## Writing -/

/-- Go on from a place by one part, making the folder that is asked for. -/
def stepInto (walk : Directory × Place) (name : String) : Directory × Place :=
  let (d, place) := walk
  match d.step place name with
  | .free parts => ({ d with folders := parts :: d.folders }, .folder parts)
  | .outside _ => (d, .outside true)
  | place => (d, place)

/-- The place at which a file is written under a path, all folders on the way having been made.
There is none where a folder or an unreachable name is. -/
def placeToWrite? (d : Directory) (path : String) : Option Place :=
  match (Path.parts path).reverse with
  | [] => none
  | name :: folders =>
    let (d, around) := folders.reverse.foldl stepInto (d, start path)
    match d.step around name with
    | .file parts text => some (.file parts text)
    | .free parts => some (.free parts)
    | .outside false => some (.outside false)
    | _ => none

/-- The files that writing a text under a path changes, by their paths in the directory; there are
none if the text is written outside. Nothing can be written where no file can be. -/
def written? (d : Directory) (path text : String) : Option (List (String × String)) :=
  (if path = nothing then some (.outside false) else d.placeToWrite? path).map fun place =>
    match place with
    | .file parts _ => [(Path.ofParts parts, text)]
    | .free parts => [(Path.ofParts parts, text)]
    | _ => []

end Directory

end LayerDoc
