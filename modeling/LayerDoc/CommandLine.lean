import LayerDoc.Directory
import LayerDoc.Editor
import LayerDoc.Text.Markup
import LayerDoc.Text.Table

/-!
# Command line

Two commands work on files: `export` writes the module of a page of a document, and `pages` lists
the pages of a document. What a command does is a function of the files it names; reading and
writing them is left to the caller.
-/

namespace LayerDoc.CommandLine

/-- What the command line asks for. -/
inductive Command where
  | version
  | exportPage (document registry : String) (functions page output config : Option String)
  | listPages (document : String)
  deriving DecidableEq, Repr

/-- An option of a command: its names, and whether a value follows it. -/
structure OptionSpec where
  names : List String
  takesValue : Bool
  deriving DecidableEq, Repr

/-- What was found on a command line: the options by their first names, the last first, and all
else in order. -/
structure Found where
  options : List (String × String)
  others : List String

namespace Found

/-- The value of an option; the last one counts. -/
def value? (f : Found) (name : String) : Option String := f.options.lookup name

/-- Whether an option is given. -/
def has (f : Found) (name : String) : Bool := (f.value? name).isSome

end Found

/-- Split a word at its first equals sign. -/
def splitValue (cs : List Char) : List Char × Option (List Char) :=
  match cs.dropWhile (· ≠ '=') with
  | [] => (cs, none)
  | _ :: value => (cs.takeWhile (· ≠ '='), some value)

/-- The option that has a name. -/
def spec? (specs : List OptionSpec) (name : String) : Option OptionSpec :=
  specs.find? fun s => s.names.contains name

/-- The letters of a word of short options. One that takes a value takes the rest of the word, or
else the next word. -/
def readLetters (specs : List OptionSpec) :
    List Char → List String → List (String × String) → Option (List (String × String) × List String)
  | [], words, options => some (options, words)
  | letter :: rest, words, options => do
    let spec ← spec? specs (String.ofList ['-', letter])
    let name := spec.names.headD ""
    if spec.takesValue then
      if rest.isEmpty then
        match words with
        | [] => none
        | value :: words => some ((name, value) :: options, words)
      else some ((name, String.ofList rest) :: options, words)
    else readLetters specs rest words ((name, "") :: options)

/-- A word that begins with a dash, and is longer. -/
def readOption (specs : List OptionSpec) (word : String) (words : List String)
    (options : List (String × String)) : Option (List (String × String) × List String) :=
  let (name, given) := splitValue word.toList
  let name := String.ofList name
  match if name.startsWith "--" then spec? specs name else none with
  | some spec =>
    let first := spec.names.headD ""
    match spec.takesValue, given, words with
    | true, some value, words => some ((first, String.ofList value) :: options, words)
    | true, none, value :: words => some ((first, value) :: options, words)
    | true, none, [] => none
    | false, some _, _ => none
    | false, none, words => some ((first, "") :: options, words)
  | none =>
    if word.startsWith "--" then none else readLetters specs (word.toList.drop 1) words options

/-- The options of a list of words, and what else there is. Options may stand after other words if
`mixed`; two dashes end the options. -/
def readOptions (specs : List OptionSpec) (mixed : Bool) :
    Nat → List String → List (String × String) → List String → Option Found
  | 0, _, _, _ => none
  | _, [], options, others => some ⟨options, others.reverse⟩
  | fuel + 1, word :: words, options, others =>
    if word = "--" then some ⟨options, others.reverse ++ words⟩
    else if word.startsWith "-" && word.length ≠ 1 then do
      let (options, words) ← readOption specs word words options
      readOptions specs mixed fuel words options others
    else if mixed then readOptions specs mixed fuel words options (word :: others)
    else some ⟨options, others.reverse ++ word :: words⟩

/-- The options in front of the command. -/
def generalOptions : List OptionSpec := [⟨["--verbose", "-v"], false⟩, ⟨["--version"], false⟩]

/-- The options of `export`. -/
def exportOptions : List OptionSpec :=
  [⟨["--registry", "-r"], true⟩, ⟨["--functions", "-f"], true⟩, ⟨["--page", "-p"], true⟩,
    ⟨["--output", "-o"], true⟩, ⟨["--config"], true⟩]

/-- The command of a list of words; there is none if they are not in order. -/
def parse (words : List String) : Option Command := do
  let found ← readOptions generalOptions false (words.length + 1) words [] []
  if found.has "--version" then return .version
  match found.others with
  | "export" :: rest =>
    let found ← readOptions exportOptions true (rest.length * 2 + 1) rest [] []
    let registry ← found.value? "--registry"
    match found.others with
    | [document] =>
      return .exportPage (Path.usual document) (Path.usual registry)
        ((found.value? "--functions").map Path.usual) (found.value? "--page")
        ((found.value? "--output").map Path.usual) ((found.value? "--config").map Path.usual)
    | _ => none
  | "pages" :: rest =>
    let found ← readOptions [] true (rest.length * 2 + 1) rest [] []
    match found.others with
    | [document] => return .listPages (Path.usual document)
    | _ => none
  | _ => none

/-- The files that a command reads. -/
def Command.inputs : Command → List String
  | .version => []
  | .exportPage document registry functions _ _ config =>
    registry :: functions.toList ++ document :: config.toList
  | .listPages document => [document]

/-- What a command gives: a file to write, by its path and text, and what is shown after that. A
text with markup that is not in order cannot be shown. -/
structure Answer where
  written : Option (String × String)
  shown : Option String
  deriving DecidableEq, Repr

/-- What comes of a command line. -/
structure Result where
  exitCode : Nat
  output : String
  /-- The message of a failure that is told of. -/
  error : Option String
  /-- The files that were written, with their texts. -/
  files : List (String × String)
  deriving DecidableEq, Repr

namespace Result

/-- A command line that is not in order. -/
def misused : Result := ⟨2, "", none, []⟩

/-- A command that failed. -/
def failed (e : FileError) : Result :=
  ⟨1, "", some (match e.message? with
    | some message => "Error: " ++ message
    | none => "Unexpected error: <detail>"), []⟩

/-- A command that ended without a word, after some files were written. -/
def broken (files : List (String × String)) : Result := ⟨1, "", none, files⟩

/-- A command that was done, if its text can be shown. -/
def shown (text : Option String) (files : List (String × String)) : Result :=
  match text with
  | some text => if Text.Surrogate.occursIn text then broken files else ⟨0, text, none, files⟩
  | none => broken files

/-- What comes of an answer in a directory. Of a text that cannot be encoded there is an empty
file. -/
def ofAnswer (d : Directory) (a : Answer) : Result :=
  match a.written with
  | none => shown a.shown []
  | some (path, text) =>
    match d.written? path text with
    | none => broken []
    | some files =>
      if Text.Surrogate.occursIn text then broken (files.map fun f => (f.1, ""))
      else shown a.shown files

end Result

/-- The width of the terminal. -/
def terminalWidth : Nat := 80

/-- The version of the program, as it shows it. -/
def versionText : String := "uibuilder 0.1.0\n"

/-- Lines of text, each ended. -/
def linesText (lines : List (List Char)) : String :=
  String.join (lines.map fun line => String.ofList line ++ "\n")

/-- Load an editor from files: the registries first, then the document, then the settings. -/
def loadEditor (files : String → FileContent) (document registry : String)
    (functions config : Option String) (s : Supply) : Except FileError Editor := do
  let (components, s) ← Registry.load registry (files registry) s
  let functions ← match functions with
    | some path => FunctionRegistry.load path (files path)
    | none => .ok []
  let (document, s) ← Document.load document (files document) s
  let config ← match config with
    | some path => Config.load (files path)
    | none => .ok Config.default
  match Editor.start? components functions config (some document) s with
  | some e => return e
  | none => throw .historyTooLong

/-- The error that it is not to export a page. -/
def exportError : Editor.ExportError → FileError
  | .pageNotFound id => .pageNotFound id
  | .noCode _ => .noCode

/-- The text of a page's module. -/
def exportCode (e : Editor) (page : Option String) : Except FileError String :=
  ((e.exportPage page).map Prod.fst).mapError exportError

/-- What the terminal shows for a line with markup. -/
def shownLine? (text : String) : Option String :=
  (Text.shown? text.toList).map fun cs => linesText (Text.wrapped terminalWidth .fold cs)

/-- The columns of the list of pages. -/
def pageColumns : List Text.Column :=
  [⟨"ID".toList, false⟩, ⟨"Name".toList, false⟩, ⟨"Layers".toList, true⟩,
    ⟨"Selected".toList, false⟩]

/-- A page in the list of pages. There is no such row if its texts hold markup that is not in
order. -/
def pageRow? (d : Document) (page : Layer) : Option (List (List Char)) := do
  let id ← Text.shown? page.id.toList
  let name ← Text.shown? (page.head.name.getD "").toList
  let count := (toString (Forest.count page.children)).toList
  return [id, name, count, if page.id = d.selectedPage then ['*'] else []]

/-- The list of the pages of a document, with the number of its variables. -/
def pageList? (d : Document) : Option String := do
  let rows ← d.pages.mapM (pageRow? d)
  let table := linesText (Text.tableLines terminalWidth pageColumns rows)
  let count := d.vars.length
  return table ++ if count = 0 then "" else toString count ++ " variable(s)\n"

/-- Do a command, given the files. -/
def run (files : String → FileContent) (s : Supply) : Command → Except FileError Answer
  | .version => .ok ⟨none, some versionText⟩
  | .exportPage document registry functions page output config => do
    let code ← exportCode (← loadEditor files document registry functions config s) page
    match output with
    | none => return ⟨none, some code⟩
    | some path => return ⟨some (path, code), shownLine? ("[green]Exported[/green] " ++ path)⟩
  | .listPages document => do
    let (d, _) ← Document.load document (files document) s
    return ⟨none, pageList? d⟩

/-- Do what a command line asks for, in a directory. -/
def runWords (d : Directory) (s : Supply) (words : List String) : Result :=
  match parse words with
  | none => .misused
  | some command =>
    match run d.content s command with
    | .ok answer => .ofAnswer d answer
    | .error e => .failed e

end LayerDoc.CommandLine
