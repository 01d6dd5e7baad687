/-!
# Command-line arguments

Switches, the file option and choices may come in any order; after `--` every word is a choice.
A word is read by its form, and words are read from the left: the first refusal ends the reading.
The file option is settled when the next option, choice or the end shows that its value is
complete.
-/

namespace Shortcuts

structure Options where
  file : Option String := none
  choices : List String := []
  verbose : Bool := false
  dryRun : Bool := false
  list : Bool := false
  deriving DecidableEq, Repr

/-- Why arguments are not carried out; asking for help or for the version is one way. -/
inductive Refusal
  | help
  | version
  | unknownArgument
  | invalidValue
  | argumentConflict
  | tooManyValues
  deriving DecidableEq, Repr

inductive Switch
  | verbose
  | dryRun
  | list
  deriving DecidableEq, Repr

inductive Flag
  | file
  | switch (s : Switch)
  | help
  | version
  deriving DecidableEq, Repr

def Flag.ofLetter? : Char → Option Flag
  | 'f' => some .file
  | 'v' => some (.switch .verbose)
  | 'd' => some (.switch .dryRun)
  | 'l' => some (.switch .list)
  | 'h' => some .help
  | 'V' => some .version
  | _ => none

def Flag.ofName? (name : String) : Option Flag :=
  if name = "file" then some .file
  else if name = "verbose" then some (.switch .verbose)
  else if name = "dry-run" then some (.switch .dryRun)
  else if name = "list" then some (.switch .list)
  else if name = "help" then some .help
  else if name = "version" then some .version
  else none

/-- The form of a word on the command line. -/
inductive WordForm
  | plain
  | escape
  | letters (letters : List Char)
  | long (name : String) (value : Option String)
  deriving DecidableEq, Repr

def beforeEquals (s : List Char) : List Char := s.takeWhile (· != '=')

def afterEquals? (s : List Char) : Option String :=
  match s.dropWhile (· != '=') with
  | [] => none
  | _ :: value => some (String.ofList value)

def WordForm.ofChars : List Char → WordForm
  | ['-', '-'] => .escape
  | '-' :: '-' :: r => .long (String.ofList (beforeEquals r)) (afterEquals? r)
  | '-' :: c :: r => .letters (c :: r)
  | _ => .plain

def WordForm.ofWord (word : String) : WordForm := .ofChars word.toList

/-- The file option, from being read to being settled. -/
inductive FileOption
  | absent
  | named
  | valued (path : String)
  deriving DecidableEq, Repr

/-- The arguments read so far. -/
structure Reading where
  options : Options := {}
  pending : FileOption := .absent
  deriving DecidableEq, Repr

namespace Reading

def setFile (r : Reading) (path : String) : Except Refusal Reading :=
  if r.options.file.isSome then .error .argumentConflict
  else if path = "" then .error .invalidValue
  else .ok { options := { r.options with file := some path } }

/-- Settle the file option. It needs a value, may be given once, and its value is not empty. -/
def settle (r : Reading) : Except Refusal Reading :=
  match r.pending with
  | .absent => .ok r
  | .named => .error .invalidValue
  | .valued path => { r with pending := .absent }.setFile path

def addChoices (r : Reading) (words : List String) : Reading :=
  { r with options := { r.options with choices := r.options.choices ++ words } }

def isOn (o : Options) : Switch → Bool
  | .verbose => o.verbose
  | .dryRun => o.dryRun
  | .list => o.list

def turnOn (o : Options) : Switch → Options
  | .verbose => { o with verbose := true }
  | .dryRun => { o with dryRun := true }
  | .list => { o with list := true }

/-- A switch may be given once. -/
def switch (r : Reading) (s : Switch) : Except Refusal Reading :=
  match r.settle with
  | .error e => .error e
  | .ok r =>
    if isOn r.options s then .error .argumentConflict
    else .ok { r with options := turnOn r.options s }

/-- The file option with its value in the same word. -/
def attach (r : Reading) (path : String) : Except Refusal Reading :=
  match r.settle with
  | .error e => .error e
  | .ok r => r.setFile path

/-- The file option without a value yet. -/
def expect (r : Reading) : Except Refusal Reading :=
  match r.settle with
  | .error e => .error e
  | .ok r => .ok { r with pending := .named }

def refuse (r : Reading) (why : Refusal) : Except Refusal Reading :=
  match r.settle with
  | .error e => .error e
  | .ok _ => .error why

def dropEquals : List Char → List Char
  | '=' :: r => r
  | s => s

/-- Letters after one dash. The file option takes the rest of the word as its value. -/
def letters (r : Reading) : List Char → Except Refusal Reading
  | [] => .ok r
  | c :: rest =>
    match Flag.ofLetter? c with
    | none => .error .unknownArgument
    | some .help => r.refuse .help
    | some .version => r.refuse .version
    | some .file => if rest = [] then r.expect else r.attach (String.ofList (dropEquals rest))
    | some (.switch s) =>
      match r.switch s with
      | .error e => .error e
      | .ok r => r.letters rest

/-- A name after two dashes. Only the file option takes a value. -/
def long (r : Reading) (name : String) (value : Option String) : Except Refusal Reading :=
  match Flag.ofName? name, value with
  | none, _ => .error .unknownArgument
  | some .file, none => r.expect
  | some .file, some path => r.attach path
  | some _, some _ => .error .tooManyValues
  | some .help, none => r.refuse .help
  | some .version, none => r.refuse .version
  | some (.switch s), none => r.switch s

/-- A plain word is the value that the file option waits for, or else a choice. -/
def plain (r : Reading) (word : String) : Except Refusal Reading :=
  match r.pending with
  | .named => .ok { r with pending := .valued word }
  | _ => r.settle.map fun r => r.addChoices [word]

def words (r : Reading) : List String → Except Refusal Options
  | [] => r.settle.map Reading.options
  | word :: rest =>
    let next :=
      match WordForm.ofWord word with
      | .escape => none
      | .plain => some (r.plain word)
      | .letters cs => some (r.letters cs)
      | .long name value => some (r.long name value)
    match next with
    | none => r.settle.map fun r => (r.addChoices rest).options
    | some (.error e) => .error e
    | some (.ok r) => r.words rest

end Reading

def Options.parse (args : List String) : Except Refusal Options := ({} : Reading).words args

/-- What is wrong with a command line, in one line. -/
def Refusal.diagnosis : Refusal → String
  | .help | .version => ""
  | .unknownArgument => "error: unexpected argument\n"
  | .invalidValue => "error: a value is required for --file\n"
  | .argumentConflict => "error: an argument cannot be used multiple times\n"
  | .tooManyValues => "error: unexpected value for an argument\n"

/-- The text that answers a request for help. -/
def helpText : String :=
  "Run named unison, rsync and program shortcuts from a configuration file\n\n" ++
  "Usage: quicklinks [OPTIONS] [CHOICES]...\n\n" ++
  "Arguments:\n" ++
  "  [CHOICES]...  Keys, 1-based numbers, or \x60all\x60; prompts when omitted\n\n" ++
  "Options:\n" ++
  "  -f, --file <FILE>  Configuration file (defaults to $QUICKLINKS_FILE)\n" ++
  "  -v, --verbose      Enable verbose output\n" ++
  "  -d, --dry-run      Print the resolved command lines without running them\n" ++
  "  -l, --list         List the numbered entries and exit\n" ++
  "  -h, --help         Print help\n" ++
  "  -V, --version      Print version\n"

def version : String := "0.1.0"

def versionText : String := "quicklinks " ++ version ++ "\n"

end Shortcuts
