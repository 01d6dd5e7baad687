import Shortcuts.Machine.Mode
import Shortcuts.Machine.Shell.Fields
import Shortcuts.Machine.Shell.State
import Shortcuts.Machine.Utility.Condition
import Shortcuts.Machine.Utility.Options

/-!
# Commands of the shell

The commands that a shell carries out itself and that run no other commands.
-/

namespace Shortcuts.Machine.Shell

open Text

/-- Commands whose errors end the shell. -/
def specialNames : List String :=
  [".", ":", "break", "continue", "eval", "exec", "exit", "export", "local", "readonly", "return",
   "set", "shift", "times", "trap", "unset"]

def regularNames : List String :=
  ["[", "alias", "bg", "cd", "chdir", "command", "echo", "false", "fg", "getopts", "hash", "jobs",
   "kill", "printf", "pwd", "read", "test", "true", "type", "ulimit", "umask", "unalias", "wait"]

/-- Commands whose words may be assignments. -/
def declaringNames : List String := ["export", "local", "readonly"]

def isSpecialName (name : Octets) : Bool := specialNames.any (reads name)

def isRegularName (name : Octets) : Bool := regularNames.any (reads name)

def isDeclaringName (name : Octets) : Bool := declaringNames.any (reads name)

/-- The options of a command of the shell, and its operands. -/
def takeOptions (flags valued : String) (args : List Octets) : Work Given :=
  collect args.length {} args
where
  letters (g : Given) : Octets → List Octets → Work (Given × List Octets)
    | [], args => return (g, args)
    | c :: rest, args => do
      if flags.toList.contains c then letters (g.add c []) rest args
      else if valued.toList.contains c then
        match rest, args with
        | [], [] => fail (octets "No arg for -" ++ [c] ++ octets " option")
        | [], a :: args => return (g.add c a, args)
        | value, args => return (g.add c value, args)
      else fail (octets "Illegal option -" ++ [c])
  /-- Every step takes a word. -/
  collect : Nat → Given → List Octets → Work Given
    | n + 1, g, a :: args =>
      match a with
      | ['-', '-'] => return { g with operands := args }
      | '-' :: c :: rest => do
        let (g, args) ← letters g (c :: rest) args
        collect n g args
      | _ => return { g with operands := a :: args }
    | _, g, args => return { g with operands := args }

/-- A number that an operand gives. -/
def numberOf (s : Octets) : Work Nat :=
  match decimalNat? s with
  | some n => if n < 2147483648 then return n else fail (octets "Illegal number: " ++ s)
  | none => fail (octets "Illegal number: " ++ s)

def singleQuoted (s : Octets) : Octets :=
  ['\''] ++ (s.flatMap fun c => if c = '\'' then octets "'\"'\"'" else [c]) ++ ['\'']

/-! ## Directories -/

/-- Go to a directory. Unless the way is to be physical, it is found by names alone. -/
def goTo (physical : Bool) (path : Octets) : Work Unit := do
  let s ← get
  let place := placeFrom s.place path
  let refused : Work Unit := fail (octets "can't cd to " ++ path)
  match ← locate (if physical then path else place) with
  | .error _ => refused
  | .ok l => do
    if !s.system.files.isDirectory l then refused
    let put (name : String) (value : Octets) : Work Unit :=
      markVariable (octets name) fun v => { v with value := some value, exported := true }
    let place := if physical then pathText l else place
    put "OLDPWD" s.place
    put "PWD" place
    modify fun s => { s with place, process := { s.process with directory := l } }

def changeDirectory (args : List Octets) : Work Unit := do
  let g ← takeOptions "LP" "" args
  let physical := (g.options.getLast?.map Prod.fst) = some 'P'
  let s ← get
  setStatus 0
  match g.operands with
  | ['-'] :: _ => do
    let old := (s.value? (octets "OLDPWD")).getD s.place
    goTo physical old
    show_ ((← get).place ++ ['\n'])
  | path :: _ => if path ≠ [] then goTo physical path
  | [] =>
    match s.value? (octets "HOME") with
    | some home => if home ≠ [] then goTo physical home
    | none => return

/-! ## Variables and arguments -/

/-- Give a variable a value, or only mark it. -/
def declare (mark : Variable → Variable) (word : Octets) : Work Unit :=
  let (name, value?) :=
    match cut '=' word with
    | some (name, value) => (name, some value)
    | none => (word, none)
  if !Script.isName name then fail (name ++ octets ": bad variable name")
  else do
    match value? with
    | some value => setVariable name value
    | none => pure ()
    markVariable name mark

/-- A line that would bring back a variable. -/
def variableLine (before : Octets) (name : Octets) (v : Variable) : Octets :=
  before ++ name ++ (match v.value with
    | some value => '=' :: singleQuoted value
    | none => []) ++ ['\n']

def sortedVariables (s : State) : List (Octets × Variable) :=
  s.bindings.mergeSort fun a b => a.1.upTo b.1

def declaration (word : String) (shown : Variable → Bool) (mark : Variable → Variable)
    (args : List Octets) : Work Unit := do
  let g ← takeOptions "p" "" args
  setStatus 0
  if g.operands = [] then
    let listed := (sortedVariables (← get)).filter fun v => shown v.2
    show_ (listed.flatMap fun (name, v) => variableLine (octets word ++ [' ']) name v)
  else g.operands.forM (declare mark)

def unset (args : List Octets) : Work Unit := do
  let g ← takeOptions "vf" "" args
  setStatus 0
  for name in g.operands do
    if g.has 'f' then
      modify fun s => { s with functions := s.functions.filter fun f => f.1 != name }
    else if Script.isName name then unsetVariable name
    else fail (name ++ octets ": bad variable name")

/-- Remember a variable until the end of the function. -/
def saveVariable (name : Octets) : Work Unit := modify fun s =>
  match s.saved with
  | top :: rest =>
    if top.any fun v => v.1 == name then s
    else { s with saved := ((name, s.binding? name) :: top) :: rest }
  | [] => s

def localVariables (args : List Octets) : Work Unit := do
  if (← get).saved = [] then fail (octets "not in a function")
  setStatus 0
  for word in args do
    match cut '=' word with
    | some (name, value) => do
      saveVariable name
      setVariable name value
    | none => saveVariable word

def optionNames : List (String × Char) :=
  [("errexit", 'e'), ("noglob", 'f'), ("ignoreeof", 'I'), ("interactive", 'i'), ("monitor", 'm'),
   ("noexec", 'n'), ("stdin", 's'), ("xtrace", 'x'), ("verbose", 'v'), ("vi", 'V'), ("emacs", 'E'),
   ("noclobber", 'C'), ("allexport", 'a'), ("notify", 'b'), ("nounset", 'u'), ("privileged", 'p'),
   ("nolog", '\x01'), ("debug", '\x02')]

/-- The letters of the options that are on. The last two options have none. -/
def State.optionLetters (s : State) : Octets :=
  (optionNames.map Prod.snd).reverse.filter fun c => c.isAlpha && s.options.contains c

def setOption (c : Char) (on : Bool) : Work Unit := modify fun s =>
  let others := s.options.filter (· != c)
  { s with options := if on then c :: others else others }

def switchLetter (on : Bool) (c : Char) : Work Unit :=
  if optionNames.any fun o => o.2 == c then setOption c on
  else fail (octets "Illegal option -" ++ [c])

def switchName (on : Bool) (name : Octets) : Work Unit :=
  match optionNames.find? fun o => reads name o.1 with
  | some (_, c) => setOption c on
  | none => fail (octets "Illegal option -o " ++ name)

/-- Commands that set the options as they are. -/
def optionCommands (s : State) : Octets :=
  optionNames.flatMap fun (name, c) =>
    octets ((if s.options.contains c then "set -o " else "set +o ") ++ name ++ "\n")

def optionTable (s : State) : Octets :=
  octets "Current option settings\n" ++ optionNames.flatMap fun (name, c) =>
    let shown := octets name
    shown ++ List.replicate (16 - shown.length) ' ' ++
      octets (if s.options.contains c then "on\n" else "off\n")

/-- Switch options and give the words after them; whether these replace the arguments even if
there are none. -/
def switchOptions : Nat → List Octets → Work (List Octets × Bool)
  | n + 1, a :: rest => do
    match a with
    | ['-', '-'] => return (rest, true)
    | ['-'] => return (rest, false)
    | '-' :: c :: letters => switches n true (c :: letters) rest
    | '+' :: c :: letters => switches n false (c :: letters) rest
    | _ => return (a :: rest, false)
  | _, args => return (args, false)
where
  switches (n : Nat) (on : Bool) (letters : Octets) (rest : List Octets) :
      Work (List Octets × Bool) := do
    (letters.filter (· != 'o')).forM (switchLetter on)
    if 'o' ∈ letters then
      match rest with
      | name :: rest => do
        switchName on name
        switchOptions n rest
      | [] => do
        let s ← get
        show_ (if on then optionTable s else optionCommands s)
        return ([], false)
    else switchOptions n rest

def setArguments (args : List Octets) : Work Unit :=
  modify fun s => { s with process := { s.process with args } }

def setCommand (args : List Octets) : Work Unit := do
  setStatus 0
  if args = [] then
    show_ ((sortedVariables (← get)).flatMap fun (name, v) =>
      if v.value.isSome then variableLine [] name v else [])
  else
    let (rest, replace) ← switchOptions args.length args
    if rest ≠ [] ∨ replace then setArguments rest

def shift (args : List Octets) : Work Unit := do
  let n ← match args with
    | [] => pure 1
    | word :: _ => numberOf word
  let held := (← get).process.args
  if held.length < n then fail (octets "can't shift that many")
  setArguments (held.drop n)
  setStatus 0

/-! ## Leaving -/

def statusOperand (args : List Octets) : Work Nat := do
  match args with
  | [] => return (← get).status
  | word :: _ => numberOf word

def leaveLoops (again : Bool) (args : List Octets) : Work Unit := do
  let n ← match args with
    | [] => pure 1
    | word :: _ => do
      let n ← numberOf word
      if n = 0 then fail (octets "Illegal number: " ++ word)
      pure n
  let around := (← get).loops
  setStatus 0
  if 0 < around then throw (.loop (min n around) again)

/-! ## Reading -/

/-- The characters of a line, those after a backslash marked, how many were taken, and whether
the line ends. -/
def lineOf (raw : Bool) : Octets → List Item × Nat × Bool
  | [] => ([], 0, false)
  | '\n' :: _ => ([], 1, true)
  | '\\' :: c :: rest =>
    if raw then
      let (items, n, ended) := lineOf raw (c :: rest)
      (.letter '\\' false true :: items, n + 1, ended)
    else
      let (items, n, ended) := lineOf raw rest
      (if c = '\n' then items else .letter c true false :: items, n + 2, ended)
  | c :: rest =>
    let (items, n, ended) := lineOf raw rest
    if c = '\x00' ∨ (c = '\\' ∧ !raw) then (items, n + 1, ended)
    else (.letter c false true :: items, n + 1, ended)

def separates (separators : Octets) : Item → Bool
  | .letter c _ splits => splits && separators.contains c
  | _ => false

def blankSeparates (separators : Octets) (i : Item) : Bool :=
  separates separators i &&
  match i with
  | .letter c _ _ => blanks.contains c
  | _ => false

/-- The first field of a line and what follows its separator. -/
def firstField (separators : Octets) (items : List Item) : Octets × List Item :=
  let field := items.takeWhile fun i => !separates separators i
  let rest := (items.drop field.length).dropWhile (blankSeparates separators)
  let rest :=
    match rest with
    | i :: more => if separates separators i then more else rest
    | [] => []
  (Item.text field, rest.dropWhile (blankSeparates separators))

/-- One field for each variable; the last one takes all that is left. -/
def shareOut (separators : Octets) : Nat → List Item → List Octets
  | 0, _ => []
  | 1, items =>
    let (field, rest) := firstField separators items
    if rest = [] then [field]
    else [Item.text (dropEndWhile (blankSeparates separators) items)]
  | n + 2, items =>
    let (field, rest) := firstField separators items
    field :: shareOut separators (n + 1) rest
where
  dropEndWhile (p : Item → Bool) (items : List Item) : List Item :=
    (items.reverse.dropWhile p).reverse

def readVariables (args : List Octets) : Work Unit := do
  let g ← takeOptions "r" "p" args
  if g.operands = [] then fail (octets "arg count")
  let s ← get
  let source := (s.process.descriptors.get? 0).map fun k => (k, s.system.remaining k)
  let (items, count, ended) := lineOf (g.has 'r') ((source.map Prod.snd).getD [])
  match source with
  | some (k, _) => set { s with system := s.system.seek k (· + count) }
  | none => pure ()
  let separators ← separators
  let items := items.dropWhile (blankSeparates separators)
  for (name, value) in g.operands.zip (shareOut separators g.operands.length items) do
    if !Script.isName name then fail (name ++ octets ": bad variable name")
    setVariable name value
  setStatus (if ended then 0 else 1)

/-! ## Options of scripts -/

def putVariable (name : String) (value : Octets) : Work Unit := setVariable (octets name) value

def writeError (text : Octets) : Work Unit := do let _ ← write 2 (text ++ ['\n'])

/-- The word that options are read from: its number, and the place in it of the next letter. -/
def optionPlace (s : State) : Nat × Nat :=
  let next := ((s.value? (octets "OPTIND")).bind decimalNat?).getD 1
  if s.letter.1 = next ∧ 0 < s.letter.2 then (next - 1, s.letter.2) else (next, 0)

/-- Read the next option. `OPTIND` is the number of the word after the one that is being read. -/
def nextOption (args : List Octets) : Work Unit := do
  match args with
  | rule :: name :: given => do
    let s ← get
    let words := if given = [] then s.process.args else given
    let (index, place) := optionPlace s
    let quiet := rule.head? = some ':'
    let finish (next : Nat) : Work Unit := do
      putVariable "OPTIND" (decimalText next)
      modify fun s => { s with letter := (next, 0) }
      setVariable name ['?']
      setStatus 1
    match words[index - 1]? with
    | some ('-' :: c :: letters) =>
      if place = 0 ∧ c = '-' ∧ letters = [] then finish (index + 1)
      else
        match (c :: letters).drop place with
        | [] => finish index
        | c :: rest => do
          let moveTo (next place : Nat) : Work Unit := do
            putVariable "OPTIND" (decimalText next)
            modify fun s => { s with letter := (next, place) }
          let goOn : Work Unit := moveTo (index + 1) (if rest = [] then 0 else place + 1)
          let answer (letter : Octets) (value : Option Octets) : Work Unit := do
            setVariable name letter
            match value with
            | some value => putVariable "OPTARG" value
            | none => unsetVariable (octets "OPTARG")
          setStatus 0
          match (if c = ':' then [] else rule.dropWhile (· != c)) with
          | _ :: ':' :: _ =>
            match (if rest = [] then words[index]? else some rest) with
            | some value => do
              moveTo (if rest = [] then index + 2 else index + 1) 0
              answer [c] (some value)
            | none => do
              moveTo (index + 1) 0
              if quiet then answer [':'] (some [c])
              else
                writeError (octets "No arg for -" ++ [c] ++ octets " option")
                answer ['?'] none
          | _ :: _ => do
            goOn
            answer [c] (some [])
          | [] => do
            goOn
            if quiet then answer ['?'] (some [c])
            else
              writeError (octets "Illegal option -" ++ [c])
              answer ['?'] none
    | _ => finish index
  | _ => fail (octets "Usage: getopts optstring var [arg...]")

/-! ## Signals and processes -/

/-- Send a signal to a process that this shell knows; whether it is there. A process in the
background that has not been carried out yet never will be. -/
def send (target signal : Nat) : Work Bool := do
  let s ← get
  match s.background.find? fun (j : Job) => j.id == target with
  | some j => do
    if signal ≠ 0 ∧ !Signal.isHarmless signal then
      set { s with background := s.background.map fun (j : Job) =>
        if j.id = target ∧ j.waiting.isSome then
          { j with waiting := none, status := 128 + signal }
        else j }
    return j.waiting.isSome
  | none => do
    let known := target = s.process.id ∨ s.process.ancestors.contains target
    if known then
      set { s with system := { s.system with signals := s.system.signals ++ [(target, signal)] } }
    return known

def killUsage : String :=
  "Usage: kill [-s sigspec | -signum | -sigspec] [pid | job]... or\nkill -l [exitstatus]"

/-- The number of a signal given by name or number. -/
def signalOf? (s : Octets) : Option Nat :=
  match decimalNat? s with
  | some n => if n ≤ Signal.last then some n else none
  | none => Signal.named? s

def listSignals (args : List Octets) : Work Unit := do
  setStatus 0
  match args with
  | [] => do
    let names := (List.range Signal.last).map fun n => Signal.name (n + 1)
    show_ (("0" :: names).flatMap fun name => octets (name ++ "\n"))
  | word :: _ => do
    let n ← numberOf word
    let n := if 128 < n then n - 128 else n
    if n = 0 ∨ Signal.last < n then fail (octets "invalid signal number or exit status: " ++ word)
    show_ (octets (Signal.name n ++ "\n"))

/-- The process that an operand gives, by its number or as a job. -/
def processOf (word : Octets) : Work Nat := do
  match word with
  | '%' :: job =>
    let jobs := (← get).background
    let found := if job = ['%'] ∨ job = ['+'] ∨ job = [] then jobs.getLast?
      else (decimalNat? job).bind fun n => if n = 0 then none else jobs[n - 1]?
    match found with
    | some j => return j.id
    | none => fail (octets "No such job: " ++ word)
  | _ => numberOf word

def sendAll (signal : Nat) (targets : List Octets) : Work Unit := do
  if targets = [] then fail (octets killUsage)
  setStatus 0
  for word in targets do
    if !(← send (← processOf word) signal) then
      complain (octets "No such process\n")
      setStatus 1

def kill (args : List Octets) : Work Unit := do
  match args with
  | [] => fail (octets killUsage)
  | ['-', '-'] :: rest => sendAll 15 rest
  | ['-', 's'] :: word :: rest =>
    match signalOf? word with
    | some n => sendAll n rest
    | none => fail (octets "invalid signal number or name: " ++ word)
  | ['-', 's'] :: [] => fail (octets "No arg for -s option")
  | ['-', 'l'] :: rest => listSignals rest
  | ('-' :: c :: more) :: rest =>
    match signalOf? (c :: more) with
    | some n => sendAll n (if rest.head? = some ['-', '-'] then rest.tail else rest)
    | none => fail (octets "Illegal option -" ++ [c])
  | targets => sendAll 15 targets

/-- Carry out what is in the background and has not been carried out yet. -/
def settle : Work Unit := do
  let jobs := (← get).background
  for j in jobs do
    match j.waiting with
    | none => pure ()
    | some run => do
      let s ← get
      let (exit, system) := run s.system
      set { s with system, background := s.background.map fun (other : Job) =>
        if other.id = j.id then { other with waiting := none, status := exit.status } else other }

def wait (args : List Octets) : Work Unit := do
  settle
  setStatus 0
  for word in args do
    let n ← processOf word
    match (← get).background.find? fun (j : Job) => j.id == n with
    | some j => do
      if 128 < j.status ∧ j.status ≠ 130 ∧ j.status ≠ 141 then
        writeError (octets (Signal.description (j.status - 128)))
      setStatus j.status
    | none => setStatus 127
  modify fun s => { s with background := [] }

def trap (args : List Octets) : Work Unit := do
  let g ← takeOptions "" "" args
  setStatus 0
  let arrange (action : Option Octets) (word : Octets) : Work Unit := do
    match signalOf? word with
    | none => do
      writeError (octets "trap: " ++ word ++ octets ": bad trap")
      setStatus 1
    | some n => modify fun s =>
      let others := s.traps.filter fun t => t.1 != n
      { s with traps := match action with
          | some action => (n, action) :: others
          | none => others }
  match g.operands with
  | [] =>
    let traps := (← get).traps.mergeSort fun a b => decide (a.1 ≤ b.1)
    show_ (traps.flatMap fun (n, action) =>
      octets "trap -- " ++ singleQuoted action ++ octets (" " ++ Signal.name n ++ "\n"))
  | [word] => arrange none word
  | action :: signals =>
    if (decimalNat? action).isSome then (action :: signals).forM (arrange none)
    else signals.forM (arrange (if reads action "-" then none else some action))

/-! ## Names of commands -/

def keywordNames : List String :=
  ["!", "\x7b", "\x7d", "case", "do", "done", "elif", "else", "esac", "fi", "for", "if", "in",
   "then", "until", "while"]

/-- What a name stands for as a command. With `brief`, only what may be written for it. -/
def describe (brief : Bool) (name : Octets) : Work Unit := do
  let line (s : Octets) (about : String) : Work Unit :=
    show_ (if brief then s ++ ['\n'] else phrase "" s (about ++ "\n"))
  if keywordNames.any (reads name) then line name " is a shell keyword"
  else if (← function? name).isSome then line name " is a shell function"
  else if reads name "local" then line name " is a shell builtin"
  else if isSpecialName name then line name " is a special shell builtin"
  else if isRegularName name then line name " is a shell builtin"
  else
    let before := (← get).found
    match ← findProgram? name with
    | .ok path =>
      if brief then show_ (path ++ ['\n'])
      else
        let how := if before.contains name then " is a tracked alias for " else " is "
        show_ (name ++ octets how ++ path ++ ['\n'])
    | .error _ => do
      if !brief then show_ (name ++ octets ": not found\n")
      setStatus 127

/-- Remember where programs are, or tell which ones are remembered. -/
def hash (args : List Octets) : Work Unit := do
  setStatus 0
  let g ← takeOptions "r" "" args
  if g.has 'r' then modify fun s => { s with found := [] }
  else if g.operands = [] then
    (← get).found.reverse.forM fun name => do
      if let .ok path ← findProgram? name then show_ (path ++ ['\n'])
  else
    for name in g.operands do
      if !isSpecialName name ∧ !isRegularName name ∧ (← function? name).isNone then
        if let .error e ← findProgram? name then
          complain (name ++ octets ": " ++ reasonText "not found" e)
          setStatus 1

def octalText (n : Nat) : Octets :=
  let digits := Nat.toDigits 8 n
  List.replicate (4 - digits.length) '0' ++ digits

def changeMask (args : List Octets) : Work Unit := do
  setStatus 0
  let g ← takeOptions "S" "" args
  match g.operands with
  | [] => do
    let mask := (← get).mask
    show_ ((if g.has 'S' then Mode.symbolic mask else octalText mask) ++ ['\n'])
  | word :: _ =>
    if word.all fun c => (Printing.octalDigit? c).isSome then
      let mask := Printing.value 8 (word.filterMap Printing.octalDigit?) % 512
      modify fun s => { s with mask }
    else if word.head?.any Char.isDigit then fail (octets "Illegal number: " ++ word)
    else
      match Mode.maskOfClauses? word (← get).mask with
      | some mask => modify fun (s : State) => { s with mask }
      | none => fail (octets "Illegal mode: " ++ word)

/-! ## All together -/

def printFormatted (args : List Octets) : Work Unit := do
  let f := Printing.format .command args
  setStatus 0
  show_ f.written
  f.complaints.forM complain
  modify fun s => { s with status := max s.status f.status }

def test (bracket : Bool) (args : List Octets) : Work Unit := do
  let s ← get
  let probe := Condition.Probe.ofSystem s.system s.process.descriptors s.process.directory
  match Condition.run probe false bracket args with
  | (status, none) => setStatus status
  | (status, some what) => fail what status

/-- Carry out a command of the shell that runs no other commands. -/
def carryOut (name : String) (args : List Octets) : Work Unit := do
  match name with
  | ":" | "true" | "jobs" => setStatus 0
  | "hash" => hash args
  | "false" => setStatus 1
  | "echo" => do
    setStatus 0
    show_ (Printing.shellEcho args)
  | "printf" => printFormatted args
  | "test" => test false args
  | "[" => test true args
  | "cd" | "chdir" => changeDirectory args
  | "pwd" => do
    let g ← takeOptions "LP" "" args
    setStatus 0
    let s ← get
    show_ ((if g.has 'P' then pathText s.process.directory else s.place) ++ ['\n'])
  | "export" => declaration "export" Variable.exported (fun v => { v with exported := true }) args
  | "readonly" => declaration "readonly" Variable.fixed (fun v => { v with fixed := true }) args
  | "local" => localVariables args
  | "unset" => unset args
  | "set" => setCommand args
  | "shift" => shift args
  | "exit" => do
    setStatus (← statusOperand args)
    throw .exited
  | "return" => do
    setStatus (← statusOperand args)
    throw (if (← get).calls = 0 then .exited else .returned)
  | "break" => leaveLoops false args
  | "continue" => leaveLoops true args
  | "read" => readVariables args
  | "getopts" => nextOption args
  | "kill" => kill args
  | "wait" => wait args
  | "trap" => trap args
  | "type" => do
    setStatus 0
    args.forM (describe false)
  | "umask" => changeMask args
  | "ulimit" => do
    setStatus 0
    show_ (octets "unlimited\n")
  | "times" => do
    setStatus 0
    show_ (octets "0m0.000000s 0m0.000000s\n0m0.000000s 0m0.000000s\n")
  | "fg" | "bg" =>
    match args with
    | [] => fail (octets "No current job")
    | job :: _ => fail (octets "No such job: " ++ job)
  | "alias" | "unalias" => do
    setStatus 0
    for word in args do
      writeError (octets (name ++ ": ") ++ word ++ octets " not found")
      setStatus 1
  | _ => fail (octets (name ++ ": not found")) 127

end Shortcuts.Machine.Shell
