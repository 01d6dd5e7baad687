import Shortcuts.Machine.Script.Reader

/-!
# Parsing scripts

A script is parsed one line at a time, as it is run: a line may go over several when a construct
is still open. Every parser takes a bound on the depth of its calls, which the length of the
script is enough for.
-/

namespace Shortcuts.Machine.Script

open Text Read

/-- What ends a run of pieces. -/
inductive Extent
  | word
  | doubleQuotes
  | braces (quoted : Bool)
  /-- An arithmetic expansion, with the parentheses open inside it. -/
  | sum (depth : Nat)
  | document
  deriving DecidableEq

namespace Extent

def quoted : Extent → Bool
  | .word => false
  | .braces quoted => quoted
  | _ => true

/-- Characters that do not simply stand for themselves. -/
def isSpecial (e : Extent) (c : Char) : Bool :=
  "\\$\x60".toList.contains c ||
  match e with
  | .word => isBlankChar c || isSign c || c == '\'' || c == '"'
  | .doubleQuotes => c == '"'
  | .braces quoted => c == '\x7d' || c == '"' || (!quoted && c == '\'')
  | .sum _ => c == '(' || c == ')'
  | .document => false

/-- Characters that lose their meaning after a backslash even in quotes. -/
def isEscapable (e : Extent) (c : Char) : Bool :=
  "\\$\x60".toList.contains c ||
  match e with
  | .document => false
  | .braces _ => c == '"' || c == '\x7d'
  | _ => c == '"'

end Extent

/-- Words that end a list of commands. -/
def closers : List String := ["then", "do", "done", "fi", "elif", "else", "esac", "\x7d"]

/-- All words that mean something where a command may begin. -/
def keywords : List String :=
  ["!", "\x7b", "if", "while", "until", "for", "case", "in"] ++ closers

def keyword? (w : ShellWord) : Option String :=
  (literal? w).bind fun held =>
    let s := String.ofList held
    if keywords.contains s then some s else none

/-- The name of a token where a command may begin. -/
def asCommandToken (t : Token) : Token :=
  match t with
  | .word w =>
    match keyword? w with
    | some s => .sign s
    | none => t
  | _ => t

def endsList : Token → Bool
  | .finish => true
  | .sign s => s == ")" || s == ";;" || closers.contains s
  | _ => false

def isSpecialParameter (c : Char) : Bool := "@*#?$!-".toList.contains c

def isOperatorChar (c : Char) : Bool := "-=?+".toList.contains c

def fallbackOf : Char → Fallback
  | '-' => .substitute
  | '=' => .assign
  | '?' => .complain
  | _ => .replace

def accessOf : String → Access
  | ">>" => .append
  | "<" => .read
  | "<>" => .update
  | _ => .overwrite

def sequenceOf : Command → Command → Command
  | .nothing, b => b
  | a, .nothing => a
  | a, b => .sequence a b

/-- Text in backquotes up to the closing one, with the backslashes that only protect dropped. -/
def unquoteBack (quoted : Bool) : Octets → Option (Octets × Octets)
  | [] => none
  | '\x60' :: rest => some ([], rest)
  | '\\' :: c :: rest =>
    let kept := if "\\$\x60".toList.contains c || (quoted && c == '"') then [c] else ['\\', c]
    (unquoteBack quoted rest).map fun (s, rest) => (kept ++ s, rest)
  | c :: rest => (unquoteBack quoted rest).map fun (s, rest) => (c :: s, rest)

/-- Drop the quoting of a word that is not expanded. -/
def unquotedText (w : ShellWord) : Octets :=
  w.flatMap fun
    | .text _ held => held
    | .parameter _ name _ => '$' :: name
    | _ => []

def isPlainWord (w : ShellWord) : Bool :=
  w.all fun
    | .text quoted _ => !quoted
    | _ => true

mutual

/-- The pieces up to the end of an extent. -/
def pieces : Nat → Extent → Read (List Piece)
  | 0, _ => fail "too deep"
  | n + 1, e => do
    let run ← takeWhile (!e.isSpecial ·)
    let plain := if run = [] then [] else [.text e.quoted run]
    return plain ++ (← special n e)

/-- The pieces from a special character on. -/
def special : Nat → Extent → Read (List Piece)
  | 0, _ => fail "too deep"
  | n + 1, e => do
    match ← peek with
    | none =>
      match e with
      | .word | .document => return []
      | .doubleQuotes => fail "Unterminated quoted string"
      | .braces _ => fail "Missing '\x7d'"
      | .sum _ => fail "Missing '))'"
    | some '\\' => do
      advance
      match ← peek with
      | none => return [.text true ['\\']]
      | some '\n' => do
        advance
        pieces n e
      | some c => do
        advance
        let kept := if !e.quoted ∨ e.isEscapable c then [c] else ['\\', c]
        return .text true kept :: (← pieces n e)
    | some '$' => do
      advance
      let p ← dollar n e.quoted
      return p :: (← pieces n e)
    | some '\x60' => do
      advance
      let p ← backquoted n e.quoted
      return p :: (← pieces n e)
    | some '\'' => do
      advance
      let held ← takeWhile (· != '\'')
      if !(← takeIf '\'') then fail "Unterminated quoted string"
      return .text true held :: (← pieces n e)
    | some '"' => do
      advance
      match e with
      | .doubleQuotes => return []
      | _ => do
        let inner ← pieces n .doubleQuotes
        return .text true [] :: inner ++ (← pieces n e)
    | some '(' => do
      match e with
      | .sum depth => do
        advance
        return .text true ['('] :: (← pieces n (.sum (depth + 1)))
      | _ => return []
    | some ')' => do
      match e with
      | .sum 0 => do
        advance
        if ← takeIf ')' then return [] else fail "Missing '))'"
      | .sum (depth + 1) => do
        advance
        return .text true [')'] :: (← pieces n (.sum depth))
      | _ => return []
    | some c => do
      if (e matches .braces _) ∧ c = '\x7d' then advance
      return []

/-- What a dollar sign, already read, stands for. -/
def dollar : Nat → Bool → Read Piece
  | 0, _ => fail "too deep"
  | n + 1, quoted => do
    match ← peek with
    | some '(' => do
      advance
      if ← takeIf '(' then return .sum quoted (← pieces n (.sum 0))
      let c ← block n true
      match ← next n with
      | .sign ")" => return .output quoted c
      | t => unexpected t (some (.sign ")"))
    | some '\x7b' => do
      advance
      braced n quoted
    | some c => do
      if isNameStart c then return .parameter quoted (← takeWhile isNameChar) .plain
      else if c.isDigit ∨ isSpecialParameter c then
        advance
        return .parameter quoted [c] .plain
      else return .text quoted ['$']
    | none => return .text quoted ['$']

/-- An expansion in braces, from the parameter on. -/
def braced : Nat → Bool → Read Piece
  | 0, _ => fail "too deep"
  | n + 1, quoted => do
    let first ← peek
    let second ← peekSecond
    if first = some '#' ∧ second.any fun c => isNameChar c || isSpecialParameter c then
      advance
      let name ← parameterName
      if ← takeIf '\x7d' then return .parameter quoted name .length
      else malformed quoted name
    else
      let name ← parameterName
      if name = [] then
        if first = none then fail "Missing '\x7d'" else malformed quoted name
      else
        let colon ← takeIf ':'
        match ← peek with
        | some c => do
          if c = '\x7d' ∧ !colon then
            advance
            return .parameter quoted name .plain
          else if isOperatorChar c then
            advance
            let w ← pieces n (.braces quoted)
            return .parameter quoted name (.fallback (fallbackOf c) colon w)
          else if (c = '#' ∨ c = '%') ∧ !colon then
            advance
            let longest ← takeIf c
            let w ← pieces n (.braces false)
            return .parameter quoted name (.trim (c = '%') longest w)
          else malformed quoted name
        | none => fail "Missing '\x7d'"
where
  parameterName : Read Octets := do
    match ← peek with
    | some c =>
      if isNameStart c then takeWhile isNameChar
      else if c.isDigit then takeWhile Char.isDigit
      else if isSpecialParameter c then
        advance
        return [c]
      else return []
    | none => return []
  malformed (quoted : Bool) (name : Octets) : Read Piece := do
    let _ ← takeWhile (· != '\x7d')
    if !(← takeIf '\x7d') then fail "Missing '\x7d'"
    return .parameter quoted name .malformed

/-- A command in backquotes, of which the first was read. -/
def backquoted : Nat → Bool → Read Piece
  | 0, _ => fail "too deep"
  | n + 1, quoted => do
    let s ← get
    match unquoteBack quoted s.rest with
    | none => fail "EOF in backquote substitution"
    | some (inner, rest) => do
      set { rest := inner, line := s.line : Source }
      let c ← block n true
      match ← next n with
      | .finish =>
        let taken := (s.rest.take (s.rest.length - rest.length)).count '\n'
        set { s with rest, line := s.line + taken }
        return .output quoted c
      | t => unexpected t

/-- The next token. -/
def next : Nat → Read Token
  | 0 => fail "too deep"
  | n + 1 => do
    match (← get).returned with
    | some t => do
      modify fun s => { s with returned := none }
      return t
    | none => do
      skipBlanks n
      match ← peek with
      | none => return .finish
      | some c =>
        if isSign c then
          advance
          sign c
        else
          let w ← pieces n .word
          match w, ← peek with
          | [.text false [d]], some c =>
            if d.isDigit ∧ (c = '<' ∨ c = '>') then
              advance
              match ← sign c with
              | .redirect _ s => return .redirect (some (d.toNat - '0'.toNat)) s
              | t => return t
            else return .word w
          | _, _ => return .word w

/-- The redirection that an operator begins. -/
def redirection : Nat → Option Nat → String → Read Redirection
  | 0, _, _ => fail "too deep"
  | n + 1, fd, s => do
    let standard := if s.startsWith "<" then 0 else 1
    let fd := fd.getD standard
    match ← next n with
    | .word w =>
      if s = "<<" ∨ s = "<<-" then
        let body ← takeDocument (unquotedText w) (s = "<<-")
        if isPlainWord w then
          let s ← get
          set { rest := body, line := s.line : Source }
          let text ← pieces n .document
          set s
          return .here fd text
        else return .here fd [.text true body]
      else if s = ">&" ∨ s = "<&" then return .copy fd w
      else return .file fd (accessOf s) (s = ">") w
    | t => unexpected t

/-- The redirections after a compound command. -/
def redirections : Nat → Read (List Redirection)
  | 0 => fail "too deep"
  | n + 1 => do
    match ← next n with
    | .redirect fd s => do
      let r ← redirection n fd s
      return r :: (← redirections n)
    | t => do
      giveBack t
      return []

/-- A simple command or a function, from its first token on. -/
def simple : Nat → Nat → List (Octets × ShellWord) → List ShellWord → List Redirection →
    Read Command
  | 0, _, _, _, _ => fail "too deep"
  | n + 1, line, as, ws, rs => do
    match ← next n with
    | .word w =>
      match assigning? w with
      | some a =>
        if ws = [] then simple n line (as ++ [a]) ws rs else simple n line as (ws ++ [w]) rs
      | none => simple n line as (ws ++ [w]) rs
    | .redirect fd s => do
      let r ← redirection n fd s
      simple n line as ws (rs ++ [r])
    | .sign "(" =>
      match ws, as, rs with
      | [w], [], [] => do
        match ← next n with
        | .sign ")" =>
          match literal? w with
          | some name =>
            if isName name then
              skipNewlines n
              return .define name (← command n)
            else fail "Bad function name"
          | none => fail "Bad function name"
        | t => unexpected t (some (.sign ")"))
      | _, _, _ => unexpected (.sign "(")
    | t => do
      giveBack t
      return .simple line as ws rs

def skipNewlines : Nat → Read Unit
  | 0 => fail "too deep"
  | n + 1 => do
    match ← next n with
    | .sign "\n" => skipNewlines n
    | t => giveBack t

/-- Read a word that has to come next. -/
def expect : Nat → String → Read Unit
  | 0, _ => fail "too deep"
  | n + 1, s => do
    match asCommandToken (← next n) with
    | .sign t => if t ≠ s then unexpected (.sign t) (some (.sign s))
    | t => unexpected t (some (.sign s))

def command : Nat → Read Command
  | 0 => fail "too deep"
  | n + 1 => do
    let t ← next n
    let line := (← get).line
    match asCommandToken t with
    | .sign "if" => do
      let c ← conditional n
      compound n line c
    | .sign "while" => do
      let test ← block n false
      expect n "do"
      let body ← block n false
      expect n "done"
      compound n line (.loop false test body)
    | .sign "until" => do
      let test ← block n false
      expect n "do"
      let body ← block n false
      expect n "done"
      compound n line (.loop true test body)
    | .sign "for" => do
      let c ← forLoop n line
      compound n line c
    | .sign "case" => do
      let c ← choice n line
      compound n line c
    | .sign "\x7b" => do
      let c ← block n false
      expect n "\x7d"
      compound n line c
    | .sign "(" => do
      let c ← block n false
      expect n ")"
      compound n line (.subshell c)
    | .word _ | .redirect _ _ => do
      giveBack t
      simple n line [] [] []
    | t => unexpected t

def compound : Nat → Nat → Command → Read Command
  | 0, _, _ => fail "too deep"
  | n + 1, line, c => do
    match ← redirections n with
    | [] => return c
    | rs => return .redirected line c rs

/-- The rest of a conditional, after its first word. -/
def conditional : Nat → Read Command
  | 0 => fail "too deep"
  | n + 1 => do
    let test ← block n false
    expect n "then"
    let yes ← block n false
    match asCommandToken (← next n) with
    | .sign "elif" => return .cond test yes (← conditional n)
    | .sign "else" => do
      let no ← block n false
      expect n "fi"
      return .cond test yes no
    | .sign "fi" => return .cond test yes .nothing
    | t => unexpected t (some (.sign "fi"))

def words : Nat → Read (List ShellWord)
  | 0 => fail "too deep"
  | n + 1 => do
    match ← next n with
    | .word w => return w :: (← words n)
    | t => do
      giveBack t
      return []

def forLoop : Nat → Nat → Read Command
  | 0, _ => fail "too deep"
  | n + 1, line => do
    let name ← match ← next n with
      | .word w =>
        match literal? w with
        | some name => if isName name then pure name else fail "Bad for loop variable"
        | none => fail "Bad for loop variable"
      | _ => fail "Bad for loop variable"
    skipNewlines n
    let ws ← match ← next n with
      | .word w =>
        if literal? w = some "in".toList then do
          let ws ← words n
          match ← next n with
          | .sign ";" | .sign "\n" => pure (some ws)
          | t => unexpected t
        else do
          giveBack (.word w)
          pure none
      | .sign ";" => pure none
      | t => do
        giveBack t
        pure none
    skipNewlines n
    expect n "do"
    let body ← block n false
    expect n "done"
    return .forEach line name ws body

def choice : Nat → Nat → Read Command
  | 0, _ => fail "too deep"
  | n + 1, line => do
    match ← next n with
    | .word w => do
      skipNewlines n
      match ← next n with
      | .word v =>
        if literal? v = some "in".toList then return .choose line w (← branches n)
        else unexpected (.word v) (some (.sign "in"))
      | t => unexpected t (some (.sign "in"))
    | t => unexpected t (some (.word []))

def branches : Nat → Read (List (List ShellWord × Command))
  | 0 => fail "too deep"
  | n + 1 => do
    skipNewlines n
    let t ← next n
    if let .sign "esac" := asCommandToken t then return []
    match t with
    | .sign "(" => pure ()
    | t => giveBack t
    let ps ← patterns n
    let body ← block n true
    match asCommandToken (← next n) with
    | .sign ";;" => return (ps, body) :: (← branches n)
    | .sign "esac" => return [(ps, body)]
    | t => unexpected t (some (.sign ";;"))

def patterns : Nat → Read (List ShellWord)
  | 0 => fail "too deep"
  | n + 1 => do
    match ← next n with
    | .word w =>
      match ← next n with
      | .sign "|" => return w :: (← patterns n)
      | .sign ")" => return [w]
      | t => unexpected t (some (.sign ")"))
    | _ => unexpected (← next n) (some (.sign ")"))

def pipeline : Nat → Read Command
  | 0 => fail "too deep"
  | n + 1 => do
    let t ← next n
    match asCommandToken t with
    | .sign "!" => do
      let parts ← stages n
      return .pipeline true parts
    | _ => do
      giveBack t
      match ← stages n with
      | [c] => return c
      | parts => return .pipeline false parts

def stages : Nat → Read (List Command)
  | 0 => fail "too deep"
  | n + 1 => do
    let c ← command n
    match ← next n with
    | .sign "|" => do
      skipNewlines n
      return c :: (← stages n)
    | t => do
      giveBack t
      return [c]

/-- Pipelines with `&&` and `||` between them. -/
def chain : Nat → Read Command
  | 0 => fail "too deep"
  | n + 1 => do
    let c ← pipeline n
    links n c

def links : Nat → Command → Read Command
  | 0, _ => fail "too deep"
  | n + 1, c => do
    match ← next n with
    | .sign "&&" => do
      skipNewlines n
      let d ← pipeline n
      links n (.both c d)
    | .sign "||" => do
      skipNewlines n
      let d ← pipeline n
      links n (.either c d)
    | t => do
      giveBack t
      return c

/-- Commands over several lines, up to a token that ends a list. -/
def block : Nat → Bool → Read Command
  | 0, _ => fail "too deep"
  | n + 1, mayBeEmpty => do
    skipNewlines n
    let t ← next n
    giveBack t
    if (t matches .finish) ∨ (mayBeEmpty ∧ endsList (asCommandToken t)) then return .nothing
    let c ← chain n
    match ← next n with
    | .sign "&" => return sequenceOf (.background c) (← block n true)
    | .sign ";" | .sign "\n" => return sequenceOf c (← block n true)
    | t => do
      giveBack t
      return c

/-- The commands of one line. -/
def commandLine : Nat → Read Command
  | 0 => fail "too deep"
  | n + 1 => do
    let t ← next n
    match t with
    | .sign "\n" => return .nothing
    | .finish => do
      giveBack t
      return .nothing
    | t => do
      giveBack t
      let c ← chain n
      match ← next n with
      | .sign "&" => return sequenceOf (.background c) (← commandLine n)
      | .sign ";" => return sequenceOf c (← commandLine n)
      | .sign "\n" => return c
      | .finish => do
        giveBack .finish
        return c
      | t => unexpected t

end

/-- A bound on the depth of the parser's calls. -/
def Source.bound (s : Source) : Nat := 8 * s.rest.length + 32

/-- The next line of a script with commands, if there is one. -/
def Source.nextLine (s : Source) : Except Fault (Option (Command × Source)) := do
  let n := s.bound
  let (_, s) ← (skipNewlines n).run s
  let (t, s) ← (next n).run s
  match t with
  | .finish => return none
  | t =>
    let (c, s) ← (commandLine n).run { s with returned := some t }
    return some (c, s)

end Shortcuts.Machine.Script
