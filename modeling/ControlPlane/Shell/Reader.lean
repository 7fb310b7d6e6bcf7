import ControlPlane.Shell.Command

/-!
# Reading scripts

A script is read line by line: a command that is complete can be run before the next line is looked
at, so a fault in a later line does not keep the earlier ones from being run.

Whether a word is one of the reserved words depends on where it stands, so tokens are read on
demand, by whoever knows what may come next.

## Main definitions

- `Fault`: why a script cannot be read on.
- `Input`: a script and how far it has been read.
- `Script`: what has been read of a script.
- `Script.ofText`: reading a script.
-/

namespace ControlPlane.Shell

/-- Why a script cannot be read on. -/
structure Fault where
  line : Nat
  reason : String
deriving DecidableEq

/-- The smallest parts of a script outside words. -/
inductive Token
  | word (parts : Word)
  /-- A word that means a part of a command where it stands. -/
  | reserved (name : String)
  /-- Operators: `;`, `;;`, `&`, `&&`, `|`, `||`, `(` and `)`. -/
  | operator (text : String)
  | redirection (descriptor : Option Nat) (text : String)
  | newline
  | ending

/-- What a token is called in messages. -/
def Token.text : Token → String
  | .word _ => "word"
  | .reserved name => "\"" ++ name ++ "\""
  | .operator text => "\"" ++ text ++ "\""
  | .redirection _ _ => "redirection"
  | .newline => "newline"
  | .ending => "end of file"

/-- Whether a token is the given operator. -/
def Token.isOperator (text : String) : Token → Bool
  | .operator t => t == text
  | _ => false

/-- Whether a token is the given reserved word. -/
def Token.isReserved (name : String) : Token → Bool
  | .reserved n => n == name
  | _ => false

/-- Whether a token is a new line. -/
def Token.isNewline : Token → Bool
  | .newline => true
  | _ => false

/-- The words that are reserved where a command may begin. -/
def reservedWords : List String :=
  ["!", "case", "do", "done", "elif", "else", "esac", "fi", "for", "if", "in", "then", "until",
   "while", "\x7b", "\x7d"]

/-- The reserved words that end a list of commands. -/
def closingWords : List String := ["do", "done", "elif", "else", "esac", "fi", "then", "\x7d"]

/-- Whether a token ends a list of commands. -/
def Token.closes : Token → Bool
  | .ending => true
  | .operator text => text == ")" || text == ";;"
  | .reserved name => closingWords.contains name
  | _ => false

/-- A text within a script that has been announced and not read yet. -/
structure Announcement where
  number : Nat
  /-- The line that ends the text. -/
  delimiter : List Char
  /-- Whether nothing in the text is replaced. -/
  literal : Bool
  /-- Whether tabs at the start of lines do not count. -/
  indented : Bool

/-- A script and how far it has been read. -/
structure Input where
  rest : List Char
  line : Nat := 1
  /-- A token that was read and given back. -/
  pushed : Option Token := none
  /-- Whether the word that is read ends a text, so that nothing in it is replaced. -/
  delimiting : Bool := false
  announced : List Announcement := []
  /-- The texts within the script, by number. -/
  documents : List (Nat × Word) := []
  /-- The number of the next such text. -/
  next : Nat := 0

/-- A reader of something at the front of a script. -/
abbrev Reading := StateT Input (Except Fault)

/-- The script cannot be read on. -/
def refuse {α : Type} (reason : String) : Reading α := do throw ⟨(← get).line, reason⟩

/-- The token does not belong where it stands, where perhaps another one was expected. -/
def unexpected {α : Type} (t : Token) (expected : Option Token) : Reading α :=
  refuse (t.text ++ " unexpected" ++
    match expected with
    | some e => " (expecting " ++ e.text ++ ")"
    | none => "")

/-- The next character, left in place. Lines are joined at a backslash. -/
def peek : Reading (Option Char) :=
  modifyGet fun i =>
    match i.rest with
    | '\\' :: '\n' :: rest =>
      match rest with
      | '\\' :: '\n' :: more => (more.head?, { i with rest := more, line := i.line + 2 })
      | _ => (rest.head?, { i with rest, line := i.line + 1 })
    | rest => (rest.head?, i)

/-- The next character as it stands. -/
def take : Reading (Option Char) :=
  modifyGet fun i =>
    match i.rest with
    | [] => (none, i)
    | c :: rest => (some c, { i with rest, line := if c == '\n' then i.line + 1 else i.line })

/-- The characters at the front for which `p` holds. -/
def takeRun (p : Char → Bool) : Reading (List Char) :=
  modifyGet fun i => (i.rest.takeWhile p, { i with rest := i.rest.dropWhile p })

/-- Whether the next character is `c`; if so, it is passed. -/
def accept (c : Char) : Reading Bool := do
  if (← peek) == some c then
    let _ ← take
    return true
  else return false

/-- Where the parts of a word stand. -/
inductive Place
  /-- Outside quotes. -/
  | open
  /-- In double quotes. -/
  | quotes
  /-- Behind the operator of a parameter in braces. -/
  | braces (quoted : Bool)
  /-- In an expression, within so many parentheses. -/
  | number (depth : Nat)
  /-- In a text within the script. -/
  | document
deriving DecidableEq

/-- Whether what stands here is quoted. -/
def Place.isQuoted : Place → Bool
  | .open => false
  | .quotes => true
  | .braces quoted => quoted
  | .number _ => true
  | .document => true

/-- Whether blanks, quotes and backslashes have their full meaning here. -/
def Place.isFree (p : Place) : Bool := p == .open || p == .braces false

/-- The character that begins and ends a command whose output is wanted. -/
def backquote : Char := '\x60'

/-- The characters that end a word outside quotes. -/
def endsWord (c : Char) : Bool :=
  [' ', '\t', '\n', ';', '&', '|', '<', '>', '(', ')'].contains c

/-- The characters that a backslash protects at a place where quotes have no full meaning. -/
def isProtected (p : Place) (c : Char) : Bool :=
  ['$', backquote, '\\'].contains c || (c == '"' && p != .document) ||
    (c == '}' && p == .braces true)

/-- The characters up to a single quote. -/
def readSingle : Reading (List Char) := do
  let cs ← modifyGet fun i =>
    let cs := i.rest.takeWhile (· != '\'')
    (cs, { i with rest := i.rest.dropWhile (· != '\'')
                  line := i.line + (cs.filter (· == '\n')).length })
  match ← take with
  | some _ => return cs
  | none => refuse "Unterminated quoted string"

/-- The text of a command between backquotes, without the backslashes that protect characters. -/
def readBackquoted (quoted : Bool) : Nat → List Char → Reading (List Char)
  | 0, _ => refuse "EOF in backquote substitution"
  | fuel + 1, done => do
    match ← take with
    | none => refuse "EOF in backquote substitution"
    | some '\\' =>
      match ← take with
      | none => readBackquoted quoted fuel ('\\' :: done)
      | some '\n' => readBackquoted quoted fuel done
      | some c =>
        if ['$', backquote, '\\'].contains c || (quoted && c == '"') then
          readBackquoted quoted fuel (c :: done)
        else readBackquoted quoted fuel (c :: '\\' :: done)
    | some c =>
      if c == backquote then return done.reverse else readBackquoted quoted fuel (c :: done)

/-- The use of a parameter whose name has been read in braces, and whether a word follows. -/
def readUse : Reading (Use × Bool) := do
  let ofSign (orEmpty : Bool) : Reading (Use × Bool) := do
    match ← peek with
    | some '-' => let _ ← take; return (.instead orEmpty, true)
    | some '=' => let _ ← take; return (.assign orEmpty, true)
    | some '?' => let _ ← take; return (.insist orEmpty, true)
    | some '+' => let _ ← take; return (.alternative orEmpty, true)
    | _ => return (.senseless, true)
  match ← peek with
  | some '}' => let _ ← take; return (.value, false)
  | some ':' => let _ ← take; ofSign true
  | some '%' =>
    let _ ← take
    return (.trimEnd (← accept '%'), true)
  | some '#' =>
    let _ ← take
    return (.trimStart (← accept '#'), true)
  | _ => ofSign false

/-- The name of a parameter, of which `c` is the first character, in braces. -/
def readName (c : Char) : Reading String := do
  if isNameStart c then return String.ofList (← takeRun isNameChar)
  else if c.isDigit then return String.ofList (← takeRun Char.isDigit)
  else
    let _ ← take
    return String.singleton c

/-- The name and the use of a parameter in braces, and whether a word follows. -/
def readBraced : Reading (String × Use × Bool) := do
  match ← peek with
  | some '#' =>
    let _ ← take
    let next ← peek
    let after := ((← get).rest.drop 1).head?
    match next with
    | some c =>
      if isNameChar c || (isSpecial c && after == some '}') then
        let name ← readName c
        if ← accept '}' then return (name, .length, false) else return (name, .senseless, true)
      else
        let (use, more) ← readUse
        return ("#", use, more)
    | none => return ("#", .senseless, true)
  | some c =>
    if isNameStart c || isSpecial c then
      let name ← readName c
      let (use, more) ← readUse
      return (name, use, more)
    else return ("", .senseless, true)
  | none => return ("", .senseless, true)

/-- The tokens that a word, an operator or a new line begins with its first character. -/
def readOperator (c : Char) : Reading (Option Token) := do
  match c with
  | '\n' => let _ ← take; return some .newline
  | '&' =>
    let _ ← take
    return some (.operator (if ← accept '&' then "&&" else "&"))
  | '|' =>
    let _ ← take
    return some (.operator (if ← accept '|' then "||" else "|"))
  | ';' =>
    let _ ← take
    return some (.operator (if ← accept ';' then ";;" else ";"))
  | '(' => let _ ← take; return some (.operator "(")
  | ')' => let _ ← take; return some (.operator ")")
  | _ => return none

/-- The sign of a redirection, of which `c` is the first character. -/
def readSign (c : Char) : Reading String := do
  let _ ← take
  if c == '<' then
    if ← accept '<' then return if ← accept '-' then "<<-" else "<<"
    else if ← accept '&' then return "<&"
    else if ← accept '>' then return "<>"
    else return "<"
  else
    if ← accept '>' then return ">>"
    else if ← accept '&' then return ">&"
    else if ← accept '|' then return ">|"
    else return ">"

/-- Passes blanks and a comment in front of a token. -/
def passBlanks : Reading Unit := do
  let _ ← peek
  modify fun i => { i with rest := i.rest.dropWhile fun c => c == ' ' || c == '\t' }
  if (← get).rest.take 2 == ['\\', '\n'] then
    let _ ← peek
    modify fun i => { i with rest := i.rest.dropWhile fun c => c == ' ' || c == '\t' }
  if (← get).rest.head? == some '#' then
    modify fun i => { i with rest := i.rest.dropWhile (· != '\n') }

/-- The descriptor that stands in front of the sign of a redirection, if a sign comes next. -/
def readDescriptor : Reading (Option (Option Nat × Char)) := do
  match (← get).rest with
  | '<' :: _ => return some (none, '<')
  | '>' :: _ => return some (none, '>')
  | d :: s :: _ =>
    if d.isDigit && (s == '<' || s == '>') then
      let _ ← take
      return some (some (d.toNat - 48), s)
    else return none
  | _ => return none

/-- The lines of a text within the script, up to its delimiter. -/
def readLines (a : Announcement) : Nat → List Char → Reading (List Char)
  | 0, done => return done
  | fuel + 1, done => do
    if (← get).rest.isEmpty then return done
    let line ← takeRun (· != '\n')
    let ending := (← take).toList
    let line := if a.indented then line.dropWhile (· == '\t') else line
    if line == a.delimiter then return done else readLines a fuel (done ++ line ++ ending)

/-- The characters of a word without its quotes, and whether there were any. -/
def unquoted (word : Word) : List Char × Bool :=
  (word.filterMap fun
    | .char _ c => some c
    | _ => none,
   word.any fun
    | .char quoted _ => quoted
    | .quotes => true
    | _ => false)

/-- What a list of commands stands in. -/
inductive ListKind
  /-- The script itself, of which one line is read. -/
  | line
  /-- A part of a command, which needs at least one command. -/
  | body
  /-- A part of a command that may be without commands. -/
  | optional
deriving DecidableEq

/-- One command after another. -/
def Command.then? : Option Command → Command → Command
  | none, c => c
  | some first, c => .sequence first c

mutual

/-- The parts of a word from some point on; `done` are those before, reversed. -/
def readParts : Nat → Place → Word → Reading Word
  | 0, _, done => return done.reverse
  | fuel + 1, place, done => do
    match ← peek with
    | none =>
      match place with
      | .open => return done.reverse
      | .document => return done.reverse
      | .quotes => refuse "Unterminated quoted string"
      | .braces true => refuse "Unterminated quoted string"
      | .braces false => refuse "Missing '\x7d'"
      | .number _ => refuse "Missing '))'"
    | some c =>
      if place == .open && endsWord c then return done.reverse
      else
        let _ ← take
        let q := place.isQuoted
        let delimiting := (← get).delimiting
        if c == '\\' then
          match ← take with
          | none => readParts fuel place (.char q '\\' :: done)
          | some d =>
            if place.isFree || isProtected place d then readParts fuel place (.char true d :: done)
            else readParts fuel place (.char q d :: .char q '\\' :: done)
        else if c == '$' && !delimiting then
          match ← readDollar fuel place with
          | some part => readParts fuel place (part :: done)
          | none => readParts fuel place (.char q '$' :: done)
        else if c == backquote && !delimiting then
          let text ← readBackquoted (place == .quotes) fuel []
          let outer ← get
          set { outer with rest := text, line := 1, pushed := none, announced := [] }
          let command ← readList fuel .optional none
          readDocuments fuel
          modify fun i => { i with
            rest := outer.rest
            line := outer.line
            pushed := outer.pushed
            announced := outer.announced }
          readParts fuel place (.output q command :: done)
        else if c == '\'' && place.isFree then
          let cs ← readSingle
          readParts fuel place ((cs.map (Part.char true)).reverse ++ .quotes :: done)
        else if c == '"' && place.isFree then
          let inner ← readParts fuel .quotes []
          readParts fuel place (inner.reverse ++ .quotes :: done)
        else
          match place with
          | .quotes =>
            if c == '"' then return done.reverse
            else readParts fuel place (.char q c :: done)
          | .braces _ =>
            if c == '}' then return done.reverse
            else if c == '"' then readParts fuel place done
            else readParts fuel place (.char q c :: done)
          | .number depth =>
            if c == '(' then readParts fuel (.number (depth + 1)) (.char q c :: done)
            else if c == ')' then
              if depth = 0 then
                if ← accept ')' then return done.reverse
                else readParts fuel place (.char q c :: done)
              else readParts fuel (.number (depth - 1)) (.char q c :: done)
            else readParts fuel place (.char q c :: done)
          | _ => readParts fuel place (.char q c :: done)

/-- The part of a word that a dollar sign begins, if it begins one. -/
def readDollar : Nat → Place → Reading (Option Part)
  | 0, _ => return none
  | fuel + 1, place => do
    let q := place.isQuoted
    match ← peek with
    | some '(' =>
      let _ ← take
      if ← accept '(' then return some (.number q (← readParts fuel (.number 0) []))
      else
        let outer ← get
        set { outer with pushed := none, announced := [] }
        let command ← readList fuel .optional none
        let t ← readToken fuel false false
        if !t.isOperator ")" then unexpected t (some (.operator ")"))
        let rest := (← get).rest
        modify fun i => { i with rest := [] }
        readDocuments fuel
        modify fun i => { i with rest, pushed := outer.pushed, announced := outer.announced }
        return some (.output q command)
    | some '{' =>
      let _ ← take
      let (name, use, more) ← readBraced
      if more then
        let free := match use with
          | .trimStart _ => true
          | .trimEnd _ => true
          | _ => false
        return some (.parameter q name use (← readParts fuel (.braces (q && !free)) []))
      else return some (.parameter q name use [])
    | some c =>
      if isNameStart c then
        return some (.parameter q (String.ofList (← takeRun isNameChar)) .value [])
      else if isSpecial c then
        let _ ← take
        return some (.parameter q (String.singleton c) .value [])
      else return none
    | none => return none

/-- Reads the texts within the script that have been announced. -/
def readDocuments : Nat → Reading Unit
  | 0 => return
  | fuel + 1 => do
    match (← get).announced with
    | [] => return
    | a :: rest =>
      modify fun i => { i with announced := rest }
      let line := (← get).line
      let text ← readLines a fuel []
      let word ← if a.literal then pure (text.map (Part.char true)) else do
        let outer ← get
        set { outer with rest := text, line }
        let word ← readParts fuel .document []
        modify fun i => { i with rest := outer.rest, line := outer.line }
        pure word
      modify fun i => { i with documents := (a.number, word) :: i.documents }
      readDocuments fuel

/-- The next token. New lines may be passed, and words may be reserved. -/
def readToken : Nat → (passNewlines reserve : Bool) → Reading Token
  | 0, _, _ => return .ending
  | fuel + 1, passNewlines, reserve => do
    let t ← match (← get).pushed with
      | some t => do
        modify fun i => { i with pushed := none }
        pure t
      | none => do
        passBlanks
        match ← peek with
        | none => pure .ending
        | some c =>
          match ← readOperator c with
          | some t => do
            if t.isNewline then readDocuments fuel
            pure t
          | none =>
            match ← readDescriptor with
            | some (descriptor, sign) => pure (.redirection descriptor (← readSign sign))
            | none => pure (.word (← readParts fuel .open []))
    let t := match t with
      | .word parts =>
        match (plain? parts).map String.ofList with
        | some name =>
          if reserve && reservedWords.contains name then Token.reserved name else .word parts
        | none => .word parts
      | t => t
    if passNewlines && t.isNewline then readToken fuel passNewlines reserve else return t

/-- The target of a redirection whose sign has been read. -/
def readRedirection : Nat → Option Nat → String → Reading Redirection
  | 0, d, _ => return .duplicate (d.getD 0) []
  | fuel + 1, descriptor, sign => do
    modify fun i => { i with delimiting := sign == "<<" || sign == "<<-" }
    let t ← readToken fuel false false
    modify fun i => { i with delimiting := false }
    match t with
    | .word parts =>
      match sign with
      | "<" => return .file (descriptor.getD 0) .read parts
      | "<>" => return .file (descriptor.getD 0) .both parts
      | ">>" => return .file (descriptor.getD 1) .append parts
      | "<&" => return .duplicate (descriptor.getD 0) parts
      | ">&" => return .duplicate (descriptor.getD 1) parts
      | "<<" | "<<-" =>
        let (delimiter, literal) := unquoted parts
        modifyGet fun i =>
          (.document (descriptor.getD 0) i.next,
            { i with
              next := i.next + 1
              announced := i.announced ++
                [{ number := i.next, delimiter, literal, indented := sign == "<<-" }] })
      | ">|" => return .file (descriptor.getD 1) .overwrite parts
      | _ => return .file (descriptor.getD 1) .write parts
    | t => unexpected t none

/-- The redirections at the front. -/
def readRedirections : Nat → List Redirection → Reading (List Redirection)
  | 0, done => return done.reverse
  | fuel + 1, done => do
    match ← readToken fuel false true with
    | .redirection descriptor sign =>
      readRedirections fuel ((← readRedirection fuel descriptor sign) :: done)
    | t =>
      modify fun i => { i with pushed := some t }
      return done.reverse

/-- A simple command, or the definition of a function. Bindings count as such only in front of all
other words. -/
def readSimple : Nat → Nat → List (String × Word) → List Word → List Redirection → Reading Command
  | 0, line, bindings, words, redirections =>
    return .simple line bindings.reverse words.reverse redirections.reverse
  | fuel + 1, line, bindings, words, redirections => do
    match ← readToken fuel false false with
    | .word parts =>
      match (if words.isEmpty then assignment? parts else none) with
      | some binding => readSimple fuel line (binding :: bindings) words redirections
      | none => readSimple fuel line bindings (parts :: words) redirections
    | .redirection descriptor sign =>
      readSimple fuel line bindings words
        ((← readRedirection fuel descriptor sign) :: redirections)
    | t =>
      match t.isOperator "(" && bindings.isEmpty && redirections.isEmpty, words with
      | true, [name] =>
        let closing ← readToken fuel false false
        if !closing.isOperator ")" then unexpected closing (some (.operator ")"))
        match plain? name with
        | some cs =>
          if !isName cs then refuse "Bad function name"
          let t ← readToken fuel true true
          modify fun i => { i with pushed := some t }
          return .define (String.ofList cs) (← readCommand fuel)
        | none => refuse "Bad function name"
      | _, _ =>
        modify fun i => { i with pushed := some t }
        return .simple line bindings.reverse words.reverse redirections.reverse

/-- The words of a loop, up to the end of their line. -/
def readLoopWords : Nat → List Word → Reading (List Word)
  | 0, done => return done.reverse
  | fuel + 1, done => do
    match ← readToken fuel false false with
    | .word parts => readLoopWords fuel (parts :: done)
    | t => if t.isNewline || t.isOperator ";" then return done.reverse else unexpected t none

/-- The patterns of a case, up to the closing parenthesis; the first token has been read. -/
def readPatterns : Nat → Token → List Word → Reading (List Word)
  | 0, _, done => return done.reverse
  | fuel + 1, first, done => do
    let done := match first with
      | .word parts => parts :: done
      | .reserved name => name.toList.map (Part.char false) :: done
      | _ => done
    let t ← readToken fuel false false
    if t.isOperator "|" then
      let next ← readToken fuel false false
      readPatterns fuel next done
    else if t.isOperator ")" then return done.reverse
    else unexpected t (some (.operator ")"))

/-- The cases of a selection, up to its end. -/
def readCases : Nat → List (List Word × Command) → Reading (List (List Word × Command))
  | 0, done => return done.reverse
  | fuel + 1, done => do
    let t ← readToken fuel true true
    if t.isReserved "esac" then return done.reverse
    let first ← if t.isOperator "(" then readToken fuel false false else pure t
    let patterns ← readPatterns fuel first []
    let body ← readList fuel .optional none
    let done := (patterns, body) :: done
    let t ← readToken fuel true true
    if t.isReserved "esac" then return done.reverse
    else if t.isOperator ";;" then readCases fuel done
    else unexpected t (some (.operator ";;"))

/-- The other branches of a choice. -/
def readBranches : Nat → Reading Command
  | 0 => return .nothing
  | fuel + 1 => do
    let t ← readToken fuel false true
    if t.isReserved "elif" then
      let condition ← readList fuel .body none
      let t ← readToken fuel false true
      if !t.isReserved "then" then unexpected t (some (.reserved "then"))
      let yes ← readList fuel .body none
      return .choice condition yes (← readBranches fuel)
    else if t.isReserved "else" then readList fuel .body none
    else
      modify fun i => { i with pushed := some t }
      return .nothing

/-- A command, with the redirections behind it. -/
def readCommand : Nat → Reading Command
  | 0 => return .nothing
  | fuel + 1 => do
    let line := (← get).line
    let t ← readToken fuel false true
    let expect (t : Token) : Reading Unit := do
      let found ← readToken fuel false true
      if found.text != t.text then unexpected found (some t)
    let loop (whileTrue : Bool) : Reading Command := do
      let condition ← readList fuel .body none
      expect (.reserved "do")
      let body ← readList fuel .body none
      expect (.reserved "done")
      return .loop whileTrue condition body
    let command ← match t with
      | .word _ | .redirection _ _ => do
        modify fun i => { i with pushed := some t }
        return ← readSimple fuel line [] [] []
      | .reserved "if" => do
        let condition ← readList fuel .body none
        expect (.reserved "then")
        let yes ← readList fuel .body none
        let no ← readBranches fuel
        expect (.reserved "fi")
        pure (.choice condition yes no)
      | .reserved "while" => loop true
      | .reserved "until" => loop false
      | .reserved "for" => do
        let name ← match ← readToken fuel false false with
          | .word parts =>
            match plain? parts with
            | some cs =>
              if isName cs then pure (String.ofList cs) else refuse "Bad for loop variable"
            | none => refuse "Bad for loop variable"
          | _ => refuse "Bad for loop variable"
        let t ← readToken fuel true true
        let words ← if t.isReserved "in" then do
            pure (some (← readLoopWords fuel []))
          else do
            if !t.isOperator ";" then modify fun i => { i with pushed := some t }
            pure none
        let t ← readToken fuel true true
        if !t.isReserved "do" then unexpected t (some (.reserved "do"))
        let body ← readList fuel .body none
        expect (.reserved "done")
        pure (.each name words body)
      | .reserved "case" => do
        match ← readToken fuel false false with
        | .word word => do
          let t ← readToken fuel true true
          if !t.isReserved "in" then unexpected t (some (.reserved "in"))
          pure (.select word (← readCases fuel []))
        | t => unexpected t (some (.word []))
      | .reserved "\x7b" => do
        let body ← readList fuel .body none
        expect (.reserved "\x7d")
        pure body
      | .operator "(" => do
        let body ← readList fuel .body none
        expect (.operator ")")
        pure (.subshell body)
      | t => unexpected t none
    match ← readRedirections fuel [] with
    | [] => return command
    | redirections => return .redirected line command redirections

/-- The further commands of a pipe. -/
def readPipe : Nat → List Command → Reading (List Command)
  | 0, done => return done.reverse
  | fuel + 1, done => do
    let t ← readToken fuel false true
    if t.isOperator "|" then
      let t ← readToken fuel true true
      modify fun i => { i with pushed := some t }
      readPipe fuel ((← readCommand fuel) :: done)
    else
      modify fun i => { i with pushed := some t }
      return done.reverse

/-- Commands with pipes between them. -/
def readPipeline : Nat → Reading Command
  | 0 => return .nothing
  | fuel + 1 => do
    let t ← readToken fuel false true
    let negate := t.isReserved "!"
    if !negate then modify fun i => { i with pushed := some t }
    let first ← readCommand fuel
    let all ← match ← readPipe fuel [first] with
      | [c] => pure c
      | cs => pure (.pipe cs)
    return if negate then .negated all else all

/-- The rest of commands that depend on each other. -/
def readChain : Nat → Command → Reading Command
  | 0, first => return first
  | fuel + 1, first => do
    let t ← readToken fuel false true
    let second : Reading Command := do
      let t ← readToken fuel true true
      modify fun i => { i with pushed := some t }
      readPipeline fuel
    if t.isOperator "&&" then readChain fuel (.both first (← second))
    else if t.isOperator "||" then readChain fuel (.either first (← second))
    else
      modify fun i => { i with pushed := some t }
      return first

/-- A list of commands; `done` are those before. -/
def readList : Nat → ListKind → Option Command → Reading Command
  | 0, _, done => return done.getD .nothing
  | fuel + 1, kind, done => do
    let t ← readToken fuel (kind != .line) true
    let finish : Reading Command := do
      modify fun i => { i with pushed := some t }
      return done.getD .nothing
    match t with
    | .newline => return done.getD .nothing
    | .ending =>
      readDocuments fuel
      finish
    | t =>
      if t.closes && kind != .line && (kind == .optional || done.isSome) then finish
      else
        modify fun i => { i with pushed := some t }
        let command ← readChain fuel (← readPipeline fuel)
        let t ← readToken fuel false true
        let command := if t.isOperator "&" then .background command else command
        let all := Command.then? done command
        if t.isOperator "&" || t.isOperator ";" then readList fuel kind (some all)
        else if t.isNewline then
          if kind == .line then return all
          else readList fuel kind (some all)
        else
          match t with
          | .ending =>
            readDocuments fuel
            modify fun i => { i with pushed := some t }
            return all
          | t =>
            if kind == .line then unexpected t none
            modify fun i => { i with pushed := some t }
            return all

end

/-- What has been read of a script. -/
structure Script where
  /-- The commands, one line after another. -/
  lines : List Command
  /-- Why the rest cannot be read. -/
  fault : Option Fault
  /-- The texts within the script, by number. -/
  documents : List (Nat × Word)
  /-- The number of the next such text. -/
  next : Nat

/-- The lines of a script from some point on. -/
def readScript (fuel : Nat) : Nat → Input → Script
  | 0, i => ⟨[], none, i.documents, i.next⟩
  | lines + 1, i =>
    if i.rest.isEmpty then ⟨[], none, i.documents, i.next⟩
    else
      match (readList fuel .line none).run { i with pushed := none } with
      | .error fault => ⟨[], some fault, i.documents, i.next⟩
      | .ok (command, i) =>
        let script := readScript fuel lines i
        { script with lines := command :: script.lines }

/-- Reads a script, whose texts are numbered from `next` on. Every step either takes a character or
goes down one of a dozen kinds of commands. -/
def Script.ofText (text : List Char) (next : Nat) : Script :=
  readScript (24 * text.length + 64) (text.length + 1) { rest := text, next }

end ControlPlane.Shell
