/-!
# Commands of a shell

What a script says, once it has been read: words whose meaning depends on the moment at which they
are used, and commands made of them.

## Main definitions

- `Part`: a part of a word.
- `Command`: a command, simple or made of others.
- `Redirection`: where a command's descriptors lead.
-/

namespace ControlPlane.Shell

/-- What is made of the value of a parameter. In the cases with a word, `orEmpty` says that an empty
value counts like none. -/
inductive Use
  | value
  | length
  /-- The word stands for a value that is missing. -/
  | instead (orEmpty : Bool)
  /-- The same, and the parameter gets it as its value. -/
  | assign (orEmpty : Bool)
  /-- The word is the error of a value that is missing. -/
  | insist (orEmpty : Bool)
  /-- The word stands for a value that is there. -/
  | alternative (orEmpty : Bool)
  /-- The value without what matches the word at its start. -/
  | trimStart (longest : Bool)
  /-- The value without what matches the word at its end. -/
  | trimEnd (longest : Bool)
  /-- There is no such use; this is found out when the word is used. -/
  | senseless
deriving DecidableEq

/-- How a file is opened for a descriptor. -/
inductive Opening
  | read
  | write
  /-- A file is written even where those that are there are to be kept. -/
  | overwrite
  | append
  | both
deriving DecidableEq

mutual

/-- A part of a word. What is quoted is neither split nor taken for a pattern. -/
inductive Part
  | char (quoted : Bool) (c : Char)
  /-- Quotes, perhaps with nothing between them. -/
  | quotes
  | parameter (quoted : Bool) (name : String) (use : Use) (word : List Part)
  /-- What a command writes. -/
  | output (quoted : Bool) (command : Command)
  /-- The value of an expression. -/
  | number (quoted : Bool) (expression : List Part)

/-- A command; `line` is the line of the script on which it begins. -/
inductive Command
  | nothing
  | simple (line : Nat) (assignments : List (String × List Part)) (words : List (List Part))
    (redirections : List Redirection)
  /-- Each command reads what the one before it writes. -/
  | pipe (commands : List Command)
  | negated (command : Command)
  /-- The second command is run if the first one succeeds. -/
  | both (first second : Command)
  /-- The second command is run if the first one fails. -/
  | either (first second : Command)
  | sequence (first second : Command)
  /-- The command is started, and not waited for. -/
  | background (command : Command)
  /-- The command is run in a copy of the shell. -/
  | subshell (command : Command)
  | redirected (line : Nat) (command : Command) (redirections : List Redirection)
  | choice (condition yes no : Command)
  /-- The body is run while the condition succeeds, or else while it fails. -/
  | loop (whileTrue : Bool) (condition body : Command)
  /-- The body is run for each word, or else for each argument. -/
  | each (name : String) (words : Option (List (List Part))) (body : Command)
  | select (word : List Part) (cases : List (List (List Part) × Command))
  | define (name : String) (body : Command)

/-- Where a descriptor leads while a command is run. -/
inductive Redirection
  | file (descriptor : Nat) (opening : Opening) (name : List Part)
  /-- It leads where another one leads, or nowhere after a hyphen. -/
  | duplicate (descriptor : Nat) (source : List Part)
  /-- It leads to a text within the script, which is known by a number. -/
  | document (descriptor : Nat) (number : Nat)

end

/-- A word of a script. -/
abbrev Word := List Part

instance : Inhabited Command := ⟨.nothing⟩

/-- Whether a command has nothing to be run. -/
def Command.isNothing : Command → Bool
  | .nothing => true
  | _ => false

/-- Whether a character may begin the name of a variable. -/
def isNameStart (c : Char) : Bool := c.isAlpha || c == '_'

/-- Whether a character may stand in the name of a variable. -/
def isNameChar (c : Char) : Bool := c.isAlphanum || c == '_'

/-- Whether a text is the name of a variable. -/
def isName : List Char → Bool
  | [] => false
  | c :: rest => isNameStart c && rest.all isNameChar

/-- Whether a character names a parameter that the shell itself sets. -/
def isSpecial (c : Char) : Bool := ['@', '*', '#', '?', '-', '$', '!'].contains c || c.isDigit

/-- The characters of a word that is nothing but them. -/
def plain? : Word → Option (List Char)
  | [] => some []
  | .char false c :: rest => (plain? rest).map (c :: ·)
  | _ => none

/-- The name that a word binds, and the word that it binds it to; `name` is what has been read of
the name, reversed. -/
def assignmentFrom (name : List Char) : Word → Option (String × Word)
  | .char false c :: rest =>
    if c == '=' then if isName name.reverse then some (String.ofList name.reverse, rest) else none
    else if isNameChar c then assignmentFrom (c :: name) rest
    else none
  | _ => none

/-- The name that a word binds, and the word that it binds it to. -/
def assignment? (word : Word) : Option (String × Word) := assignmentFrom [] word

end ControlPlane.Shell
