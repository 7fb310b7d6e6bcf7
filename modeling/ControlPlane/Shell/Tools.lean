import ControlPlane.Shell.Tools.Files
import ControlPlane.Shell.Tools.Numbers
import ControlPlane.Shell.Tools.Text

/-!
# The programs that are known

What the small programs do that scripts are made of, as far as their common options go.

## Main definitions

- `tool?`: the program with a name.
- `runners`: the programs that run other ones.
-/

namespace ControlPlane.Shell

/-- What the programs are told of is written. -/
def printenvTool : Tool := fun arguments => do
  let environment := (← get).environment
  match arguments with
  | [] =>
    emitLines (environment.map fun (name, value) => (name ++ "=" ++ value).toList)
    return 0
  | names =>
    let found := names.filterMap fun name => (environment.find? (·.1 == name)).map (·.2.toList)
    emitLines found
    return if found.length = names.length then 0 else 1

/-- A signal is sent, by its number or its name, to processes. -/
def killTool (report : String → Doing Unit) : Tool := fun arguments => do
  let signal? (text : String) : Option Nat :=
    match Text.decimal? text.toList with
    | some n => if n < Signal.bound then some n else none
    | none => Signal.number? text
  let target? (s : State) (text : String) : Option Nat :=
    match text.toList with
    | '%' :: rest =>
      if rest.isEmpty || rest == ['%'] || rest == ['+'] then s.latest?
      else (Text.decimal? rest).bind fun n => (s.jobs.find? (·.number == n)).map (·.process)
    | cs => Text.decimal? cs
  let deliver (signal : Nat) (targets : List String) : Doing Nat := do
    if targets.isEmpty then
      report "Usage: kill [-s sigspec | -signum | -sigspec] [pid | job]... or\nkill -l [exitstatus]"
      return 2
    else
      let done ← targets.mapM fun text => do
        match target? (← get) text with
        | some target =>
          if ← send target signal then return 0
          else
            report "No such process\n"
            return 1
        | none =>
          report ((if text.startsWith "%" then "No such job: " else "Illegal number: ") ++ text)
          return 2
      return done.foldl max 0
  match arguments with
  | "-l" :: rest =>
    match rest.head?.bind fun text => Text.decimal? text.toList with
    | some n =>
      let signal := if 128 < n then n - 128 else n
      if 0 < signal && signal < Signal.bound then
        emitLines [(Signal.label signal).toList]
        return 0
      else
        report ("invalid signal number or exit status: " ++ toString n)
        return 2
    | none =>
      if rest.isEmpty then
        emitLines ((List.range Signal.bound).map fun n => (Signal.label n).toList)
        return 0
      else
        report ("Illegal number: " ++ rest.headD "")
        return 2
  | "-s" :: name :: targets =>
    match signal? name with
    | some n => deliver n (if targets.head? == some "--" then targets.drop 1 else targets)
    | none =>
      report ("invalid signal number or name: " ++ name)
      return 2
  | "--" :: targets => deliver 15 targets
  | word :: targets =>
    match word.toList with
    | '-' :: c :: rest =>
      match signal? (String.ofList (c :: rest)) with
      | some n => deliver n (if targets.head? == some "--" then targets.drop 1 else targets)
      | none =>
        if c == 's' then
          match signal? (String.ofList rest) with
          | some n => deliver n targets
          | none =>
            report ("invalid signal number or name: " ++ String.ofList rest)
            return 2
        else
          report ("Illegal option -" ++ String.singleton c)
          return 2
    | _ => deliver 15 (word :: targets)
  | [] => deliver 15 []

/-- The program with a name. -/
def tool? (name : String) : Option Tool :=
  let report := gripe name
  match name with
  | "true" => some fun _ => return 0
  | "false" => some fun _ => return 1
  | "echo" => some echoTool
  | "printf" => some (printfTool report)
  | "test" => some (testTool name report)
  | "[" => some (testTool name report)
  | "sleep" => some sleepTool
  | "cat" => some fun arguments => do
    let (text, complete) ← readPaths name (options [] arguments).2
    let _ ← emit 1 (String.ofList text)
    return if complete then 0 else 1
  | "tac" => some (filter name List.reverse)
  | "rev" => some (filter name fun lines => lines.map List.reverse)
  | "seq" => some seqTool
  | "expr" => some exprTool
  | "head" => some headTool
  | "tail" => some tailTool
  | "wc" => some wcTool
  | "tr" => some trTool
  | "cut" => some cutTool
  | "sort" => some sortTool
  | "uniq" => some uniqTool
  | "grep" => some (grepTool false false)
  | "egrep" => some (grepTool true false)
  | "fgrep" => some (grepTool false true)
  | "touch" => some touchTool
  | "rm" => some (rmTool name false)
  | "rmdir" => some (rmTool name true)
  | "mkdir" => some mkdirTool
  | "cp" => some (copyTool name false)
  | "mv" => some (copyTool name true)
  | "ls" => some lsTool
  | "tee" => some teeTool
  | "printenv" => some printenvTool
  | "kill" => some (killTool report)
  | "basename" => some basenameTool
  | "dirname" => some dirnameTool
  | "pwd" => some fun _ => do
    let _ ← emit 1 (FileTree.path (← get).files.current ++ "\n")
    return 0
  | "uname" => some fun _ => do
    let _ ← emit 1 "Linux\n"
    return 0
  | "chmod" => some fun _ => return 0
  | "date" => some fun _ => do
    let _ ← emit 1 "\n"
    return 0
  | "sync" => some fun _ => return 0
  | "tty" => some fun _ => do
    let _ ← emit 1 "not a tty\n"
    return 1
  | "yes" => some fun arguments => do
    let word := if arguments.isEmpty then "y" else String.intercalate " " arguments
    emitLines (List.replicate 10000 word.toList)
    throw (.exit (.signal 13))
  | _ => none

/-- The programs that run other ones. -/
def runners : List String :=
  ["sh", "dash", "bash", "env", "timeout", "nohup", "nice", "setsid", "stdbuf", "xargs"]

end ControlPlane.Shell
