import ImageFiling.Command.Arguments

/-!
# Invocations

The commands of the program and their arguments. Options before the command are those of the program,
options after it those of the command.
-/

namespace ImageFiling.Command

structure Report where
  status : Nat
  output : Text := []
  errors : Text := []
  deriving DecidableEq, Repr

inductive Action where
  | save (image page title : Text)
  | validate
  | checkPattern (pattern url : Text) (isDirectory : Bool)
  | matchUrl (url : Text)
  deriving DecidableEq, Repr

/-- A command, and the configuration file that it uses in place of the usual one. -/
structure Invocation where
  config : Option Text
  action : Action
  deriving DecidableEq, Repr

def programOptions : List OptionEntry := withHelp [("--config", .value)]

structure Shape where
  options : List OptionEntry
  takesValue : Bool
  action : Parsed → Option Action

def shapes : List (Text × Shape) :=
  [("save",
      { options := withHelp [("--page-url", .value), ("--title", .value)]
        takesValue := true
        action := fun p => do
          let image ← p.value
          let page ← p.option? "--page-url"
          some (.save image page ((p.option? "--title").getD [])) }),
    ("validate", ⟨withHelp [], false, fun _ => some .validate⟩),
    ("check-pattern",
      { options := withHelp [("--url", .value), ("--directory", .flag)]
        takesValue := true
        action := fun p => do
          let pattern ← p.value
          let url ← p.option? "--url"
          some (.checkPattern pattern url (p.option? "--directory").isSome) }),
    ("match-url", ⟨withHelp [], true, fun p => p.value.map .matchUrl⟩)]

/-- The command of the arguments after its name, and whether some of them do not belong to it. -/
def readAction (shape : Shape) (arguments : List Text) : Except Refusal (Action × Bool) := do
  let p ← consume shape.takesValue {} (← marks shape.options arguments)
  match shape.action p with
  | some a => return (a, p.surplus)
  | none => .error .usage

/-- The arguments before the command, and the command and its arguments. -/
def splitCommand : List (Text × Mark) → List (Text × Mark) × List Text
  | [] => ([], [])
  | (t, .option (some (name, .value)) none) :: (v, .plain) :: rest =>
    let (before, command) := splitCommand rest
    ((t, .option (some (name, .value)) none) :: (v, .plain) :: before, command)
  | (t, .option found attached) :: rest =>
    let (before, command) := splitCommand rest
    ((t, .option found attached) :: before, command)
  | rest => ([], rest.map (·.1))

/-- The invocation of the program's arguments. -/
def Invocation.ofArguments (arguments : List Text) : Except Refusal Invocation := do
  let (before, command) := splitCommand (← marks programOptions arguments)
  let p ← consume false {} before
  match command with
  | [] => .error .usage
  | name :: rest =>
    match shapes.lookup name with
    | none => .error .usage
    | some shape =>
      let (action, surplus) ← readAction shape rest
      if p.surplus || surplus then .error .usage
      return ⟨p.option? "--config", action⟩

end ImageFiling.Command
