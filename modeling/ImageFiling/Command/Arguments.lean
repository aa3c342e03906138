import ImageFiling.Text.Numeral

/-!
# Command-line arguments

Arguments are options, which start with a hyphen, and values. An option may be shortened as long as
only one fits, and may carry its value after an equals sign. After `--` everything is a value.
-/

namespace ImageFiling.Command

/-- What an option does: it asks for help, it stands alone, or it takes a value. -/
inductive OptionKind where
  | help
  | flag
  | value
  deriving DecidableEq, Repr

abbrev OptionEntry := Text × OptionKind

def withHelp (options : List OptionEntry) : List OptionEntry :=
  [("-h".toList, .help), ("--help".toList, .help)] ++ options

/-- Why no command is run: help was asked for, or the arguments cannot be used. -/
inductive Refusal where
  | help
  | usage
  deriving DecidableEq, Repr

def Refusal.status : Refusal → Nat
  | help => 0
  | usage => 2

/-- What an argument is: a value, the mark after which all are values, or an option with the text
after its name; an option that does not exist is `none`. -/
inductive Mark where
  | plain
  | separator
  | option (found : Option OptionEntry) (attached : Option Text)
  deriving DecidableEq, Repr

def isNegativeNumber (t : Text) : Bool :=
  let isDigit (c : Char) : Bool := (Text.digitValue? c).isSome
  let t := if t.getLast? = some '\n' then t.dropLast else t
  match t with
  | '-' :: r =>
    (!r.isEmpty && r.all isDigit) ||
      match r.dropWhile isDigit with
      | '.' :: places => !places.isEmpty && places.all isDigit
      | _ => false
  | _ => false

/-- The options that a text may mean: a long name may be shortened where it is none itself, a short
one may have text attached. -/
def candidates (options : List OptionEntry) (t : Text) : List (OptionEntry × Option Text) :=
  match t with
  | '-' :: '-' :: _ =>
    let (name, attached) := Text.cut '=' t
    match options.find? (·.1 = name) with
    | some o => [(o, attached)]
    | none => (options.filter fun o => name.isPrefixOf o.1).map (·, attached)
  | _ =>
    (options.filter fun o => o.1 = t.take 2).map (·, some (t.drop 2))

/-- What an argument is that no separator precedes. -/
def mark (options : List OptionEntry) (t : Text) : Except Refusal Mark :=
  if t.head? ≠ some '-' || t.length = 1 then .ok .plain
  else if t = "--" then .ok .separator
  else match options.find? (·.1 = t) with
    | some o => .ok (.option (some o) none)
    | none =>
      match candidates options t with
      | [(o, attached)] => .ok (.option (some o) attached)
      | _ :: _ :: _ => .error .usage
      | [] =>
        if isNegativeNumber t || t.contains ' ' then .ok .plain else .ok (.option none none)

def marks (options : List OptionEntry) : List Text → Except Refusal (List (Text × Mark))
  | [] => .ok []
  | t :: rest => do
    match ← mark options t with
    | .separator => return (t, .separator) :: rest.map (·, .plain)
    | m => return (t, m) :: (← marks options rest)

/-- The arguments of a command: its one value, the options with their values, and whether there is
an argument that does not belong to it. -/
structure Parsed where
  value : Option Text := none
  options : List (Text × Text) := []
  surplus : Bool := false
  deriving DecidableEq, Repr

/-- The value of an option; of several the last. -/
def Parsed.option? (p : Parsed) (name : Text) : Option Text := p.options.reverse.lookup name

/-- What text attached to the option `-h` leads to: it is read as further short options, of which
the first that does not exist is passed over, and help is given. An equals sign would give the
option a value, and a hyphen names no short option. -/
def attachedToHelp : Text → Refusal
  | [] => .help
  | 'h' :: rest => attachedToHelp rest
  | c :: _ => if c = '-' || c = '=' then .usage else .help

/-- The arguments taken in turn; `wanted` says whether the command still takes a value. -/
def consume (wanted : Bool) (p : Parsed) : List (Text × Mark) → Except Refusal Parsed
  | [] => .ok p
  | (_, .option none _) :: rest => consume wanted { p with surplus := true } rest
  | (_, .option (some (name, kind)) attached) :: rest =>
    match kind, attached with
    | .help, none => .error .help
    | .help, some t => .error (if name = "-h" then attachedToHelp t else .usage)
    | .flag, none => consume wanted { p with options := p.options ++ [(name, [])] } rest
    | .flag, some _ => .error .usage
    | .value, some t => consume wanted { p with options := p.options ++ [(name, t)] } rest
    | .value, none =>
      match rest with
      | (t, .plain) :: rest =>
        consume wanted { p with options := p.options ++ [(name, t)] } rest
      | _ => .error .usage
  | (t, .plain) :: rest =>
    if wanted then
      match rest with
      | (_, .separator) :: rest => consume false { p with value := some t } rest
      | rest => consume false { p with value := some t } rest
    else consume wanted { p with surplus := true } rest
  | (_, .separator) :: rest =>
    match wanted, rest with
    | true, (t, .plain) :: rest => consume false { p with value := some t } rest
    | _, rest => consume wanted { p with surplus := true } rest

end ImageFiling.Command
