/-
Command lines: which options and operands a program takes, and how its arguments are read.

A grammar fills a value of a type `σ` from arguments. Reading goes in two passes. The first tells options from operands
without looking at what they mean (`classify`), and fails only at an option whose abbreviation is ambiguous. The second
takes options and operands in turn, and ends at the first thing that is wrong (`read`). What no option and no operand
takes is left over.
-/
import VixStyle.Text.Quoted
import VixStyle.Text.Space

namespace VixStyle.Command

open Text

/-! ## refusals -/

/-- what is wrong with the value of an option or operand -/
inductive ValueFault where
  | expected
  | unwanted (given : String)
  | notWhole (given : String)
  | notAmong (given : String) (choices : List String)
  deriving DecidableEq, Repr

def ValueFault.message : ValueFault → String
  | expected => "expected one argument"
  | unwanted given => "ignored explicit argument " ++ Quoted.quote given
  | notWhole given => "invalid int value: " ++ Quoted.quote given
  | notAmong given choices =>
    "invalid choice: " ++ Quoted.quote given ++ " (choose from " ++ ", ".intercalate (choices.map Quoted.quote) ++ ")"

/-- why arguments are refused -/
inductive Refusal where
  | ambiguous (given : String) (candidates : List String)
  | value (taker : String) (fault : ValueFault)
  | missing (taker : String)
  | unrecognized (arguments : List String)
  deriving DecidableEq, Repr

def Refusal.message : Refusal → String
  | ambiguous given candidates => s!"ambiguous option: {given} could match " ++ ", ".intercalate candidates
  | value taker fault => s!"argument {taker}: {fault.message}"
  | missing taker => s!"the following arguments are required: {taker}"
  | unrecognized arguments => "unrecognized arguments: " ++ " ".intercalate arguments

/-- why reading ends before its end: help is asked for, or a program refuses its arguments -/
inductive Stop where
  | help (program : String)
  | refused (program : String) (refusal : Refusal)
  deriving DecidableEq, Repr

/-! ## grammars -/

/-- what an option does; one that takes a value may be left blank -/
inductive Effect (σ : Type) where
  | flag (set : σ → σ)
  | value (set : Option String → σ → Except ValueFault σ)
  | help

/-- an option with its names -/
structure CommandOption (σ : Type) where
  names : List String
  effect : Effect σ

/-- how many arguments operands take: one, one or more, or a word and all that stands after it -/
inductive Extent where
  | one | many | all
  deriving DecidableEq, Repr

/-- the operands of a program under their common name -/
structure Operands (σ : Type) where
  name : String
  extent : Extent
  fill : List String → σ → Except Stop σ

/-- what a program takes -/
structure Grammar (σ : Type) where
  program : String
  options : List (CommandOption σ)
  operands : Option (Operands σ)

/-- the option that shows help -/
def helpOption {σ : Type} : CommandOption σ := ⟨["-h", "--help"], .help⟩

/-- the names of an option together -/
def CommandOption.title {σ : Type} (o : CommandOption σ) : String := "/".intercalate o.names

def CommandOption.takesValue {σ : Type} (o : CommandOption σ) : Bool :=
  match o.effect with
  | .value _ => true
  | _ => false

/-- all names of options with their options, in order -/
def Grammar.names {σ : Type} (g : Grammar σ) : List (String × CommandOption σ) :=
  g.options.flatMap fun o => o.names.map fun name => (name, o)

/-! ## arguments -/

/-- an option found in an argument, with what stands after its name there, an equals sign between them left out -/
structure FoundOption (σ : Type) where
  name : String
  option : CommandOption σ
  attached : Option (List Char) := none

/-- the argument that ends the options -/
def separatorText : String := "--"

/-- an argument after the first pass; the separator is the first pair of hyphens -/
inductive Argument (σ : Type) where
  | operand (text : String)
  | separator
  | unknown (text : String)
  | option (text : String) (found : FoundOption σ)

namespace Argument

def text {σ : Type} : Argument σ → String
  | operand text | unknown text | option text _ => text
  | separator => separatorText

/-- whether an argument is written like an option -/
def isOptional {σ : Type} : Argument σ → Bool
  | unknown _ | option .. => true
  | operand _ | separator => false

def isOperand {σ : Type} : Argument σ → Bool
  | operand _ => true
  | _ => false

def isSeparator {σ : Type} : Argument σ → Bool
  | separator => true
  | _ => false

end Argument

/-- a text before its first equals sign, and the text after it if there is one -/
def splitEquals (s : List Char) : List Char × Option (List Char) :=
  match s.dropWhile (· != '=') with
  | [] => (s, none)
  | _ :: after => (s.takeWhile (· != '='), some after)

/-- a hyphen and a number, which may have a fraction; a line feed may follow -/
def looksNegative (s : List Char) : Bool :=
  let isDigit := fun c => (decimalValue? c).isSome
  match s with
  | '-' :: rest =>
    let rest := if rest.getLast? = some '\n' then rest.dropLast else rest
    match rest.dropWhile isDigit with
    | [] => !rest.isEmpty
    | '.' :: fraction => !fraction.isEmpty && fraction.all isDigit
    | _ => false
  | _ => false

namespace Grammar

variable {σ : Type}

/-- the option of a name -/
def optionOf? (g : Grammar σ) (name : List Char) : Option (FoundOption σ) :=
  (g.names.find? fun entry => entry.1.toList == name).map fun entry => ⟨entry.1, entry.2, none⟩

/-- the options whose names begin with what an argument says -/
def candidates (g : Grammar σ) (s : List Char) : List (FoundOption σ) :=
  match s with
  | '-' :: '-' :: _ =>
    let (start, attached) := splitEquals s
    (g.names.filter fun entry => start.isPrefixOf entry.1.toList).map fun entry => ⟨entry.1, entry.2, attached⟩
  | _ =>
    g.names.filterMap fun entry =>
      if entry.1.toList = s.take 2 then some ⟨entry.1, entry.2, some (s.drop 2)⟩
      else if s.isPrefixOf entry.1.toList then some ⟨entry.1, entry.2, none⟩
      else none

/-- what an argument is that stands before the separator -/
def classifyOne (g : Grammar σ) (argument : String) : Except Refusal (Argument σ) :=
  let s := argument.toList
  if s.head? ≠ some '-' ∨ s = ['-'] then .ok (.operand argument)
  else match g.optionOf? s with
  | some found => .ok (.option argument found)
  | none =>
    match splitEquals s with
    | (name, some value) =>
      match g.optionOf? name with
      | some found => .ok (.option argument { found with attached := some value })
      | none => byPrefix s
    | (_, none) => byPrefix s
where
  /-- the option that an argument abbreviates -/
  byPrefix (s : List Char) : Except Refusal (Argument σ) :=
    match g.candidates s with
    | [found] => .ok (.option argument found)
    | [] => .ok (if looksNegative s || s.contains ' ' then .operand argument else .unknown argument)
    | several => .error (.ambiguous argument (several.map FoundOption.name))

/-- the first pass -/
def classify (g : Grammar σ) : List String → Except Refusal (List (Argument σ))
  | [] => .ok []
  | argument :: rest =>
    if argument = separatorText then .ok (.separator :: rest.map .operand)
    else do return (← g.classifyOne argument) :: (← g.classify rest)

end Grammar

/-! ## operands -/

/-- the arguments from which operands of an extent may be taken, and the rest; none if the operands cannot start here -/
def Extent.take {σ : Type} (extent : Extent) (arguments : List (Argument σ)) :
    Option (List (Argument σ) × List (Argument σ)) :=
  let lead := arguments.takeWhile Argument.isSeparator
  match arguments.dropWhile Argument.isSeparator with
  | first :: rest =>
    if first.isOperand then
      let more : Argument σ → Bool := match extent with
        | one => Argument.isSeparator
        | many => fun a => !a.isOptional
        | all => fun _ => true
      some (lead ++ first :: rest.takeWhile more, rest.dropWhile more)
    else none
  | [] => none

/-- the texts that operands are filled with; only the extent `all` sees the separator -/
def Extent.texts {σ : Type} (extent : Extent) (taken : List (Argument σ)) : List String :=
  match extent with
  | all => taken.map Argument.text
  | one | many => (taken.filter fun a => !a.isSeparator).map Argument.text

/-! ## options -/

/-- an option with the value that it is given, if it takes one -/
structure Step (σ : Type) where
  option : CommandOption σ
  value : String := ""

/-- the options of one argument; a last option without a value has to take it from the next argument -/
structure Cluster (σ : Type) where
  flags : List (CommandOption σ) := []
  last : CommandOption σ
  value : Option String := none

namespace Grammar

variable {σ : Type}

/-- the options of an argument from a given one on; what is attached to a short flag has to be more short options -/
def cluster (g : Grammar σ) (option : CommandOption σ) (isShort : Bool) :
    List Char → Except Refusal (Cluster σ)
  | [] =>
    if option.takesValue then .ok { last := option, value := some "" }
    else .error (.value option.title (.unwanted ""))
  | c :: rest =>
    let given := String.ofList (c :: rest)
    if option.takesValue then .ok { last := option, value := some given }
    else
      match isShort, g.optionOf? ['-', c] with
      | true, some next =>
        let joined : Except Refusal (Cluster σ) := match rest with
          | [] => .ok { last := next.option }
          | rest => g.cluster next.option true rest
        joined.map fun found => { found with flags := option :: found.flags }
      | _, _ => .error (.value option.title (.unwanted given))

/-- the options of an argument -/
def clusterOf (g : Grammar σ) (found : FoundOption σ) : Except Refusal (Cluster σ) :=
  match found.attached with
  | none => .ok { last := found.option }
  | some attached => g.cluster found.option ((found.name.toList.drop 1).head? != some '-') attached

/-- carry out an option; a value that is written like the separator is a blank -/
def perform (g : Grammar σ) (step : Step σ) (state : σ) : Except Stop σ :=
  match step.option.effect with
  | .flag set => .ok (set state)
  | .value set =>
    (set (if step.value = separatorText then none else some step.value) state).mapError fun fault =>
      .refused g.program (.value step.option.title fault)
  | .help => .error (.help g.program)

/-- carry out an argument that holds options; the rest is what the options leave of the arguments after it -/
def performAll (g : Grammar σ) (found : FoundOption σ) (after : List (Argument σ)) (state : σ) :
    Except Stop (σ × List (Argument σ)) := do
  let refuse := fun refusal => Stop.refused g.program refusal
  let cluster ← (g.clusterOf found).mapError refuse
  let flags := cluster.flags.map fun option => (⟨option, ""⟩ : Step σ)
  let (last, after) ← match cluster.value, cluster.last.takesValue, after with
    | some value, _, after => Except.ok ((⟨cluster.last, value⟩ : Step σ), after)
    | none, false, after => .ok (⟨cluster.last, ""⟩, after)
    | none, true, .operand value :: rest => .ok (⟨cluster.last, value⟩, rest)
    | none, true, _ => .error (refuse (.value cluster.last.title .expected))
  let state ← (flags ++ [last]).foldlM (fun state step => g.perform step state) state
  return (state, after)

/-! ## reading -/

/-- what reading has come to -/
structure Progress (σ : Type) where
  state : σ
  waiting : Option (Operands σ)
  extra : List String := []

/-- take the operands at the start of some arguments, if there are any to be taken; none if nothing is taken -/
def takeOperands (p : Progress σ) (arguments : List (Argument σ)) :
    Except Stop (Option (Progress σ × List (Argument σ))) :=
  match p.waiting with
  | none => .ok none
  | some operands =>
    match operands.extent.take arguments with
    | none => .ok none
    | some (taken, rest) => do
      let state ← operands.fill (operands.extent.texts taken) p.state
      return some ({ p with state, waiting := none }, rest)

/-- the second pass; each round takes an argument at least, so as many rounds as there are arguments are enough -/
def readFrom (g : Grammar σ) : Nat → Progress σ → List (Argument σ) → Except Stop (Progress σ)
  | 0, p, _ => .ok p
  | rounds + 1, p, arguments => do
    match arguments with
    | [] => return p
    | .unknown text :: rest => g.readFrom rounds { p with extra := p.extra ++ [text] } rest
    | .option _ found :: rest => do
      let (state, rest) ← g.performAll found rest p.state
      g.readFrom rounds { p with state } rest
    | arguments =>
      match ← takeOperands p arguments with
      | some (p, rest) => g.readFrom rounds p rest
      | none =>
        let stray := arguments.takeWhile fun a => !a.isOptional
        g.readFrom rounds { p with extra := p.extra ++ stray.map Argument.text }
          (arguments.dropWhile fun a => !a.isOptional)

/-- read arguments: the value that they fill and the arguments that are left over -/
def read (g : Grammar σ) (start : σ) (arguments : List String) : Except Stop (σ × List String) := do
  let classified ← (g.classify arguments).mapError (.refused g.program)
  let p ← g.readFrom classified.length ⟨start, g.operands, []⟩ classified
  match p.waiting with
  | some operands => throw (.refused g.program (.missing operands.name))
  | none => return (p.state, p.extra)

/-- read all of the arguments: none may be left over -/
def readAll (g : Grammar σ) (start : σ) (arguments : List String) : Except Stop σ := do
  match ← g.read start arguments with
  | (state, []) => return state
  | (_, extra) => throw (.refused g.program (.unrecognized extra))

end Grammar

/-! ## what is shown -/

/-- the form of an option in a synopsis -/
def CommandOption.form {σ : Type} (o : CommandOption σ) : String :=
  let name := o.names.head?.getD ""
  if o.takesValue then s!"[{name} VALUE]" else s!"[{name}]"

/-- the form of operands in a synopsis -/
def Operands.form {σ : Type} (o : Operands σ) : String :=
  match o.extent with
  | .one => o.name
  | .many => s!"{o.name} [{o.name} ...]"
  | .all => s!"{o.name} ..."

/-- one line that says what a program takes -/
def Grammar.synopsis {σ : Type} (g : Grammar σ) : String :=
  " ".intercalate ("usage:" :: g.program :: g.options.map CommandOption.form ++
    (g.operands.map Operands.form).toList)

end VixStyle.Command
