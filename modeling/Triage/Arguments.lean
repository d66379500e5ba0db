import Triage.Decimal.Reading

/-!
# Command line arguments

A grammar names the options of a program and what may stand beside them: one operand, or a command with
all that follows it. Long options may be cut short as long as only one option begins so; a value stands
behind its option, or is attached with an equals sign, or follows a one-letter option at once. Behind two
dashes nothing is an option. What does not fit the grammar is left over.
-/

namespace Triage

namespace Arguments

/-- What an option or an operand takes. -/
inductive Taking where
  | nothing
  | text
  | whole
  | real
  | oneOf (choices : List String)
  /-- A command with everything behind it. -/
  | command (choices : List String)
  | help
  | version
deriving Repr, DecidableEq

structure Parameter where
  /-- The names of an option; an operand has none. -/
  names : List String
  /-- The name of an operand for the reader, and the key of an option's value. -/
  label : String
  taking : Taking
  required : Bool
deriving Repr, DecidableEq

structure Grammar where
  program : String
  options : List Parameter
  operand : Option Parameter

/-- A value that was given. -/
inductive Value where
  | present
  | text (s : String)
  | whole (n : Int)
  | real (x : Float)
  | command (name : String) (rest : List String)

/-- What is wrong with arguments. -/
inductive Problem where
  | required (titles : List String)
  | valueMissing (title : String)
  | valueIgnored (title value : String)
  | notChoice (title value : String) (choices : List String)
  | notWhole (title value : String)
  | notReal (title value : String)
  | ambiguous (argument : String) (candidates : List String)
  | unrecognized (arguments : List String)
deriving Repr, DecidableEq

namespace Problem

def message : Problem → String
  | .required titles => "the following arguments are required: " ++ ", ".intercalate titles
  | .valueMissing title => s!"argument {title}: expected one argument"
  | .valueIgnored title value => s!"argument {title}: ignored explicit argument {Text.quoted value}"
  | .notChoice title value choices =>
    s!"argument {title}: invalid choice: {Text.quoted value} (choose from "
      ++ ", ".intercalate (choices.map Text.quoted) ++ ")"
  | .notWhole title value => s!"argument {title}: invalid int value: {Text.quoted value}"
  | .notReal title value => s!"argument {title}: invalid float value: {Text.quoted value}"
  | .ambiguous argument candidates =>
    s!"ambiguous option: {argument} could match " ++ ", ".intercalate candidates
  | .unrecognized arguments => "unrecognized arguments: " ++ " ".intercalate arguments

end Problem

/-- Why the arguments of a program are not carried out. -/
inductive Stop where
  | help (program : String)
  | version
  | problem (program : String) (problem : Problem)
deriving Repr, DecidableEq

/-- Values under the labels of their parameters, the last first. -/
abbrev Bindings := List (String × Value)

/-- What was read: the values, and the arguments that were left over. -/
structure Result where
  bindings : Bindings
  extras : List String

namespace Parameter

def title (p : Parameter) : String :=
  if p.names.isEmpty then p.label else "/".intercalate p.names

/-- The option takes a value. -/
def takesValue (p : Parameter) : Bool :=
  match p.taking with
  | .nothing | .help | .version => false
  | _ => true

/-- The value that arguments stand for. -/
def convert (program : String) (p : Parameter) (arguments : List String) : Except Stop Value :=
  let given := arguments.headD ""
  let refuse (problem : Problem) : Except Stop Value := .error (.problem program problem)
  match p.taking with
  | .nothing => .ok .present
  | .help => .error (.help program)
  | .version => .error .version
  | .text => .ok (.text given)
  | .whole =>
    match Decimal.integer 10 given with
    | .ok n => .ok (.whole n)
    | .error _ => refuse (.notWhole p.title given)
  | .real =>
    match Decimal.float? given with
    | some x => .ok (.real x)
    | none => refuse (.notReal p.title given)
  | .oneOf choices =>
    if choices.contains given then .ok (.text given) else refuse (.notChoice p.title given choices)
  | .command choices =>
    if choices.contains given then .ok (.command given arguments.tail)
    else refuse (.notChoice p.title given choices)

end Parameter

/-! ## Telling options from other arguments -/

/-- An option in use, with a value attached to it. -/
structure Use where
  parameter : Parameter
  name : String
  /-- The value, and whether an equals sign stands before it. -/
  attached : Option (Bool × String)

/-- What an argument is taken for. -/
inductive Mark where
  | dashes
  | plain
  | option (use : Use)
  | unknown

def Mark.isOption : Mark → Bool
  | .option _ | .unknown => true
  | _ => false

def Mark.isPlain : Mark → Bool
  | .plain => true
  | _ => false

def Mark.isDashes : Mark → Bool
  | .dashes => true
  | _ => false

namespace Grammar

/-- The names of options, with the options. -/
def names (g : Grammar) : List (String × Parameter) :=
  g.options.flatMap fun p => p.names.map fun name => (name, p)

def named? (g : Grammar) (name : String) : Option Parameter := g.names.lookup name

end Grammar

/-- What stands before and behind the first equals sign, if there is one. -/
def splitEquals (s : String) : String × Option String :=
  let cs := s.toList
  match cs.dropWhile (· != '=') with
  | [] => (s, none)
  | _ :: rest => (String.ofList (cs.takeWhile (· != '=')), some (String.ofList rest))

/-- The options that a shortened name can stand for. -/
def candidates (g : Grammar) (argument : String) : List Use :=
  match argument.toList with
  | '-' :: '-' :: _ =>
    let (start, value) := splitEquals argument
    (g.names.filter fun e => Text.beginsWith start e.1).map fun e =>
      ⟨e.2, e.1, value.map fun v => (true, v)⟩
  | dash :: letter :: rest =>
    let short := String.ofList [dash, letter]
    g.names.filterMap fun e =>
      if e.1 == short then some ⟨e.2, e.1, some (false, String.ofList rest)⟩
      else if Text.beginsWith argument e.1 then some ⟨e.2, e.1, none⟩
      else none
  | _ => []

/-- A line feed at the very end does not count. -/
def dropLineFeed (cs : List Char) : List Char := if cs.getLast? == some '\n' then cs.dropLast else cs

/-- An argument that looks like a negative number: digits with or without a point among them. -/
def isNegativeNumber (argument : String) : Bool :=
  match argument.toList with
  | '-' :: cs =>
    let body := dropLineFeed cs
    let behind := body.dropWhile Text.isDigit
    (!body.isEmpty && behind.isEmpty)
      || (behind.head? == some '.' && !behind.tail.isEmpty && behind.tail.all Text.isDigit)
  | _ => false

/-- What an argument is taken for, unless it stands behind two dashes. -/
def mark (g : Grammar) (argument : String) : Except Stop Mark :=
  if argument.toList.head? != some '-' then .ok .plain
  else match g.named? argument with
    | some p => .ok (.option ⟨p, argument, none⟩)
    | none =>
      if argument.length = 1 then .ok .plain
      else
        let (name, value) := splitEquals argument
        match value, g.named? name with
        | some value, some p => .ok (.option ⟨p, name, some (true, value)⟩)
        | _, _ =>
          match candidates g argument with
          | [use] => .ok (.option use)
          | first :: second :: more =>
            .error (.problem g.program
              (.ambiguous argument ((first :: second :: more).map Use.name)))
          | [] =>
            if isNegativeNumber argument || argument.toList.contains ' ' then .ok .plain
            else .ok .unknown

/-- The arguments with what they are taken for. -/
def marked (g : Grammar) : List String → Except Stop (List (String × Mark))
  | [] => .ok []
  | argument :: rest =>
    if argument == "--" then .ok ((argument, .dashes) :: rest.map fun a => (a, .plain))
    else do
      let m ← mark g argument
      return (argument, m) :: (← marked g rest)

/-! ## Reading -/

/-- How far the reading has come. -/
structure State where
  bindings : Bindings
  extras : List String
  operand : Option Parameter
  rest : List (String × Mark)

/-- Takes the values of parameters in turn. -/
def takeAll (g : Grammar) (bindings : Bindings) : List (Parameter × List String) → Except Stop Bindings
  | [] => .ok bindings
  | (p, arguments) :: more => do
    let value ← p.convert g.program arguments
    takeAll g ((p.label, value) :: bindings) more

/-- The arguments of an operand at the front, as many as it takes. -/
def operandFront (p : Parameter) (rest : List (String × Mark)) : Option (List String × List (String × Mark)) :=
  let lead := rest.takeWhile fun e => e.2.isDashes
  match rest.dropWhile fun e => e.2.isDashes with
  | [] => none
  | first :: behind =>
    if !first.2.isPlain then none
    else match p.taking with
      | .command _ => some (rest.map Prod.fst, [])
      | _ =>
        let trail := behind.takeWhile fun e => e.2.isDashes
        some (((lead ++ first :: trail).map Prod.fst).erase "--", behind.drop trail.length)

/-- Takes the operand if it is still open and stands at the front. -/
def takeOperand (g : Grammar) (s : State) : Except Stop (Option State) :=
  match s.operand.bind fun p => (operandFront p s.rest).map fun front => (p, front) with
  | none => .ok none
  | some (p, arguments, rest) => do
    let bindings ← takeAll g s.bindings [(p, arguments)]
    return some { s with bindings, rest, operand := none }

/-- What an argument with options in it comes to: the options with their arguments, a part that is left
over, and the arguments behind. -/
structure Cluster where
  uses : List (Parameter × List String)
  extra : Option String
  rest : List (String × Mark)

/-- Goes along the letters of one argument; `fuel` bounds their number. -/
def cluster (g : Grammar) : (fuel : Nat) → Use → List (String × Mark) → Except Stop Cluster
  | 0, _, rest => .ok ⟨[], none, rest⟩
  | fuel + 1, use, rest =>
    let p := use.parameter
    match use.attached with
    | none =>
      if !p.takesValue then .ok ⟨[(p, [])], none, rest⟩
      else match rest with
        | (value, .plain) :: rest => .ok ⟨[(p, [value])], none, rest⟩
        | _ => .error (.problem g.program (.valueMissing p.title))
    | some (equals, value) =>
      if p.takesValue then .ok ⟨[(p, [value])], none, rest⟩
      else match use.name.toList, value.toList with
        | [dash, _], letter :: more =>
          if equals || letter == dash then .error (.problem g.program (.valueIgnored p.title value))
          else
            let name := String.ofList [dash, letter]
            match g.named? name with
            | none => .ok ⟨[(p, [])], some (String.ofList (dash :: letter :: more)), rest⟩
            | some next => do
              let attached := match more with
                | [] => none
                | '=' :: more => some (true, String.ofList more)
                | more => some (false, String.ofList more)
              let c ← cluster g fuel ⟨next, name, attached⟩ rest
              return { c with uses := (p, []) :: c.uses }
        | _, _ => .error (.problem g.program (.valueIgnored p.title value))

/-- Reads on; `fuel` bounds the number of arguments that are left. -/
def readFrom (g : Grammar) : (fuel : Nat) → State → Except Stop State
  | 0, s => .ok s
  | fuel + 1, s =>
    if !s.rest.any (fun e => e.2.isOption) then do
      let s := (← takeOperand g s).getD s
      return { s with extras := s.extras ++ s.rest.map Prod.fst, rest := [] }
    else match s.rest with
      | [] => .ok s
      | (argument, .unknown) :: rest => readFrom g fuel { s with extras := s.extras ++ [argument], rest }
      | (argument, .option use) :: rest => do
        let c ← cluster g (argument.length + 1) use rest
        let bindings ← takeAll g s.bindings c.uses
        readFrom g fuel { s with bindings, extras := s.extras ++ c.extra.toList, rest := c.rest }
      | _ => do
        match ← takeOperand g s with
        | some s => readFrom g fuel s
        | none =>
          let skipped := s.rest.takeWhile fun e => !e.2.isOption
          readFrom g fuel { s with
            extras := s.extras ++ skipped.map Prod.fst, rest := s.rest.drop skipped.length }

/-- Reads arguments by a grammar. -/
def read (g : Grammar) (arguments : List String) : Except Stop Result := do
  let rest ← marked g arguments
  let s ← readFrom g (arguments.length + 1) ⟨[], [], g.operand, rest⟩
  let wanted := (g.options ++ g.operand.toList).filter fun p =>
    p.required && (s.bindings.lookup p.label).isNone
  if wanted.isEmpty then return ⟨s.bindings, s.extras⟩
  else throw (.problem g.program (.required (wanted.map Parameter.title)))

/-! ## Values -/

namespace Bindings

def flag (b : Bindings) (label : String) : Bool := (b.lookup label).isSome

def text? (b : Bindings) (label : String) : Option String :=
  match b.lookup label with
  | some (.text s) => some s
  | _ => none

def whole? (b : Bindings) (label : String) : Option Int :=
  match b.lookup label with
  | some (.whole n) => some n
  | _ => none

def real? (b : Bindings) (label : String) : Option Float :=
  match b.lookup label with
  | some (.real x) => some x
  | _ => none

end Bindings

end Arguments

end Triage
