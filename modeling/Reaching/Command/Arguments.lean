import Reaching.Text.DecimalDigit
import Reaching.Text.Quoted
/-!
Taking the words of a command line apart.

A `Grammar` lists the options that a command knows and what it does with words that are none: it
takes one as its operand, takes the first with all that follow it, or takes none. An option has
short and long names; a long one may be cut short as long as it stays unique, a value may follow a
long name after an equals sign and a short one directly, and short options without values may share
a dash. After `--` every word is an operand.

What an argument is, is decided for all of them before any is taken. Then options and operands are
taken in order. The first fault refuses the command line, and the help option ends it; words that
nothing takes are left over.
-/
set_option autoImplicit false

namespace Reaching.Command

structure Flag where
  names : List String
  takesValue : Bool := false
  choices : List String := []
  isHelp : Bool := false
  deriving DecidableEq, Repr

def Flag.title (flag : Flag) : String := "/".intercalate flag.names

def Flag.knows (flag : Flag) (name : String) : Bool := flag.names.contains name

inductive OperandRule where
  | none
  | one (name : String)
  | rest
  deriving DecidableEq, Repr

structure Grammar where
  flags : List Flag
  operands : OperandRule

/-- Why a command line goes no further: the help option was met, or a message refuses it. -/
inductive Stop where
  | help
  | refused (message : String)
  deriving DecidableEq, Repr

/-- An option as an argument names it, with what the same argument attaches to the name, after an
equals sign or directly. One that no flag knows is kept for the words left over. -/
structure Mention where
  flag : Option Flag
  name : List Char
  attached : Option (List Char)
  deriving DecidableEq, Repr

inductive Argument where
  | dashes
  | word (text : String)
  | option (text : String) (mention : Mention)
  deriving DecidableEq, Repr

def Argument.text : Argument → String
  | dashes => "--"
  | word text => text
  | option text _ => text

namespace Grammar

def find? (grammar : Grammar) (name : String) : Option Flag :=
  grammar.flags.find? (·.knows name)

/-- Looks like a negative number, which is an operand unless an option has that name. -/
def isNegativeNumber (cs : List Char) : Bool :=
  match cs with
  | '-' :: rest =>
    let digits := match rest.reverse with
      | '\n' :: before => before.reverse
      | _ => rest
    let fraction := (digits.dropWhile Text.isDecimalDigit).drop 1
    !digits.isEmpty && digits.all Text.isDecimalDigit ||
      (digits.dropWhile Text.isDecimalDigit).head? = some '.' && !fraction.isEmpty &&
        fraction.all Text.isDecimalDigit
  | _ => false

/-- Cuts a text at its first equals sign. -/
def cut (cs : List Char) : List Char × Option (List Char) :=
  match cs.dropWhile (· ≠ '=') with
  | [] => (cs, none)
  | _ :: value => (cs.takeWhile (· ≠ '='), some value)

/-- Finds the options that a text may stand for: long ones that it begins, or a short one that
begins it. -/
def candidates (grammar : Grammar) (cs : List Char) : List Mention :=
  match cs with
  | '-' :: '-' :: _ =>
    let (name, value) := cut cs
    grammar.flags.flatMap fun flag =>
      (flag.names.filter fun long => name.isPrefixOf long.toList).map fun long =>
        ⟨some flag, long.toList, value⟩
  | '-' :: c :: rest =>
    grammar.flags.flatMap fun flag =>
      (flag.names.filter fun short => short.toList = ['-', c]).map fun short =>
        ⟨some flag, short.toList, some rest⟩
  | _ => []

/-- Decides what one argument is. -/
def classify (grammar : Grammar) (text : String) : Except Stop Argument :=
  let cs := text.toList
  match cs with
  | '-' :: _ :: _ =>
    match grammar.find? text with
    | some flag => .ok (.option text ⟨some flag, cs, none⟩)
    | none =>
      let (name, value) := cut cs
      match value, grammar.find? (String.ofList name) with
      | some value, some flag => .ok (.option text ⟨some flag, name, some value⟩)
      | _, _ =>
        match grammar.candidates cs with
        | [mention] => .ok (.option text mention)
        | [] =>
          if isNegativeNumber cs || cs.contains ' ' then .ok (.word text)
          else .ok (.option text ⟨none, cs, none⟩)
        | several =>
          let names := several.map fun mention => String.ofList mention.name
          .error (.refused ("ambiguous option: " ++ text ++ " could match " ++
            ", ".intercalate names))
  | _ => .ok (.word text)

def classifyAll (grammar : Grammar) : List String → Except Stop (List Argument)
  | [] => .ok []
  | text :: rest =>
    if text = "--" then .ok (.dashes :: rest.map .word)
    else do return (← grammar.classify text) :: (← grammar.classifyAll rest)

end Grammar

def faultOf (flag : Flag) (message : String) : Stop :=
  .refused ("argument " ++ flag.title ++ ": " ++ message)

def ignored (flag : Flag) (attached : List Char) : Stop :=
  faultOf flag ("ignored explicit argument " ++ Text.quoted (String.ofList attached))

def choiceMessage (value : String) (choices : List String) : String :=
  "invalid choice: " ++ Text.quoted value ++ " (choose from " ++
    ", ".intercalate (choices.map Text.quoted) ++ ")"

/-- An option that was given, with its value. An option may be given without a value though it takes
one: two dashes attached to its name are none. -/
structure Given where
  flag : Flag
  value : Option String
  deriving DecidableEq, Repr

def Given.withAttached (flag : Flag) (attached : List Char) : Given :=
  ⟨flag, if attached = ['-', '-'] then none else some (String.ofList attached)⟩

/-- What has been taken from a command line. -/
structure Taken where
  given : List Given
  operands : Option (List String)
  leftOver : List String
  deriving DecidableEq, Repr

namespace Taken

def leave (taken : Taken) (texts : List String) : Taken :=
  { taken with leftOver := taken.leftOver ++ texts }

/-- Takes an option, which has to have one of its choices as its value. -/
def give (taken : Taken) (given : Given) : Except Stop Taken :=
  if given.flag.isHelp then .error .help
  else match given.value with
    | some value =>
      if given.flag.choices.isEmpty || given.flag.choices.contains value then
        .ok { taken with given := taken.given ++ [given] }
      else .error (faultOf given.flag (choiceMessage value given.flag.choices))
    | none => .ok { taken with given := taken.given ++ [given] }

def giveAll (taken : Taken) (all : List Given) : Except Stop Taken :=
  all.foldlM give taken

end Taken

/-- The options that one argument gives, the text it leaves over, and the arguments after them. -/
structure Opened where
  given : List Given
  leftOver : List String
  rest : List Argument

namespace Grammar

/-- Takes a value from the next argument. -/
def valueAfter (flag : Flag) (given : List Given) : List Argument → Except Stop Opened
  | .word value :: rest => .ok ⟨given ++ [⟨flag, some value⟩], [], rest⟩
  | _ => .error (faultOf flag "expected one argument")

def withoutAttached (flag : Flag) (given : List Given) (rest : List Argument) :
    Except Stop Opened :=
  if flag.takesValue then valueAfter flag given rest
  else .ok ⟨given ++ [⟨flag, none⟩], [], rest⟩

/-- Opens options that share a dash, given the characters after the first of them. -/
def openShared (grammar : Grammar) (flag : Flag) (given : List Given) (rest : List Argument) :
    List Char → Except Stop Opened
  | [] => withoutAttached flag given rest
  | c :: more =>
    if flag.takesValue then .ok ⟨given ++ [.withAttached flag (c :: more)], [], rest⟩
    else match grammar.find? (String.ofList ['-', c]) with
      | some next => grammar.openShared next (given ++ [⟨flag, none⟩]) rest more
      | none => .error (ignored flag (c :: more))

def isLong (name : List Char) : Bool :=
  (name.drop 1).head? = some '-'

/-- Opens the option that an argument mentions. -/
def openOption (grammar : Grammar) (text : String) (mention : Mention) (rest : List Argument) :
    Except Stop Opened :=
  match mention.flag, mention.attached with
  | none, _ => .ok ⟨[], [text], rest⟩
  | some flag, none => withoutAttached flag [] rest
  | some flag, some attached =>
    if flag.takesValue then .ok ⟨[.withAttached flag attached], [], rest⟩
    else if isLong mention.name || attached.isEmpty then .error (ignored flag attached)
    else grammar.openShared flag [] rest attached

/-- Takes the operands that stand here, if the grammar still asks for some. -/
def operandsHere (grammar : Grammar) (taken : Taken) (arguments : List Argument) :
    Option (List String × List Argument) :=
  match taken.operands, grammar.operands, arguments with
  | none, .one _, .dashes :: .word text :: rest => some ([text], rest)
  | none, .one _, .word text :: .dashes :: rest => some ([text], rest)
  | none, .one _, .word text :: rest => some ([text], rest)
  | none, .rest, .dashes :: .word text :: rest =>
    some ("--" :: text :: rest.map Argument.text, [])
  | none, .rest, .word text :: rest => some (text :: rest.map Argument.text, [])
  | _, _, _ => none

def isOption : Argument → Bool
  | .option _ _ => true
  | _ => false

/-- Takes arguments in order. The fuel is a bound on the number of steps. -/
def take (grammar : Grammar) : Nat → Taken → List Argument → Except Stop Taken
  | 0, taken, _ => .ok taken
  | fuel + 1, taken, arguments =>
    match arguments with
    | .option text mention :: rest => do
      let opened ← grammar.openOption text mention rest
      let taken ← taken.giveAll opened.given
      grammar.take fuel (taken.leave opened.leftOver) opened.rest
    | _ =>
      match grammar.operandsHere taken arguments with
      | some (operands, rest) =>
        grammar.take fuel { taken with operands := some operands } rest
      | none =>
        let here := arguments.takeWhile fun argument => !isOption argument
        let rest := arguments.drop here.length
        let taken := taken.leave (here.map Argument.text)
        if rest.isEmpty then .ok taken else grammar.take fuel taken rest

/-- Takes a command line apart; an operand that must be there and is not refuses it. -/
def parse (grammar : Grammar) (texts : List String) : Except Stop Taken := do
  let arguments ← grammar.classifyAll texts
  let taken ← grammar.take (texts.length + 1) ⟨[], none, []⟩ arguments
  match taken.operands, grammar.operands with
  | none, .one name => .error (.refused ("the following arguments are required: " ++ name))
  | _, _ => .ok taken

end Grammar

namespace Taken

def has (taken : Taken) (name : String) : Bool :=
  taken.given.any (·.flag.knows name)

/-- Finds the last time that an option was given. -/
def last? (taken : Taken) (name : String) : Option Given :=
  taken.given.reverse.find? (·.flag.knows name)

/-- Gives the last value of an option. -/
def value? (taken : Taken) (name : String) : Option String :=
  (taken.last? name).bind Given.value

end Taken

end Reaching.Command
