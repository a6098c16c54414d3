/-
# The command line

An expression is given as an argument, and options choose the settings.  Arguments are read
from left to right, and the first that is refused ends the reading; so does a request for the
help or the version.  An option has its value attached (`--decimales=3`) or takes the next
argument, and is given at most once.  After `--` there are no options.

The outcome is a list of lines, the help, a refusal of the arguments, or the failure of the
calculation.  The text of the help is that of the library which reads the arguments, and is
left out.
-/
import PostfixCalculator.Calculation
import PostfixCalculator.Text.Quoted

namespace PostfixCalculator.CommandLine

/-! ## 1. What can be asked for -/

/-- The options of one call.  What is absent has its default. -/
structure Request where
  lexicon : Option Lexicon := none
  policy : Option Policy := none
  arithmetic : Option Arithmetic := none
  decimals : Option Nat := none
  /-- Is the expression in postfix order already? -/
  isPostfix : Bool := false
  expression : Option String := none
deriving DecidableEq

/-- What a call is about. -/
inductive Call where
  | help
  | version
  | evaluate (request : Request)
deriving DecidableEq

/-- The options that take a value. -/
inductive ValueOption where
  | lexicon
  | policy
  | arithmetic
  | decimals
deriving DecidableEq

/-- An argument on its own. -/
inductive Argument where
  /-- An option with a value, which may be attached. -/
  | option (name : ValueOption) (attached : Option String)
  | postfixFlag
  | help
  | version
  /-- The end of the options. -/
  | separator
  | word (text : String)
  | unknown
deriving DecidableEq

/-! ## 2. Words -/

/-- The lexicon of a name. -/
def lexiconOf? : String → Option Lexicon
  | "permissif" => some .lenient
  | "strict" => some .strict
  | _ => none

/-- The policy of a name. -/
def policyOf? : String → Option Policy
  | "tolerante" => some .tolerant
  | "stricte" => some .strict
  | _ => none

/-- The arithmetic of a name. -/
def arithmeticOf? : String → Option Arithmetic
  | "flottante" => some .floating
  | "exacte" => some .exact
  | _ => none

/-- A number of 64 bits in decimal digits, after a plus sign or none. -/
def natural? (text : String) : Option Nat :=
  let digits := match text.toList with
    | '+' :: rest => rest
    | cs => cs
  let n := Nat.ofDigitChars 10 digits 0
  if !digits.isEmpty && digits.all Char.isDigit && n < UInt64.size then some n else none

/-- The argument that follows two dashes: a name, and a value after an equals sign. -/
def Argument.ofLong (cs : List Char) : Argument :=
  let name := String.ofList (cs.takeWhile (· != '='))
  let attached := match cs.dropWhile (· != '=') with
    | _ :: value => some (String.ofList value)
    | [] => none
  match name, attached with
  | "lexique", value => .option .lexicon value
  | "politique", value => .option .policy value
  | "arithmetique", value => .option .arithmetic value
  | "decimales", value => .option .decimals value
  | "opn", none => .postfixFlag
  | "help", none => .help
  | "version", none => .version
  | _, _ => .unknown

/-- What an argument is while options are read.  A single dash is a word. -/
def Argument.ofString (text : String) : Argument :=
  match text.toList with
  | ['-', '-'] => .separator
  | '-' :: '-' :: long => .ofLong long
  | '-' :: 'h' :: _ => .help
  | '-' :: 'V' :: _ => .version
  | '-' :: _ :: _ => .unknown
  | _ => .word text

/-! ## 3. Reading the arguments -/

namespace Request

/-- Fills an option that has no value yet. -/
def fill {α : Type} (current new : Option α) : Option (Option α) :=
  match current, new with
  | none, some value => some (some value)
  | _, _ => none

/-- Gives an option a value. -/
def assign (r : Request) (name : ValueOption) (value : String) : Option Request :=
  match name with
  | .lexicon => (fill r.lexicon (lexiconOf? value)).map ({ r with lexicon := · })
  | .policy => (fill r.policy (policyOf? value)).map ({ r with policy := · })
  | .arithmetic => (fill r.arithmetic (arithmeticOf? value)).map ({ r with arithmetic := · })
  | .decimals => (fill r.decimals (natural? value)).map ({ r with decimals := · })

/-- Says that the expression is in postfix order. -/
def markPostfix (r : Request) : Option Request :=
  if r.isPostfix then none else some { r with isPostfix := true }

/-- Gives the expression. -/
def setExpression (r : Request) (text : String) : Option Request :=
  (fill r.expression (some text)).map ({ r with expression := · })

/-- Reads arguments that are expressions, whatever they look like. -/
def readWords (r : Request) (arguments : List String) : Option Request :=
  arguments.foldlM setExpression r

/-- Reads arguments.  A value that is an argument of its own does not start with a dash. -/
def read (r : Request) : List String → Option Call
  | [] => some (.evaluate r)
  | argument :: rest =>
    match Argument.ofString argument with
    | .help => some .help
    | .version => some .version
    | .separator => (r.readWords rest).map .evaluate
    | .postfixFlag => r.markPostfix.bind (·.read rest)
    | .word text => (r.setExpression text).bind (·.read rest)
    | .option name (some value) => (r.assign name value).bind (·.read rest)
    | .option name none =>
      match rest with
      | value :: rest =>
        if value.toList.head? == some '-' then none else (r.assign name value).bind (·.read rest)
      | [] => none
    | .unknown => none

/-- The settings that the options choose. -/
def settings (r : Request) : Settings :=
  let default : Settings := {}
  { default with
    lexicon := r.lexicon.getD default.lexicon
    policy := r.policy.getD default.policy
    arithmetic := r.arithmetic.getD default.arithmetic }
  |>.withDecimals (r.decimals.getD default.decimals)

/-- The lines of an expression: its tokens, their postfix order and its value, or the value
alone when it was given in postfix order. -/
def lines (r : Request) (expression : String) : Except CalcError (List String) :=
  if r.isPostfix then do
    let found ← calculatePostfix r.settings expression
    return [found.display]
  else do
    let found ← calculate r.settings expression
    return ["jetons   : " ++ found.trace.tokens, "postfixe : " ++ found.trace.postfixForm,
      found.display]

end Request

/-- What the arguments ask for, if they can be read. -/
def Call.ofArguments? (arguments : List String) : Option Call := ({} : Request).read arguments

/-! ## 4. The outcome -/

/-- What a call comes to. -/
inductive Outcome where
  | lines (text : List String)
  /-- The help is shown. -/
  | help
  /-- The arguments are refused. -/
  | usage
  | failure (message : String)
deriving DecidableEq

/-- The outcome of an expression. -/
def Request.outcome (r : Request) (expression : String) : Outcome :=
  match r.lines expression with
  | .ok text => .lines text
  | .error e => .failure ("Error: " ++ Text.quote expression ++ ": " ++ e.message)

/-- The outcome of a call.  Without an expression there is nothing to write. -/
def run (arguments : List String) : Outcome :=
  match Call.ofArguments? arguments with
  | none => .usage
  | some .help => .help
  | some .version => .lines ["calculatrice 0.1.0"]
  | some (.evaluate r) =>
    match r.expression with
    | some expression => r.outcome expression
    | none => .lines []

/-- The status that the program ends with. -/
def Outcome.status : Outcome → UInt32
  | .lines _ | .help => 0
  | .failure _ => 1
  | .usage => 2

end PostfixCalculator.CommandLine
