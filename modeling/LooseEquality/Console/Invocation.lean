import LooseEquality.Truthiness

/-!
# The arguments of the program

What the arguments of the command line ask for.  There are two levels: arguments before the name
of a command, and arguments from there on.  Either level may say once how arrays count in
comparisons, and what the later level says wins.

An argument that starts with `-` and goes on is an option, and there are no others than the ones
read here.  The argument `--` ends the options of its level: behind it, everything is plain.  As
the names of commands are no plain arguments, nothing may follow a `--` on the first level.
-/

namespace LooseEquality

/-- What the program is asked to do. -/
inductive Command where
  /-- Evaluate the script given as an argument. -/
  | evaluate (script : String)
  /-- Evaluate the script in a file. -/
  | run (path : String)
  /-- Verify the case table, and list the cases that hold if asked to. -/
  | cases (verbose : Bool)
  /-- Evaluate the lines of the standard input, one by one. -/
  | interactive
  deriving DecidableEq, Repr

/-- A command, and the setting to carry it out with. -/
structure Invocation where
  truthiness : Truthiness
  command : Command
  deriving DecidableEq, Repr

namespace Invocation

/-- The option for the truthiness of arrays.  Its value follows as an argument of its own, or in
the same argument behind a `=`. -/
def truthinessOption : String := "--array-truthiness"

/-- The value behind `--array-truthiness=`, if the argument is of that form. -/
def attachedValue? (arg : String) : Option String :=
  let front := (truthinessOption ++ "=").toList
  if front.isPrefixOf arg.toList then some (String.ofList (arg.toList.drop front.length)) else none

/-- Whether an argument is an option, and not plain. -/
def isOption (arg : String) : Bool :=
  match arg.toList with
  | '-' :: _ :: _ => true
  | _ => false

/-- What the arguments of one level say. -/
structure Level where
  truthiness : Option Truthiness
  verbose : Bool
  plain : List String

namespace Level

/-- A level without arguments. -/
def empty : Level := ⟨none, false, []⟩

/-- Add the value of the option for truthiness.  It must be a known one and the first. -/
def setTruthiness? (l : Level) (value : String) : Option Level :=
  match l.truthiness, Truthiness.ofName? value with
  | none, some t => some { l with truthiness := some t }
  | _, _ => none

/-- Add the flag for verbosity, which can be given once. -/
def setVerbose? (l : Level) : Option Level :=
  if l.verbose then none else some { l with verbose := true }

/-- Add plain arguments. -/
def addPlain (l : Level) (args : List String) : Level := { l with plain := l.plain ++ args }

/-- Add all arguments of the second level.  The flag for verbosity is an option of that level only
if `hasVerbose`. -/
def ofArgs? (hasVerbose : Bool) (l : Level) : List String → Option Level
  | [] => some l
  | arg :: args =>
    if arg = "--" then some (l.addPlain args)
    else if arg = truthinessOption then
      match args with
      | [] => none
      | value :: args => (l.setTruthiness? value).bind fun l => ofArgs? hasVerbose l args
    else match attachedValue? arg with
      | some value => (l.setTruthiness? value).bind fun l => ofArgs? hasVerbose l args
      | none =>
        if hasVerbose && (arg = "-v" || arg = "--verbose") then
          l.setVerbose?.bind fun l => ofArgs? hasVerbose l args
        else if isOption arg then none
        else ofArgs? hasVerbose (l.addPlain [arg]) args

end Level

/-- The command with the given name and the level of its arguments. -/
def command? (name : String) (args : List String) : Option (Command × Level) :=
  match name with
  | "eval" =>
    match Level.ofArgs? false .empty args with
    | some l => match l.plain with
      | [script] => some (.evaluate script, l)
      | _ => none
    | none => none
  | "run" =>
    match Level.ofArgs? false .empty args with
    | some l => match l.plain with
      | [path] => if path = "" then none else some (.run path, l)
      | _ => none
    | none => none
  | "cases" =>
    match Level.ofArgs? true .empty args with
    | some l => match l.plain with
      | [] => some (.cases l.verbose, l)
      | _ => none
    | none => none
  | _ => none

/-- The arguments of the first level, from some point on, and all that follow. -/
def ofLevel? (l : Level) : List String → Option Invocation
  | [] => some ⟨l.truthiness.getD default, .interactive⟩
  | arg :: args =>
    if arg = "--" then
      if args.isEmpty then some ⟨l.truthiness.getD default, .interactive⟩ else none
    else if arg = truthinessOption then
      match args with
      | [] => none
      | value :: args => (l.setTruthiness? value).bind fun l => ofLevel? l args
    else match attachedValue? arg with
      | some value => (l.setTruthiness? value).bind fun l => ofLevel? l args
      | none => (command? arg args).map fun (command, inner) =>
          ⟨(inner.truthiness <|> l.truthiness).getD default, command⟩

/-- What a command line asks for, or nothing if its arguments are rejected. -/
def ofArgs? (args : List String) : Option Invocation := ofLevel? .empty args

end Invocation
end LooseEquality
