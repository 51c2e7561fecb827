import ReadLater.Text.Split

/-!
# Command-line arguments

Arguments are options and positional texts. A long option takes its value after an equals sign or in
the next argument; short options may be written together. After two minus signs alone, all arguments
are positional.
-/

namespace ReadLater.Command

inductive OptionKind
  | flag
  /-- A flag that may be given many times. -/
  | counted
  | single
  | repeated
  | help
  | version
deriving DecidableEq, Repr

structure OptionSpec where
  long : String
  short : Option Char := none
  kind : OptionKind

/-- Why reading stops before the end. -/
inductive Stop
  | invalid
  | help
  | version
deriving DecidableEq, Repr

/-- The arguments read so far, in order. -/
structure Arguments where
  /-- The names of the flags and options given, with the values of the options. -/
  options : List (String × Option String) := []
  positional : List String := []
deriving DecidableEq, Repr

namespace Arguments

def has (a : Arguments) (name : String) : Bool :=
  a.options.any fun o => o.1 == name

def values (a : Arguments) (name : String) : List String :=
  (a.options.filter fun o => o.1 == name).filterMap (·.2)

def value? (a : Arguments) (name : String) : Option String :=
  (a.values name).head?

def addPositional (a : Arguments) (s : String) : Arguments :=
  { a with positional := a.positional ++ [s] }

/-- Adds a flag; only counted ones may be given twice. -/
def addFlag (a : Arguments) (o : OptionSpec) : Except Stop Arguments :=
  match o.kind with
  | .help => .error .help
  | .version => .error .version
  | .counted => .ok { a with options := a.options ++ [(o.long, none)] }
  | .flag =>
    if a.has o.long then .error .invalid
    else .ok { a with options := a.options ++ [(o.long, none)] }
  | .single | .repeated => .error .invalid

/-- Adds an option with a value; only repeated ones may be given twice. -/
def addValue (a : Arguments) (o : OptionSpec) (value : String) : Except Stop Arguments :=
  if o.kind = .single && a.has o.long then .error .invalid
  else .ok { a with options := a.options ++ [(o.long, some value)] }

end Arguments

def OptionSpec.takesValue (o : OptionSpec) : Bool :=
  o.kind = .single || o.kind = .repeated

/-- An option whose value is the next argument, if it has not been seen yet. -/
abbrev Pending := Option OptionSpec

/-- Reads the text of a long option after its two minus signs. -/
def readLong (specs : List OptionSpec) (a : Arguments) (text : List Char) :
    Except Stop (Arguments × Pending) :=
  let (name, value) := match Text.splitOnce? '=' text with
    | some (name, value) => (name, some (String.ofList value))
    | none => (text, none)
  match specs.find? fun o => o.long.toList == name, value with
  | none, _ => .error .invalid
  | some o, none =>
    if o.takesValue then .ok (a, some o) else (a.addFlag o).map (·, none)
  | some o, some value =>
    if o.takesValue then (a.addValue o value).map (·, none) else .error .invalid

/-- Reads short options written together. What follows an option with a value is the value. -/
def readShort (specs : List OptionSpec) (a : Arguments) :
    List Char → Except Stop (Arguments × Pending)
  | [] => .ok (a, none)
  | c :: rest =>
    match specs.find? fun o => o.short == some c with
    | none => .error .invalid
    | some o =>
      if o.takesValue then
        match rest with
        | [] => .ok (a, some o)
        | '=' :: value => (a.addValue o (String.ofList value)).map (·, none)
        | value => (a.addValue o (String.ofList value)).map (·, none)
      else
        match a.addFlag o with
        | .ok a => readShort specs a rest
        | .error stop => .error stop

/--
Reads arguments until the end, or, if `untilPositional`, up to and with the first positional one.
What is left is returned with them.
-/
def readArguments (specs : List OptionSpec) (untilPositional : Bool) (a : Arguments)
    (pending : Pending) : List String → Except Stop (Arguments × List String)
  | [] => if pending.isSome then .error .invalid else .ok (a, [])
  | arg :: rest =>
    match arg.toList with
    | ['-', '-'] =>
      if pending.isSome || untilPositional then .error .invalid
      else .ok (rest.foldl Arguments.addPositional a, [])
    | '-' :: '-' :: long =>
      if pending.isSome then .error .invalid
      else do
        let (a, pending) ← readLong specs a long
        readArguments specs untilPositional a pending rest
    | '-' :: c :: short =>
      if pending.isSome then .error .invalid
      else do
        let (a, pending) ← readShort specs a (c :: short)
        readArguments specs untilPositional a pending rest
    | _ =>
      match pending with
      | some o => do
        let a ← a.addValue o arg
        readArguments specs untilPositional a none rest
      | none =>
        if untilPositional then .ok (a.addPositional arg, rest)
        else readArguments specs untilPositional (a.addPositional arg) none rest

end ReadLater.Command
