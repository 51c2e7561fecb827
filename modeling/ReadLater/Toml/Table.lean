import ReadLater.Toml.Value

/-!
# Adding to TOML tables

No key may be given twice, and a table is not taken up again once it has been written. A header may
give entries to a table that so far was only implied, and dotted keys to one that dotted keys made.
-/

namespace ReadLater.Toml

abbrev Entries := List (String × Value)

namespace Entries

def get? (entries : Entries) (key : String) : Option Value :=
  (entries.find? fun e => e.1 == key).map (·.2)

def set (key : String) (value : Value) : Entries → Entries
  | [] => [(key, value)]
  | (k, v) :: rest => if k = key then (k, value) :: rest else (k, v) :: set key value rest

/-- Changes the table at a path of headers, where missing tables are implied. The last one of
several tables is meant. -/
def atHeader (change : Entries → Option Entries) : List String → Entries → Option Entries
  | [], entries => change entries
  | key :: path, entries => do
    match entries.get? key with
    | none => return entries.set key (.table .implied (← atHeader change path []))
    | some (.table origin inner) =>
      if origin = .inline then none
      else return entries.set key (.table origin (← atHeader change path inner))
    | some (.tables elements) =>
      let last ← elements.getLast?
      return entries.set key (.tables (elements.dropLast ++ [← atHeader change path last]))
    | some _ => none

/-- Begins the table of a header. -/
def beginTable (path : List String) (key : String) (entries : Entries) : Option Entries :=
  entries.atHeader (fun entries =>
    match entries.get? key with
    | none => some (entries.set key (.table .header []))
    | some (.table .implied inner) => some (entries.set key (.table .header inner))
    | some _ => none) path

/-- Begins one more table of a header in double brackets. -/
def beginElement (path : List String) (key : String) (entries : Entries) : Option Entries :=
  entries.atHeader (fun entries =>
    match entries.get? key with
    | none => some (entries.set key (.tables [[]]))
    | some (.tables elements) => some (entries.set key (.tables (elements ++ [[]])))
    | some _ => none) path

/-- Adds an entry that must be new. -/
def insertNew (key : String) (value : Value) (entries : Entries) : Option Entries :=
  match entries.get? key with
  | none => some (entries.set key value)
  | some _ => none

/-- Adds an entry under a dotted key. The table that gets the entry must be one that dotted keys
made, which `dotted` tells of the present table. -/
def insertDotted (key : String) (value : Value) (dotted : Bool) :
    List String → Entries → Option Entries
  | [], entries => if dotted then entries.insertNew key value else none
  | step :: path, entries => do
    match entries.get? step with
    | none => return entries.set step (.table .dotted (← insertDotted key value true path []))
    | some (.table .dotted inner) =>
      return entries.set step (.table .dotted (← insertDotted key value true path inner))
    | some (.table .implied inner) =>
      return entries.set step (.table .implied (← insertDotted key value false path inner))
    | some (.tables elements) =>
      let last ← elements.getLast?
      return entries.set step
        (.tables (elements.dropLast ++ [← insertDotted key value false path last]))
    | some _ => none

/-- Adds an entry under a key of one or more parts. -/
def insert (path : List String) (key : String) (value : Value) (entries : Entries) :
    Option Entries :=
  if path.isEmpty then entries.insertNew key value
  else entries.insertDotted key value false path

end Entries

end ReadLater.Toml
