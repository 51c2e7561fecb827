import ReadLater.Json.Typed

/-!
# Reading records

A record is an object of known members, or a list of their values in order. Members with other names
are passed over. No member may be given twice, and a required one must be given.
-/

namespace ReadLater.Json

/-- A member of a record of type `α`. -/
structure Member (α : Type) where
  name : String
  required : Bool
  /-- Reads the value, and gives the record with it in place. -/
  read : α → Reader α

def Member.needed (name : String) (reader : Reader β) (put : α → β → α) : Member α :=
  ⟨name, true, fun a => put a <$> reader⟩

/-- A member that may be left out. -/
def Member.free (name : String) (reader : Reader β) (put : α → β → α) : Member α :=
  ⟨name, false, fun a => put a <$> reader⟩

structure Record (α : Type) where
  title : String
  /-- The record before any member is read. -/
  blank : α
  members : List (Member α)

namespace Record

/-- What was read of an object, and the names of it. -/
structure Draft (α : Type) where
  value : α
  given : List String

def readMember (r : Record α) (draft : Draft α) (name : String) : Reader (Draft α) := do
  match r.members.find? fun m => m.name == name with
  | none =>
    Reader.colon
    Reader.passValue
    return draft
  | some m =>
    if draft.given.contains name then
      if (← Reader.next) = some '\x7d' then Reader.advance
      Reader.fail (.unfit ("duplicate field `" ++ name ++ "`"))
    Reader.colon
    return ⟨← m.read draft.value, name :: draft.given⟩

/-- The record in an object after its opening brace. -/
def readObject (r : Record α) : Reader α := do
  let draft ← Reader.members r.readMember ⟨r.blank, []⟩
  match r.members.find? fun m => m.required && !draft.given.contains m.name with
  | some m => Reader.fail (.unfit ("missing field `" ++ m.name ++ "`"))
  | none => return draft.value

/-- A list may end before members that are not required. -/
def readValues (r : Record α) (value : α) : List (Member α) → Reader α
  | [] => do
    Reader.endOfList
    return value
  | m :: rest => do
    if ← Reader.hasElement (r.members.length == rest.length + 1) then
      readValues r (← m.read value) rest
    else
      Reader.advance
      match (m :: rest).dropWhile fun m => !m.required with
      | [] => return value
      | missing =>
        Reader.fail (.unfit ("invalid length " ++
          String.ofList (Text.decimal (r.members.length - missing.length)) ++
          ", expected struct " ++ r.title ++ " with " ++
          String.ofList (Text.decimal r.members.length) ++ " elements"))

def reader (r : Record α) : Reader α := do
  match ← Reader.next with
  | some '\x7b' =>
    Reader.advance
    r.readObject
  | some '[' =>
    Reader.advance
    r.readValues r.blank r.members
  | _ => Reader.mistyped ("struct " ++ r.title)

end Record

end ReadLater.Json
