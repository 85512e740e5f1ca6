/-!
# JSON documents

A JSON document as a value. The members of an object are kept as they are written, repeated names
included; `Json.member?` gives the last one of a name, which is the one that counts. A number is
kept as it is spelled.
-/

namespace Groundwork

/-- A JSON value. -/
inductive Json
  | null
  | boolean (b : Bool)
  /-- A number, as spelled. -/
  | number (literal : String)
  | text (s : String)
  | list (items : List Json)
  /-- Members by name, in order. -/
  | object (members : List (String × Json))
  deriving Inhabited

namespace Json

/-- The member of a name among some members: the last one counts. -/
def member? (name : String) (members : List (String × Json)) : Option Json :=
  members.reverse.lookup name

end Json

end Groundwork
