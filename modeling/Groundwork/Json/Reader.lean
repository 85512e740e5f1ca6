import Groundwork.Json.Token

/-!
# Reading JSON

`Json.ofChars?` reads a document strictly: nothing may be missing and nothing left over, and lists
and objects nest at most `nestingLimit` deep.
-/

namespace Groundwork.Json

/-- How deep lists and objects may nest. -/
def nestingLimit : Nat := 127

mutual

/-- The value that `ts` begins with, nested at most `depth` deep, and what follows it. -/
def value? (depth : Nat) (ts : List Token) : Option (Json × Rest ts) :=
  match depth, ts with
  | _, .scalar value :: ts => some (value, ⟨ts, by simp⟩)
  | _ + 1, .openList :: .closeList :: ts =>
    some (list [], ⟨ts, by simp only [List.length_cons]; omega⟩)
  | depth + 1, .openList :: ts => do
    let (items, ⟨rest, h⟩) ← items? depth ts
    pure (list items, ⟨rest, by simp only [List.length_cons]; omega⟩)
  | _ + 1, .openObject :: .closeObject :: ts =>
    some (object [], ⟨ts, by simp only [List.length_cons]; omega⟩)
  | depth + 1, .openObject :: ts => do
    let (members, ⟨rest, h⟩) ← members? depth ts
    pure (object members, ⟨rest, by simp only [List.length_cons]; omega⟩)
  | _, _ => none
termination_by (ts.length, 0)

/-- The items, up to the end of a list, that `ts` begins with, and what follows the list. -/
def items? (depth : Nat) (ts : List Token) : Option (List Json × Rest ts) :=
  match value? depth ts with
  | some (item, ⟨.closeList :: rest, h⟩) =>
    some ([item], ⟨rest, by simp only [List.length_cons] at h; omega⟩)
  | some (item, ⟨.comma :: rest, h⟩) => do
    have h : rest.length + 1 < ts.length := h
    let (items, ⟨rest, h'⟩) ← items? depth rest
    pure (item :: items, ⟨rest, by omega⟩)
  | _ => none
termination_by (ts.length, 1)

/-- The members, up to the end of an object, that `ts` begins with, and what follows the object. -/
def members? (depth : Nat) (ts : List Token) : Option (List (String × Json) × Rest ts) :=
  match ts with
  | .scalar (.text name) :: .colon :: ts =>
    match value? depth ts with
    | some (value, ⟨.closeObject :: rest, h⟩) =>
      some ([(name, value)], ⟨rest, by simp only [List.length_cons] at h ⊢; omega⟩)
    | some (value, ⟨.comma :: rest, h⟩) => do
      have h : rest.length + 1 < ts.length := h
      let (members, ⟨rest, h'⟩) ← members? depth rest
      pure ((name, value) :: members, ⟨rest, by simp only [List.length_cons]; omega⟩)
    | _ => none
  | _ => none
termination_by (ts.length, 1)

end

/-- The document that `cs` spells. -/
def ofChars? (cs : List Char) : Option Json := do
  let ts ← Token.ofChars? cs
  match value? nestingLimit ts with
  | some (value, ⟨[], _⟩) => some value
  | _ => none

end Groundwork.Json
