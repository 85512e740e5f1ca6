import Groundwork.Template.Token
import Groundwork.Template.Value

/-!
# Expressions of templates

Expressions bind, from loosest to tightest: the choice `a if c else b`, `or`, `and`, `not`,
comparisons, and last the members, filters and tests that follow an operand. `Expr.read` reads the
expression that some tokens begin with, of at least a given tightness, and leaves the rest.
-/

namespace Groundwork.Template

/-- An expression. -/
inductive Expr
  /-- A value written out. -/
  | literal (v : Value)
  /-- The value of a name. -/
  | name (s : String)
  /-- The member `key` of a value. -/
  | member (e : Expr) (key : String)
  /-- A number with its sign turned. -/
  | negative (e : Expr)
  | not (e : Expr)
  | and (e f : Expr)
  | or (e f : Expr)
  | equal (e f : Expr)
  | differ (e f : Expr)
  /-- Whether a value passes the test `name`. -/
  | passes (e : Expr) (name : String)
  /-- A value put through the filter `name`. -/
  | filtered (e : Expr) (name : String)
  /-- A value put through the filter `name` with an argument. -/
  | filteredWith (e : Expr) (name : String) (argument : Expr)
  /-- The value of `e` if `condition` holds, else that of `f`. -/
  | choice (condition e f : Expr)

namespace Expr

/-- How tightly an expression binds. -/
inductive Level
  | choice
  | or
  | and
  | not
  | comparison
  | operand
  deriving DecidableEq, Repr

/-- The rank of a level: the higher, the tighter. -/
def Level.rank : Level → Nat
  | choice => 0
  | or => 1
  | and => 2
  | not => 3
  | comparison => 4
  | operand => 5

/-- The operand that a word is: one of the constants, or a name. -/
def ofWord (s : String) : Expr :=
  if s = "true" || s = "True" then literal (.boolean true)
  else if s = "false" || s = "False" then literal (.boolean false)
  else if s = "none" || s = "None" then literal .nothing
  else name s

/-- What follows the word `s`, if `ts` begins with it. -/
def afterWord? (s : String) : (ts : List Token) → Option (Rest ts)
  | [] => none
  | t :: ts => if t = .word s then some ⟨ts, Nat.lt_succ_self _⟩ else none

mutual

/-- The expression of at least `level` that `ts` begins with, and what follows it. -/
def read (level : Level) (ts : List Token) : Option (Expr × Rest ts) :=
  match ts with
  | .word "not" :: ts' =>
    if level.rank ≤ Level.not.rank then do
      let (e, ⟨r, h⟩) ← read .not ts'
      let (e, ⟨r, h'⟩) ← extend level (.not e) r
      pure (e, ⟨r, by simp only [List.length_cons]; omega⟩)
    else do
      let (e, ⟨r, h⟩) ← follow (name "not") ts'
      let (e, ⟨r, h'⟩) ← extend level e r
      pure (e, ⟨r, by simp only [List.length_cons]; omega⟩)
  | t :: ts' => do
    let (e, ⟨r, h⟩) ← operand t ts'
    let (e, ⟨r, h'⟩) ← follow e r
    let (e, ⟨r, h''⟩) ← extend level e r
    pure (e, ⟨r, by simp only [List.length_cons]; omega⟩)
  | [] => none
termination_by (ts.length, 3)

/-- The operand that begins with the token `t`, before anything that follows operands. -/
def operand (t : Token) (ts : List Token) : Option (Expr × Remainder ts) :=
  match t with
  | .word s => some (ofWord s, ⟨ts, Nat.le_refl _⟩)
  | .text s => some (literal (.text s), ⟨ts, Nat.le_refl _⟩)
  | .number n => some (literal (.integer n), ⟨ts, Nat.le_refl _⟩)
  | .minus =>
    match ts with
    | t' :: ts' => do
      let (e, ⟨r, h⟩) ← operand t' ts'
      pure (negative e, ⟨r, by simp only [List.length_cons]; omega⟩)
    | [] => none
  | .left =>
    match read .choice ts with
    | some (e, ⟨.right :: r, h⟩) => some (e, ⟨r, by simp only [List.length_cons] at h; omega⟩)
    | _ => none
  | _ => none
termination_by (ts.length, 4)

/-- The operand `e` with the members, filters and tests that `ts` begins with. -/
def follow (e : Expr) (ts : List Token) : Option (Expr × Remainder ts) :=
  match ts with
  | .dot :: .word key :: ts' => do
    let (e, ⟨r, h⟩) ← follow (member e key) ts'
    pure (e, ⟨r, by simp only [List.length_cons]; omega⟩)
  | .dot :: _ => none
  | ts => modify e ts
termination_by (ts.length, 2)

/-- The operand `e` with the filters and tests that `ts` begins with. -/
def modify (e : Expr) (ts : List Token) : Option (Expr × Remainder ts) :=
  match ts with
  | .bar :: .word s :: .left :: .right :: ts' => do
    let (e, ⟨r, h⟩) ← modify (filtered e s) ts'
    pure (e, ⟨r, by simp only [List.length_cons]; omega⟩)
  | .bar :: .word s :: .left :: ts' =>
    match read .choice ts' with
    | some (argument, ⟨.right :: r, h⟩) => do
      have h : r.length + 1 < ts'.length := h
      let (e, ⟨r, h'⟩) ← modify (filteredWith e s argument) r
      pure (e, ⟨r, by simp only [List.length_cons]; omega⟩)
    | some (argument, ⟨.comma :: .right :: r, h⟩) => do
      have h : r.length + 2 < ts'.length := h
      let (e, ⟨r, h'⟩) ← modify (filteredWith e s argument) r
      pure (e, ⟨r, by simp only [List.length_cons]; omega⟩)
    | _ => none
  | .bar :: .word s :: ts' => do
    let (e, ⟨r, h⟩) ← modify (filtered e s) ts'
    pure (e, ⟨r, by simp only [List.length_cons]; omega⟩)
  | .bar :: _ => none
  | .word "is" :: .word "not" :: .word s :: ts' => do
    let (e, ⟨r, h⟩) ← modify (.not (passes e s)) ts'
    pure (e, ⟨r, by simp only [List.length_cons]; omega⟩)
  | .word "is" :: .word s :: ts' => do
    let (e, ⟨r, h⟩) ← modify (passes e s) ts'
    pure (e, ⟨r, by simp only [List.length_cons]; omega⟩)
  | .word "is" :: _ => none
  | ts => some (e, ⟨ts, Nat.le_refl _⟩)
termination_by (ts.length, 1)

/-- The expression `e` with the operators of at least `level` that `ts` begins with. -/
def extend (level : Level) (e : Expr) (ts : List Token) : Option (Expr × Remainder ts) :=
  match ts with
  | .word "if" :: ts' =>
    if level.rank ≤ Level.choice.rank then do
      let (condition, ⟨r, h₁⟩) ← read .or ts'
      let ⟨r, h₂⟩ ← afterWord? "else" r
      let (f, ⟨r, h₃⟩) ← read .choice r
      let (e, ⟨r, h₄⟩) ← extend level (choice condition e f) r
      pure (e, ⟨r, by simp only [List.length_cons]; omega⟩)
    else some (e, ⟨.word "if" :: ts', Nat.le_refl _⟩)
  | .word "or" :: ts' =>
    if level.rank ≤ Level.or.rank then do
      let (f, ⟨r, h⟩) ← read .and ts'
      let (e, ⟨r, h'⟩) ← extend level (.or e f) r
      pure (e, ⟨r, by simp only [List.length_cons]; omega⟩)
    else some (e, ⟨.word "or" :: ts', Nat.le_refl _⟩)
  | .word "and" :: ts' =>
    if level.rank ≤ Level.and.rank then do
      let (f, ⟨r, h⟩) ← read .not ts'
      let (e, ⟨r, h'⟩) ← extend level (.and e f) r
      pure (e, ⟨r, by simp only [List.length_cons]; omega⟩)
    else some (e, ⟨.word "and" :: ts', Nat.le_refl _⟩)
  | .equal :: ts' =>
    if level.rank ≤ Level.comparison.rank then do
      let (f, ⟨r, h⟩) ← read .operand ts'
      let (e, ⟨r, h'⟩) ← extend level (.equal e f) r
      pure (e, ⟨r, by simp only [List.length_cons]; omega⟩)
    else some (e, ⟨.equal :: ts', Nat.le_refl _⟩)
  | .differ :: ts' =>
    if level.rank ≤ Level.comparison.rank then do
      let (f, ⟨r, h⟩) ← read .operand ts'
      let (e, ⟨r, h'⟩) ← extend level (.differ e f) r
      pure (e, ⟨r, by simp only [List.length_cons]; omega⟩)
    else some (e, ⟨.differ :: ts', Nat.le_refl _⟩)
  | ts => some (e, ⟨ts, Nat.le_refl _⟩)
termination_by (ts.length, 0)

end

/-- The expression of at least `level` that all of `ts` spell. -/
def ofTokens? (level : Level) (ts : List Token) : Option Expr :=
  match read level ts with
  | some (e, ⟨[], _⟩) => some e
  | _ => none

end Expr

end Groundwork.Template
