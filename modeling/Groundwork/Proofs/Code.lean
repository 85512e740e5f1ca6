import Groundwork.Proofs.Entry
import Groundwork.Proofs.Text.Split

/-!
# Names in lines of code

Which names a line of generated code uses and which ones it imports, read off its characters. Names
are words outside of literals; no name is a word that begins with a digit, one that follows a point,
or one that an equals sign follows at once, as it does with the keyword of an argument. The reading
goes from character to character through *places* (`Place.next`), so what is read in two texts put
together is what is read in both (`ends_append`). A text at whose end no literal is open can be read
by itself if a separator follows (`names_append_cons`), and so can every argument of a call
(`names_arguments`). Numerals and quoted texts use no name (`names_spelling`, `quiet_quoteChars`).
-/

namespace Groundwork.Code

open Text

/-! ## Reading -/

/-- Whether a character belongs to a word. -/
def isWord (c : Char) : Bool := isAlphanumeric c || c == '_'

/-- Where the reading of a line of code is. -/
inductive Place
  /-- Between words, a point having come last or not. -/
  | gap (point : Bool)
  /-- In a word that is no name. -/
  | word
  /-- In a name, the last character of which comes first. -/
  | name (back : List Char)
  /-- In a literal, a backslash having come last or not. -/
  | literal (escaped : Bool)
  deriving DecidableEq

namespace Place

/-- The place after a character that belongs to no word and no literal. -/
def after (c : Char) : Place := if c = '\'' then literal false else gap (c == '.')

/-- The place after one more character. -/
def next : Place → Char → Place
  | gap point, c =>
    if isWord c then if point || isAsciiDigit c then word else name [c] else after c
  | word, c => if isWord c then word else after c
  | name back, c => if isWord c then name (c :: back) else after c
  | literal true, _ => literal false
  | literal false, c =>
    if c = '\\' then literal true else if c = '\'' then gap false else literal false

/-- The name that ends before a character, if one does. -/
def ended : Place → Char → List (List Char)
  | name back, c => if isWord c || c == '=' then [] else [back.reverse]
  | _, _ => []

/-- The name that is under way, if one is. -/
def pending : Place → List (List Char)
  | name back => [back.reverse]
  | _ => []

/-- Whether a literal is open. -/
def inLiteral : Place → Bool
  | literal _ => true
  | _ => false

end Place

/-- The names that end before a character of a text. -/
def ends : Place → List Char → List (List Char)
  | _, [] => []
  | p, c :: cs => p.ended c ++ ends (p.next c) cs

/-- The place at the end of a text. -/
def finish (cs : List Char) : Place := cs.foldl Place.next (.gap false)

/-- The names that an expression uses. -/
def names (cs : List Char) : List (List Char) := ends (.gap false) cs ++ (finish cs).pending

/-- The names that a line uses: those of the expression after its first equals sign. -/
def uses (line : List Char) : List (List Char) :=
  match cutFirst '=' line with
  | (_, some expression) => names expression
  | (_, none) => []

example : uses "    at = Column(Date, default=date.today, info='none')".toList =
    ["Column".toList, "Date".toList, "date".toList] := by
  decide

/-- The names that a line imports from a module. -/
def importedFrom (origin : String) (line : List Char) : List (List Char) :=
  let head := ("from " ++ origin ++ " import ").toList
  if head.isPrefixOf line then names (line.drop head.length) else []

/-! ## Texts put together -/

theorem ends_append (p : Place) (cs ds : List Char) :
    ends p (cs ++ ds) = ends p cs ++ ends (cs.foldl Place.next p) ds := by
  induction cs generalizing p with
  | nil => rfl
  | cons c cs ih => rw [List.cons_append, ends, ends, ih, List.append_assoc, List.foldl_cons]

/-- Whether no literal is open at the end of a text. -/
def Closed (cs : List Char) : Prop := (finish cs).inLiteral = false

instance (cs : List Char) : Decidable (Closed cs) :=
  inferInstanceAs (Decidable ((finish cs).inLiteral = false))

/-- Whether a character separates what stands before it from what follows. -/
def isSeparator (c : Char) : Bool := !isWord c && !(['=', '\'', '.'].contains c)

section Separators

variable {c : Char} {cs ds : List Char}

theorem isSeparator_cases (hc : isSeparator c = true) :
    isWord c = false ∧ c ≠ '=' ∧ c ≠ '\'' ∧ c ≠ '.' := by
  simpa [isSeparator] using hc

theorem Place.ended_separator {p : Place} (hc : isSeparator c = true) : p.ended c = p.pending := by
  obtain ⟨hw, he, -, -⟩ := isSeparator_cases hc
  cases p with
  | name back => simp [ended, pending, hw, he]
  | gap | word | literal => rfl

theorem Place.next_separator {p : Place} (hc : isSeparator c = true)
    (hp : p.inLiteral = false) : p.next c = gap false := by
  obtain ⟨hw, -, hq, hd⟩ := isSeparator_cases hc
  have ha : after c = gap false := by simp [after, hq, hd]
  cases p with
  | gap | word | name => simp [next, hw, ha]
  | literal => simp [inLiteral] at hp

theorem names_append_cons (hc : isSeparator c = true) (hcs : Closed cs) :
    names (cs ++ c :: ds) = names cs ++ names ds := by
  have hfinish : finish (cs ++ c :: ds) = finish ds := by
    rw [finish, List.foldl_append, List.foldl_cons, ← finish, Place.next_separator hc hcs]
    rfl
  rw [names, ends_append, ends, ← finish, Place.ended_separator hc, Place.next_separator hc hcs,
    hfinish, names, names]
  simp only [List.append_assoc]

/-- A call uses the names of what is called and those of its arguments. -/
theorem names_arguments {arguments : List (List Char)} (hcs : Closed cs)
    (h : ∀ argument ∈ arguments, Closed argument) :
    names (cs ++ (arguments.flatMap (',' :: ·) ++ [')'])) =
      names cs ++ arguments.flatMap names := by
  have hcomma : isSeparator ',' = true := by decide
  induction arguments generalizing cs with
  | nil => exact names_append_cons (by decide) hcs
  | cons argument arguments ih =>
    rw [List.forall_mem_cons] at h
    rw [List.flatMap_cons, List.cons_append, List.cons_append, List.append_assoc,
      names_append_cons hcomma hcs, ih h.1 h.2, List.flatMap_cons]

end Separators

/-! ## Texts without names -/

/-- Reading a text leads from one place to another one, and no name ends on the way. -/
structure Quiet (p : Place) (cs : List Char) (q : Place) : Prop where
  ends_eq : ends p cs = []
  foldl_eq : cs.foldl Place.next p = q

namespace Quiet

variable {p q r : Place} {c : Char} {cs ds : List Char}

theorem nil : Quiet p [] p := ⟨rfl, rfl⟩

theorem cons (he : p.ended c = []) (h : Quiet (p.next c) cs q) : Quiet p (c :: cs) q :=
  ⟨by rw [ends, he, h.ends_eq, List.append_nil], by rw [List.foldl_cons, h.foldl_eq]⟩

theorem append (h : Quiet p cs q) (h' : Quiet q ds r) : Quiet p (cs ++ ds) r :=
  ⟨by rw [ends_append, h.ends_eq, h.foldl_eq, h'.ends_eq, List.append_nil],
    by rw [List.foldl_append, h.foldl_eq, h'.foldl_eq]⟩

/-- What comes after such a text is read as if nothing had come before. -/
theorem names_append (h : Quiet (.gap false) cs (.gap false)) :
    names (cs ++ ds) = names ds ∧ finish (cs ++ ds) = finish ds := by
  have hf : finish (cs ++ ds) = finish ds := by
    rw [finish, List.foldl_append, h.foldl_eq, finish]
  refine ⟨?_, hf⟩
  rw [names, ends_append, h.ends_eq, h.foldl_eq, hf, List.nil_append, names]

/-- A text that no name ends in uses none, if none is under way at its end. -/
theorem names_eq_nil (h : Quiet (.gap false) cs q) (hq : q.pending = []) : names cs = [] := by
  rw [names, h.ends_eq, finish, h.foldl_eq, hq, List.append_nil]

theorem closed (h : Quiet (.gap false) cs q) (hq : q.inLiteral = false) : Closed cs := by
  rwa [Closed, finish, h.foldl_eq]

end Quiet

/-! ### Numerals -/

/-- Whether a place is neither in a name nor in a literal. -/
def Place.isSilent : Place → Bool
  | gap _ | word => true
  | _ => false

section Numerals

variable {p : Place} {c : Char} {cs ds : List Char} {n : Numeral}

theorem Place.ended_silent (hp : p.isSilent = true) : p.ended c = [] := by
  cases p with
  | gap | word => rfl
  | name | literal => simp [isSilent] at hp

theorem Place.next_sign (hp : p.isSilent = true) (hc : isWord c = false) (hq : c ≠ '\'') :
    p.next c = gap (c == '.') := by
  cases p with
  | gap | word => simp [next, hc, after, hq]
  | name | literal => simp [isSilent] at hp

theorem Place.next_digit (hp : p.isSilent = true) (hc : isAsciiDigit c = true) :
    p.next c = word := by
  have hw : isWord c = true := by simp [isWord, alphanumeric_of_asciiDigit hc]
  cases p with
  | gap | word => simp [next, hw, hc]
  | name | literal => simp [isSilent] at hp

theorem quiet_digits (hp : p.isSilent = true) (h : cs.all isAsciiDigit = true) :
    Quiet p cs (if cs = [] then p else .word) := by
  induction cs generalizing p with
  | nil => exact .nil
  | cons c cs ih =>
    rw [List.all_cons, Bool.and_eq_true] at h
    refine .cons (Place.ended_silent hp) ?_
    rw [Place.next_digit hp h.1, if_neg nofun]
    simpa using ih (p := .word) rfl h.2

theorem quiet_sign (hp : p.isSilent = true) (h : Numeral.IsSign cs) :
    Quiet p cs (if cs = [] then p else .gap false) := by
  obtain rfl | rfl | rfl := h
  · exact .nil
  all_goals
    refine .cons (Place.ended_silent hp) ?_
    rw [Place.next_sign hp (by decide) (by decide)]
    exact .nil

/-- After the digits and the point of a numeral, the reading is in a word or right after a point, so
that the mark of an exponent begins no name. -/
theorem quiet_mantissa (h : n.WellFormed) :
    ∃ q, (q = .word ∨ q = .gap true) ∧
      Quiet (.gap false) (n.sign ++ n.whole ++ n.fraction) q := by
  have hsign : Quiet (.gap false) n.sign (.gap false) := by
    simpa using quiet_sign (p := .gap false) rfl h.sign
  have hwhole := quiet_digits (p := .gap false) rfl h.whole
  obtain hf | ⟨ds, hf, hds⟩ := h.fraction
  · have hne : n.whole ≠ [] := h.digits.resolve_right fun hn => hn hf
    rw [if_neg hne] at hwhole
    exact ⟨.word, .inl rfl, by simpa [hf] using hsign.append hwhole⟩
  · have hpoint {p : Place} (hp : p.isSilent = true) :
        Quiet p ('.' :: ds) (if ds = [] then .gap true else .word) := by
      refine .cons (Place.ended_silent hp) ?_
      rw [Place.next_sign hp (by decide) (by decide)]
      exact quiet_digits rfl hds
    refine ⟨_, ?_, (hsign.append hwhole).append (hf ▸ hpoint ?_)⟩
    · split
      · exact .inr rfl
      · exact .inl rfl
    · split <;> rfl

theorem quiet_exponent (h : n.WellFormed) {q : Place} (hq : q = .word ∨ q = .gap true) :
    ∃ r : Place, r.isSilent = true ∧ Quiet q n.exponent r := by
  have hs : q.isSilent = true := by obtain rfl | rfl := hq <;> rfl
  obtain he | ⟨e, sign, ds, he, hmark, hsign, hds⟩ := h.exponent
  · exact ⟨q, hs, he ▸ .nil⟩
  · have hword : q.next e = .word := by
      have hw : isWord e = true := by obtain rfl | rfl := hmark <;> decide
      obtain rfl | rfl := hq <;> simp [Place.next, hw]
    have hsigned := quiet_sign (p := q.next e) (by rw [hword]; rfl) hsign
    have hafter : (if sign = [] then q.next e else .gap false).isSilent = true := by
      split
      · rw [hword]; rfl
      · rfl
    have hquiet := Quiet.cons (Place.ended_silent hs) (hsigned.append (quiet_digits hafter hds))
    refine ⟨_, ?_, he ▸ hquiet⟩
    split
    · exact hafter
    · rfl

theorem names_spelling (h : n.WellFormed) : names n.spelling = [] ∧ Closed n.spelling := by
  obtain ⟨q, hq, hmantissa⟩ := quiet_mantissa h
  obtain ⟨r, hr, hexponent⟩ := quiet_exponent h hq
  have hquiet := hmantissa.append hexponent
  cases r with
  | gap | word => exact ⟨hquiet.names_eq_nil rfl, hquiet.closed rfl⟩
  | name | literal => simp [Place.isSilent] at hr

end Numerals

/-! ### Quoted texts -/

section Quoted

variable {cs : List Char} {c : Char}

theorem quiet_plain (hb : c ≠ '\\') (hq : c ≠ '\'') :
    Quiet (.literal false) [c] (.literal false) := by
  refine .cons rfl ?_
  rw [Place.next, if_neg hb, if_neg hq]
  exact .nil

theorem quiet_escaped (c : Char) : Quiet (.literal false) ['\\', c] (.literal false) :=
  .cons rfl (.cons rfl .nil)

theorem quiet_spell (c : Char) : Quiet (.literal false) (Literal.spell c) (.literal false) := by
  unfold Literal.spell
  split
  case h_6 hb hq _ _ _ =>
    split
    · next hc =>
      have hlt : c.toNat < 160 := by
        simp only [isControl, Bool.or_eq_true, Bool.and_eq_true, decide_eq_true_eq] at hc
        omega
      have hdigit : ∀ n < 16, Literal.hexDigit n ≠ '\\' ∧ Literal.hexDigit n ≠ '\'' := by decide
      obtain ⟨hb₁, hq₁⟩ := hdigit (c.toNat / 16) (by omega)
      obtain ⟨hb₂, hq₂⟩ := hdigit (c.toNat % 16) (Nat.mod_lt _ (by decide))
      exact (quiet_escaped 'x').append ((quiet_plain hb₁ hq₁).append (quiet_plain hb₂ hq₂))
    · exact quiet_plain hb hq
  all_goals exact quiet_escaped _

/-- A quoted text is one literal. -/
theorem quiet_quoteChars (cs : List Char) :
    Quiet (.gap false) (Literal.quoteChars cs) (.gap false) := by
  have hspelled : Quiet (.literal false) (cs.flatMap Literal.spell) (.literal false) := by
    induction cs with
    | nil => exact .nil
    | cons c cs ih => exact (quiet_spell c).append ih
  exact .cons rfl (hspelled.append (.cons rfl .nil))

end Quoted

/-! ## Lines -/

section Lines

variable {cs ds : List Char} {origin : String}

theorem uses_assignment (h : '=' ∉ cs) (ds : List Char) : uses (cs ++ '=' :: ds) = names ds := by
  rw [uses, cutFirst_append_cons h]

/-- A list of names with commas uses these names. -/
theorem names_intercalate {ss : List String}
    (h : ∀ s ∈ ss, names s.toList = [s.toList] ∧ Closed s.toList) :
    names (String.intercalate ", " ss).toList = ss.map String.toList := by
  induction ss with
  | nil => rfl
  | cons s ss ih =>
    rw [List.forall_mem_cons] at h
    cases ss with
    | nil => simpa using h.1.1
    | cons t ss =>
      have hblank : Quiet (.gap false) [' '] (.gap false) := ⟨by decide, by decide⟩
      have hcut : (String.intercalate ", " (s :: t :: ss)).toList =
          s.toList ++ ',' :: ([' '] ++ (String.intercalate ", " (t :: ss)).toList) := by
        simp [String.intercalate_cons_cons]
      rw [hcut, names_append_cons (by decide) h.1.2, hblank.names_append.1, ih h.2, h.1.1]
      rfl

theorem importedFrom_append (cs : List Char) :
    importedFrom origin (("from " ++ origin ++ " import ").toList ++ cs) = names cs := by
  rw [importedFrom, if_pos (by simp), List.drop_left]

theorem importedFrom_eq_nil (h : ¬("from " ++ origin ++ " import ").toList <+: cs) :
    importedFrom origin cs = [] := by
  rw [importedFrom, if_neg (by simpa using h)]

end Lines

end Groundwork.Code
