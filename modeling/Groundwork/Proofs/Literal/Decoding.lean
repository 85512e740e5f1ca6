import Groundwork.Proofs.Json.Reading
import Groundwork.Proofs.Literal

/-!
# Reading literals back

How the generated code is understood where a quoted text stands in it: the literal is read from its
opening quote on, a backslash begins an escape, and the first quote that is not escaped ends it
(`Literal.read?`). A character is read back from its spelling whatever follows (`inside?_spell`):
after `\x` stand two digits and no more, so that no character of the text is taken for a third one.
Hence a quoted text is read as the text that was quoted, up to the quote at its end, and quoting
loses nothing (`Literal.quote_read_back`).
-/

namespace Groundwork.Literal

open Text

/-! ## The reader -/

/-- The character that a backslash and a letter or sign stand for. -/
def escaped? : Char → Option Char
  | '\\' => some '\\'
  | '\'' => some '\''
  | 'n' => some '\n'
  | 'r' => some '\r'
  | 't' => some '\t'
  | _ => none

/-- The character whose number two hexadecimal digits denote. -/
def numbered? (a b : Char) : Option Char := do
  let high ← Json.Token.hexValue? a
  let low ← Json.Token.hexValue? b
  pure (Char.ofNat (high * 16 + low))

/-- The text up to the quote that ends a literal, and what follows it. The line must not end before
the literal does. -/
def inside? : List Char → Option (List Char × List Char)
  | [] => none
  | '\'' :: rest => some ([], rest)
  | '\\' :: 'x' :: a :: b :: cs => do
    let c ← numbered? a b
    let (text, rest) ← inside? cs
    pure (c :: text, rest)
  | '\\' :: e :: cs => do
    let c ← escaped? e
    let (text, rest) ← inside? cs
    pure (c :: text, rest)
  | c :: cs =>
    if c = '\\' || c = '\n' || c = '\r' then none
    else do
      let (text, rest) ← inside? cs
      pure (c :: text, rest)

/-- The text of the literal that a piece of code begins with, and what follows the literal. -/
def read? : List Char → Option (List Char × List Char)
  | '\'' :: cs => inside? cs
  | _ => none

/-! ## Single characters -/

section Characters

variable {c e a b : Char} {cs text rest : List Char}

theorem inside?_escaped (he : escaped? e = some c) (h : inside? cs = some (text, rest)) :
    inside? ('\\' :: e :: cs) = some (c :: text, rest) := by
  have hx : e ≠ 'x' := by
    rintro rfl
    cases he
  rw [inside?.eq_4 e cs fun _ _ _ hx' _ => hx hx', he, h]
  rfl

theorem inside?_numbered (hc : numbered? a b = some c) (h : inside? cs = some (text, rest)) :
    inside? ('\\' :: 'x' :: a :: b :: cs) = some (c :: text, rest) := by
  rw [inside?, hc, h]
  rfl

theorem inside?_plain (hquote : c ≠ '\'') (hslash : c ≠ '\\') (hfeed : c ≠ '\n')
    (hreturn : c ≠ '\r') (h : inside? cs = some (text, rest)) :
    inside? (c :: cs) = some (c :: text, rest) := by
  rw [inside?.eq_5 c cs hquote (fun _ _ _ hs _ => hslash hs) fun _ _ hs _ => hslash hs, h]
  simp [hslash, hfeed, hreturn]

/-- All control characters have numbers of two digits. -/
theorem numbered?_of_control (hc : isControl c = true) :
    numbered? (hexDigit (c.toNat / 16)) (hexDigit (c.toNat % 16)) = some c := by
  have hlt : c.toNat < 160 := by
    simp only [isControl, Bool.or_eq_true, Bool.and_eq_true, decide_eq_true_eq] at hc
    omega
  have hhigh : Json.Token.hexValue? (hexDigit (c.toNat / 16)) = some (c.toNat / 16) :=
    Json.Token.hexValue?_digitChar (by omega)
  have hlow : Json.Token.hexValue? (hexDigit (c.toNat % 16)) = some (c.toNat % 16) :=
    Json.Token.hexValue?_digitChar (by omega)
  have hnumber : c.toNat / 16 * 16 + c.toNat % 16 = c.toNat := by omega
  simp only [numbered?, hhigh, hlow, hnumber, Char.ofNat_toNat, Option.bind_eq_bind,
    Option.bind_some, Option.pure_def]

/-- A character is read back from its spelling. -/
theorem inside?_spell (c : Char) (h : inside? cs = some (text, rest)) :
    inside? (spell c ++ cs) = some (c :: text, rest) := by
  unfold spell
  split
  case h_6 hslash hquote hfeed hreturn _ =>
    split
    · next hc => exact inside?_numbered (numbered?_of_control hc) h
    · exact inside?_plain hquote hslash hfeed hreturn h
  -- a backslash, a quote, a line end or a tab has an escape of its own
  all_goals exact inside?_escaped rfl h

end Characters

/-! ## Texts -/

/-- A text is read back from its spelling, up to the quote that ends it. -/
theorem inside?_flatMap_spell (cs rest : List Char) :
    inside? (cs.flatMap spell ++ '\'' :: rest) = some (cs, rest) := by
  induction cs with
  | nil => exact inside?.eq_2 rest
  | cons c cs ih =>
    rw [List.flatMap_cons, List.append_assoc]
    exact inside?_spell c ih

theorem read?_quoteChars (cs rest : List Char) :
    read? (quoteChars cs ++ rest) = some (cs, rest) := by
  rw [quoteChars, List.cons_append, List.append_assoc, read?]
  exact inside?_flatMap_spell cs rest

/-- **Quoted texts are read back.** The literal of a text, read from its opening quote on, is taken
whole and denotes that text, whatever code follows it. No control character stands in it, and two
texts never have the same literal. -/
theorem quote_read_back :
    (∀ (s : String) (rest : List Char),
      read? ((quote s).toList ++ rest) = some (s.toList, rest)) ∧
    (∀ s : String, ∀ c ∈ (quote s).toList, isControl c = false) ∧
    Function.Injective quote := by
  have hread (s : String) (rest : List Char) :
      read? ((quote s).toList ++ rest) = some (s.toList, rest) := by
    rw [quote, String.toList_ofList]
    exact read?_quoteChars s.toList rest
  refine ⟨hread, ?_, ?_⟩
  · intro s c hc
    rw [quote, String.toList_ofList] at hc
    exact not_control_of_mem_quoteChars hc
  · intro s t hst
    have hs := hread s []
    rw [hst, hread t []] at hs
    have htext : t.toList = s.toList := congrArg Prod.fst (Option.some.inj hs)
    exact String.toList_inj.1 htext.symm

/-- A control character stands between a backslash and a digit, and a quote ends the text: the digit
is not taken for a part of the number, nor the quote for the end of the literal. -/
theorem quote_read_back_control :
    quote "\\\x01f'" = "'\\\\\\x01f\\''" ∧
      read? ((quote "\\\x01f'").toList ++ " + 'x'".toList) =
        some ("\\\x01f'".toList, " + 'x'".toList) ∧
      isControl '\x01' = true ∧ '\x01' ∉ (quote "\\\x01f'").toList ∧
      quote "\\\x01f'" ≠ quote "\\\x1f'" := by
  obtain ⟨hread, hclear, hinjective⟩ := quote_read_back
  refine ⟨by decide, hread _ _, by decide, fun hmem => ?_, fun heq => ?_⟩
  · exact absurd (hclear _ _ hmem) (by decide)
  · exact absurd (hinjective heq) (by decide)

end Groundwork.Literal
