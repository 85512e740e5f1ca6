import Groundwork.Proofs.Json.Reading
import Groundwork.Settings

/-!
# The marker file of a new project

The marker file that is printed for a new project gives the settings of the project back, whatever
its name is (`Settings.ofText?_manifest`). Its tokens are told one after the other, the text of the
name being read like any other.
-/

namespace Groundwork.Settings

open Json

/-- The tokens of the marker file of a new project. -/
def manifestTokens (name : String) : List Token :=
  [.openObject, .scalar (.text "name"), .colon, .scalar (.text name), .comma,
    .scalar (.text "version"), .colon, .scalar (.text "0.1.0"), .comma,
    .scalar (.text "generator"), .colon, .openObject, .scalar (.text "timestamps"), .colon,
    .scalar (.boolean true), .closeObject, .closeObject]

theorem ofChars?_manifest (name : String) :
    Token.ofChars? (manifest name).toList = some (manifestTokens name) := by
  have hopen (cs : List Char) := @Token.ofChars?_next '\x7b' cs _ _ rfl rfl
  have hclose (cs : List Char) := @Token.ofChars?_next '\x7d' cs _ _ rfl rfl
  have hcolon (cs : List Char) := @Token.ofChars?_next ':' cs _ _ rfl rfl
  have hcomma (cs : List Char) := @Token.ofChars?_next ',' cs _ _ rfl rfl
  have hblank (cs : List Char) := @Token.ofChars?_gap ' ' cs rfl
  have htrue (cs : List Char) : Token.ofChars? ("true".toList ++ (newLine 1 ++ cs)) =
      (Token.ofChars? cs).map (.scalar (.boolean true) :: ·) :=
    (Token.ofChars?_boolean true rfl).trans (by rw [← Token.ofChars?_newLine 1 cs]; rfl)
  have hend : Token.ofChars? ['\n'] = some [] := by
    rw [Token.ofChars?_gap rfl, Token.ofChars?]
  simp only [manifest, toJson, Option.map_none, Option.toList_none, print, printMembers, if_true,
    String.toList_ofList, List.append_assoc, List.cons_append, List.nil_append, Nat.zero_add]
  simp only [hopen, hclose, hcolon, hcomma, hblank, htrue, hend, Token.ofChars?_newLine,
    Token.ofChars?_quote, Remainder.val_all, Option.map_some, String.ofList_toList, manifestTokens]

theorem value?_manifestTokens (name : String) :
    ∃ h, value? nestingLimit (manifestTokens name) = some (toJson { name }, ⟨[], h⟩) := by
  refine ⟨by simp [manifestTokens], ?_⟩
  simp [manifestTokens, value?, members?, nestingLimit, toJson]

/-- The marker file of a new project gives its settings back: the name is that of the project, and
everything else is as in the defaults. -/
theorem ofText?_manifest (name : String) : ofText? (manifest name) = some { name } := by
  obtain ⟨h, hvalue⟩ := value?_manifestTokens name
  have hblank : Text.isBlankText (manifest name) = false := by
    rw [Text.isBlankText, manifest, String.toList_ofList, toJson, print]
    rfl
  have hjson : ofJson? (toJson { name }) = some { name } := by
    simp [toJson, ofJson?, member?, orDefault, asText?, asBoolean?, GeneratorSettings.ofJson?,
      List.lookup_cons]
  simp only [ofText?, hblank, Json.ofChars?, ofChars?_manifest, hvalue, Option.bind_eq_bind,
    Option.bind_some, Bool.false_eq_true, if_false, hjson]

end Groundwork.Settings
