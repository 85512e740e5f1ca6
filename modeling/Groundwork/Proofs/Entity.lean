import Groundwork.Proofs.Entry
import Groundwork.Proofs.Text.Trim
import Groundwork.Proofs.Text.Uppercase
import Mathlib.Control.Monad.Basic

/-!
# Class names as names

The class name of an entity begins with an upper-case letter and has no blanks, so nothing of it is
trimmed off. Read as a name again it gives the same entity, provided that it is an identifier at
all; and whether it is depends on the first letter of the name that was typed, since the rest has
been checked (`Entity.parse_typeName`). The upper-case form of most letters is a letter or several,
but that of `ǰ` and of a few others is a letter with a mark, and marks are not accepted in names
(`Entity.parse_caron`).
-/

namespace Groundwork

open Text

/-! ## Blank ends -/

theorem not_blank_of_identifierTail {cs : List Char} (h : isIdentifierTail cs = true) {c : Char}
    (hc : c ∈ cs) : isBlank c = false := by
  have ht := List.all_eq_true.1 h c hc
  rw [Bool.or_eq_true, beq_iff_eq] at ht
  obtain ha | rfl := ht
  · exact not_blank_of_alphanumeric ha
  · decide

theorem isIdentifierTail_append (cs ds : List Char) :
    isIdentifierTail (cs ++ ds) = (isIdentifierTail cs && isIdentifierTail ds) :=
  List.all_append

namespace Entity

variable {c u : Char} {us rest name : List Char}

/-- The class name for a name that can be made one. -/
theorem typeName?_cons (hc : isAlphabetic c = true) (hrest : isIdentifierTail rest = true)
    (hu : upperForm c = u :: us) (hup : isUppercase u = true) :
    typeName? (c :: rest) = some (u :: us ++ rest) := by
  simp [typeName?, hc, hrest, hu, hup]

/-- A class name has no blanks. -/
theorem trimChars_typeName (hc : isAlphabetic c = true) (hrest : isIdentifierTail rest = true) :
    trimChars (upperForm c ++ rest) = upperForm c ++ rest := by
  refine trimChars_of_not_blank fun d hd => ?_
  rcases List.mem_append.1 hd with hd | hd
  · rcases mem_upperForm hd with rfl | hd
    · exact not_blank_of_alphanumeric (by simp [isAlphanumeric, hc])
    · exact hd.2
  · exact not_blank_of_identifierTail hrest hd

/-- A class name that is an identifier is the class name for itself. -/
theorem typeName?_typeName (hup : isUppercase u = true)
    (h : isIdentifierTail (u :: us ++ rest) = true) :
    typeName? (u :: us ++ rest) = some (u :: us ++ rest) := by
  have htail : isIdentifierTail (us ++ rest) = true := by
    rw [isIdentifierTail, List.cons_append, List.all_cons, Bool.and_eq_true] at h
    exact h.2
  exact typeName?_cons (alphabetic_of_uppercase hup) htail (upperForm_of_uppercase hup) hup

/-- A text that can be made a class name is an identifier. -/
theorem isIdentifierTail_of_typeName? {cs : List Char} (h : typeName? cs = some name) :
    isIdentifierTail cs = true := by
  obtain ⟨c, rest, u, us, rfl, hc, hrest, -⟩ := typeName?_eq_some h
  rw [isIdentifierTail, List.all_cons, ← isIdentifierTail, hrest, isAlphanumeric, hc]
  rfl

/-- **Normal names.** The class name of an accepted entity begins with an upper-case letter. As a
name it is accepted again, for the same entity, just in case the upper-case form of the first letter
that was typed consists of letters, numbers and underscores; and just then all of the class name
does. -/
theorem parse_typeName {raw : String} {entity : Entity} (h : parse raw = .ok entity) :
    ∃ first rest, trimChars raw.toList = first :: rest ∧
      (∃ u us, entity.typeName.toList = u :: us ∧ isUppercase u = true) ∧
      (parse entity.typeName = .ok entity ↔ isIdentifierTail (upperForm first) = true) ∧
      ((∀ c ∈ entity.typeName.toList, isAlphanumeric c = true ∨ c = '_') ↔
        isIdentifierTail (upperForm first) = true) := by
  obtain ⟨name, hname, rfl⟩ := parse_eq_ok h
  obtain ⟨c, rest, u, us, hraw, hc, hrest, hu, hup, rfl⟩ := typeName?_eq_some hname
  have hiff : isIdentifierTail (u :: us ++ rest) = isIdentifierTail (upperForm c) := by
    rw [isIdentifierTail_append, hrest, Bool.and_true, hu]
  have htrim : trimChars (u :: us ++ rest) = u :: us ++ rest := by
    have hblank := trimChars_typeName hc hrest
    rwa [hu] at hblank
  refine ⟨c, rest, hraw, ⟨u, us ++ rest, String.toList_ofList, hup⟩, ?_, ?_⟩
  · rw [← hiff]
    constructor
    · intro hparse
      obtain ⟨name', hname', -⟩ := parse_eq_ok hparse
      rw [String.toList_ofList, htrim] at hname'
      exact isIdentifierTail_of_typeName? hname'
    · intro hid
      rw [parse, String.toList_ofList, htrim, typeName?_typeName hup hid]
  · rw [← hiff, String.toList_ofList, isIdentifierTail, List.all_eq_true]
    simp only [Bool.or_eq_true, beq_iff_eq]

/-- The upper-case form of `ß` consists of two letters, and a name that begins with it is normal
from the first time on. -/
theorem parse_typeName_eszett :
    parse " ßeta_1 " = .ok ⟨"SSeta_1", "sseta_1"⟩ ∧
      parse "SSeta_1" = .ok ⟨"SSeta_1", "sseta_1"⟩ := by
  have h : parse " ßeta_1 " = .ok ⟨"SSeta_1", "sseta_1"⟩ := by decide +kernel
  obtain ⟨first, rest, hraw, -, hparse, -⟩ := parse_typeName h
  obtain rfl : first = 'ß' := by
    have hhead : trimChars " ßeta_1 ".toList = 'ß' :: "eta_1".toList := by decide +kernel
    exact (List.cons.inj (hraw.symm.trans hhead)).1
  exact ⟨h, hparse.2 (by decide +kernel)⟩

/-- The upper-case form of `ǰ` is `J` with a caron, which is no letter: the class name that `ǰ` is
given is refused as a name. -/
theorem parse_caron :
    parse "\u01f0" = .ok ⟨"J\u030c", "j\u030c"⟩ ∧
      parse "J\u030c" = .error (.invalidEntityName "J\u030c") ∧
      isAlphanumeric '\u030c' = false := by
  decide +kernel

end Entity

end Groundwork
