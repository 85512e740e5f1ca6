import Groundwork.Proofs.Text.Character
import Groundwork.Proofs.Text.Utf8

/-!
# What bytes were read from

Reading takes bytes apart, in order, into the spellings of characters and into damage
(`Utf8.reads_scan`). So a character that is read lenient stands in the bytes with its own spelling,
unless it is the replacement character: bytes that are read as a text without replacement
characters are the spelling of this text (`encodeChars_decodeLossy`), and a line feed is read from
nothing but the byte that spells it (`mem_of_newline_mem`). Bytes that are read strictly are those
of the text (`decode?_eq_some_iff`).
-/

namespace Groundwork.Text

namespace Utf8

/-- Bytes are taken apart into spellings of characters and damage. -/
inductive Reads : List UInt8 → List (Option Char) → Prop
  /-- Nothing is left. -/
  | nil : Reads [] []
  /-- The bytes begin with the spelling of a character. -/
  | character (c : Char) {bytes : List UInt8} {read : List (Option Char)} (h : Reads bytes read) :
    Reads (String.utf8EncodeChar c ++ bytes) (some c :: read)
  /-- The bytes begin with damage. -/
  | damage (broken : List UInt8) {bytes : List UInt8} {read : List (Option Char)}
    (h : Reads bytes read) : Reads (broken ++ bytes) (none :: read)

/-! ## Sequences under way -/

/-- The bytes `tail` complete the sequence under way to the character `c`. -/
inductive Completes : Partial → List UInt8 → Char → Prop
  /-- One byte is missing. -/
  | last {p : Partial} {b : UInt8} (hb : p.low ≤ b.toNat ∧ b.toNat ≤ p.high)
    (hm : p.missing ≤ 1) : Completes p [b] (Char.ofNat (p.value * 64 + (b.toNat - 0x80)))
  /-- More bytes are missing. -/
  | more {p : Partial} {b : UInt8} {tail : List UInt8} {c : Char}
    (hb : p.low ≤ b.toNat ∧ b.toNat ≤ p.high) (hm : ¬ p.missing ≤ 1)
    (h : Completes ⟨p.value * 64 + (b.toNat - 0x80), p.missing - 1, 0x80, 0xBF⟩ tail c) :
    Completes p (b :: tail) c

theorem Completes.of_last {value low high : Nat} {tail : List UInt8} {c : Char}
    (h : Completes ⟨value, 1, low, high⟩ tail c) :
    ∃ b, tail = [b] ∧ (low ≤ b.toNat ∧ b.toNat ≤ high) ∧
      c = Char.ofNat (value * 64 + (b.toNat - 0x80)) := by
  generalize hp : (⟨value, 1, low, high⟩ : Partial) = p at h
  cases h with
  | last hb =>
    subst hp
    exact ⟨_, rfl, hb, rfl⟩
  | more _ hm =>
    subst hp
    exact absurd (Nat.le_refl 1) hm

theorem Completes.of_more (missing : Nat) {value low high : Nat} {tail : List UInt8} {c : Char}
    (h : Completes ⟨value, missing + 2, low, high⟩ tail c) :
    ∃ b rest, tail = b :: rest ∧ (low ≤ b.toNat ∧ b.toNat ≤ high) ∧
      Completes ⟨value * 64 + (b.toNat - 0x80), missing + 1, 0x80, 0xBF⟩ rest c := by
  generalize hp : (⟨value, missing + 2, low, high⟩ : Partial) = p at h
  cases h with
  | last _ hm =>
    subst hp
    exact absurd hm (by simp)
  | more hb _ h =>
    subst hp
    exact ⟨_, _, rfl, hb, h⟩

/-- The bytes `front` have led to the sequence under way: whatever completes it gives the spelling
of a character. -/
def LeadsTo (front : List UInt8) (p : Partial) : Prop :=
  ∀ tail c, Completes p tail c → front ++ tail = String.utf8EncodeChar c

theorem val_ofNat {n : Nat} (h : n.isValidChar) : (Char.ofNat n).val.toNat = n :=
  toNat_ofNat h

theorem ofNat_eq {n : Nat} (b : UInt8) (h : n = b.toNat) : UInt8.ofNat n = b := by
  rw [h, UInt8.ofNat_toNat]

variable {b d e f : UInt8}

theorem utf8EncodeChar_two (hb : 0xC2 ≤ b.toNat ∧ b.toNat ≤ 0xDF)
    (hd : 0x80 ≤ d.toNat ∧ d.toNat ≤ 0xBF) :
    String.utf8EncodeChar (Char.ofNat ((b.toNat - 0xC0) * 64 + (d.toNat - 0x80))) = [b, d] := by
  have hvalid : ((b.toNat - 0xC0) * 64 + (d.toNat - 0x80)).isValidChar := .inl (by omega)
  simp only [String.utf8EncodeChar, val_ofNat hvalid]
  rw [if_neg (by omega), if_pos (by omega), ofNat_eq b (by omega),
    ofNat_eq d (by omega)]

theorem utf8EncodeChar_three (hb : 0xE0 ≤ b.toNat ∧ b.toNat ≤ 0xEF)
    (hd : (if b.toNat = 0xE0 then 0xA0 else 0x80) ≤ d.toNat ∧
      d.toNat ≤ if b.toNat = 0xED then 0x9F else 0xBF)
    (he : 0x80 ≤ e.toNat ∧ e.toNat ≤ 0xBF) :
    String.utf8EncodeChar (Char.ofNat
      (((b.toNat - 0xE0) * 64 + (d.toNat - 0x80)) * 64 + (e.toNat - 0x80))) = [b, d, e] := by
  have hvalid : (((b.toNat - 0xE0) * 64 + (d.toNat - 0x80)) * 64 +
      (e.toNat - 0x80)).isValidChar := by
    rw [Nat.isValidChar]
    split at hd <;> split at hd <;> omega
  have hlow : 0x80 ≤ d.toNat := by split at hd <;> omega
  have hhigh : d.toNat ≤ 0xBF := by split at hd <;> split at hd <;> omega
  have hlong : b.toNat = 0xE0 → 0xA0 ≤ d.toNat := fun h => by
    rw [if_pos h] at hd
    exact hd.1
  simp only [String.utf8EncodeChar, val_ofNat hvalid]
  rw [if_neg (by omega), if_neg (by omega), if_pos (by omega), ofNat_eq b (by omega),
    ofNat_eq d (by omega), ofNat_eq e (by omega)]

theorem utf8EncodeChar_four (hb : 0xF0 ≤ b.toNat ∧ b.toNat ≤ 0xF4)
    (hd : (if b.toNat = 0xF0 then 0x90 else 0x80) ≤ d.toNat ∧
      d.toNat ≤ if b.toNat = 0xF4 then 0x8F else 0xBF)
    (he : 0x80 ≤ e.toNat ∧ e.toNat ≤ 0xBF) (hf : 0x80 ≤ f.toNat ∧ f.toNat ≤ 0xBF) :
    String.utf8EncodeChar (Char.ofNat
      ((((b.toNat - 0xF0) * 64 + (d.toNat - 0x80)) * 64 + (e.toNat - 0x80)) * 64 +
        (f.toNat - 0x80))) = [b, d, e, f] := by
  have hlow : 0x80 ≤ d.toNat := by split at hd <;> omega
  have hhigh : d.toNat ≤ 0xBF := by split at hd <;> split at hd <;> omega
  have hlong : b.toNat = 0xF0 → 0x90 ≤ d.toNat := fun h => by
    rw [if_pos h] at hd
    exact hd.1
  have hlast : b.toNat = 0xF4 → d.toNat ≤ 0x8F := fun h => by
    rw [if_pos h] at hd
    exact hd.2
  have hvalid : ((((b.toNat - 0xF0) * 64 + (d.toNat - 0x80)) * 64 + (e.toNat - 0x80)) * 64 +
      (f.toNat - 0x80)).isValidChar := .inr ⟨by omega, by omega⟩
  simp only [String.utf8EncodeChar, val_ofNat hvalid]
  rw [if_neg (by omega), if_neg (by omega), if_neg (by omega), ofNat_eq b (by omega),
    ofNat_eq d (by omega), ofNat_eq e (by omega), ofNat_eq f (by omega)]

theorem leadsTo_two (hb : 0xC2 ≤ b.toNat ∧ b.toNat ≤ 0xDF) :
    LeadsTo [b] ⟨b.toNat - 0xC0, 1, 0x80, 0xBF⟩ := by
  intro tail c h
  obtain ⟨d, rfl, hd, hc⟩ := h.of_last
  rw [hc, utf8EncodeChar_two hb hd]
  rfl

theorem leadsTo_three (hb : 0xE0 ≤ b.toNat ∧ b.toNat ≤ 0xEF) :
    LeadsTo [b] ⟨b.toNat - 0xE0, 2, if b.toNat = 0xE0 then 0xA0 else 0x80,
      if b.toNat = 0xED then 0x9F else 0xBF⟩ := by
  intro tail c h
  obtain ⟨d, tail, rfl, hd, h⟩ := Completes.of_more 0 h
  obtain ⟨e, rfl, he, hc⟩ := h.of_last
  rw [hc, utf8EncodeChar_three hb hd he]
  rfl

theorem leadsTo_four (hb : 0xF0 ≤ b.toNat ∧ b.toNat ≤ 0xF4) :
    LeadsTo [b] ⟨b.toNat - 0xF0, 3, if b.toNat = 0xF0 then 0x90 else 0x80,
      if b.toNat = 0xF4 then 0x8F else 0xBF⟩ := by
  intro tail c h
  obtain ⟨d, tail, rfl, hd, h⟩ := Completes.of_more 1 h
  obtain ⟨e, tail, rfl, he, h⟩ := Completes.of_more 0 h
  obtain ⟨f, rfl, hf, hc⟩ := h.of_last
  rw [hc, utf8EncodeChar_four hb hd he hf]
  rfl

/-- A byte with no sequence under way is a character, begins a sequence, or is damage. -/
theorem start_cases (b : UInt8) :
    start b.toNat = ([some (Char.ofNat b.toNat)], none) ∧
        String.utf8EncodeChar (Char.ofNat b.toNat) = [b] ∨
      (∃ p, start b.toNat = ([], some p) ∧ LeadsTo [b] p) ∨ start b.toNat = ([none], none) := by
  by_cases h1 : b.toNat < 0x80
  · have hvalid : b.toNat.isValidChar := .inl (by omega)
    refine .inl ⟨by rw [start, if_pos h1], ?_⟩
    simp only [String.utf8EncodeChar, val_ofNat hvalid]
    rw [if_pos (by omega), UInt8.ofNat_toNat]
  · by_cases h2 : 0xC2 ≤ b.toNat ∧ b.toNat ≤ 0xDF
    · exact .inr (.inl ⟨_, by rw [start, if_neg h1, if_pos h2], leadsTo_two h2⟩)
    · by_cases h3 : 0xE0 ≤ b.toNat ∧ b.toNat ≤ 0xEF
      · exact .inr (.inl ⟨_, by rw [start, if_neg h1, if_neg h2, if_pos h3], leadsTo_three h3⟩)
      · by_cases h4 : 0xF0 ≤ b.toNat ∧ b.toNat ≤ 0xF4
        · exact .inr (.inl
            ⟨_, by rw [start, if_neg h1, if_neg h2, if_neg h3, if_pos h4], leadsTo_four h4⟩)
        · exact .inr (.inr (by rw [start, if_neg h1, if_neg h2, if_neg h3, if_neg h4]))

/-! ## The whole reading -/

/-- Reading takes bytes apart into spellings of characters and damage. If a sequence is under way,
the bytes that have led to it belong to what is read next. -/
theorem reads_scan (bytes : List UInt8) :
    Reads bytes (scan none bytes) ∧
      ∀ p front, LeadsTo front p → Reads (front ++ bytes) (scan (some p) bytes) := by
  induction bytes with
  | nil => exact ⟨.nil, fun p front _ => .damage front .nil⟩
  | cons b bytes ih =>
    obtain ⟨hidle, hunder⟩ := ih
    have hfresh : Reads (b :: bytes) (scan none (b :: bytes)) := by
      rw [scan_none_cons]
      obtain ⟨hs, hb⟩ | ⟨p, hs, hp⟩ | hs := start_cases b <;> rw [hs]
      · have hread := Reads.character (Char.ofNat b.toNat) hidle
        rwa [hb] at hread
      · exact hunder p [b] hp
      · exact .damage [b] hidle
    refine ⟨hfresh, fun p front hp => ?_⟩
    rw [scan_some_cons, advance]
    split
    · next hb =>
      dsimp only
      split
      · next hm =>
        have hread := Reads.character (Char.ofNat (p.value * 64 + (b.toNat - 0x80))) hidle
        rw [← hp [b] _ (.last hb hm), List.append_assoc] at hread
        exact hread
      · next hm =>
        have hnext : LeadsTo (front ++ [b])
            ⟨p.value * 64 + (b.toNat - 0x80), p.missing - 1, 0x80, 0xBF⟩ := by
          intro tail c hc
          rw [List.append_assoc]
          exact hp (b :: tail) c (.more hb hm hc)
        have hread := hunder _ _ hnext
        rw [List.append_assoc] at hread
        exact hread
    · -- what was under way has broken off, and the byte is read afresh
      exact .damage front hfresh

variable {bytes : List UInt8} {read : List (Option Char)}

/-- What is read without damage is the spelling of its characters. -/
theorem Reads.eq_encodeChars {cs : List Char} (h : Reads bytes (cs.map some)) :
    bytes = encodeChars cs := by
  induction cs generalizing bytes with
  | nil =>
    cases h
    rfl
  | cons c cs ih =>
    cases h with
    | character _ h =>
      rw [ih h, encodeChars, encodeChars, List.flatMap_cons]

/-- The spelling of a character that is read is found in the bytes. -/
theorem Reads.subset {c : Char} (h : Reads bytes read) (hc : some c ∈ read) :
    String.utf8EncodeChar c ⊆ bytes := by
  induction h with
  | nil => cases hc
  | character d h ih =>
    rcases List.mem_cons.1 hc with hc | hc
    · cases hc
      exact List.subset_append_left _ _
    · exact List.Subset.trans (ih hc) (List.subset_append_right _ _)
  | damage broken h ih =>
    rcases List.mem_cons.1 hc with hc | hc
    · cases hc
    · exact List.Subset.trans (ih hc) (List.subset_append_right _ _)

end Utf8

open Utf8

variable {bytes : List UInt8}

/-- Bytes in which no replacement character is read are the spelling of what is read. -/
theorem encodeChars_decodeLossy (h : '\uFFFD' ∉ decodeLossy bytes) :
    encodeChars (decodeLossy bytes) = bytes := by
  have hread : (decodeLossy bytes).map some = scan none bytes := by
    rw [decodeLossy, List.map_map]
    refine (List.map_congr_left fun read hmem => ?_).trans (List.map_id _)
    cases read with
    | some c => rfl
    | none => exact absurd (List.mem_map.2 ⟨none, hmem, rfl⟩) h
  exact (Reads.eq_encodeChars (hread ▸ (reads_scan bytes).1)).symm

/-- A line feed is read from the byte that spells it. -/
theorem mem_of_newline_mem (h : '\n' ∈ decodeLossy bytes) : 10 ∈ bytes := by
  obtain ⟨read, hmem, hread⟩ := List.mem_map.1 h
  cases read with
  | some c =>
    obtain rfl : c = '\n' := hread
    exact (reads_scan bytes).1.subset hmem (List.mem_singleton_self _)
  | none => cases hread

theorem encodeChars_append (cs ds : List Char) :
    encodeChars (cs ++ ds) = encodeChars cs ++ encodeChars ds :=
  List.flatMap_append

theorem decodeLossy_encodeChars (cs : List Char) : decodeLossy (encodeChars cs) = cs := by
  have h := scan_encodeChars cs []
  rw [List.append_nil] at h
  rw [decodeLossy, h]
  simp [scan, Function.comp_def]

theorem mapM_id_eq_some {read : List (Option Char)} {cs : List Char}
    (h : read.mapM id = some cs) : read = cs.map some := by
  induction read generalizing cs with
  | nil =>
    rw [List.mapM_nil] at h
    cases h
    rfl
  | cons first read ih =>
    rw [List.mapM_cons] at h
    obtain ⟨c, hc, h⟩ := Option.bind_eq_some_iff.1 h
    obtain ⟨cs', hcs, h⟩ := Option.bind_eq_some_iff.1 h
    cases h
    rw [ih hcs, List.map_cons, ← hc, id_def]

/-- Bytes are read as a text just if they are its bytes. -/
theorem decode?_eq_some_iff {s : String} : decode? bytes = some s ↔ bytes = encode s := by
  constructor
  · intro h
    obtain ⟨cs, hcs, rfl⟩ := Option.map_eq_some_iff.1 h
    have hread := (reads_scan bytes).1
    rw [mapM_id_eq_some hcs] at hread
    rw [encode, String.toList_ofList]
    exact hread.eq_encodeChars
  · rintro rfl
    exact decode?_encode s

end Groundwork.Text
