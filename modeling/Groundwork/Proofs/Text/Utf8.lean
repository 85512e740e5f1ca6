import Groundwork.Text.Utf8

/-!
# Laws of reading bytes as text

What has been written is read back (`decodeLossy_encode`), and a line feed ends whatever was under
way, so the bytes before it and the bytes after it are read on their own
(`decodeLossy_append_newline`). The second law holds of all bytes, damaged ones included.
-/

namespace Groundwork.Text

namespace Utf8

theorem scan_none_cons (b : UInt8) (bytes : List UInt8) :
    scan none (b :: bytes) = (start b.toNat).1 ++ scan (start b.toNat).2 bytes := rfl

theorem scan_some_cons (p : Partial) (b : UInt8) (bytes : List UInt8) :
    scan (some p) (b :: bytes) = (advance p b.toNat).1 ++ scan (advance p b.toNat).2 bytes := rfl

/-! ## Reading what was written -/

/-- The byte that continues a sequence. -/
theorem toNat_continuation (n : Nat) : (UInt8.ofNat (n % 64 + 0x80)).toNat = n % 64 + 0x80 := by
  rw [UInt8.toNat_ofNat']
  omega

theorem scan_last {value low high n : Nat} (hl : low ≤ n % 64 + 0x80) (hh : n % 64 + 0x80 ≤ high)
    (bytes : List UInt8) :
    scan (some ⟨value, 1, low, high⟩) (UInt8.ofNat (n % 64 + 0x80) :: bytes) =
      some (Char.ofNat (value * 64 + n % 64)) :: scan none bytes := by
  rw [scan_some_cons, toNat_continuation]
  simp [advance, hl, hh]

theorem scan_continuation (missing : Nat) {value low high n : Nat} (hl : low ≤ n % 64 + 0x80)
    (hh : n % 64 + 0x80 ≤ high) (bytes : List UInt8) :
    scan (some ⟨value, missing + 2, low, high⟩) (UInt8.ofNat (n % 64 + 0x80) :: bytes) =
      scan (some ⟨value * 64 + n % 64, missing + 1, 0x80, 0xBF⟩) bytes := by
  rw [scan_some_cons, toNat_continuation]
  simp [advance, hl, hh]

theorem scan_encodeChar (c : Char) (rest : List UInt8) :
    scan none (String.utf8EncodeChar c ++ rest) = some c :: scan none rest := by
  have hv : c.val.toNat < 0xD800 ∨ 0xDFFF < c.val.toNat ∧ c.val.toNat < 0x110000 := c.valid
  have hc (n : Nat) (h : n = c.val.toNat) : Char.ofNat n = c := h ▸ Char.ofNat_toNat c
  fun_cases String.utf8EncodeChar
  case case1 v hv1 =>
    have hb : (UInt8.ofNat v).toNat = v := by
      rw [UInt8.toNat_ofNat']
      omega
    rw [List.singleton_append, scan_none_cons, hb, start, if_pos (by omega), hc v rfl]
    rfl
  case case2 v hv1 hv2 =>
    have hb : (UInt8.ofNat (v / 64 % 0x20 + 0xc0)).toNat = v / 64 + 0xc0 := by
      rw [UInt8.toNat_ofNat']
      omega
    rw [List.cons_append, scan_none_cons, hb, start, if_neg (by omega), if_pos (by omega)]
    simp only [List.nil_append, List.cons_append]
    rw [scan_last (by omega) (by omega), hc _ (by omega)]
  case case3 v hv1 hv2 hv3 =>
    have hb : (UInt8.ofNat (v / 4096 % 0x10 + 0xe0)).toNat = v / 4096 + 0xe0 := by
      rw [UInt8.toNat_ofNat']
      omega
    rw [List.cons_append, scan_none_cons, hb, start, if_neg (by omega), if_neg (by omega),
      if_pos (by omega)]
    simp only [List.nil_append, List.cons_append]
    rw [scan_continuation 0 (by split <;> omega) (by split <;> omega),
      scan_last (by omega) (by omega), hc _ (by omega)]
  case case4 v hv1 hv2 hv3 =>
    have hb : (UInt8.ofNat (v / 262144 % 0x08 + 0xf0)).toNat = v / 262144 + 0xf0 := by
      rw [UInt8.toNat_ofNat']
      omega
    rw [List.cons_append, scan_none_cons, hb, start, if_neg (by omega), if_neg (by omega),
      if_neg (by omega), if_pos (by omega)]
    simp only [List.nil_append, List.cons_append]
    rw [scan_continuation 1 (by split <;> omega) (by split <;> omega),
      scan_continuation 0 (by omega) (by omega),
      scan_last (by omega) (by omega), hc _ (by omega)]

theorem scan_encodeChars (cs : List Char) (rest : List UInt8) :
    scan none (encodeChars cs ++ rest) = cs.map some ++ scan none rest := by
  induction cs with
  | nil => rfl
  | cons c cs ih =>
    rw [encodeChars, List.flatMap_cons, List.append_assoc, scan_encodeChar, ← encodeChars, ih]
    rfl

/-! ## Line feeds -/

/-- What is under way waits for a byte that is not ASCII. -/
def Waits (underWay : Option Partial) : Prop := ∀ p, underWay = some p → 0x80 ≤ p.low

theorem waits_start (b : Nat) : Waits (start b).2 := by
  intro p hp
  unfold start at hp
  split at hp
  · simp at hp
  · split at hp
    · obtain rfl := Option.some.inj hp
      exact Nat.le_refl _
    · split at hp
      · rw [← Option.some.inj hp]
        dsimp only
        split <;> omega
      · split at hp
        · rw [← Option.some.inj hp]
          dsimp only
          split <;> omega
        · simp at hp

theorem waits_advance (p : Partial) (b : Nat) : Waits (advance p b).2 := by
  intro q hq
  unfold advance at hq
  split at hq
  · dsimp only at hq
    split at hq
    · simp at hq
    · obtain rfl := Option.some.inj hq
      exact Nat.le_refl _
  · exact waits_start b q hq

/-- A line feed ends what is under way. -/
theorem scan_append_newline {underWay : Option Partial} (h : Waits underWay)
    (bytes more : List UInt8) :
    scan underWay (bytes ++ 10 :: more) = scan underWay bytes ++ some '\n' :: scan none more := by
  induction bytes generalizing underWay with
  | nil =>
    cases underWay with
    | none => rfl
    | some p =>
      have hp := h p rfl
      rw [List.nil_append, scan_some_cons, advance, if_neg (by simp; omega)]
      rfl
  | cons b bytes ih =>
    cases underWay with
    | none =>
      rw [List.cons_append, scan_none_cons, scan_none_cons, ih (waits_start _), List.append_assoc]
    | some p =>
      rw [List.cons_append, scan_some_cons, scan_some_cons, ih (waits_advance _ _),
        List.append_assoc]

end Utf8

open Utf8

theorem scan_encode (s : String) : scan none (encode s) = s.toList.map some := by
  have h := scan_encodeChars s.toList []
  rw [List.append_nil] at h
  rw [encode, h]
  simp [scan]

theorem decode?_encode (s : String) : decode? (encode s) = some s := by
  have hid : (s.toList.map some).mapM id = some s.toList := by
    induction s.toList with
    | nil => rfl
    | cons c cs ih => simp [ih]
  rw [decode?, scan_encode, hid, Option.map_some, String.ofList_toList]

theorem decodeLossy_encode (s : String) : decodeLossy (encode s) = s.toList := by
  rw [decodeLossy, scan_encode]
  simp [Function.comp_def]

theorem decodeLossy_append_newline (bytes more : List UInt8) :
    decodeLossy (bytes ++ 10 :: more) = decodeLossy bytes ++ '\n' :: decodeLossy more := by
  have hw : Waits none := by
    intro _ h
    cases h
  simp [decodeLossy, scan_append_newline hw]

end Groundwork.Text
