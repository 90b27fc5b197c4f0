import Bookmarks.Json.Reader
import Bookmarks.Json.Writer

/-! Texts are read back as they were written. Each character stands for one code unit or two, which
are escaped one by one; no character is half of another, so the units join again in one way only. -/

namespace Bookmarks.Json

theorem hexValue?_digitChar : ∀ d < 16, hexValue? (Nat.digitChar d) = some d := by decide

theorem hexValue4?_hexDigits {n : Nat} (h : n < 0x10000) :
    hexValue4? (Nat.digitChar (n / 4096 % 16)) (Nat.digitChar (n / 256 % 16))
      (Nat.digitChar (n / 16 % 16)) (Nat.digitChar (n % 16)) = some n := by
  have digit : ∀ m, hexValue? (Nat.digitChar (m % 16)) = some (m % 16) := fun m =>
    hexValue?_digitChar _ (Nat.mod_lt m (by decide))
  simp only [hexValue4?, digit]
  simp
  omega

theorem readUnits_escapeUnit {n : Nat} (h : n < 0x10000) (rest : List Char) :
    readUnits (escapeUnit n ++ rest) = (readUnits rest).map fun (units, rest) =>
      (n :: units, rest) := by
  simp only [escapeUnit, hexDigits, List.cons_append, List.nil_append, readUnits,
    hexValue4?_hexDigits h]
  cases readUnits rest <;> rfl

/-- The code units of a character: one, or two halves past the first plane. -/
def unitsOf (c : Char) : List Nat :=
  if c.toNat < 0x10000 then [c.toNat]
  else [0xD800 + (c.toNat - 0x10000) / 1024, 0xDC00 + (c.toNat - 0x10000) % 1024]

theorem toNat_valid (c : Char) : c.toNat < 0xD800 ∨ 0xDFFF < c.toNat ∧ c.toNat < 0x110000 := c.valid

theorem unitsOf_of_lt {c : Char} (h : c.toNat < 0x10000) : unitsOf c = [c.toNat] := if_pos h

theorem readUnits_plain {c : Char} (quote : c ≠ '"') (slash : c ≠ '\\') (printed : 0x20 ≤ c.toNat)
    (rest : List Char) :
    readUnits (c :: rest) = (readUnits rest).map fun (units, rest) => (c.toNat :: units, rest) := by
  have shown : ¬(c.toNat < 0x20 ∨ c = '\\') := by
    simp [slash]
    omega
  rw [readUnits]
  · simp only [if_neg shown]
    cases readUnits rest <;> rfl
  · exact quote
  · intro a b c d rest same _
    exact slash same
  · intro d rest same _
    exact slash same

theorem readUnits_escaped {c : Char} {n : Nat} (stands : unescape? c = some n)
    (rest : List Char) :
    readUnits ('\\' :: c :: rest) = (readUnits rest).map fun (units, rest) =>
      (n :: units, rest) := by
  rw [readUnits]
  · simp only [stands]
    cases readUnits rest <;> rfl
  · intro a b d e rest same _
    rw [same] at stands
    cases stands

theorem readUnits_escapeChar (c : Char) (rest : List Char) :
    readUnits (escapeChar c ++ rest) = (readUnits rest).map fun (units, rest) =>
      (unitsOf c ++ units, rest) := by
  -- a letter after the backslash
  have named : ∀ d, unescape? d = some c.toNat → escapeChar c = ['\\', d] →
      readUnits (escapeChar c ++ rest) = (readUnits rest).map fun (units, rest) =>
        (unitsOf c ++ units, rest) := by
    intro d stands text
    have small : c.toNat < 0x10000 := by
      unfold unescape? at stands
      split at stands <;> grind
    rw [text, unitsOf_of_lt small]
    exact readUnits_escaped stands rest
  by_cases h1 : c = '"'
  · exact named '"' (by rw [h1]; rfl) (by rw [h1]; rfl)
  by_cases h2 : c = '\\'
  · exact named '\\' (by rw [h2]; rfl) (by rw [h2]; rfl)
  by_cases h3 : c = '\n'
  · exact named 'n' (by rw [h3]; rfl) (by rw [h3]; rfl)
  by_cases h4 : c = '\r'
  · exact named 'r' (by rw [h4]; rfl) (by rw [h4]; rfl)
  by_cases h5 : c = '\t'
  · exact named 't' (by rw [h5]; rfl) (by rw [h5]; rfl)
  by_cases h6 : c.toNat = 12
  · exact named 'f' (by rw [h6]; rfl) (by simp [escapeChar, h1, h2, h3, h4, h5, h6])
  by_cases h7 : c.toNat = 8
  · exact named 'b' (by rw [h7]; rfl) (by simp [escapeChar, h1, h2, h3, h4, h5, h7])
  simp only [escapeChar, h1, h2, h3, h4, h5, h6, h7, if_false]
  split
  · next printed =>
    rw [unitsOf_of_lt (by omega)]
    exact readUnits_plain h1 h2 printed.1 rest
  · split
    · next small =>
      rw [unitsOf_of_lt small]
      exact readUnits_escapeUnit small rest
    · next large =>
      have valid := toNat_valid c
      rw [unitsOf, if_neg large, List.append_assoc, readUnits_escapeUnit (by omega),
        readUnits_escapeUnit (by omega), Option.map_map]
      rfl

theorem readUnits_quote (s rest : List Char) :
    readUnits (s.flatMap escapeChar ++ '"' :: rest) = some (s.flatMap unitsOf, rest) := by
  induction s with
  | nil => rfl
  | cons c s ih =>
    rw [List.flatMap_cons, List.append_assoc, readUnits_escapeChar, ih, List.flatMap_cons]
    rfl

theorem lone_toNat (c : Char) : joinHalves.lone c.toNat = c := by
  have valid := toNat_valid c
  rw [joinHalves.lone, if_neg (by omega), Char.ofNat_toNat]

theorem joinHalves_unitsOf (c : Char) (units : List Nat) :
    joinHalves (unitsOf c ++ units) = c :: joinHalves units := by
  have valid := toNat_valid c
  by_cases small : c.toNat < 0x10000
  · rw [unitsOf_of_lt small, List.singleton_append]
    cases units with
    | nil => rw [joinHalves, joinHalves, lone_toNat]
    | cons low units => rw [joinHalves, if_neg (by omega), lone_toNat]
  · have joined : 0x10000 + (0xD800 + (c.toNat - 0x10000) / 1024 - 0xD800) * 1024 +
        (0xDC00 + (c.toNat - 0x10000) % 1024 - 0xDC00) = c.toNat := by omega
    rw [unitsOf, if_neg small, List.cons_append, List.cons_append, joinHalves,
      if_pos (by omega), joined, Char.ofNat_toNat, List.nil_append]

theorem joinHalves_flatMap (s : List Char) : joinHalves (s.flatMap unitsOf) = s := by
  induction s with
  | nil => rfl
  | cons c s ih => rw [List.flatMap_cons, joinHalves_unitsOf, ih]

/-- A quoted text is read as the text, after its opening quote. -/
theorem readText_quote (s : String) (rest : List Char) :
    readText (s.toList.flatMap escapeChar ++ '"' :: rest) = .ok (s, rest) := by
  rw [readText, readUnits_quote]
  simp only [joinHalves_flatMap, String.ofList_toList]

end Bookmarks.Json
