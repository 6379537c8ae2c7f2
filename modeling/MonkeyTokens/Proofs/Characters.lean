/-
# Bytes and characters, there and back

A token is shown with one character for each of its bytes, and what is shown leaves as UTF-8.  Neither
loses anything: `latin1Bytes?` takes the characters back to the bytes, and reading UTF-8 takes what
was written back to the characters (`utf8?_utf8`).

For cutting what was written into lines it matters which bytes a character is written with.  A byte
below 128 stands for the character of the same value and is part of no other (`mem_utf8_of_lt`), so a
line feed is written only where there is one.
-/
import MonkeyTokens.Text.Bytes

namespace MonkeyTokens.Text

/-! ## 1. One character a byte -/

/-- The byte whose value is the code point. -/
def latin1Byte? (c : Char) : Option UInt8 :=
  if c.toNat < 256 then some (UInt8.ofNat c.toNat) else none

/-- The bytes that characters show, one each. -/
def latin1Bytes? (cs : List Char) : Option Bytes :=
  cs.mapM latin1Byte?

/-- The character of a byte has the value of the byte. -/
theorem toNat_ofUInt8 (b : UInt8) : (Char.ofUInt8 b).toNat = b.toNat := rfl

theorem latin1Byte?_ofUInt8 (b : UInt8) : latin1Byte? (Char.ofUInt8 b) = some b := by
  rw [latin1Byte?, toNat_ofUInt8, if_pos b.toNat_lt, UInt8.ofNat_toNat]

/-- Elements that are taken back one by one are taken back together. -/
theorem mapM_map_eq_some {α β : Type} {f : α → β} {g : β → Option α} :
    ∀ {xs : List α}, (∀ x ∈ xs, g (f x) = some x) → (xs.map f).mapM g = some xs
  | [], _ => rfl
  | x :: xs, h => by
    have ih := mapM_map_eq_some fun y hy => h y (List.mem_cons_of_mem x hy)
    rw [List.map_cons, List.mapM_cons, h x List.mem_cons_self, ih]
    rfl

/-- **What is shown of bytes tells the bytes.** -/
theorem latin1Bytes?_latin1 (bytes : Bytes) : latin1Bytes? (latin1 bytes) = some bytes :=
  mapM_map_eq_some fun b _ => latin1Byte?_ofUInt8 b

/-! ## 2. UTF-8 -/

/-- **What was written is read again.** -/
theorem utf8?_utf8 (cs : List Char) : utf8? (utf8 cs) = some (String.ofList cs) := by
  have hvalid : (utf8 cs).toByteArray.IsValidUTF8 := .intro cs rfl
  rw [utf8?, String.fromUTF8?, dif_pos hvalid]
  rfl

/-- A character below 128 is written as the byte of its value. -/
theorem utf8EncodeChar_of_lt {c : Char} (h : c.toNat < 128) :
    String.utf8EncodeChar c = [UInt8.ofNat c.toNat] := by
  unfold String.utf8EncodeChar
  exact if_pos (Nat.le_of_lt_succ h)

/-- A byte below 128 is written for the character of its value only. -/
theorem toNat_eq_of_mem_utf8EncodeChar {c : Char} {b : UInt8} (hb : b < 128)
    (h : b ∈ String.utf8EncodeChar c) : c.toNat = b.toNat := by
  have hlt : b.toNat < 128 := UInt8.lt_iff_toNat_lt.mp hb
  -- every other byte of a character carries at least 128
  have hhigh : ∀ n, n < 256 → 128 ≤ n → b ≠ UInt8.ofNat n := by
    rintro n hn hle rfl
    rw [UInt8.toNat_ofNat_of_lt' hn] at hlt
    omega
  unfold String.utf8EncodeChar at h
  simp only at h
  split at h
  · rename_i hle
    have hsize : c.val.toNat < UInt8.size := Nat.lt_of_le_of_lt hle (by decide)
    rw [List.mem_singleton.mp h, UInt8.toNat_ofNat_of_lt' hsize]
    rfl
  · exfalso
    split at h
    · simp only [List.mem_cons, List.not_mem_nil, or_false] at h
      rcases h with h | h <;> exact hhigh _ (by omega) (by omega) h
    · split at h
      · simp only [List.mem_cons, List.not_mem_nil, or_false] at h
        rcases h with h | h | h <;> exact hhigh _ (by omega) (by omega) h
      · simp only [List.mem_cons, List.not_mem_nil, or_false] at h
        rcases h with h | h | h | h <;> exact hhigh _ (by omega) (by omega) h

/-- The same of a text. -/
theorem mem_utf8_of_lt {cs : List Char} {b : UInt8} (hb : b < 128) (h : b ∈ utf8 cs) :
    ∃ c ∈ cs, c.toNat = b.toNat := by
  obtain ⟨c, hc, hmem⟩ := List.mem_flatMap.mp h
  exact ⟨c, hc, toNat_eq_of_mem_utf8EncodeChar hb hmem⟩

end MonkeyTokens.Text
