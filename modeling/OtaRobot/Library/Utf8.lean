import Mathlib.Tactic.Common

/-!
# Mapping the letters of a byte string

A decoder that goes through arbitrary bytes letter by letter, replaces what is no encoding of a
letter, and encodes what a function makes of each letter.  The result can be longer or shorter
than the bytes.

Main results:

- Theorem {lit}`mapRunes_append`: a byte below 128 ends whatever stands before it.
- Theorem {lit}`mapRunes_infix`: a piece below 128 is mapped byte by byte, wherever it stands.
-/

namespace Utf8

/-- The replacement character. -/
def runeError : Char :=
  '\ufffd'

/-- The first letter and the number of its bytes.  A byte that does not begin an encoding is a
letter of its own. -/
def decodeRune (bytes : List UInt8) : Char × Nat :=
  match bytes.toByteArray.utf8DecodeChar? 0 with
  | some c => (c, c.utf8Size)
  | none => (runeError, 1)

/-- The encodings of the images of all letters.  The number says how many bytes at the front
belong to a letter that was read before. -/
def mapRunes (f : Char → Char) : Nat → List UInt8 → List UInt8
  | _, [] => []
  | skip + 1, _ :: bytes => mapRunes f skip bytes
  | 0, b :: bytes =>
      let rune := decodeRune (b :: bytes)
      String.utf8EncodeChar (f rune.1) ++ mapRunes f (rune.2 - 1) bytes

/-! ## Decoding -/

/-- A letter is read where its encoding stands at the front. -/
theorem utf8DecodeChar?_eq_some_iff {bytes : List UInt8} {c : Char} :
    bytes.toByteArray.utf8DecodeChar? 0 = some c ↔ String.utf8EncodeChar c <+: bytes := by
  constructor
  · intro h
    obtain ⟨rest, hrest⟩ := ByteArray.exists_of_utf8DecodeChar?_eq_some h
    refine ⟨rest.data.toList, ?_⟩
    rw [← List.toByteArray_inj, List.toByteArray_append, hrest]
    congr 1
    exact ByteArray.ext (by simp)
  · rintro ⟨rest, rfl⟩
    rw [List.toByteArray_append]
    exact ByteArray.utf8DecodeChar?_utf8EncodeChar_append

/-- What holds of the first 128 numbers holds of the bytes below 128. -/
theorem forall_lt_of_ofNat {P : UInt8 → Prop} (h : ∀ n < 128, P (UInt8.ofNat n)) {a : UInt8}
    (ha : a < 128) : P a := by
  have hofNat := h a.toNat (UInt8.lt_iff_toNat_lt.mp ha)
  rwa [UInt8.ofNat_toNat] at hofNat

/-- A byte below 128 starts a character. -/
theorem isUTF8FirstByte_of_lt {a : UInt8} (ha : a < 128) : a.IsUTF8FirstByte :=
  forall_lt_of_ofNat (by decide) ha

/-- Only the first byte of an encoding can be below 128. -/
theorem prefix_of_prefix_append {c : Char} {xs ys : List UInt8} {a : UInt8} (ha : a < 128)
    (hxs : xs ≠ []) (h : String.utf8EncodeChar c <+: xs ++ a :: ys) :
    String.utf8EncodeChar c <+: xs := by
  by_cases hlength : (String.utf8EncodeChar c).length ≤ xs.length
  · exact List.prefix_of_prefix_length_le h (List.prefix_append xs (a :: ys)) hlength
  · have hlt : xs.length < (String.utf8EncodeChar c).length := by omega
    have ha' : (String.utf8EncodeChar c)[xs.length] = a := by
      rw [h.getElem hlt]
      simp
    have hfirst : (String.utf8EncodeChar c)[xs.length].IsUTF8FirstByte := by
      rw [ha']
      exact isUTF8FirstByte_of_lt ha
    have hzero : xs.length = 0 := UInt8.isUTF8FirstByte_getElem_utf8EncodeChar.mp hfirst
    exact absurd (List.length_eq_zero_iff.mp hzero) hxs

/-- A byte below 128 does not change what is read before it. -/
theorem decodeRune_append {xs : List UInt8} {a : UInt8} (ha : a < 128) (hxs : xs ≠ [])
    (ys : List UInt8) : decodeRune (xs ++ a :: ys) = decodeRune xs := by
  have hsame : (xs ++ a :: ys).toByteArray.utf8DecodeChar? 0 =
      xs.toByteArray.utf8DecodeChar? 0 := by
    apply Option.ext
    intro c
    rw [utf8DecodeChar?_eq_some_iff, utf8DecodeChar?_eq_some_iff]
    constructor
    · exact prefix_of_prefix_append ha hxs
    · intro h
      exact h.trans (List.prefix_append xs (a :: ys))
  unfold decodeRune
  rw [hsame]

/-- A letter does not reach beyond the bytes. -/
theorem decodeRune_width_le {xs : List UInt8} (hxs : xs ≠ []) : (decodeRune xs).2 ≤ xs.length := by
  unfold decodeRune
  split
  · next c hc =>
      have hlength := (utf8DecodeChar?_eq_some_iff.mp hc).length_le
      rwa [String.length_utf8EncodeChar] at hlength
  · exact List.length_pos_iff.mpr hxs

/-- The letter of a byte below 128. -/
theorem utf8EncodeChar_of_lt {a : UInt8} (ha : a < 128) :
    String.utf8EncodeChar (Char.ofNat a.toNat) = [a] :=
  forall_lt_of_ofNat (P := fun a => String.utf8EncodeChar (Char.ofNat a.toNat) = [a]) (by decide) ha

/-- The encoding of a letter below 128. -/
theorem utf8EncodeChar_of_toNat_lt {c : Char} (hc : c.toNat < 128) :
    String.utf8EncodeChar c = [UInt8.ofNat c.toNat] := by
  have hbyte : (UInt8.ofNat c.toNat).toNat = c.toNat := by
    rw [UInt8.toNat_ofNat']
    omega
  have hlt : UInt8.ofNat c.toNat < 128 := by
    rw [UInt8.lt_iff_toNat_lt, hbyte]
    exact hc
  have hencode := utf8EncodeChar_of_lt hlt
  rwa [hbyte, Char.ofNat_toNat] at hencode

/-- A text of letters below 128 has one byte for each of them. -/
theorem toUTF8_of_ascii {s : String} (hs : ∀ c ∈ s.toList, c.toNat < 128) :
    s.toUTF8.data.toList = s.toList.map fun c => UInt8.ofNat c.toNat := by
  have hflat : s.toUTF8.data.toList = s.toList.flatMap String.utf8EncodeChar := by
    rw [String.toUTF8_eq_toByteArray, ← String.utf8Encode_toList, List.utf8Encode]
    simp
  rw [hflat]
  generalize s.toList = cs at hs ⊢
  induction cs with
  | nil => rfl
  | cons c cs ih =>
      rw [List.flatMap_cons, utf8EncodeChar_of_toNat_lt (hs c List.mem_cons_self),
        ih fun c' hc' => hs c' (List.mem_cons_of_mem c hc')]
      rfl

/-- A byte below 128 is a character. -/
theorem decodeRune_of_lt {a : UInt8} (ha : a < 128) (ys : List UInt8) :
    decodeRune (a :: ys) = (Char.ofNat a.toNat, 1) := by
  have hencode := utf8EncodeChar_of_lt ha
  have hdecode : (a :: ys).toByteArray.utf8DecodeChar? 0 = some (Char.ofNat a.toNat) := by
    rw [utf8DecodeChar?_eq_some_iff, hencode]
    exact ⟨ys, rfl⟩
  have hsize : (Char.ofNat a.toNat).utf8Size = 1 := by
    rw [← String.length_utf8EncodeChar, hencode]
    rfl
  unfold decodeRune
  rw [hdecode]
  simp [hsize]

/-! ## Mapping -/

/-- A byte below 128 ends whatever stands before it. -/
theorem mapRunes_append (f : Char → Char) {a : UInt8} (ha : a < 128) (ys : List UInt8)
    (xs : List UInt8) (skip : Nat) (hskip : skip ≤ xs.length) :
    mapRunes f skip (xs ++ a :: ys) = mapRunes f skip xs ++ mapRunes f 0 (a :: ys) := by
  induction xs generalizing skip with
  | nil =>
      obtain rfl : skip = 0 := Nat.le_zero.mp hskip
      rfl
  | cons x xs ih =>
      cases skip with
      | succ skip => exact ih skip (Nat.le_of_succ_le_succ hskip)
      | zero =>
          have hread := decodeRune_append ha (List.cons_ne_nil x xs) ys
          have hwidth := decodeRune_width_le (List.cons_ne_nil x xs)
          rw [List.cons_append] at hread ⊢
          rw [List.length_cons] at hwidth
          rw [mapRunes, hread, ih _ (by omega)]
          exact (List.append_assoc _ _ _).symm

/-- Bytes below 128 are mapped one by one, as {lean}`g` says. -/
theorem mapRunes_window {f : Char → Char} {g : UInt8 → UInt8}
    (hfg : ∀ b < 128, String.utf8EncodeChar (f (Char.ofNat b.toNat)) = [g b])
    {window : List UInt8} (hwindow : ∀ b ∈ window, b < 128) (ys : List UInt8) :
    mapRunes f 0 (window ++ ys) = window.map g ++ mapRunes f 0 ys := by
  induction window with
  | nil => rfl
  | cons b window ih =>
      have hb := hwindow b List.mem_cons_self
      have hrest := ih fun b' hb' => hwindow b' (List.mem_cons_of_mem b hb')
      rw [List.cons_append, mapRunes, decodeRune_of_lt hb, hfg b hb]
      exact congrArg (g b :: ·) hrest

/-- A piece below 128 is mapped byte by byte, wherever it stands. -/
theorem mapRunes_infix {f : Char → Char} {g : UInt8 → UInt8}
    (hfg : ∀ b < 128, String.utf8EncodeChar (f (Char.ofNat b.toNat)) = [g b])
    {window : List UInt8} (hwindow : ∀ b ∈ window, b < 128) (xs ys : List UInt8) :
    window.map g <:+: mapRunes f 0 (xs ++ (window ++ ys)) := by
  cases window with
  | nil => exact List.nil_infix
  | cons a window =>
      have ha := hwindow a List.mem_cons_self
      refine ⟨mapRunes f 0 xs, mapRunes f 0 ys, ?_⟩
      rw [List.cons_append, mapRunes_append f ha (window ++ ys) xs 0 (Nat.zero_le _),
        ← List.cons_append, mapRunes_window hfg hwindow, List.append_assoc]

end Utf8
