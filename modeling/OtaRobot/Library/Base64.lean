import Mathlib.Data.List.GetD
import Mathlib.Tactic.Common

/-!
# Base64

The standard alphabet with padding.  Three bytes are four digits of six bits; a rest of one or
two bytes is padded with {lit}`=`.  The decoder skips line breaks, wants the padding, and does
not look at the bits the padding leaves over.

Main results:

- Theorem {lit}`Base64.decode_encode`: a text that was encoded reads back as the bytes.
-/

namespace Base64

/-- The digits in the order of their values. -/
def alphabet : List Char :=
  ['A', 'B', 'C', 'D', 'E', 'F', 'G', 'H', 'I', 'J', 'K', 'L', 'M', 'N', 'O', 'P', 'Q', 'R', 'S',
    'T', 'U', 'V', 'W', 'X', 'Y', 'Z', 'a', 'b', 'c', 'd', 'e', 'f', 'g', 'h', 'i', 'j', 'k', 'l',
    'm', 'n', 'o', 'p', 'q', 'r', 's', 't', 'u', 'v', 'w', 'x', 'y', 'z', '0', '1', '2', '3', '4',
    '5', '6', '7', '8', '9', '+', '/']

/-- The digit of six bits. -/
def digit (n : Nat) : Char :=
  alphabet.getD n '='

/-- The six bits of a digit. -/
def value (c : Char) : Option Nat :=
  alphabet.idxOf? c

/-- The characters a decoder skips. -/
def isLineBreak (c : Char) : Bool :=
  c = '\n' || c = '\r'

/-! ## Encoding -/

/-- Three bytes make four digits; the rest is filled up. -/
def encodeBytes : List UInt8 → List Char
  | [] => []
  | [a] => [digit (a.toNat / 4), digit (a.toNat % 4 * 16), '=', '=']
  | [a, b] =>
      [digit (a.toNat / 4), digit (a.toNat % 4 * 16 + b.toNat / 16), digit (b.toNat % 16 * 4), '=']
  | a :: b :: c :: data =>
      digit (a.toNat / 4) :: digit (a.toNat % 4 * 16 + b.toNat / 16) ::
        digit (b.toNat % 16 * 4 + c.toNat / 64) :: digit (c.toNat % 64) :: encodeBytes data

/-- The text of bytes. -/
def encode (data : List UInt8) : String :=
  String.ofList (encodeBytes data)

/-! ## Decoding -/

/-- The digits without line breaks, four at a time. -/
def decodeDigits : List Char → Option (List UInt8)
  | [] => some []
  | a :: b :: c :: d :: rest => do
      let v ← value a
      let w ← value b
      if c = '=' ∧ d = '=' then
        if rest = [] then some [UInt8.ofNat (v * 4 + w / 16)] else none
      else
        let x ← value c
        if d = '=' then
          if rest = [] then
            some [UInt8.ofNat (v * 4 + w / 16), UInt8.ofNat (w % 16 * 16 + x / 4)]
          else none
        else
          let y ← value d
          let data ← decodeDigits rest
          some (UInt8.ofNat (v * 4 + w / 16) :: UInt8.ofNat (w % 16 * 16 + x / 4) ::
            UInt8.ofNat (x % 4 * 64 + y) :: data)
  | _ => none

/-- The bytes of a text, if it is one of bytes. -/
def decode (s : String) : Option (List UInt8) :=
  decodeDigits (s.toList.filter fun c => !isLineBreak c)

/-! ## Round trips -/

/-- A digit reads back as its value. -/
theorem value_digit : ∀ n < 64, value (digit n) = some n := by
  decide

/-- A digit is not the padding. -/
theorem digit_ne_padding : ∀ n < 64, digit n ≠ '=' := by
  decide

/-- What the 64 digits and the padding have in common, every digit has. -/
theorem forall_digit {P : Char → Prop} (hdigits : ∀ m < 64, P (digit m)) (hpadding : P '=')
    (n : Nat) : P (digit n) := by
  by_cases hn : n < 64
  · exact hdigits n hn
  · have hdefault : digit n = '=' := List.getD_eq_default _ _ (by simpa [alphabet] using hn)
    rw [hdefault]
    exact hpadding

/-- The same of everything that is written. -/
theorem forall_mem_encodeBytes {P : Char → Prop} (hdigits : ∀ m < 64, P (digit m))
    (hpadding : P '=') (data : List UInt8) : ∀ c ∈ encodeBytes data, P c := by
  have hdigit := forall_digit hdigits hpadding
  induction data using encodeBytes.induct with
  | case1 => simp [encodeBytes]
  | case2 a => simp [encodeBytes, hdigit, hpadding]
  | case3 a b => simp [encodeBytes, hdigit, hpadding]
  | case4 a b c data ih => simpa [encodeBytes, hdigit] using ih

/-- A byte put together from its parts. -/
theorem ofNat_eq {n : Nat} {a : UInt8} (h : n = a.toNat) : UInt8.ofNat n = a := by
  rw [h, UInt8.ofNat_toNat]

/-- Bytes are decoded as they were encoded. -/
theorem decodeDigits_encodeBytes (data : List UInt8) :
    decodeDigits (encodeBytes data) = some data := by
  induction data using encodeBytes.induct with
  | case1 => rfl
  | case2 a =>
      have ha : a.toNat < 256 := a.toNat_lt
      have hfirst : UInt8.ofNat (a.toNat / 4 * 4 + a.toNat % 4 * 16 / 16) = a :=
        ofNat_eq (by omega)
      simp only [encodeBytes, decodeDigits, value_digit (a.toNat / 4) (by omega),
        value_digit (a.toNat % 4 * 16) (by omega), Option.bind_eq_bind, Option.bind_some, and_self,
        if_true, hfirst]
  | case3 a b =>
      have ha : a.toNat < 256 := a.toNat_lt
      have hb : b.toNat < 256 := b.toNat_lt
      have hpad := digit_ne_padding (b.toNat % 16 * 4) (by omega)
      have hfirst : UInt8.ofNat (a.toNat / 4 * 4 + (a.toNat % 4 * 16 + b.toNat / 16) / 16) = a :=
        ofNat_eq (by omega)
      have hsecond : UInt8.ofNat ((a.toNat % 4 * 16 + b.toNat / 16) % 16 * 16 +
          b.toNat % 16 * 4 / 4) = b := ofNat_eq (by omega)
      simp only [encodeBytes, decodeDigits, value_digit (a.toNat / 4) (by omega),
        value_digit (a.toNat % 4 * 16 + b.toNat / 16) (by omega),
        value_digit (b.toNat % 16 * 4) (by omega), Option.bind_eq_bind, Option.bind_some, hpad,
        false_and, if_false, if_true, hfirst, hsecond]
  | case4 a b c data ih =>
      have ha : a.toNat < 256 := a.toNat_lt
      have hb : b.toNat < 256 := b.toNat_lt
      have hc : c.toNat < 256 := c.toNat_lt
      have hpad := digit_ne_padding (c.toNat % 64) (by omega)
      have hfirst : UInt8.ofNat (a.toNat / 4 * 4 + (a.toNat % 4 * 16 + b.toNat / 16) / 16) = a :=
        ofNat_eq (by omega)
      have hsecond : UInt8.ofNat ((a.toNat % 4 * 16 + b.toNat / 16) % 16 * 16 +
          (b.toNat % 16 * 4 + c.toNat / 64) / 4) = b := ofNat_eq (by omega)
      have hthird : UInt8.ofNat ((b.toNat % 16 * 4 + c.toNat / 64) % 4 * 64 + c.toNat % 64) = c :=
        ofNat_eq (by omega)
      simp only [encodeBytes, decodeDigits, value_digit (a.toNat / 4) (by omega),
        value_digit (a.toNat % 4 * 16 + b.toNat / 16) (by omega),
        value_digit (b.toNat % 16 * 4 + c.toNat / 64) (by omega),
        value_digit (c.toNat % 64) (by omega), ih, Option.bind_eq_bind, Option.bind_some, hpad,
        and_false, if_false, hfirst, hsecond, hthird]

/-- No line break is encoded. -/
theorem encodeBytes_noLineBreak (data : List UInt8) :
    ∀ c ∈ encodeBytes data, isLineBreak c = false :=
  forall_mem_encodeBytes (P := fun c => isLineBreak c = false) (by decide) rfl data

/-- A text that was encoded reads back as the bytes. -/
theorem decode_encode (data : List UInt8) : decode (encode data) = some data := by
  have hkeep : (encodeBytes data).filter (fun c => !isLineBreak c) = encodeBytes data := by
    apply List.filter_eq_self.mpr
    intro c hc
    rw [encodeBytes_noLineBreak data c hc]
    rfl
  rw [decode, encode, String.toList_ofList, hkeep]
  exact decodeDigits_encodeBytes data

/-- Nothing is encoded as the empty text but the empty list. -/
theorem eq_nil_of_encode_eq_empty {data : List UInt8} (h : encode data = "") : data = [] := by
  have hdecode := decode_encode data
  rw [h] at hdecode
  exact (Option.some.inj hdecode).symm

end Base64
