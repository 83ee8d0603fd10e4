import Mathlib.Data.List.TakeWhile
import Mathlib.Tactic.Common
import OtaRobot.Library.Hex

/-!
# JSON texts

The grammar of RFC 8259 as a reader and a writer of values.  The reader takes any white
space, any order of members and any escape; it nests up to a depth its caller chooses and
keeps the literals of numbers.  The writer escapes what must be escaped, and what would be
markup inside HTML.

A string of the grammar is read in two passes, as a list of pieces first: an escape
{lit}`\\u` stands for one code unit of UTF-16, and two units may make one character.

Main results:

- Theorem {lit}`JsonText.parse_render`: a written value reads back.
- Theorem {lit}`JsonText.parseInt_literalOf`: an integer reads back from its literal.
-/

namespace JsonText

/-- A text by its characters. -/
abbrev Text := List Char

/-- Values; a number is its literal. -/
inductive Value where
  | null
  | bool (b : Bool)
  | number (literal : Text)
  | string (s : Text)
  | array (items : List Value)
  | object (members : List (Text × Value))

/-! ## Strings -/

/-- The code unit four digits stand for. -/
def codeUnit (a b c d : Char) : Option Nat := do
  let a ← Hex.value a
  let b ← Hex.value b
  let c ← Hex.value c
  let d ← Hex.value d
  return ((a * 16 + b) * 16 + c) * 16 + d

/-- The characters with an escape of their own, and the letters of the escapes. -/
def shortEscapes : List (Char × Char) :=
  [('"', '"'), ('\\', '\\'), ('\x08', 'b'), ('\x0c', 'f'), ('\n', 'n'), ('\r', 'r'), ('\t', 't')]

/-- The letter that escapes the character, if there is one. -/
def shortEscape (c : Char) : Option Char :=
  (shortEscapes.find? fun p => p.1 = c).map Prod.snd

/-- What the letter after a backslash stands for; a slash may be escaped as well. -/
def unescape (e : Char) : Option Char :=
  ((shortEscapes ++ [('/', '/')]).find? fun p => p.2 = e).map Prod.fst

/-- Characters written by their code unit: control characters, markup, and two line
separators. -/
def isCoded (c : Char) : Bool :=
  c.toNat < 32 || c = '<' || c = '>' || c = '&' || c = '\u2028' || c = '\u2029'

/-- A character in a string: itself, a short escape, or the four digits of its code. -/
def escape (c : Char) : Text :=
  match shortEscape c with
  | some e => ['\\', e]
  | none =>
      if isCoded c then
        ['\\', 'u', Nat.digitChar (c.toNat / 4096), Nat.digitChar (c.toNat / 256 % 16),
          Nat.digitChar (c.toNat / 16 % 16), Nat.digitChar (c.toNat % 16)]
      else [c]

/-- A string with its quotes. -/
def quote (s : Text) : Text :=
  '"' :: (s.flatMap escape ++ ['"'])

/-- A character, or the code unit of an escape. -/
inductive Piece where
  | rune (c : Char)
  | unit (n : Nat)
deriving DecidableEq, Repr

/-- The pieces up to the closing quote. -/
def scanString : Text → Option (List Piece × Text)
  | [] => none
  | c :: cs =>
      if c = '"' then some ([], cs)
      else if c = '\\' then
        match cs with
        | [] => none
        | e :: cs =>
            if e = 'u' then
              match cs with
              | h₁ :: h₂ :: h₃ :: h₄ :: cs => do
                  let n ← codeUnit h₁ h₂ h₃ h₄
                  let r ← scanString cs
                  return (.unit n :: r.1, r.2)
              | _ => none
            else do
              let c ← unescape e
              let r ← scanString cs
              return (.rune c :: r.1, r.2)
      else if c.toNat < 32 then none
      else do
        let r ← scanString cs
        return (.rune c :: r.1, r.2)

/-- The first half of a pair. -/
def isHighSurrogate (n : Nat) : Bool :=
  0xd800 ≤ n && n < 0xdc00

/-- The second half of a pair. -/
def isLowSurrogate (n : Nat) : Bool :=
  0xdc00 ≤ n && n < 0xe000

/-- A unit that is half a character is replaced. -/
def unitChar (n : Nat) : Char :=
  if isHighSurrogate n || isLowSurrogate n then '\ufffd' else Char.ofNat n

/-- Halves that follow each other are joined; a half without its other one is replaced. -/
def joinPieces : List Piece → Text
  | [] => []
  | .rune c :: ps => c :: joinPieces ps
  | .unit n :: ps =>
      match ps.head? with
      | some (.unit m) =>
          -- A low half on its own is one character of the rest.
          if isHighSurrogate n && isLowSurrogate m then
            Char.ofNat ((n - 0xd800) * 1024 + (m - 0xdc00) + 0x10000) :: (joinPieces ps).tail
          else unitChar n :: joinPieces ps
      | _ => unitChar n :: joinPieces ps

/-- A string after its opening quote. -/
def string (cs : Text) : Option (Text × Text) :=
  (scanString cs).map fun r => (joinPieces r.1, r.2)

/-! ### A written string reads back -/

/-- Four digits are read as the number they were written for. -/
theorem codeUnit_digits {n : Nat} (h : n < 65536) :
    codeUnit (Nat.digitChar (n / 4096)) (Nat.digitChar (n / 256 % 16))
      (Nat.digitChar (n / 16 % 16)) (Nat.digitChar (n % 16)) = some n := by
  have h₁ := Hex.value_digitChar (n / 4096) (by omega)
  have h₂ := Hex.value_digitChar (n / 256 % 16) (by omega)
  have h₃ := Hex.value_digitChar (n / 16 % 16) (by omega)
  have h₄ := Hex.value_digitChar (n % 16) (by omega)
  have hsum : ((n / 4096 * 16 + n / 256 % 16) * 16 + n / 16 % 16) * 16 + n % 16 = n := by omega
  simp [codeUnit, h₁, h₂, h₃, h₄, hsum]

/-- The piece a written character is read as. -/
def pieceOf (c : Char) : Piece :=
  if shortEscape c = none ∧ isCoded c = true then .unit c.toNat else .rune c

/-- Every short escape is read as its character, and none is the letter of a code. -/
theorem unescape_shortEscapes : ∀ p ∈ shortEscapes, unescape p.2 = some p.1 ∧ p.2 ≠ 'u' := by
  decide

/-- A short escape is read as its character. -/
theorem unescape_shortEscape {c e : Char} (h : shortEscape c = some e) :
    unescape e = some c ∧ e ≠ 'u' := by
  obtain ⟨p, hp, rfl⟩ := Option.map_eq_some_iff.mp h
  have hc : p.1 = c := by simpa using List.find?_some hp
  exact hc ▸ unescape_shortEscapes p (List.mem_of_find?_eq_some hp)

/-- A coded character is one code unit and no half of a pair. -/
theorem toNat_of_isCoded {c : Char} (h : isCoded c = true) : c.toNat < 0xd800 := by
  simp only [isCoded, Bool.or_eq_true, decide_eq_true_eq] at h
  rcases h with ((((h | rfl) | rfl) | rfl) | rfl) | rfl
  · omega
  all_goals decide

/-- An escaped character is read as its piece. -/
theorem scanString_escape (c : Char) (cs : Text) :
    scanString (escape c ++ cs) =
      (scanString cs).map fun r => (pieceOf c :: r.1, r.2) := by
  unfold escape
  cases hshort : shortEscape c with
  | some e =>
      obtain ⟨hunescape, hu⟩ := unescape_shortEscape hshort
      rw [List.cons_append, scanString.eq_def]
      simp [hunescape, hu, pieceOf, hshort, Option.map_eq_bind, Function.comp_def]
  | none =>
      by_cases hcoded : isCoded c = true
      · have hunit := codeUnit_digits (n := c.toNat)
          (Nat.lt_trans (toNat_of_isCoded hcoded) (by decide))
        simp only [hcoded, if_true, List.cons_append, List.nil_append]
        rw [scanString.eq_def]
        simp [hunit, pieceOf, hshort, hcoded, Option.map_eq_bind, Function.comp_def]
      · have hquote : c ≠ '"' := by
          rintro rfl
          exact absurd hshort (by decide)
        have hbackslash : c ≠ '\\' := by
          rintro rfl
          exact absurd hshort (by decide)
        have hcontrol : ¬ c.toNat < 32 := by
          intro hlt
          simp [isCoded, hlt] at hcoded
        rw [if_neg hcoded, List.cons_append, scanString.eq_def]
        simp [hquote, hbackslash, hcontrol, pieceOf, hcoded, Option.map_eq_bind,
          Function.comp_def]

/-- An escaped text is read as its pieces, up to the quote. -/
theorem scanString_flatMap (s cs : Text) :
    scanString (s.flatMap escape ++ '"' :: cs) = some (s.map pieceOf, cs) := by
  induction s with
  | nil => simp [scanString.eq_def ('"' :: cs)]
  | cons c s ih =>
      rw [List.flatMap_cons, List.append_assoc, scanString_escape, ih]
      rfl

/-- Pieces without halves of pairs are read one by one. -/
theorem joinPieces_map (s : Text) : joinPieces (s.map pieceOf) = s := by
  have hpiece : ∀ c ps, joinPieces (pieceOf c :: ps) = c :: joinPieces ps := by
    intro c ps
    unfold pieceOf
    split
    · rename_i hcoded
      have hlt := toNat_of_isCoded hcoded.2
      have hhigh : isHighSurrogate c.toNat = false := by
        simp only [isHighSurrogate, Bool.and_eq_false_iff, decide_eq_false_iff_not]
        omega
      have hlow : isLowSurrogate c.toNat = false := by
        simp only [isLowSurrogate, Bool.and_eq_false_iff, decide_eq_false_iff_not]
        omega
      have hchar : unitChar c.toNat = c := by
        simp [unitChar, hhigh, hlow, Char.ofNat_toNat]
      rw [joinPieces]
      split
      · simp [hhigh, hchar]
      · rw [hchar]
    · rfl
  induction s with
  | nil => rfl
  | cons c s ih => rw [List.map_cons, hpiece, ih]

/-- A quoted string is read as it was. -/
theorem string_quote (s cs : Text) : string (s.flatMap escape ++ '"' :: cs) = some (s, cs) := by
  rw [string, scanString_flatMap, Option.map_some, joinPieces_map]

/-! ## Numbers -/

/-- One or more digits. -/
def digits (cs : Text) : Option (Text × Text) :=
  if cs.takeWhile Char.isDigit = [] then none
  else some (cs.takeWhile Char.isDigit, cs.dropWhile Char.isDigit)

/-- One of the signs, or none. -/
def sign (signs : List Char) : Text → Text × Text
  | [] => ([], [])
  | c :: cs => if c ∈ signs then ([c], cs) else ([], c :: cs)

/-- No digit follows a leading zero. -/
def integerPart : Text → Option (Text × Text)
  | [] => none
  | c :: cs => if c = '0' then some ([c], cs) else digits (c :: cs)

/-- The fraction of a number, if it has one. -/
def fraction : Text → Option (Text × Text)
  | [] => some ([], [])
  | c :: cs =>
      if c = '.' then (digits cs).map fun r => (c :: r.1, r.2) else some ([], c :: cs)

/-- The exponent of a number, if it has one. -/
def exponent : Text → Option (Text × Text)
  | [] => some ([], [])
  | c :: cs =>
      if c = 'e' ∨ c = 'E' then
        (digits (sign ['+', '-'] cs).2).map fun r => (c :: ((sign ['+', '-'] cs).1 ++ r.1), r.2)
      else some ([], c :: cs)

/-- The literal of a number. -/
def number (cs : Text) : Option (Text × Text) := do
  let i ← integerPart (sign ['-'] cs).2
  let f ← fraction i.2
  let e ← exponent f.2
  return ((sign ['-'] cs).1 ++ (i.1 ++ (f.1 ++ e.1)), e.2)

/-! ### A literal is read as a whole -/

/-- The text does not start with a character that passes the test. -/
def Stops (p : Char → Bool) (cs : Text) : Prop :=
  ∀ c ∈ cs.head?, p c = false

/-- A character that may go on with the digits before the exponent. -/
def goesOnFraction (c : Char) : Bool :=
  c.isDigit || c = '.'

/-- A character that may go on with a number. -/
def goesOn (c : Char) : Bool :=
  goesOnFraction c || c = 'e' || c = 'E'

theorem stops_nil (p : Char → Bool) : Stops p [] := by
  simp [Stops]

theorem stops_cons {p : Char → Bool} {c : Char} {cs : Text} :
    Stops p (c :: cs) ↔ p c = false := by
  simp [Stops]

theorem Stops.mono {p q : Char → Bool} {cs : Text} (h : Stops p cs)
    (hpq : ∀ c, q c = true → p c = true) : Stops q cs := by
  intro c hc
  by_contra hq
  have hp := h c hc
  rw [hpq c (by simpa using hq)] at hp
  cases hp

theorem takeWhile_of_stops {p : Char → Bool} {cs : Text} (h : Stops p cs) :
    cs.takeWhile p = [] ∧ cs.dropWhile p = cs := by
  cases cs with
  | nil => simp
  | cons c cs => simp [stops_cons.mp h]

/-- What is read as digits, and that it is read so before any rest. -/
theorem digits_append {cs ds rest : Text} (h : digits cs = some (ds, rest)) :
    cs = ds ++ rest ∧ (∃ d ds', ds = d :: ds' ∧ d.isDigit = true) ∧
      ∀ rest', Stops Char.isDigit rest' → digits (ds ++ rest') = some (ds, rest') := by
  unfold digits at h
  split at h
  · cases h
  · rename_i hne
    obtain ⟨rfl, rfl⟩ : cs.takeWhile Char.isDigit = ds ∧ cs.dropWhile Char.isDigit = rest := by
      simpa using h
    have hall : ∀ c ∈ cs.takeWhile Char.isDigit, c.isDigit = true := fun c =>
      List.mem_takeWhile_imp
    refine ⟨(List.takeWhile_append_dropWhile).symm, ?_, ?_⟩
    · obtain ⟨d, ds', hds⟩ := List.exists_cons_of_ne_nil hne
      exact ⟨d, ds', hds, hall d (by simp [hds])⟩
    · intro rest' hstops
      obtain ⟨htake, hdrop⟩ := takeWhile_of_stops hstops
      simp [digits, List.takeWhile_append_of_pos hall, List.dropWhile_append_of_pos hall, htake,
        hdrop, hne]

/-- A sign is a prefix. -/
theorem sign_append (signs : List Char) (cs : Text) :
    cs = (sign signs cs).1 ++ (sign signs cs).2 := by
  cases cs with
  | nil => rfl
  | cons c cs =>
      rw [sign]
      split <;> rfl

/-- The sign of a text does not depend on what comes after the first other character. -/
theorem sign_self {signs : List Char} {cs body : Text} {d : Char} {ds : Text}
    (hbody : (sign signs cs).2 = d :: ds ++ body) (hd : d ∉ signs) (rest : Text) :
    sign signs ((sign signs cs).1 ++ (d :: ds ++ rest)) =
      ((sign signs cs).1, d :: ds ++ rest) := by
  cases cs with
  | nil => cases hbody
  | cons c cs =>
      by_cases hc : c ∈ signs
      · simp [sign, hc]
      · simp [sign, hc, hd]

/-- What is read as an integer part, and that it is read so before any rest. -/
theorem integerPart_append {cs i rest : Text} (h : integerPart cs = some (i, rest)) :
    cs = i ++ rest ∧ (∃ d ds, i = d :: ds ∧ d.isDigit = true) ∧
      ∀ rest', Stops Char.isDigit rest' → integerPart (i ++ rest') = some (i, rest') := by
  cases cs with
  | nil => cases h
  | cons c cs =>
      rw [integerPart] at h
      split at h
      · rename_i hzero
        obtain ⟨rfl, rfl⟩ : [c] = i ∧ cs = rest := by simpa using h
        exact ⟨rfl, ⟨c, [], rfl, by rw [hzero]; decide⟩, fun rest' _ => by simp [integerPart, hzero]⟩
      · rename_i hzero
        obtain ⟨hcs, ⟨d, ds, rfl, hd⟩, happend⟩ := digits_append h
        obtain ⟨rfl, -⟩ := List.cons.inj hcs
        refine ⟨hcs, ⟨c, ds, rfl, hd⟩, fun rest' hstops => ?_⟩
        simpa [integerPart, hzero] using happend rest' hstops

/-- What is read as a fraction, and that it is read so before any rest. -/
theorem fraction_append {cs f rest : Text} (h : fraction cs = some (f, rest)) :
    cs = f ++ rest ∧ (f = [] ∨ ∃ ds, f = '.' :: ds) ∧
      ∀ rest', Stops goesOnFraction rest' → fraction (f ++ rest') = some (f, rest') := by
  have hempty : ∀ rest', Stops goesOnFraction rest' → fraction rest' = some ([], rest') := by
    intro rest' hstops
    cases rest' with
    | nil => rfl
    | cons c rest' =>
        have hdot : c ≠ '.' := by
          rintro rfl
          exact absurd (stops_cons.mp hstops) (by decide)
        simp [fraction, hdot]
  cases cs with
  | nil =>
      obtain ⟨rfl, rfl⟩ : [] = f ∧ [] = rest := by simpa [fraction] using h
      exact ⟨rfl, Or.inl rfl, hempty⟩
  | cons c cs =>
      rw [fraction] at h
      split at h
      · rename_i hdot
        obtain ⟨⟨ds, rest'⟩, hdigits, heq⟩ := Option.map_eq_some_iff.mp h
        obtain ⟨rfl, rfl⟩ : c :: ds = f ∧ rest' = rest := by simpa using heq
        obtain ⟨rfl, -, happend⟩ := digits_append hdigits
        refine ⟨rfl, Or.inr ⟨ds, by rw [hdot]⟩, fun rest'' hstops => ?_⟩
        have hdigits' := happend rest'' (hstops.mono fun c hc => by simp [goesOnFraction, hc])
        simp [fraction, hdot, hdigits']
      · obtain ⟨rfl, rfl⟩ : [] = f ∧ c :: cs = rest := by simpa using h
        exact ⟨rfl, Or.inl rfl, hempty⟩

/-- What is read as an exponent, and that it is read so before any rest. -/
theorem exponent_append {cs e rest : Text} (h : exponent cs = some (e, rest)) :
    cs = e ++ rest ∧ (∀ rest', Stops goesOn rest' → Stops goesOnFraction (e ++ rest')) ∧
      ∀ rest', Stops goesOn rest' → exponent (e ++ rest') = some (e, rest') := by
  have hfraction : ∀ rest', Stops goesOn rest' → Stops goesOnFraction rest' := fun rest' hstops =>
    hstops.mono fun c hc => by simp [goesOn, hc]
  have hempty : ∀ rest', Stops goesOn rest' → exponent rest' = some ([], rest') := by
    intro rest' hstops
    cases rest' with
    | nil => rfl
    | cons c rest' =>
        have hletter : ¬ (c = 'e' ∨ c = 'E') := by
          rintro (rfl | rfl) <;> exact absurd (stops_cons.mp hstops) (by decide)
        simp [exponent, hletter]
  cases cs with
  | nil =>
      obtain ⟨rfl, rfl⟩ : [] = e ∧ [] = rest := by simpa [exponent] using h
      exact ⟨rfl, hfraction, hempty⟩
  | cons c cs =>
      rw [exponent] at h
      split at h
      · rename_i hletter
        obtain ⟨⟨ds, rest'⟩, hdigits, heq⟩ := Option.map_eq_some_iff.mp h
        obtain ⟨rfl, rfl⟩ : c :: ((sign ['+', '-'] cs).1 ++ ds) = e ∧ rest' = rest := by
          simpa using heq
        obtain ⟨hcs, ⟨d, ds', rfl, hd⟩, happend⟩ := digits_append hdigits
        have hsign : d ∉ ['+', '-'] := by
          intro hmem
          rw [List.mem_cons, List.mem_singleton] at hmem
          rcases hmem with rfl | rfl <;> exact absurd hd (by decide)
        refine ⟨?_, fun rest'' _ => ?_, fun rest'' hstops => ?_⟩
        · have hsplit := sign_append ['+', '-'] cs
          rw [hcs] at hsplit
          simpa using hsplit
        · have hstop : goesOnFraction c = false := by
            rcases hletter with rfl | rfl <;> decide
          exact stops_cons.mpr hstop
        · have hself := sign_self hcs hsign rest''
          have hdigits' := happend rest''
            (hstops.mono fun c hc => by simp [goesOn, goesOnFraction, hc])
          rw [List.cons_append, exponent, if_pos hletter, List.append_assoc, hself, hdigits']
          rfl
      · obtain ⟨rfl, rfl⟩ : [] = e ∧ c :: cs = rest := by simpa using h
        exact ⟨rfl, hfraction, hempty⟩

/-- The literal that is read is the beginning of the text, it starts with a digit or the sign,
and it is read again wherever no number goes on behind it. -/
theorem number_append {cs lit rest : Text} (h : number cs = some (lit, rest)) :
    cs = lit ++ rest ∧ (∃ c cs', lit = c :: cs' ∧ (c.isDigit = true ∨ c = '-')) ∧
      ∀ rest', Stops goesOn rest' → number (lit ++ rest') = some (lit, rest') := by
  simp only [number, Option.bind_eq_bind, Option.bind_eq_some_iff] at h
  obtain ⟨⟨i, r₁⟩, hi, ⟨f, r₂⟩, hf, ⟨e, r₃⟩, he, heq⟩ := h
  obtain ⟨rfl, rfl⟩ : (sign ['-'] cs).1 ++ (i ++ (f ++ e)) = lit ∧ r₃ = rest := by
    simpa using heq
  obtain ⟨hcs, ⟨d, ds, rfl, hd⟩, hinteger⟩ := integerPart_append hi
  obtain ⟨rfl, hdot, hfraction⟩ := fraction_append hf
  obtain ⟨rfl, hstopsFraction, hexponent⟩ := exponent_append he
  have hsign : d ∉ ['-'] := by
    intro hmem
    obtain rfl := List.mem_singleton.mp hmem
    exact absurd hd (by decide)
  refine ⟨?_, ?_, fun rest' hstops => ?_⟩
  · have hsplit := sign_append ['-'] cs
    rw [hcs] at hsplit
    simpa using hsplit
  · cases cs with
    | nil => cases hcs
    | cons c cs =>
        by_cases hc : c ∈ ['-']
        · exact ⟨c, _, by simp only [sign, if_pos hc]; rfl, Or.inr (List.mem_singleton.mp hc)⟩
        · exact ⟨d, _, by simp only [sign, if_neg hc]; rfl, Or.inl hd⟩
  · have hstopsE : Stops goesOnFraction (e ++ rest') := hstopsFraction rest' hstops
    have hstopsF : Stops Char.isDigit (f ++ (e ++ rest')) := by
      rcases hdot with rfl | ⟨ds', rfl⟩
      · exact hstopsE.mono fun c hc => by simp [goesOnFraction, hc]
      · exact stops_cons.mpr (by decide)
    have hself := sign_self hcs hsign (f ++ (e ++ rest'))
    have hshape : (sign ['-'] cs).1 ++ (d :: ds ++ (f ++ e)) ++ rest' =
        (sign ['-'] cs).1 ++ (d :: ds ++ (f ++ (e ++ rest'))) := by
      simp
    simp only [number, hshape, hself, hinteger _ hstopsF, hfraction _ hstopsE,
      hexponent _ hstops, Option.bind_eq_bind, Option.bind_some]
    rfl

/-! ### Integers -/

/-- The literal of an integer. -/
def literalOf : Int → Text
  | .ofNat n => Nat.toDigits 10 n
  | .negSucc n => '-' :: Nat.toDigits 10 (n + 1)

/-- An integer is a sign and digits; other numbers are not read. -/
def parseInt : Text → Option Int
  | [] => none
  | c :: cs =>
      if c = '-' then
        if cs ≠ [] ∧ cs.all Char.isDigit then some (-(Nat.ofDigitChars 10 cs 0 : Nat)) else none
      else if (c :: cs).all Char.isDigit then some (Nat.ofDigitChars 10 (c :: cs) 0 : Nat)
      else none

/-- The decimal digits of a number are digits. -/
theorem all_isDigit_toDigits (n : Nat) : (Nat.toDigits 10 n).all Char.isDigit = true := by
  simp only [List.all_eq_true]
  intro c hc
  exact Nat.isDigit_of_mem_toDigits (by decide) (by decide) hc

/-- A digit is no sign. -/
theorem ne_minus_of_isDigit {c : Char} (h : c.isDigit = true) : c ≠ '-' := by
  rintro rfl
  simp at h

/-- The decimal digits of a number are read as the number. -/
theorem parseInt_toDigits (n : Nat) : parseInt (Nat.toDigits 10 n) = some (n : Int) := by
  have hdigits := all_isDigit_toDigits n
  have hvalue : Nat.ofDigitChars 10 (Nat.toDigits 10 n) 0 = n := Nat.ofDigitChars_ten_toDigits
  cases h : Nat.toDigits 10 n with
  | nil => exact absurd h Nat.toDigits_ne_nil
  | cons c cs =>
      rw [h] at hdigits hvalue
      have hc : c.isDigit = true := by
        simp only [List.all_cons, Bool.and_eq_true] at hdigits
        exact hdigits.1
      rw [parseInt, if_neg (ne_minus_of_isDigit hc), if_pos hdigits, hvalue]

/-- The literal of an integer is read as the integer. -/
theorem parseInt_literalOf (n : Int) : parseInt (literalOf n) = some n := by
  cases n with
  | ofNat n => exact parseInt_toDigits n
  | negSucc n =>
      have hdigits := all_isDigit_toDigits (n + 1)
      have hvalue : Nat.ofDigitChars 10 (Nat.toDigits 10 (n + 1)) 0 = n + 1 :=
        Nat.ofDigitChars_ten_toDigits
      rw [literalOf, parseInt, if_pos rfl, if_pos ⟨Nat.toDigits_ne_nil, hdigits⟩, hvalue]
      rfl

/-- Only zero starts with the digit zero. -/
theorem head_toDigits {n : Nat} (hn : n ≠ 0) :
    ∃ c cs, Nat.toDigits 10 n = c :: cs ∧ c ≠ '0' := by
  induction n using Nat.strongRecOn with
  | ind n ih =>
      by_cases hlt : n < 10
      · have hchar : ∀ m < 10, m ≠ 0 → Nat.digitChar m ≠ '0' := by decide
        exact ⟨Nat.digitChar n, [], Nat.toDigits_of_lt_base hlt, hchar n hlt hn⟩
      · obtain ⟨c, cs, hcs, hc⟩ := ih (n / 10) (by omega) (by omega)
        refine ⟨c, cs ++ [Nat.digitChar (n % 10)], ?_, hc⟩
        rw [Nat.toDigits_of_base_le (by decide) (by omega), hcs]
        rfl

/-- Digits without a leading zero are an integer part. -/
theorem integerPart_toDigits (n : Nat) :
    integerPart (Nat.toDigits 10 n) = some (Nat.toDigits 10 n, []) := by
  by_cases hn : n = 0
  · subst hn
    rfl
  · obtain ⟨c, cs, hcs, hc⟩ := head_toDigits hn
    have hdigits := all_isDigit_toDigits n
    rw [hcs] at hdigits ⊢
    have hspan : (c :: cs).takeWhile Char.isDigit = c :: cs :=
      List.takeWhile_eq_self_iff.mpr (by simpa using hdigits)
    have hrest : (c :: cs).dropWhile Char.isDigit = [] :=
      List.dropWhile_eq_nil_iff.mpr (by simpa using hdigits)
    rw [integerPart, if_neg hc, digits, hspan, hrest]
    simp

/-- The literal of an integer is a number of the grammar. -/
theorem number_literalOf (n : Int) : number (literalOf n) = some (literalOf n, []) := by
  cases n with
  | ofNat n =>
      have hsign : sign ['-'] (Nat.toDigits 10 n) = ([], Nat.toDigits 10 n) := by
        have hdigits := all_isDigit_toDigits n
        cases h : Nat.toDigits 10 n with
        | nil => rfl
        | cons c cs =>
            rw [h, List.all_cons, Bool.and_eq_true] at hdigits
            simp [sign, ne_minus_of_isDigit hdigits.1]
      simp [number, literalOf, hsign, integerPart_toDigits, fraction, exponent]
  | negSucc n =>
      simp [number, literalOf, sign, integerPart_toDigits, fraction, exponent]

/-! ## Values -/

/-- The white space of the grammar. -/
def isSpace (c : Char) : Bool :=
  c = ' ' || c = '\t' || c = '\n' || c = '\r'

/-- White space is skipped. -/
def skipSpace (cs : Text) : Text :=
  cs.dropWhile isSpace

/-- Items with commas between them, up to the closing bracket; {lit}`n` bounds their number. -/
def items {α : Type} (item : Text → Option (α × Text)) (close : Char) :
    Nat → Text → Option (List α × Text)
  | 0, _ => none
  | n + 1, cs => do
      let a ← item cs
      match skipSpace a.2 with
      | [] => none
      | c :: rest =>
          if c = ',' then do
            let r ← items item close n rest
            return (a.1 :: r.1, r.2)
          else if c = close then some ([a.1], rest)
          else none

/-- What stands between brackets. -/
def bracketed {α : Type} (item : Text → Option (α × Text)) (close : Char) (cs : Text) :
    Option (List α × Text) :=
  match skipSpace cs with
  | [] => none
  | c :: rest => if c = close then some ([], rest) else items item close cs.length cs

/-- A key, a colon and a value. -/
def member {α : Type} (value : Text → Option (α × Text)) (cs : Text) :
    Option ((Text × α) × Text) :=
  match skipSpace cs with
  | [] => none
  | c :: cs =>
      if c = '"' then do
        let key ← string cs
        match skipSpace key.2 with
        | [] => none
        | c :: cs =>
            if c = ':' then (value cs).map fun v => ((key.1, v.1), v.2) else none
      else none

/-- A word that stands for a value. -/
def keyword (word : Text) (v : Value) (cs : Text) : Option (Value × Text) :=
  if word <+: cs then some (v, cs.drop word.length) else none

/-- A value nested at most {lit}`depth` deep. -/
def value : Nat → Text → Option (Value × Text)
  | depth, cs =>
      match skipSpace cs with
      | [] => none
      | c :: rest =>
          if c = '"' then (string rest).map fun r => (.string r.1, r.2)
          else if c = '[' then
            match depth with
            | 0 => none
            | d + 1 => (bracketed (value d) ']' rest).map fun r => (.array r.1, r.2)
          else if c = '\x7b' then
            match depth with
            | 0 => none
            | d + 1 => (bracketed (member (value d)) '\x7d' rest).map fun r => (.object r.1, r.2)
          else if c = 'n' then keyword ['n', 'u', 'l', 'l'] .null (c :: rest)
          else if c = 't' then keyword ['t', 'r', 'u', 'e'] (.bool true) (c :: rest)
          else if c = 'f' then keyword ['f', 'a', 'l', 's', 'e'] (.bool false) (c :: rest)
          else (number (c :: rest)).map fun r => (.number r.1, r.2)

/-- A whole text. -/
def parse (depth : Nat) (cs : Text) : Option Value := do
  let r ← value depth cs
  if skipSpace r.2 = [] then return r.1 else none

/-! ### Writing -/

/-- The texts with commas in between. -/
def commaList : List Text → Text
  | [] => []
  | [t] => t
  | t :: ts => t ++ ',' :: commaList ts

mutual

/-- The text of a value, without white space. -/
def render : Value → Text
  | .null => ['n', 'u', 'l', 'l']
  | .bool true => ['t', 'r', 'u', 'e']
  | .bool false => ['f', 'a', 'l', 's', 'e']
  | .number literal => literal
  | .string s => quote s
  | .array vs => '[' :: (commaList (renderItems vs) ++ [']'])
  | .object ms => '\x7b' :: (commaList (renderMembers ms) ++ ['\x7d'])

/-- The texts of the values of an array. -/
def renderItems : List Value → List Text
  | [] => []
  | v :: vs => render v :: renderItems vs

/-- The texts of the members of an object. -/
def renderMembers : List (Text × Value) → List Text
  | [] => []
  | (key, v) :: ms => (quote key ++ ':' :: render v) :: renderMembers ms

end

/-- The literals of the value are literals, and it nests at most {lit}`depth` deep. -/
def Fits : Nat → Value → Prop
  | _, .number literal => number literal = some (literal, [])
  | 0, .array _ => False
  | 0, .object _ => False
  | d + 1, .array vs => ∀ v ∈ vs, Fits d v
  | d + 1, .object ms => ∀ m ∈ ms, Fits d m.2
  | _, _ => True

/-! ### A written value reads back -/

theorem renderItems_eq (vs : List Value) : renderItems vs = vs.map render := by
  induction vs with
  | nil => rfl
  | cons v vs ih => rw [renderItems, ih, List.map_cons]

theorem renderMembers_eq (ms : List (Text × Value)) :
    renderMembers ms = ms.map fun m => quote m.1 ++ ':' :: render m.2 := by
  induction ms with
  | nil => rfl
  | cons m ms ih => rw [renderMembers, ih, List.map_cons]

/-- Nothing is skipped before another character. -/
theorem skipSpace_cons {c : Char} {cs : Text} (h : isSpace c = false) :
    skipSpace (c :: cs) = c :: cs := by
  simp [skipSpace, h]

/-- The first text of a list, and what follows it. -/
theorem commaList_cons_append (t : Text) (ts : List Text) (close : Char) (rest : Text) :
    commaList (t :: ts) ++ close :: rest =
      t ++ (if ts = [] then close :: rest else ',' :: (commaList ts ++ close :: rest)) := by
  cases ts with
  | nil => rfl
  | cons t' ts => simp [commaList]

/-- Items are read back if each of them is, before a comma and before the bracket. -/
theorem items_commaList {α : Type} {item : Text → Option (α × Text)} {write : α → Text}
    {close : Char} (hclose : close ≠ ',') (hspace : isSpace close = false) (rest : Text)
    (as : List α) {n : Nat} (hne : as ≠ []) (hn : as.length ≤ n)
    (hitem : ∀ a ∈ as, ∀ c cs, c = ',' ∨ c = close → item (write a ++ c :: cs) = some (a, c :: cs)) :
    items item close n (commaList (as.map write) ++ close :: rest) = some (as, rest) := by
  induction as generalizing n with
  | nil => exact absurd rfl hne
  | cons a as ih =>
      cases n with
      | zero => simp at hn
      | succ n =>
          rw [List.map_cons, commaList_cons_append, items]
          cases as with
          | nil =>
              have ha := hitem a (by simp) close rest (Or.inr rfl)
              simp [ha, skipSpace_cons hspace, hclose]
          | cons b as =>
              have ha := hitem a (by simp) ','
                (commaList ((b :: as).map write) ++ close :: rest) (Or.inl rfl)
              have hrest := ih (n := n) (by simp) (by simpa using hn)
                fun b' hb' => hitem b' (List.mem_cons_of_mem a hb')
              have hcomma : isSpace ',' = false := by decide
              have hmap : ((b :: as).map write = []) = False := by simp
              simp only [hmap, if_false, ha, hrest, skipSpace_cons hcomma, Option.bind_eq_bind,
                Option.bind_some, if_true]
              rfl

/-- A list of texts is at least as long as its number of texts. -/
theorem length_commaList {ts : List Text} (h : ∀ t ∈ ts, t ≠ []) :
    ts.length ≤ (commaList ts).length := by
  induction ts with
  | nil => simp
  | cons t ts ih =>
      have ht := List.length_pos_iff.mpr (h t (by simp))
      have hts := ih fun t' ht' => h t' (List.mem_cons_of_mem t ht')
      cases ts with
      | nil =>
          simp only [commaList, List.length_singleton]
          omega
      | cons t' ts =>
          simp only [commaList, List.length_append, List.length_cons] at hts ht ⊢
          omega

/-- A list in brackets is read item by item. -/
theorem bracketed_commaList {α : Type} (item : Text → Option (α × Text)) (write : α → Text)
    (close : Char) (hclose : close ≠ ',') (hspace : isSpace close = false) (rest : Text)
    (as : List α)
    (hhead : ∀ a ∈ as, ∃ c cs, write a = c :: cs ∧ isSpace c = false ∧ c ≠ close)
    (hitem : ∀ a ∈ as, ∀ c cs, c = ',' ∨ c = close → item (write a ++ c :: cs) = some (a, c :: cs)) :
    bracketed item close (commaList (as.map write) ++ close :: rest) = some (as, rest) := by
  cases as with
  | nil => simp [bracketed, commaList, skipSpace_cons hspace]
  | cons a as =>
      have hne : ∀ t ∈ (a :: as).map write, t ≠ [] := by
        intro t ht
        obtain ⟨b, hb, rfl⟩ := List.mem_map.mp ht
        obtain ⟨c, cs, hb, -⟩ := hhead b hb
        simp [hb]
      have hlength := length_commaList hne
      obtain ⟨c, cs, ha, hc, hne⟩ := hhead a (by simp)
      obtain ⟨cs', hcs'⟩ : ∃ cs', commaList ((a :: as).map write) ++ close :: rest = c :: cs' := by
        rw [List.map_cons, commaList_cons_append, ha]
        exact ⟨_, rfl⟩
      have hread := items_commaList hclose hspace rest (a :: as)
        (n := (commaList ((a :: as).map write) ++ close :: rest).length) (by simp)
        (by simp only [List.length_map] at hlength; rw [List.length_append]; omega) hitem
      rw [bracketed]
      rw [hcs'] at hread ⊢
      rw [skipSpace_cons hc]
      dsimp only
      rw [if_neg hne, hread]

/-- A member is read as it was written. -/
theorem member_write {value : Text → Option (Value × Text)} {key : Text} {v : Value}
    {text rest : Text} (h : value (text ++ rest) = some (v, rest)) :
    member value (quote key ++ ':' :: text ++ rest) = some ((key, v), rest) := by
  have hquote : isSpace '"' = false := by decide
  have hcolon : isSpace ':' = false := by decide
  have hkey := string_quote key (':' :: (text ++ rest))
  simp only [member, quote, List.cons_append, List.append_assoc, List.nil_append,
    skipSpace_cons hquote, if_true, hkey, Option.bind_eq_bind, Option.bind_some,
    skipSpace_cons hcolon, h, Option.map_some]

/-- The first character says which kind of value follows. -/
theorem render_head {d : Nat} {v : Value} (h : Fits d v) :
    ∃ c cs, render v = c :: cs ∧ isSpace c = false ∧ c ≠ ']' := by
  cases v with
  | null => exact ⟨'n', _, rfl, by decide, by decide⟩
  | bool b => cases b <;> exact ⟨_, _, rfl, by decide, by decide⟩
  | number literal =>
      have hnumber : number literal = some (literal, []) := by simpa [Fits] using h
      obtain ⟨-, ⟨c, cs, hlit, hc⟩, -⟩ := number_append hnumber
      refine ⟨c, cs, hlit, ?_, ?_⟩
      · rcases hc with hc | rfl
        · by_contra hspace
          simp only [isSpace, Bool.not_eq_false, Bool.or_eq_true, decide_eq_true_eq] at hspace
          rcases hspace with ((rfl | rfl) | rfl) | rfl <;> exact absurd hc (by decide)
        · decide
      · rintro rfl
        rcases hc with hc | hc
        · exact absurd hc (by decide)
        · exact absurd hc (by decide)
  | string s => exact ⟨'"', _, rfl, by decide, by decide⟩
  | array vs => exact ⟨'[', _, rfl, by decide, by decide⟩
  | object ms => exact ⟨'\x7b', _, rfl, by decide, by decide⟩

/-- A number ends before a comma and before a bracket. -/
theorem stops_of_delimiter {close : Char} (hclose : goesOn close = false) {c : Char} {cs : Text}
    (h : c = ',' ∨ c = close) : Stops goesOn (c :: cs) := by
  rcases h with rfl | rfl
  · exact stops_cons.mpr (by decide)
  · exact stops_cons.mpr hclose

/-- The first character that is no space decides how the rest is read. -/
theorem value_cons (d : Nat) {c : Char} {cs : Text} (h : isSpace c = false) :
    value d (c :: cs) =
      if c = '"' then (string cs).map fun r => (.string r.1, r.2)
      else if c = '[' then
        match d with
        | 0 => none
        | d + 1 => (bracketed (value d) ']' cs).map fun r => (.array r.1, r.2)
      else if c = '\x7b' then
        match d with
        | 0 => none
        | d + 1 => (bracketed (member (value d)) '\x7d' cs).map fun r => (.object r.1, r.2)
      else if c = 'n' then keyword ['n', 'u', 'l', 'l'] .null (c :: cs)
      else if c = 't' then keyword ['t', 'r', 'u', 'e'] (.bool true) (c :: cs)
      else if c = 'f' then keyword ['f', 'a', 'l', 's', 'e'] (.bool false) (c :: cs)
      else (number (c :: cs)).map fun r => (.number r.1, r.2) := by
  rw [value.eq_def]
  simp only [skipSpace_cons h]

/-- A number starts with no letter of the other values. -/
theorem value_number (d : Nat) {literal : Text} (h : number literal = some (literal, []))
    {rest : Text} (hrest : Stops goesOn rest) :
    value d (literal ++ rest) = some (.number literal, rest) := by
  obtain ⟨-, ⟨c, cs, rfl, hc⟩, happend⟩ := number_append h
  have hread := happend rest hrest
  have hother : ∀ x, x.isDigit = false → x ≠ '-' → c ≠ x := by
    intro x hdigit hminus heq
    subst heq
    cases hc with
    | inl hc => simp [hdigit] at hc
    | inr hc => exact hminus hc
  have hspace : isSpace c = false := by
    simp [isSpace, hother]
  rw [List.cons_append] at hread ⊢
  rw [value_cons d hspace, hread]
  simp [hother]

theorem keyword_append (word : Text) (v : Value) (rest : Text) :
    keyword word v (word ++ rest) = some (v, rest) := by
  simp [keyword]

/-- Strings and the words of the grammar are read at every depth. -/
theorem value_string (d : Nat) (s rest : Text) :
    value d (quote s ++ rest) = some (.string s, rest) := by
  have hquote : isSpace '"' = false := by decide
  rw [quote, List.cons_append, value_cons d hquote]
  simp [string_quote]

theorem value_null (d : Nat) (rest : Text) :
    value d (render .null ++ rest) = some (.null, rest) := by
  have hspace : isSpace 'n' = false := by decide
  have hword := keyword_append ['n', 'u', 'l', 'l'] .null rest
  simp only [render, List.cons_append, List.nil_append] at hword ⊢
  rw [value_cons d hspace]
  simpa using hword

theorem value_bool (d : Nat) (b : Bool) (rest : Text) :
    value d (render (.bool b) ++ rest) = some (.bool b, rest) := by
  cases b with
  | false =>
      have hspace : isSpace 'f' = false := by decide
      have hword := keyword_append ['f', 'a', 'l', 's', 'e'] (.bool false) rest
      simp only [render, List.cons_append, List.nil_append] at hword ⊢
      rw [value_cons d hspace]
      simpa using hword
  | true =>
      have hspace : isSpace 't' = false := by decide
      have hword := keyword_append ['t', 'r', 'u', 'e'] (.bool true) rest
      simp only [render, List.cons_append, List.nil_append] at hword ⊢
      rw [value_cons d hspace]
      simpa using hword

/-- A value that is written is read as it was. -/
theorem value_render {d : Nat} {v : Value} (h : Fits d v) {rest : Text}
    (hrest : Stops goesOn rest) : value d (render v ++ rest) = some (v, rest) := by
  induction d generalizing v rest with
  | zero =>
      cases v with
      | null => exact value_null 0 rest
      | bool b => exact value_bool 0 b rest
      | number literal =>
          rw [render]
          exact value_number 0 (by simpa [Fits] using h) hrest
      | string s => exact value_string 0 s rest
      | array vs => exact absurd h id
      | object ms => exact absurd h id
  | succ d ih =>
      cases v with
      | null => exact value_null (d + 1) rest
      | bool b => exact value_bool (d + 1) b rest
      | number literal =>
          rw [render]
          exact value_number (d + 1) (by simpa [Fits] using h) hrest
      | string s => exact value_string (d + 1) s rest
      | array vs =>
          have hopen : isSpace '[' = false := by decide
          have hbody := bracketed_commaList (value d) render ']' (by decide) (by decide) rest vs
            (fun v hv => render_head (h v hv))
            fun v hv c cs hc => ih (h v hv) (stops_of_delimiter (by decide) hc)
          rw [render, renderItems_eq, List.cons_append, value_cons (d + 1) hopen]
          simp [hbody]
      | object ms =>
          have hopen : isSpace '\x7b' = false := by decide
          have hbody := bracketed_commaList (member (value d))
            (fun m => quote m.1 ++ ':' :: render m.2) '\x7d' (by decide) (by decide) rest ms
            (fun m _ => ⟨'"', _, rfl, by decide, by decide⟩)
            fun m hm c cs hc => member_write (ih (h m hm) (stops_of_delimiter (by decide) hc))
          rw [render, renderMembers_eq, List.cons_append, value_cons (d + 1) hopen]
          simp [hbody]

/-- A written value reads back. -/
theorem parse_render {d : Nat} {v : Value} (h : Fits d v) : parse d (render v) = some v := by
  have hread := value_render h (stops_nil goesOn)
  rw [List.append_nil] at hread
  have hspace : skipSpace [] = [] := rfl
  simp only [parse, hread, Option.bind_eq_bind, Option.bind_some, hspace, if_true]
  rfl

end JsonText
