import Mathlib.Data.Rat.Floor
import OtaRobot.Library.Hex

/-!
# Numbers scanned from a text

Binary floating-point values, and the scanning of one from the front of a text, as the verb
{lit}`%f` of Go's {lit}`fmt.Sscanf` does it: white space is skipped, the longest token that may
be a number is taken, and the token is parsed.  A finite value is an exact rational, rounded to
the nearest value of its format.

Current gaps:

- Zero has no sign.
-/

namespace FloatScan

/-! ## Values -/

/-- A floating-point value. -/
inductive Value where
  | nan
  | infinite (negative : Bool)
  | finite (value : ℚ)
deriving DecidableEq, Repr

/-- A binary format: its finite values are the multiples of a power of two, from
{lit}`2 ^ minExponent` on, with at most {lit}`precision` digits and below
{lit}`2 ^ maxExponent`. -/
structure Format where
  precision : Nat
  minExponent : Int
  maxExponent : Nat
deriving DecidableEq, Repr

/-- {lit}`float64`. -/
def double : Format where
  precision := 53
  minExponent := -1074
  maxExponent := 1024

/-- {lit}`float32`. -/
def single : Format where
  precision := 24
  minExponent := -149
  maxExponent := 128

/-- A power of two. -/
def twoPow : Int → ℚ
  | .ofNat n => ((2 ^ n : Nat) : ℚ)
  | .negSucc n => 1 / ((2 ^ (n + 1) : Nat) : ℚ)

/-- The nearest integer, the even one of two. -/
def roundHalfEven (q : ℚ) : Int :=
  if q - q.floor < 1 / 2 then q.floor
  else if 1 / 2 < q - q.floor then q.floor + 1
  else q.floor + q.floor % 2

/-- The exponent of the greatest power of two that is not above {lit}`|q|`. -/
def exponent (q : ℚ) : Int :=
  let e : Int := Nat.log2 q.num.natAbs - Nat.log2 q.den
  if twoPow e ≤ |q| then e else e - 1

/-- The distance of two neighbours around {lit}`q`. -/
def Format.ulp (f : Format) (q : ℚ) : ℚ :=
  twoPow (max (exponent q - (f.precision - 1)) f.minExponent)

/-- The nearest value of the format. -/
def Format.round (f : Format) (q : ℚ) : Value :=
  if q = 0 then .finite 0
  else
    let r := roundHalfEven (q / f.ulp q) * f.ulp q
    if twoPow f.maxExponent ≤ |r| then .infinite (q < 0) else .finite r

/-- The conversion to a format. -/
def Value.convert (f : Format) : Value → Value
  | .finite q => f.round q
  | v => v

/-- {lit}`x < v`; nothing is below {lit}`NaN`. -/
def Value.exceeds (v : Value) (x : ℚ) : Bool :=
  match v with
  | .nan => false
  | .infinite negative => !negative
  | .finite q => x < q

/-! ## Parsing -/

/-- The value of the digits in a base; underscores count nothing. -/
def natOf (base : Nat) (digits : List Char) : Nat :=
  digits.foldl (fun n c => match Hex.value c with | some d => n * base + d | none => n) 0

/-- A sign, and what follows it. -/
def takeSign : List Char → Bool × List Char
  | '-' :: cs => (true, cs)
  | '+' :: cs => (false, cs)
  | cs => (false, cs)

/-- A decimal digit. -/
def isDecimal (c : Char) : Bool :=
  '0' ≤ c && c ≤ '9'

/-- A hexadecimal digit. -/
def isHex (c : Char) : Bool :=
  (Hex.value c).isSome

/-- Underscores stand between digits, or between the prefix of the base and a digit.  The
argument {lit}`saw` is the kind of the last character: {lean}`some true` for a digit,
{lean}`some false` for an underscore. -/
def underscoresFrom (isDigit : Char → Bool) (saw : Option Bool) : List Char → Bool
  | [] => saw ≠ some false
  | c :: cs =>
      if isDigit c then underscoresFrom isDigit (some true) cs
      else if c = '_' then saw = some true && underscoresFrom isDigit (some false) cs
      else saw ≠ some false && underscoresFrom isDigit none cs

/-- {lit}`underscoreOK`. -/
def underscoresOk (s : List Char) : Bool :=
  match (takeSign s).2 with
  | '0' :: x :: cs =>
      if x.toLower = 'x' then underscoresFrom isHex (some true) cs
      else if x.toLower = 'b' ∨ x.toLower = 'o' then underscoresFrom isDecimal (some true) cs
      else underscoresFrom isDecimal none ('0' :: x :: cs)
  | cs => underscoresFrom isDecimal none cs

/-- The digits before and after the point, and what follows them. -/
def takeMantissa (isDigit : Char → Bool) (s : List Char) : List Char × List Char × List Char :=
  let isPart := fun c => isDigit c || c = '_'
  match s.dropWhile isPart with
  | '.' :: cs => (s.takeWhile isPart, cs.takeWhile isPart, cs.dropWhile isPart)
  | rest => (s.takeWhile isPart, [], rest)

/-- The digits of an exponent; beyond ten thousand they do not count. -/
def exponentOf (digits : List Char) : Nat :=
  digits.foldl
    (fun e c => if e < 10000 then (match Hex.value c with | some d => e * 10 + d | none => e) else e)
    0

/-- The exponent after the letter {lit}`e` or {lit}`p`, up to the end. -/
def takeExponent (letter : Char) : List Char → Option (Option Int)
  | [] => some none
  | c :: cs =>
      if c.toLower ≠ letter then none
      else
        let (negative, digits) := takeSign cs
        match digits with
        | [] => none
        | d :: _ =>
            if isDecimal d && digits.all (fun c => isDecimal c || c = '_') then
              some (some (if negative then -exponentOf digits else exponentOf digits))
            else none

/-- The number a text is, exactly: {lit}`readFloat`. -/
def parseNumber (s : List Char) : Option ℚ :=
  let (negative, body) := takeSign s
  let (isHexadecimal, body) : Bool × List Char :=
    match body with
    | '0' :: x :: c :: cs => if x.toLower = 'x' then (true, c :: cs) else (false, body)
    | _ => (false, body)
  let isDigit := if isHexadecimal then isHex else isDecimal
  let base := if isHexadecimal then 16 else 10
  let (whole, fraction, rest) := takeMantissa isDigit body
  let digits := (whole ++ fraction).filter isDigit
  let places := (fraction.filter isDigit).length
  if digits = [] ∨ ('_' ∈ s ∧ !underscoresOk s) then none
  else
    let magnitude : ℚ := natOf base digits / ((base ^ places : Nat) : ℚ)
    let signed := if negative then -magnitude else magnitude
    match takeExponent (if isHexadecimal then 'p' else 'e') rest with
    | none => none
    | some none => if isHexadecimal then none else some signed
    | some (some e) =>
        if isHexadecimal then some (signed * twoPow e)
        else
          match e with
          | .ofNat n => some (signed * ((10 ^ n : Nat) : ℚ))
          | .negSucc n => some (signed / ((10 ^ (n + 1) : Nat) : ℚ))

/-- {lit}`strconv.ParseFloat`; an overflow is an error. -/
def parseFloat (s : List Char) : Option Value :=
  let (negative, body) := takeSign s
  let word := body.map Char.toLower
  if word = "inf".toList ∨ word = "infinity".toList then some (.infinite negative)
  else if s.map Char.toLower = "nan".toList then some .nan
  else
    match parseNumber s with
    | none => none
    | some q =>
        match double.round q with
        | .infinite _ => none
        | v => some v

/-- {lit}`strconv.Atoi`, but for the bounds of the result. -/
def parseInt (s : List Char) : Option Int :=
  let (negative, digits) := takeSign s
  if digits ≠ [] ∧ digits.all isDecimal then
    some (if negative then -natOf 10 digits else natOf 10 digits)
  else none

/-- {lit}`math.Ldexp`.  No value of the format has an exponent beyond a few thousands, so that
a larger shift does what this one does. -/
def ldexp (v : Value) (shift : Int) : Value :=
  match v with
  | .finite q => double.round (q * twoPow (max (-4000) (min shift 4000)))
  | v => v

/-! ## Scanning -/

/-- The white space of {lit}`fmt`. -/
def isSpace (c : Char) : Bool :=
  let n := c.toNat
  (9 ≤ n && n ≤ 13) || (0x2000 ≤ n && n ≤ 0x200a) ||
    n ∈ [0x20, 0x85, 0xa0, 0x1680, 0x2028, 0x2029, 0x202f, 0x205f, 0x3000]

/-- White space is skipped; a line break is an error. -/
def skipSpace : List Char → Option (List Char)
  | [] => some []
  | c :: cs =>
      if c = '\n' then none
      else if isSpace c then skipSpace cs
      else some (c :: cs)

/-- The characters of a word, one after the other and in either case, as far as they are there. -/
def acceptWord : List Char → List Char → Bool × List Char × List Char
  | [], cs => (true, [], cs)
  | _ :: _, [] => (false, [], [])
  | w :: ws, c :: cs =>
      if c.toLower = w then
        let (all, taken, rest) := acceptWord ws cs
        (all, c :: taken, rest)
      else (false, [], c :: cs)

/-- One character, if it is one of those. -/
def acceptOne (ok : Char → Bool) : List Char → List Char × List Char
  | [] => ([], [])
  | c :: cs => if ok c then ([c], cs) else ([], c :: cs)

/-- {lit}`s.accept(sign)`. -/
def acceptSign : List Char → List Char × List Char :=
  acceptOne fun c => c = '+' || c = '-'

/-- The point and the digits after it. -/
def acceptFraction (isPart : Char → Bool) : List Char → List Char × List Char
  | '.' :: cs => ('.' :: cs.takeWhile isPart, cs.dropWhile isPart)
  | cs => ([], cs)

/-- The letter of an exponent, its sign and its digits. -/
def acceptExponent (letters : List Char) (cs : List Char) : List Char :=
  match acceptOne (fun c => c.toLower ∈ letters) cs with
  | ([], _) => []
  | (letter, rest) =>
      let (sign, rest) := acceptSign rest
      letter ++ sign ++ rest.takeWhile fun c => isDecimal c || c = '_'

/-- {lit}`floatToken`: what may be a number. -/
def floatToken (s : List Char) : List Char :=
  let (nan, start, s) := acceptWord "nan".toList s
  if nan then start
  else
    let (sign, s) := acceptSign s
    let (infinite, word, s) := acceptWord "inf".toList s
    if infinite then start ++ sign ++ word
    else
      let (isHexadecimal, base, s) := acceptWord "0x".toList s
      let isPart := fun c => (if isHexadecimal then isHex c else isDecimal c) || c = '_'
      let whole := s.takeWhile isPart
      let (fraction, rest) := acceptFraction isPart (s.dropWhile isPart)
      start ++ sign ++ word ++ base ++ whole ++ fraction ++
        acceptExponent (if isHexadecimal then ['p'] else ['e', 'p']) rest

/-- {lit}`convertFloat`: a decimal number may have a binary exponent. -/
def convertFloat (token : List Char) : Option Value :=
  if 'p' ∈ token ∧ 'x' ∉ token ∧ 'X' ∉ token then
    match parseFloat (token.takeWhile fun c => c ≠ 'p'),
      parseInt ((token.dropWhile fun c => c ≠ 'p').drop 1) with
    | some v, some shift => some (ldexp v shift)
    | _, _ => none
  else parseFloat token

/-- {lit}`fmt.Sscanf(s, "%f", &v)`; {lean}`none` is an error.  What follows the number is left. -/
def sscanf (s : String) : Option Value :=
  match skipSpace s.toList with
  | none => none
  | some [] => none
  | some cs => convertFloat (floatToken cs)

example : sscanf " 1.5p2x" = some (.finite 6) ∧ sscanf "nxyz" = none ∧ sscanf "1e400" = none := by
  decide +kernel

/-! ## Printing -/

/-- {lit}`fmt.Sprintf("%.2f", v)`. -/
def Value.twoDecimals : Value → String
  | .nan => "NaN"
  | .infinite negative => if negative then "-Inf" else "+Inf"
  | .finite q =>
      let hundredths := (roundHalfEven (|q| * 100)).toNat
      let places := hundredths % 100
      (if q < 0 then "-" else "") ++ toString (hundredths / 100) ++ "." ++
        (if places < 10 then "0" else "") ++ toString places

end FloatScan
