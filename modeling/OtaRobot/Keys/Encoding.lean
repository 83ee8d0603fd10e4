import Mathlib.Tactic.Ring
import OtaRobot.Agent.Handlers
import OtaRobot.Library.Base64
import OtaRobot.Library.Utf8

/-!
# Keys as files

What {lit}`internal/crypto/ecdsa.go` of the backend and {lit}`loadPublicKey` of the agent call of
{lit}`encoding/pem` and {lit}`crypto/x509`, and the part of these libraries that reads and writes
keys of the curve P-256 in the form this repository uses.

Main results:

- Theorem {lit}`decodeBlock_encodeBlock`: a PEM block reads back.
- Theorem {lit}`curveLibrary_saves`: a key of the curve that is saved reads back.
-/

namespace OtaRobot

open Agent (Bytes PublicKey)

namespace Keys

/-- A private key: its point and its scalar. -/
structure PrivateKey where
  publicKey : PublicKey
  d : Nat
deriving DecidableEq, Repr

/-- What {lit}`ParsePKIXPublicKey` finds. -/
inductive PKIXKey where
  | ecdsa (key : PublicKey)
  | other
deriving DecidableEq, Repr

/-- {lit}`encoding/pem` and {lit}`crypto/x509`; {lean}`none` is an error. -/
structure KeyLibrary where
  decodePEM : Bytes → Option Bytes
  encodePEM : String → Bytes → Bytes
  parseECPrivateKey : Bytes → Option PrivateKey
  marshalECPrivateKey : PrivateKey → Bytes
  parsePKIXPublicKey : Bytes → Option PKIXKey
  marshalPKIXPublicKey : PublicKey → Bytes

/-- {lit}`ParsePrivateKeyFromPEM`. -/
def parsePrivateKeyFromPEM (lib : KeyLibrary) (data : Bytes) : Option PrivateKey :=
  match lib.decodePEM data with
  | none => none
  | some block => lib.parseECPrivateKey block

/-- {lit}`ParsePublicKeyFromPEM`. -/
def parsePublicKeyFromPEM (lib : KeyLibrary) (data : Bytes) : Option PublicKey :=
  match lib.decodePEM data with
  | none => none
  | some block =>
      match lib.parsePKIXPublicKey block with
      | some (.ecdsa key) => some key
      | some .other => none
      | none => none

/-- The block that is written to the key file. -/
def encodePrivateKey (lib : KeyLibrary) (priv : PrivateKey) : Bytes :=
  lib.encodePEM "EC PRIVATE KEY" (lib.marshalECPrivateKey priv)

/-- The block of the public key. -/
def encodePublicKey (lib : KeyLibrary) (pub : PublicKey) : Bytes :=
  lib.encodePEM "PUBLIC KEY" (lib.marshalPKIXPublicKey pub)

/-- A key that is saved reads back. -/
structure Saves (lib : KeyLibrary) (priv : PrivateKey) : Prop where
  privateKey : parsePrivateKeyFromPEM lib (encodePrivateKey lib priv) = some priv
  publicKey : parsePublicKeyFromPEM lib (encodePublicKey lib priv.publicKey) = some priv.publicKey

/-! ## The curve P-256 -/

/-- The prime of P-256. -/
def fieldPrime : Nat :=
  0xffffffff00000001000000000000000000000000ffffffffffffffffffffffff

/-- The constant of the equation of P-256. -/
def curveB : Nat :=
  0x5ac635d8aa3a93e7b3ebbd55769886bc651d06b0cc53b0f63bce3c3e27d2604b

/-- The equation of the curve, without a subtraction. -/
def isOnCurve (key : PublicKey) : Bool :=
  key.x < fieldPrime && key.y < fieldPrime &&
    (key.y ^ 2 + 3 * key.x) % fieldPrime = (key.x ^ 3 + curveB) % fieldPrime

/-- A number as 32 bytes, the highest first. -/
def fillBytes (n : Nat) : Bytes :=
  (List.range 32).reverse.map fun i => UInt8.ofNat (n / 256 ^ i)

/-- The number of big endian bytes. -/
def setBytes (bytes : Bytes) : Nat :=
  bytes.foldl (fun n b => 256 * n + b.toNat) 0

/-- A point without compression. -/
def marshalPoint (key : PublicKey) : Bytes :=
  0x04 :: (fillBytes key.x ++ fillBytes key.y)

/-- A point of the curve, from its 65 bytes. -/
def unmarshalPoint (bytes : Bytes) : Option PublicKey :=
  let key : PublicKey := ⟨setBytes ((bytes.drop 1).take 32), setBytes (bytes.drop 33)⟩
  if bytes.length = 65 ∧ bytes.head? = some 0x04 ∧ isOnCurve key then some key else none

/-- The object identifier of the curve. -/
def curveOID : Bytes :=
  [0x06, 0x08, 0x2a, 0x86, 0x48, 0xce, 0x3d, 0x03, 0x01, 0x07]

/-- What stands before the point of a public key on this curve. -/
def publicKeyPrefix : Bytes :=
  [0x30, 0x59, 0x30, 0x13, 0x06, 0x07, 0x2a, 0x86, 0x48, 0xce, 0x3d, 0x02, 0x01] ++ curveOID ++
    [0x03, 0x42, 0x00]

/-- What stands before the scalar of a private key. -/
def privateKeyPrefix : Bytes :=
  [0x30, 0x77, 0x02, 0x01, 0x01, 0x04, 0x20]

/-- What stands between the scalar and the point. -/
def privateKeyInfix : Bytes :=
  [0xa0, 0x0a] ++ curveOID ++ [0xa1, 0x44, 0x03, 0x42, 0x00]

/-- A public key, from its encoding. -/
def parsePoint (der : Bytes) : Option PKIXKey :=
  if publicKeyPrefix.isPrefixOf der then
    (unmarshalPoint (der.drop publicKeyPrefix.length)).map fun key => .ecdsa key
  else none

/-- The public key is read where the library computes it. -/
def parseScalar (der : Bytes) : Option PrivateKey :=
  let rest := der.drop 39
  if privateKeyPrefix.isPrefixOf der && privateKeyInfix.isPrefixOf rest then
    (unmarshalPoint (rest.drop privateKeyInfix.length)).map fun publicKey =>
      ⟨publicKey, setBytes ((der.drop 7).take 32)⟩
  else none

/-! ## Text -/

/-- The characters of bytes below 128. -/
def asciiText (bytes : Bytes) : List Char :=
  bytes.map fun b => Char.ofNat b.toNat

/-- The bytes of a text. -/
def textBytes (s : String) : Bytes :=
  s.toUTF8.data.toList

/-- Lines of 64 characters. -/
def wrap : Nat → List Char → List Char
  | 0, _ => []
  | lines + 1, text => text.take 64 ++ '\n' :: wrap lines (text.drop 64)

/-- A block between its two boundary lines. -/
def encodeBlock (type : String) (der : Bytes) : Bytes :=
  let body := (Base64.encode der).toList
  textBytes ("-----BEGIN " ++ type ++ "-----\n" ++ String.ofList (wrap ((body.length + 63) / 64) body)
    ++ "-----END " ++ type ++ "-----\n")

/-- A block that is the whole text. -/
def decodeBlock (data : Bytes) : Option Bytes :=
  let text := asciiText data
  let rest := text.dropWhile fun c => c ≠ '\n'
  if "-----BEGIN ".toList.isPrefixOf text &&
      "-----END ".toList.isPrefixOf (rest.dropWhile fun c => c ≠ '-') then
    Base64.decode (String.ofList (rest.takeWhile fun c => c ≠ '-'))
  else none

/-- The library for this curve. -/
def curveLibrary : KeyLibrary where
  decodePEM := decodeBlock
  encodePEM := encodeBlock
  parseECPrivateKey := parseScalar
  marshalECPrivateKey := fun priv =>
    privateKeyPrefix ++ fillBytes priv.d ++ privateKeyInfix ++ marshalPoint priv.publicKey
  parsePKIXPublicKey := parsePoint
  marshalPKIXPublicKey := fun pub => publicKeyPrefix ++ marshalPoint pub

/-! ## Round trips -/

/-- The lowest bytes of a number are read as the number up to a power. -/
theorem foldl_fillBytes (n k a : Nat) :
    ((List.range k).reverse.map fun i => UInt8.ofNat (n / 256 ^ i)).foldl
      (fun n b => 256 * n + b.toNat) a = a * 256 ^ k + n % 256 ^ k := by
  induction k generalizing a with
  | zero => simp [Nat.mod_one]
  | succ k ih =>
      have hbyte : (UInt8.ofNat (n / 256 ^ k)).toNat = n / 256 ^ k % 256 := by simp
      rw [List.range_succ, List.reverse_append, List.reverse_singleton, List.singleton_append,
        List.map_cons, List.foldl_cons, ih, hbyte, pow_succ, Nat.mod_mul]
      ring

/-- A number is written in 32 bytes. -/
theorem length_fillBytes (n : Nat) : (fillBytes n).length = 32 := by
  simp [fillBytes]

/-- A number below 2^256 is read as it was written. -/
theorem setBytes_fillBytes {n : Nat} (hn : n < 256 ^ 32) : setBytes (fillBytes n) = n := by
  rw [setBytes, fillBytes, foldl_fillBytes, Nat.zero_mul, Nat.zero_add, Nat.mod_eq_of_lt hn]

/-- A point of the curve reads back. -/
theorem unmarshalPoint_marshalPoint {key : PublicKey} (hkey : isOnCurve key = true) :
    unmarshalPoint (marshalPoint key) = some key := by
  have hbounds : key.x < fieldPrime ∧ key.y < fieldPrime := by
    simp only [isOnCurve, Bool.and_eq_true, decide_eq_true_eq] at hkey
    exact hkey.1
  have hprime : fieldPrime < 256 ^ 32 := by decide
  have hx : ((marshalPoint key).drop 1).take 32 = fillBytes key.x := by
    rw [marshalPoint, List.drop_one, List.tail_cons, ← length_fillBytes key.x]
    exact List.take_left
  have hy : (marshalPoint key).drop 33 = fillBytes key.y := by
    show (fillBytes key.x ++ fillBytes key.y).drop 32 = fillBytes key.y
    rw [← length_fillBytes key.x]
    exact List.drop_left
  have hlength : (marshalPoint key).length = 65 := by
    simp [marshalPoint, length_fillBytes]
  unfold unmarshalPoint
  rw [hx, hy, setBytes_fillBytes (by omega), setBytes_fillBytes (by omega), hlength]
  simp [marshalPoint, hkey]

/-- A public key is parsed as it was marshalled. -/
theorem parsePoint_marshal {key : PublicKey} (hkey : isOnCurve key = true) :
    parsePoint (curveLibrary.marshalPKIXPublicKey key) = some (.ecdsa key) := by
  show parsePoint (publicKeyPrefix ++ marshalPoint key) = _
  rw [parsePoint, if_pos (List.isPrefixOf_iff_prefix.mpr (List.prefix_append _ _)), List.drop_left,
    unmarshalPoint_marshalPoint hkey]
  rfl

/-- A private key is parsed as it was marshalled. -/
theorem parseScalar_marshal {priv : PrivateKey} (hkey : isOnCurve priv.publicKey = true)
    (hd : priv.d < 256 ^ 32) :
    parseScalar (curveLibrary.marshalECPrivateKey priv) = some priv := by
  show parseScalar (privateKeyPrefix ++ fillBytes priv.d ++ privateKeyInfix ++
    marshalPoint priv.publicKey) = _
  have hscalar : (privateKeyPrefix ++ fillBytes priv.d).length = 39 := by
    rw [List.length_append, length_fillBytes]
    rfl
  have hrest : (privateKeyPrefix ++ fillBytes priv.d ++ privateKeyInfix ++
      marshalPoint priv.publicKey).drop 39 = privateKeyInfix ++ marshalPoint priv.publicKey := by
    rw [List.append_assoc, ← hscalar]
    exact List.drop_left
  have hd' : ((privateKeyPrefix ++ fillBytes priv.d ++ privateKeyInfix ++
      marshalPoint priv.publicKey).drop 7).take 32 = fillBytes priv.d := by
    rw [List.append_assoc, List.append_assoc, show 7 = privateKeyPrefix.length from rfl,
      List.drop_left, ← length_fillBytes priv.d]
    exact List.take_left
  have hprefix : privateKeyPrefix.isPrefixOf (privateKeyPrefix ++ fillBytes priv.d ++
      privateKeyInfix ++ marshalPoint priv.publicKey) = true := by
    rw [List.isPrefixOf_iff_prefix, List.append_assoc, List.append_assoc]
    exact List.prefix_append _ _
  unfold parseScalar
  dsimp only
  rw [hrest, hd', hprefix, List.isPrefixOf_iff_prefix.mpr (List.prefix_append privateKeyInfix _),
    if_pos (Bool.and_self true), List.drop_left, unmarshalPoint_marshalPoint hkey,
    setBytes_fillBytes hd]
  rfl

/-- What is tested of all letters of a text. -/
theorem forall_mem_of_all {P : Char → Prop} [DecidablePred P] {text : List Char}
    (h : text.all (fun c => decide (P c)) = true) : ∀ c ∈ text, P c := by
  intro c hc
  exact of_decide_eq_true (List.all_eq_true.mp h c hc)

/-- A text below 128 is its bytes. -/
theorem asciiText_textBytes {s : String} (hs : ∀ c ∈ s.toList, c.toNat < 128) :
    asciiText (textBytes s) = s.toList := by
  rw [asciiText, textBytes, Utf8.toUTF8_of_ascii hs, List.map_map]
  refine (List.map_congr_left fun c hc => ?_).trans (List.map_id s.toList)
  have hbyte : (UInt8.ofNat c.toNat).toNat = c.toNat := by
    have hlt := hs c hc
    rw [UInt8.toNat_ofNat']
    omega
  show Char.ofNat (UInt8.ofNat c.toNat).toNat = c
  rw [hbyte, Char.ofNat_toNat]

/-- The digits are read where they stand. -/
theorem decodeBlock_eq (data : Bytes) :
    decodeBlock data =
      let text := asciiText data
      let rest := text.dropWhile fun c => c ≠ '\n'
      if "-----BEGIN ".toList.isPrefixOf text &&
          "-----END ".toList.isPrefixOf (rest.dropWhile fun c => c ≠ '-') then
        Base64.decodeDigits
          ((rest.takeWhile fun c => c ≠ '-').filter fun c => !Base64.isLineBreak c)
      else none := by
  simp only [decodeBlock, Base64.decode, String.toList_ofList]

/-- Wrapping adds line ends only. -/
theorem filter_wrap {p : Char → Bool} (hp : p '\n' = false) {lines : Nat} {text : List Char}
    (hlines : text.length ≤ lines * 64) : (wrap lines text).filter p = text.filter p := by
  induction lines generalizing text with
  | zero =>
      obtain rfl : text = [] := List.length_eq_zero_iff.mp (by omega)
      rfl
  | succ lines ih =>
      have hdrop : (text.drop 64).length ≤ lines * 64 := by
        rw [List.length_drop]
        omega
      rw [wrap, List.filter_append, List.filter_cons_of_neg (by simp [hp]), ih hdrop,
        ← List.filter_append, List.take_append_drop]

/-- A character of the wrapped text is a line end or one of the text. -/
theorem mem_wrap {lines : Nat} {text : List Char} {c : Char} (hc : c ∈ wrap lines text) :
    c = '\n' ∨ c ∈ text := by
  induction lines generalizing text with
  | zero => cases hc
  | succ lines ih =>
      rcases List.mem_append.mp hc with htake | hrest
      · exact Or.inr (List.mem_of_mem_take htake)
      · rcases List.mem_cons.mp hrest with hbreak | htail
        · exact Or.inl hbreak
        · exact (ih htail).imp id List.mem_of_mem_drop

/-! The parts of a block. -/

/-- The boundary line before the block. -/
def blockHeader (type : String) : List Char :=
  "-----BEGIN ".toList ++ (type.toList ++ "-----".toList)

/-- The lines of the block, with the end of the line before. -/
def blockLines (der : Bytes) : List Char :=
  '\n' :: wrap (((Base64.encodeBytes der).length + 63) / 64) (Base64.encodeBytes der)

/-- The boundary line after the block. -/
def blockFooter (type : String) : List Char :=
  "-----END ".toList ++ (type.toList ++ "-----\n".toList)

/-- No line of a block looks like a boundary. -/
theorem blockLines_spec (der : Bytes) : ∀ c ∈ blockLines der, c.toNat < 128 ∧ c ≠ '-' := by
  intro c hc
  have hmem : c = '\n' ∨ c ∈ Base64.encodeBytes der := by
    rcases List.mem_cons.mp hc with hbreak | hwrap
    · exact Or.inl hbreak
    · exact mem_wrap hwrap
  rcases hmem with rfl | hdigit
  · decide
  · exact Base64.forall_mem_encodeBytes (P := fun c => c.toNat < 128 ∧ c ≠ '-') (by decide)
      (by decide) der c hdigit

/-- Without the line breaks, the lines are the digits. -/
theorem filter_blockLines (der : Bytes) :
    (blockLines der).filter (fun c => !Base64.isLineBreak c) = Base64.encodeBytes der := by
  rw [blockLines, List.filter_cons_of_neg (by decide), filter_wrap (by decide) (by omega)]
  apply List.filter_eq_self.mpr
  intro c hc
  rw [Base64.encodeBytes_noLineBreak der c hc]
  rfl

/-- The boundary starts with a dash. -/
theorem blockFooter_eq_cons (type : String) :
    blockFooter type = '-' :: ("----END ".toList ++ (type.toList ++ "-----\n".toList)) :=
  rfl

/-- The first dash after the lines begins the footer. -/
theorem dropWhile_blockLines (type : String) (der : Bytes) :
    (blockLines der ++ blockFooter type).dropWhile (fun c => c ≠ '-') = blockFooter type := by
  rw [List.dropWhile_append_of_pos fun c hc => decide_eq_true (blockLines_spec der c hc).2,
    blockFooter_eq_cons]
  exact List.dropWhile_cons_of_neg (by simp)

/-- The lines end at the dash. -/
theorem takeWhile_blockLines (type : String) (der : Bytes) :
    (blockLines der ++ blockFooter type).takeWhile (fun c => c ≠ '-') = blockLines der := by
  rw [List.takeWhile_append_of_pos fun c hc => decide_eq_true (blockLines_spec der c hc).2,
    blockFooter_eq_cons, List.takeWhile_cons_of_neg (by simp), List.append_nil]

section

variable {type : String} (htype : ∀ c ∈ type.toList, c.toNat < 128 ∧ c ≠ '\n')
include htype

/-- The boundary is one line. -/
theorem blockHeader_spec : ∀ c ∈ blockHeader type, c.toNat < 128 ∧ c ≠ '\n' := by
  have hbegin : ∀ c ∈ "-----BEGIN ".toList, c.toNat < 128 ∧ c ≠ '\n' :=
    forall_mem_of_all (by decide +kernel)
  have hdashes : ∀ c ∈ "-----".toList, c.toNat < 128 ∧ c ≠ '\n' :=
    forall_mem_of_all (by decide +kernel)
  intro c hc
  rcases List.mem_append.mp hc with hc | hrest
  · exact hbegin c hc
  · rcases List.mem_append.mp hrest with hc | hc
    · exact htype c hc
    · exact hdashes c hc

/-- The boundary is below 128. -/
theorem blockFooter_ascii : ∀ c ∈ blockFooter type, c.toNat < 128 := by
  have hend : ∀ c ∈ "-----END ".toList, c.toNat < 128 := forall_mem_of_all (by decide +kernel)
  have hdashes : ∀ c ∈ "-----\n".toList, c.toNat < 128 := forall_mem_of_all (by decide +kernel)
  intro c hc
  rcases List.mem_append.mp hc with hc | hrest
  · exact hend c hc
  · rcases List.mem_append.mp hrest with hc | hc
    · exact (htype c hc).1
    · exact hdashes c hc

/-- The parts of an encoded block. -/
theorem asciiText_encodeBlock (der : Bytes) :
    asciiText (encodeBlock type der) = blockHeader type ++ (blockLines der ++ blockFooter type) := by
  have hblock : encodeBlock type der =
      textBytes (String.ofList (blockHeader type ++ (blockLines der ++ blockFooter type))) := by
    unfold encodeBlock blockHeader blockLines blockFooter
    simp only [Base64.encode, String.toList_ofList]
    congr 1
    apply String.toList_injective
    simp
  rw [hblock, asciiText_textBytes, String.toList_ofList]
  intro c hc
  rw [String.toList_ofList] at hc
  rcases List.mem_append.mp hc with hheader | hrest
  · exact (blockHeader_spec htype c hheader).1
  · rcases List.mem_append.mp hrest with hlines | hfooter
    · exact (blockLines_spec der c hlines).1
    · exact blockFooter_ascii htype c hfooter

/-- A block reads back. -/
theorem decodeBlock_encodeBlock (der : Bytes) : decodeBlock (encodeBlock type der) = some der := by
  have hrest : (blockHeader type ++ (blockLines der ++ blockFooter type)).dropWhile
      (fun c => c ≠ '\n') = blockLines der ++ blockFooter type := by
    rw [List.dropWhile_append_of_pos fun c hc => decide_eq_true (blockHeader_spec htype c hc).2]
    exact List.dropWhile_cons_of_neg (by simp)
  have hbegin : "-----BEGIN ".toList.isPrefixOf
      (blockHeader type ++ (blockLines der ++ blockFooter type)) = true := by
    apply List.isPrefixOf_iff_prefix.mpr
    unfold blockHeader
    rw [List.append_assoc]
    exact List.prefix_append "-----BEGIN ".toList _
  have hend : "-----END ".toList.isPrefixOf (blockFooter type) = true :=
    List.isPrefixOf_iff_prefix.mpr (List.prefix_append "-----END ".toList _)
  rw [decodeBlock_eq]
  dsimp only
  rw [asciiText_encodeBlock htype, hrest, dropWhile_blockLines, takeWhile_blockLines, hbegin, hend,
    if_pos (Bool.and_self true), filter_blockLines, Base64.decodeDigits_encodeBytes]

end

/-- A decoded block is parsed as a private key. -/
theorem parsePrivateKeyFromPEM_curveLibrary {data block : Bytes}
    (h : decodeBlock data = some block) :
    parsePrivateKeyFromPEM curveLibrary data = parseScalar block := by
  show (match decodeBlock data with | none => none | some block => parseScalar block) = _
  rw [h]

/-- A decoded block is parsed as a public key. -/
theorem parsePublicKeyFromPEM_curveLibrary {data block : Bytes} {key : PublicKey}
    (h : decodeBlock data = some block) (hkey : parsePoint block = some (.ecdsa key)) :
    parsePublicKeyFromPEM curveLibrary data = some key := by
  have hblock : curveLibrary.decodePEM data = some block := h
  have hpoint : curveLibrary.parsePKIXPublicKey block = some (.ecdsa key) := hkey
  rw [parsePublicKeyFromPEM, hblock]
  dsimp only
  rw [hpoint]

/-- A key of the curve that is saved reads back. -/
theorem curveLibrary_saves {priv : PrivateKey} (hkey : isOnCurve priv.publicKey = true)
    (hd : priv.d < 256 ^ 32) : Saves curveLibrary priv where
  privateKey := by
    have hblock : decodeBlock (encodePrivateKey curveLibrary priv) =
        some (curveLibrary.marshalECPrivateKey priv) := by
      show decodeBlock (encodeBlock "EC PRIVATE KEY" (curveLibrary.marshalECPrivateKey priv)) = _
      rw [decodeBlock_encodeBlock (forall_mem_of_all (by decide +kernel))]
    rw [parsePrivateKeyFromPEM_curveLibrary hblock, parseScalar_marshal hkey hd]
  publicKey := by
    have hblock : decodeBlock (encodePublicKey curveLibrary priv.publicKey) =
        some (curveLibrary.marshalPKIXPublicKey priv.publicKey) := by
      show decodeBlock
        (encodeBlock "PUBLIC KEY" (curveLibrary.marshalPKIXPublicKey priv.publicKey)) = _
      rw [decodeBlock_encodeBlock (forall_mem_of_all (by decide +kernel))]
    exact parsePublicKeyFromPEM_curveLibrary hblock (parsePoint_marshal hkey)

/-- The private key 1; its public key is the base point. -/
def unitKey : PrivateKey where
  publicKey := ⟨0x6b17d1f2e12c4247f8bce6e563a440f277037d812deb33a0f4a13945d898c296,
    0x4fe342e2fe1a7f9b8ee7eb4a7c0f9e162bce33576b315ececbb6406837bf51f5⟩
  d := 1

/-- The key of scalar 1 is read as it was saved. -/
theorem unitKey_saves : Saves curveLibrary unitKey :=
  curveLibrary_saves (by decide +kernel) (by decide)

end Keys

end OtaRobot
