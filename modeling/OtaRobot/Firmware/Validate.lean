import Mathlib.Data.List.Infix
import Mathlib.Data.List.TakeWhile
import OtaRobot.Agent.Handlers
import OtaRobot.Library.Utf8

/-!
# Validation of firmware uploads

{lit}`ValidateBinary` of {lit}`internal/firmware/validate.go`, with the functions of the Go
library that {lit}`Release` applies to the version and the file name.

The checks compare with ASCII texts after lowering.  How letters outside ASCII are lowered is a
table of the library, and a parameter here.

Main results:

- Theorem {lit}`validateBinary_size`: an accepted image has an admissible size.
- Theorem {lit}`validateBinary_rejects`: a script signature is found whatever surrounds it.
- Theorem {lit}`slash_not_mem_base`: the base name of a path has no slash, unless it is the root.
-/

namespace OtaRobot.Firmware

open Agent

/-! ## Texts -/

/-- {lit}`unicode.IsSpace`. -/
def isSpace (c : Char) : Bool :=
  c.toNat ∈ [0x09, 0x0a, 0x0b, 0x0c, 0x0d, 0x20, 0x85, 0xa0, 0x1680, 0x2028, 0x2029, 0x202f,
    0x205f, 0x3000] || (0x2000 ≤ c.toNat && c.toNat ≤ 0x200a)

/-- {lit}`strings.TrimSpace`. -/
def trimSpace (s : String) : String :=
  String.ofList (((s.toList.dropWhile isSpace).reverse.dropWhile isSpace).reverse)

/-- {lit}`filepath.Base` on a path with slashes. -/
def base (path : String) : String :=
  if path = "" then "."
  else
    let reversed := path.toList.reverse.dropWhile fun c => c = '/'
    let last := (reversed.takeWhile fun c => c ≠ '/').reverse
    if last = [] then "/" else String.ofList last

/-- The last element of a path has no slash, or the path is the root. -/
theorem slash_not_mem_base (path : String) : base path = "/" ∨ '/' ∉ (base path).toList := by
  unfold base
  by_cases hempty : path = ""
  · right
    rw [if_pos hempty]
    decide
  · rw [if_neg hempty]
    dsimp only
    split
    · exact Or.inl rfl
    · right
      rw [String.toList_ofList, List.mem_reverse]
      intro hmem
      have hslash := List.mem_takeWhile_imp hmem
      simp at hslash

/-- A table for {lit}`unicode.ToLower`. -/
structure RuneLowering where
  toLower : Char → Char
  ascii : ∀ c : Char, c.toNat < 128 → toLower c = c.toLower

/-- {lit}`unicode.ToLower`, as far as it leads to ASCII. -/
def lowerRune (c : Char) : Char :=
  if c = '\u0130' then 'i' else if c = '\u212a' then 'k' else c.toLower

/-- Below 128 the letters are lowered. -/
theorem lowerRune_of_ascii (c : Char) (hc : c.toNat < 128) : lowerRune c = c.toLower := by
  have hne : ∀ d : Char, 128 ≤ d.toNat → c ≠ d := by
    rintro d hd rfl
    omega
  unfold lowerRune
  rw [if_neg (hne _ (by decide)), if_neg (hne _ (by decide))]

/-- A table for these characters. -/
def asciiLowering : RuneLowering where
  toLower := lowerRune
  ascii := lowerRune_of_ascii

/-- A letter below 128 is lowered. -/
def lowerByte (b : UInt8) : UInt8 :=
  if 0x41 ≤ b ∧ b ≤ 0x5a then b + 0x20 else b

/-- {lit}`bytes.ToLower`: byte by byte if all are ASCII, else letter by letter. -/
def lowerBytes (low : RuneLowering) (data : Bytes) : Bytes :=
  if data.all fun b => b < 0x80 then data.map lowerByte else Utf8.mapRunes low.toLower 0 data

/-- The bytes of an ASCII text. -/
def asciiBytes (s : String) : Bytes :=
  s.toList.map fun c => UInt8.ofNat c.toNat

/-- {lit}`bytes.Contains`. -/
def containsBytes (data part : Bytes) : Bool :=
  data.tails.any fun rest => part.isPrefixOf rest

/-- {lit}`strings.HasSuffix`. -/
def hasSuffix (s : List Char) (suffix : String) : Bool :=
  suffix.toList.isSuffixOf s

/-! ## Validation -/

/-- {lit}`MaxFirmwareSize`. -/
def maxFirmwareSize : Nat :=
  100 * 1024 * 1024

/-- {lit}`MinFirmwareSize`. -/
def minFirmwareSize : Nat :=
  4

/-- {lit}`AllowedFirmwareExtensions`. -/
def allowedFirmwareExtensions : List String :=
  [".bin", ".hex", ".tar.gz", ".tgz", ".img", ".zip", ".elf"]

/-- The first bytes of a gzip file. -/
def magicGzip : Bytes :=
  [0x1f, 0x8b]

/-- The first bytes of a zip file. -/
def magicZip : Bytes :=
  [0x50, 0x4b, 0x03, 0x04]

/-- The first bytes of an ELF file. -/
def magicELF : Bytes :=
  [0x7f, 0x45, 0x4c, 0x46]

/-- {lit}`disallowedScriptPrefixes`. -/
def disallowedScriptPrefixes : List String :=
  ["<?php", "<!doctype html", "<!DOCTYPE html", "<html", "eval(", "#!/bin/sh", "#!/bin/bash",
    "#!/usr/bin/env"]

/-- The magic bytes of the formats that have some. -/
def validateMagic (lowerName : List Char) (data : Bytes) : Except String Unit :=
  if hasSuffix lowerName ".tar.gz" || hasSuffix lowerName ".tgz" then
    if magicGzip.isPrefixOf data then .ok ()
    else .error ("invalid firmware binary: tar.gz archive must begin with gzip magic bytes " ++
      "(0x1F, 0x8B)")
  else if hasSuffix lowerName ".zip" then
    if magicZip.isPrefixOf data then .ok ()
    else .error "invalid firmware binary: zip archive must begin with zip magic bytes (PK\\x03\\x04)"
  else if hasSuffix lowerName ".elf" then
    if magicELF.isPrefixOf data then .ok ()
    else .error "invalid firmware binary: elf binary must begin with ELF magic bytes (\\x7fELF)"
  else if hasSuffix lowerName ".hex" then
    if (asciiBytes ":").isPrefixOf data then .ok ()
    else .error "invalid firmware binary: intel hex file must begin with ':' record marker"
  else .ok ()

/-- {lit}`ValidateBinary`: the size, the extension, the texts, the first bytes, in this order. -/
def validateBinary (low : RuneLowering) (filename : String) (data : Bytes) : Except String Unit :=
  if data.length < minFirmwareSize then
    .error "firmware file too small: must be at least 4 bytes"
  else if data.length > maxFirmwareSize then
    .error "firmware file exceeds maximum limit of 104857600 bytes"
  else
    let lowerName := (base filename).toList.map low.toLower
    if !(allowedFirmwareExtensions.any fun ext => hasSuffix lowerName ext) then
      .error ("invalid firmware file extension: must be one of " ++
        "[.bin .hex .tar.gz .tgz .img .zip .elf]")
    else
      let head := lowerBytes low (data.take 512)
      if disallowedScriptPrefixes.any fun sig => containsBytes head (lowerBytes low (asciiBytes sig)) then
        .error ("security violation: executable web/shell script signature detected in " ++
          "firmware payload")
      else
        validateMagic lowerName data

/-- An accepted image has an admissible size. -/
theorem validateBinary_size {low : RuneLowering} {filename : String} {data : Bytes}
    (h : validateBinary low filename data = .ok ()) :
    minFirmwareSize ≤ data.length ∧ data.length ≤ maxFirmwareSize := by
  unfold validateBinary at h
  by_cases hmin : data.length < minFirmwareSize
  · rw [if_pos hmin] at h
    cases h
  · by_cases hmax : data.length > maxFirmwareSize
    · rw [if_neg hmin, if_pos hmax] at h
      cases h
    · omega

/-! ## Hidden signatures -/

theorem containsBytes_iff {data part : Bytes} : containsBytes data part = true ↔ part <:+: data := by
  simp only [containsBytes, List.any_eq_true, List.mem_tails, List.isPrefixOf_iff_prefix]
  constructor
  · rintro ⟨rest, hrest, hpart⟩
    exact List.infix_iff_prefix_suffix.mpr ⟨rest, hpart, hrest⟩
  · intro h
    obtain ⟨rest, hpart, hrest⟩ := List.infix_iff_prefix_suffix.mp h
    exact ⟨rest, hrest, hpart⟩

theorem lowerByte_lt_iff {b : UInt8} : lowerByte b < 128 ↔ b < 128 := by
  unfold lowerByte
  split
  · next h =>
      rw [UInt8.le_iff_toNat_le, UInt8.le_iff_toNat_le] at h
      rw [UInt8.lt_iff_toNat_lt, UInt8.lt_iff_toNat_lt, UInt8.toNat_add]
      simp only [UInt8.reduceToNat] at h ⊢
      omega
  · exact Iff.rfl

/-- The table lowers ASCII letters as the bytes are lowered. -/
theorem RuneLowering.utf8EncodeChar_toLower (low : RuneLowering) (b : UInt8) (hb : b < 128) :
    String.utf8EncodeChar (low.toLower (Char.ofNat b.toNat)) = [lowerByte b] := by
  rw [low.ascii]
  · exact Utf8.forall_lt_of_ofNat
      (P := fun b => String.utf8EncodeChar (Char.ofNat b.toNat).toLower = [lowerByte b]) (by decide) hb
  · exact Utf8.forall_lt_of_ofNat (P := fun b => (Char.ofNat b.toNat).toNat < 128) (by decide) hb

/-- An ASCII piece is lowered byte by byte, wherever it stands. -/
theorem map_lowerByte_infix (low : RuneLowering) {window : Bytes}
    (hwindow : ∀ b ∈ window, b < 128) (before after : Bytes) :
    window.map lowerByte <:+: lowerBytes low (before ++ (window ++ after)) := by
  unfold lowerBytes
  split
  · refine ⟨before.map lowerByte, after.map lowerByte, ?_⟩
    simp
  · exact Utf8.mapRunes_infix low.utf8EncodeChar_toLower hwindow before after

/-- The texts are below 128. -/
theorem disallowedScriptPrefixes_ascii :
    ∀ sig ∈ disallowedScriptPrefixes, ∀ b ∈ asciiBytes sig, b < 128 := by
  decide +kernel

/-- A text below 128 is lowered byte by byte. -/
theorem lowerBytes_of_ascii (low : RuneLowering) {data : Bytes} (hdata : ∀ b ∈ data, b < 128) :
    lowerBytes low data = data.map lowerByte := by
  unfold lowerBytes
  rw [if_pos]
  simpa using hdata

/-- A script signature within the first 512 bytes, in letters of any case, is found whatever bytes
stand before and after it. -/
theorem validateBinary_rejects (low : RuneLowering) (filename : String) {sig : String}
    (hsig : sig ∈ disallowedScriptPrefixes) (before window after : Bytes)
    (hsame : window.map lowerByte = (asciiBytes sig).map lowerByte)
    (hhead : before.length + window.length ≤ 512) :
    ∃ message, validateBinary low filename (before ++ (window ++ after)) = .error message := by
  have hascii := disallowedScriptPrefixes_ascii sig hsig
  have hwindow : ∀ b ∈ window, b < 128 := by
    intro b hb
    have hmem : lowerByte b ∈ (asciiBytes sig).map lowerByte := by
      rw [← hsame]
      exact List.mem_map_of_mem hb
    obtain ⟨b', hb', heq⟩ := List.mem_map.mp hmem
    rw [← lowerByte_lt_iff, ← heq, lowerByte_lt_iff]
    exact hascii b' hb'
  have htake : (before ++ (window ++ after)).take 512 =
      before ++ (window ++ after.take (512 - before.length - window.length)) := by
    rw [List.take_append, List.take_append, List.take_of_length_le (by omega),
      List.take_of_length_le (by omega)]
  have hfound : containsBytes (lowerBytes low ((before ++ (window ++ after)).take 512))
      (lowerBytes low (asciiBytes sig)) = true := by
    rw [containsBytes_iff, htake, lowerBytes_of_ascii low hascii, ← hsame]
    exact map_lowerByte_infix low hwindow before _
  unfold validateBinary
  split
  · exact ⟨_, rfl⟩
  · split
    · exact ⟨_, rfl⟩
    · dsimp only
      split
      · exact ⟨_, rfl⟩
      · rw [if_pos (List.any_eq_true.mpr ⟨sig, hsig, hfound⟩)]
        exact ⟨_, rfl⟩

/-- A signature between the first bytes of two encodings that are not finished. -/
theorem validateBinary_rejects_truncated : ∃ message,
    validateBinary asciiLowering "firmware.bin"
      ([0xe2, 0x84] ++ (asciiBytes "<?PhP" ++ [0xf0, 0x90])) = .error message :=
  validateBinary_rejects asciiLowering "firmware.bin"
    (show "<?php" ∈ disallowedScriptPrefixes by decide) [0xe2, 0x84] (asciiBytes "<?PhP")
    [0xf0, 0x90] (by decide) (by decide)

end OtaRobot.Firmware
