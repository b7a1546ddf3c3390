/-!
# Decoding bytes that need not be text

Reads bytes as UTF-8. Where they are not, the longest start of an encoded character, or else one
byte, stands for one replacement character, and decoding goes on with the byte after it.
-/

set_option autoImplicit false

namespace SymbolCache.Text

def replacementCharacter : Char := '\ufffd'

/-- A character of which some bytes are read: the value so far, how many bytes it lacks, and the
range of the next one. -/
structure PartialCharacter where
  value : Nat
  lacks : Nat
  least : UInt8
  most : UInt8

/-- What the first byte of a character tells: the whole character, a part of one, or nothing. -/
inductive FirstByte where
  | whole (character : Char)
  | part (rest : PartialCharacter)
  | invalid

/-- Reads the first byte of a character. The range of the second byte excludes encodings that are
longer than needed, surrogates and values beyond the last code point. -/
def FirstByte.read (byte : UInt8) : FirstByte :=
  let value := byte.toNat
  if byte < 0x80 then .whole (Char.ofNat value)
  else if byte < 0xC2 then .invalid
  else if byte < 0xE0 then .part ⟨value - 0xC0, 1, 0x80, 0xBF⟩
  else if byte < 0xF0 then
    .part ⟨value - 0xE0, 2, if byte = 0xE0 then 0xA0 else 0x80, if byte = 0xED then 0x9F else 0xBF⟩
  else if byte < 0xF5 then
    .part ⟨value - 0xF0, 3, if byte = 0xF0 then 0x90 else 0x80, if byte = 0xF4 then 0x8F else 0xBF⟩
  else .invalid

def decodeFrom : Option PartialCharacter → List UInt8 → List Char
  | none, [] => []
  | some _, [] => [replacementCharacter]
  | none, byte :: bytes =>
    match FirstByte.read byte with
    | .whole character => character :: decodeFrom none bytes
    | .part rest => decodeFrom (some rest) bytes
    | .invalid => replacementCharacter :: decodeFrom none bytes
  | some begun, byte :: bytes =>
    if begun.least ≤ byte && byte ≤ begun.most then
      let value := begun.value * 64 + (byte.toNat - 0x80)
      if begun.lacks ≤ 1 then Char.ofNat value :: decodeFrom none bytes
      else decodeFrom (some ⟨value, begun.lacks - 1, 0x80, 0xBF⟩) bytes
    else
      replacementCharacter ::
        match FirstByte.read byte with
        | .whole character => character :: decodeFrom none bytes
        | .part rest => decodeFrom (some rest) bytes
        | .invalid => replacementCharacter :: decodeFrom none bytes

def decodeLossy (bytes : List UInt8) : String :=
  String.ofList (decodeFrom none bytes)

example : decodeLossy [0x61, 0xFF, 0x62, 0xC3] = "a\ufffdb\ufffd" := by decide +kernel

example : decodeLossy [0xF0, 0x9F, 0x98, 0x78] = "\ufffdx" := by decide +kernel

end SymbolCache.Text

/-!
## Decoding bytes without loss

Reads bytes as UTF-8 and keeps those that encode no character. Every one of them has a stray
character of its own, so that the bytes can be told from the characters. The strays are the last
code points, and bytes that encode one of these are themselves read as strays.
-/

namespace SymbolCache.Text

def strayBase : Nat := 0x10FF00

def strayOf (byte : UInt8) : Char :=
  Char.ofNat (strayBase + byte.toNat)

def isStray (character : Char) : Bool :=
  strayBase + 0x80 ≤ character.toNat

/-- What has been read of bytes: the characters, the bytes of the last one if it is not complete,
and what it lacks. The last ones come first. -/
structure LetterReader where
  letters : List Char := []
  begun : List UInt8 := []
  lacks : Option PartialCharacter := none

namespace LetterReader

def giveUp (reader : LetterReader) : LetterReader where
  letters := reader.begun.map strayOf ++ reader.letters

def start (reader : LetterReader) (byte : UInt8) : LetterReader :=
  match FirstByte.read byte with
  | .whole character => { letters := character :: reader.letters }
  | .part rest => { reader with begun := [byte], lacks := some rest }
  | .invalid => { letters := strayOf byte :: reader.letters }

def step (reader : LetterReader) (byte : UInt8) : LetterReader :=
  match reader.lacks with
  | none => reader.start byte
  | some part =>
    if part.least ≤ byte && byte ≤ part.most then
      let value := part.value * 64 + (byte.toNat - 0x80)
      let begun := byte :: reader.begun
      if 1 < part.lacks then
        { reader with begun, lacks := some ⟨value, part.lacks - 1, 0x80, 0xBF⟩ }
      else if isStray (Char.ofNat value) then { reader with begun }.giveUp
      else { letters := Char.ofNat value :: reader.letters }
    else reader.giveUp.start byte

end LetterReader

def lettersOf (bytes : List UInt8) : List Char :=
  ((bytes.foldl LetterReader.step {}).giveUp).letters.reverse

def encodeLetters (letters : List Char) : List UInt8 :=
  letters.flatMap fun letter =>
    if isStray letter then [(letter.toNat - strayBase).toUInt8]
    else String.utf8EncodeChar letter

example : lettersOf [0x61, 0xC3, 0xA9, 0xC3] = ['a', 'é', strayOf 0xC3] := by decide +kernel

example : encodeLetters (lettersOf [0x61, 0xE2, 0x82, 0x41]) = [0x61, 0xE2, 0x82, 0x41] := by
  decide +kernel

end SymbolCache.Text
