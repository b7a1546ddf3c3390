import SymbolCache.Program.Utility.Line

/-!
# Bytes in letters

Utilities that write bytes with the letters of an alphabet and read them back. An alphabet has as
many letters as some bits can tell apart. Letters stand in groups that hold whole bytes; signs fill
the last group up.
-/

set_option autoImplicit false

namespace SymbolCache.Program.Utility

/-- An alphabet: its letters, how many bits each of them has, and the sizes of a group in letters
and in bytes. -/
structure Alphabet where
  letters : List Char
  bits : Nat
  groupLetters : Nat
  groupBytes : Nat

namespace Alphabet

def sixtyFour : Alphabet where
  letters := "ABCDEFGHIJKLMNOPQRSTUVWXYZabcdefghijklmnopqrstuvwxyz0123456789+/".toList
  bits := 6
  groupLetters := 4
  groupBytes := 3

def thirtyTwo : Alphabet where
  letters := "ABCDEFGHIJKLMNOPQRSTUVWXYZ234567".toList
  bits := 5
  groupLetters := 8
  groupBytes := 5

def lettersFor (alphabet : Alphabet) (count : Nat) : Nat :=
  (8 * count + alphabet.bits - 1) / alphabet.bits

def encodeGroup (alphabet : Alphabet) (group : List UInt8) : List Char :=
  let value := group.foldl (fun value byte => 256 * value + byte.toNat) 0
  let value := value * Nat.pow 256 (alphabet.groupBytes - group.length)
  let letter (place : Nat) : Char :=
    let number := value / Nat.pow 2 (alphabet.bits * (alphabet.groupLetters - 1 - place))
    (alphabet.letters[number % Nat.pow 2 alphabet.bits]?).getD '='
  let used := alphabet.lettersFor group.length
  (List.range used).map letter ++ List.replicate (alphabet.groupLetters - used) '='

def encode (alphabet : Alphabet) (content : List UInt8) : List Char :=
  (piecesOf alphabet.groupBytes content).flatMap alphabet.encodeGroup

def decodeGroup (alphabet : Alphabet) (numbers : List Nat) : List UInt8 :=
  let count := numbers.length * alphabet.bits / 8
  let value := numbers.foldl (fun value number => Nat.pow 2 alphabet.bits * value + number) 0
  let value := value / Nat.pow 2 (numbers.length * alphabet.bits - 8 * count)
  (List.range count).map fun place => (value / Nat.pow 256 (count - 1 - place)).toUInt8

/-- Reads bytes that are written in letters. Tells whether they are written properly. It is fuelled
by the length of the text. -/
def decode (alphabet : Alphabet) : Nat → List Char → List UInt8 × Bool
  | 0, _ => ([], true)
  | _ + 1, [] => ([], true)
  | fuel + 1, text =>
    let number? (letter : Char) : Option Nat := alphabet.letters.findIdx? (· == letter)
    let letters := (text.take alphabet.groupLetters).takeWhile fun letter => (number? letter).isSome
    let decoded := alphabet.decodeGroup (letters.filterMap number?)
    let filling := alphabet.groupLetters - letters.length
    let rest := text.drop letters.length
    if !letters.isEmpty && rest.take filling = List.replicate filling '=' &&
        alphabet.lettersFor decoded.length = letters.length then
      let (others, isProper) := alphabet.decode fuel (rest.drop filling)
      (decoded ++ others, isProper)
    else (decoded, false)

end Alphabet

def recode (name : String) (alphabet : Alphabet) : Utility :=
  withOptions
    { name, plain := "di", valued := "w"
      long := [("decode", 'd'), ("ignore-garbage", 'i'), ("wrap", 'w')] }
    fun options =>
      match options.value? 'w' |>.map number?, options.words with
      | some none, _ =>
        return complaint 1 name ("invalid wrap size: " ++ quoted ((options.value? 'w').getD ""))
      | _, _ :: extra :: _ => return misuse 1 name ("extra operand " ++ quoted extra)
      | width, words => do
        let path := words.headD "-"
        match ← readFile path with
        | .error error => return fileFailure 1 name (quotedIfNeeded path) error
        | .ok reading =>
          if options.has 'd' then
            let isKept (letter : Char) : Bool :=
              if options.has 'i' then letter == '=' || alphabet.letters.contains letter
              else letter != '\n'
            let text := (charactersOf reading.content).filter isKept
            let (content, isProper) := alphabet.decode (text.length + 1) text
            let outcome := Outcome.printing content reading.elapsed
            if isProper then return outcome
            else return outcome.andThen (complaint 1 name "invalid input")
          else
            let text := alphabet.encode reading.content
            match width with
            | some (some 0) => return printing text reading.elapsed
            | width =>
              let lines := piecesOf ((width.join).getD 76) text
              return printing (joinLines lines) reading.elapsed

def base64 : Utility :=
  recode "base64" .sixtyFour

def base32 : Utility :=
  recode "base32" .thirtyTwo

end SymbolCache.Program.Utility
