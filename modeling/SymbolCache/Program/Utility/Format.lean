import SymbolCache.Program.Quoting
import SymbolCache.Program.Utility.Fraction

/-!
# Formats

Printing words by a format. A format is made of bytes and of conversions, each of which shows a
word; backslashes stand for characters that are hard to write. There are three dialects: those of
the plain and of the extended shell, and that of the program with the same name.
-/

set_option autoImplicit false

namespace SymbolCache.Program.Utility

/-- The dialect of a shell, with the front of its messages, or that of the program. -/
inductive Dialect where
  | shell (front : String)
  | extended (front : String)
  | program
  deriving Repr, DecidableEq

def Dialect.front (name : String) : Dialect → String
  | .shell front | .extended front => front ++ ": " ++ name
  | .program => name

def Dialect.isProgram : Dialect → Bool
  | .shell _ | .extended _ => false
  | .program => true

/-- Whether a dialect is that of the plain shell, which knows less than the others. -/
def Dialect.isPlain : Dialect → Bool
  | .shell _ => true
  | .extended _ | .program => false

def Dialect.isExtended : Dialect → Bool
  | .extended _ => true
  | .shell _ | .program => false

/-- The number of a character, which in the plain shell is that of its first byte. -/
def Dialect.codeOf (character : Char) : Dialect → Nat
  | .shell _ => ((characterBytes [character]).map UInt8.toNat).headD 0
  | .extended _ | .program => character.toNat

/-! ## Escapes -/

def digit? (base : Nat) (character : Char) : Option Nat :=
  let value :=
    if '0' ≤ character && character ≤ '9' then character.toNat - '0'.toNat
    else if 'a' ≤ character && character ≤ 'f' then character.toNat - 'a'.toNat + 10
    else if 'A' ≤ character && character ≤ 'F' then character.toNat - 'A'.toNat + 10
    else base
  if value < base then some value else none

def readDigits (base : Nat) : Nat → Nat → List Char → Nat × List Char
  | 0, value, text => (value, text)
  | _ + 1, value, [] => (value, [])
  | count + 1, value, character :: rest =>
    match digit? base character with
    | some digit => readDigits base count (value * base + digit) rest
    | none => (value, character :: rest)

def escapeMeaning? : Char → Option UInt8
  | 'a' => some 7
  | 'b' => some 8
  | 'e' => some 27
  | 'f' => some 12
  | 'n' => some 10
  | 'r' => some 13
  | 't' => some 9
  | 'v' => some 11
  | '\\' => some 0x5C
  | _ => none

/-- Reads what follows a backslash: a letter, an octal number or, in all dialects but the plain one,
a hexadecimal one. The extended dialect knows the number of a character and quotes as well. Before
everything else the backslash stands for itself. -/
def readEscape (dialect : Dialect) : List Char → List UInt8 × List Char
  | [] => ([0x5C], [])
  | character :: rest =>
    match escapeMeaning? character with
    | some byte => ([byte], rest)
    | none =>
      if (digit? 8 character).isSome then
        let (value, rest) := readDigits 8 3 0 (character :: rest)
        ([value.toUInt8], rest)
      else if !dialect.isPlain && character == 'x' && (rest.head?.bind (digit? 16)).isSome then
        let (value, rest) := readDigits 16 2 0 rest
        ([value.toUInt8], rest)
      else if !dialect.isExtended then ([0x5C], character :: rest)
      else if (character == 'u' || character == 'U') &&
          (rest.head?.bind (digit? 16)).isSome then
        let (value, rest) := readDigits 16 (if character == 'u' then 4 else 8) 0 rest
        (characterBytes [Char.ofNat value], rest)
      else if character == 'E' then ([27], rest)
      else if ['"', '\x27', '?'].contains character then (characterBytes [character], rest)
      else ([0x5C], character :: rest)

/-- The bytes of a text with escapes, and whether the text told to stop. In it an octal number may
have a zero in front. It is fuelled by the length of the text. -/
def expandEscapes (dialect : Dialect) : Nat → List Char → List UInt8 × Bool
  | 0, _ => ([], false)
  | _ + 1, [] => ([], false)
  | _ + 1, '\\' :: 'c' :: _ => ([], true)
  | fuel + 1, '\\' :: rest =>
    let (bytes, rest) := match rest with
      | '0' :: digits =>
        let (value, rest) := readDigits 8 3 0 digits
        ([value.toUInt8], rest)
      | rest => readEscape dialect rest
    let (after, stops) := expandEscapes dialect fuel rest
    (bytes ++ after, stops)
  | fuel + 1, character :: rest =>
    let (after, stops) := expandEscapes dialect fuel rest
    (characterBytes [character] ++ after, stops)

/-! ## Pieces of a format -/

/-- A width or precision: none, a number, or a word. -/
inductive Size where
  | absent
  | fixed (count : Nat)
  | word
  deriving Repr, DecidableEq

structure Conversion where
  flags : List Char := []
  width : Size := .absent
  precision : Size := .absent
  letter : Char
  deriving Repr, DecidableEq

inductive FormatPiece where
  | bytes (content : List UInt8)
  | conversion (conversion : Conversion)
  | stop
  | invalid (text : List Char)
  deriving Repr, DecidableEq

def readSize : List Char → Size × List Char
  | '*' :: rest => (.word, rest)
  | text =>
    match text.takeWhile Text.isAsciiDigit with
    | [] => (.absent, text)
    | digits => (.fixed (Text.digitsValue 0 digits), text.dropWhile Text.isAsciiDigit)

def fractionLetters : List Char :=
  ['e', 'E', 'f', 'F', 'g', 'G']

/-- Reads a conversion after its percent sign. The program lets letters for the size of a number
stand in front of that of the conversion. -/
def readConversion (dialect : Dialect) (text : List Char) : FormatPiece × List Char :=
  let isFlag (character : Char) : Bool := ['-', '+', ' ', '#', '0'].contains character
  let (width, rest) := readSize (text.dropWhile isFlag)
  let (precision, rest) := match rest with
    | '.' :: rest =>
      match readSize rest with
      | (.absent, rest) => (Size.fixed 0, rest)
      | sized => sized
    | rest => (.absent, rest)
  let rest := if !dialect.isPlain then
    rest.dropWhile ['h', 'l', 'L', 'j', 't', 'z'].contains else rest
  match rest with
  | letter :: after =>
    let known := "diouxXcsb".toList ++ fractionLetters ++
      if dialect.isExtended then ['q', 'Q'] else []
    if known.contains letter then
      (.conversion { flags := text.takeWhile isFlag, width, precision, letter }, after)
    else (.invalid ('%' :: text.take (text.length - after.length)), after)
  | [] => (.invalid ('%' :: text), [])

def formatPieces (dialect : Dialect) : Nat → List Char → List FormatPiece
  | 0, _ => []
  | _ + 1, [] => []
  | fuel + 1, '%' :: '%' :: rest => .bytes [0x25] :: formatPieces dialect fuel rest
  | fuel + 1, '%' :: rest =>
    let (piece, rest) := readConversion dialect rest
    piece :: formatPieces dialect fuel rest
  | fuel + 1, '\\' :: rest =>
    match dialect, rest with
    | .program, 'c' :: _ => [.stop]
    | .program, '"' :: rest => .bytes [0x22] :: formatPieces dialect fuel rest
    | dialect, rest =>
      let (bytes, rest) := readEscape dialect rest
      .bytes bytes :: formatPieces dialect fuel rest
  | fuel + 1, character :: rest =>
    .bytes (characterBytes [character]) :: formatPieces dialect fuel rest

/-! ## Numbers -/

/-- Reads a number: a sign, and a numeral that is octal after a zero, hexadecimal after a zero and
an x, and else decimal. A quote in front of a character stands for its number. -/
def readInteger (dialect : Dialect) (text : List Char) : Int × List Char :=
  let (negative, digits) := match text with
    | '-' :: digits => (true, digits)
    | '+' :: digits => (false, digits)
    | digits => (false, digits)
  let (value, rest) := match text, digits with
    | '\x27' :: character :: rest, _ | '"' :: character :: rest, _ =>
      (dialect.codeOf character, rest)
    | _, '0' :: 'x' :: digits | _, '0' :: 'X' :: digits => readDigits 16 digits.length 0 digits
    | _, '0' :: digits => readDigits 8 digits.length 0 digits
    | _, digits => readDigits 10 digits.length 0 digits
  if value = 0 && rest.length = digits.length then (0, text)
  else (if negative then -value else value, rest)

def digitsOf (base least value : Nat) : List Char :=
  let digits := Nat.toDigits base value
  let digits := if value = 0 && least = 0 then [] else digits
  List.replicate (least - digits.length) '0' ++ digits

def Conversion.sign (conversion : Conversion) (negative : Bool) : List Char :=
  if negative then ['-']
  else if conversion.flags.contains '+' then ['+']
  else if conversion.flags.contains ' ' then [' ']
  else []

/-- A number as a conversion shows it: what is in front of its digits, and its digits. -/
def Conversion.showInteger (conversion : Conversion) (least : Option Nat) (value : Int) :
    List Char × List Char :=
  let unsigned := (value % (Text.word64 : Int)).toNat
  let isAlternative := conversion.flags.contains '#' && unsigned != 0
  match conversion.letter with
  | 'o' =>
    (if isAlternative then ['0'] else [], digitsOf 8 (least.getD 1) unsigned)
  | 'x' => (if isAlternative then ['0', 'x'] else [], digitsOf 16 (least.getD 1) unsigned)
  | 'X' =>
    (if isAlternative then ['0', 'X'] else [],
      (digitsOf 16 (least.getD 1) unsigned).map Char.toUpper)
  | 'u' => ([], digitsOf 10 (least.getD 1) unsigned)
  | _ => (conversion.sign (value < 0), digitsOf 10 (least.getD 1) value.natAbs)

/-- A content with blanks around it, up to a width; a negative width, like a minus sign among the
flags, puts them after it. -/
def Conversion.pad (conversion : Conversion) (width : Int) (content : List UInt8) : List UInt8 :=
  let blanks := List.replicate (width.natAbs - content.length) 0x20
  if width < 0 || conversion.flags.contains '-' then content ++ blanks else blanks ++ content

/-- A number by its sign and digits, up to a width. Zeros fill it if they are asked for and
allowed. -/
def Conversion.padNumber (conversion : Conversion) (width : Int) (allowsZeros : Bool)
    (sign digits : List Char) : List UInt8 :=
  let fills := allowsZeros && conversion.flags.contains '0' && !conversion.flags.contains '-'
  let zeros :=
    if fills then List.replicate (width.natAbs - sign.length - digits.length) '0' else []
  conversion.pad width (characterBytes (sign ++ zeros ++ digits))

def Conversion.showFraction (conversion : Conversion) (width : Int) (precision : Option Nat)
    (value : Fraction) : List UInt8 :=
  let (negative, isFinite, digits) :=
    value.show conversion.letter precision (conversion.flags.contains '#')
  conversion.padNumber width isFinite (conversion.sign negative) digits

/-! ## Printing -/

structure Printed where
  content : Array UInt8 := #[]
  /-- What was wrong, each time with the number of bytes that had been printed. -/
  complaints : List (Nat × String) := []
  words : List String
  asks : Bool := false
  stops : Bool := false

namespace Printed

def write (printed : Printed) (content : List UInt8) : Printed :=
  { printed with content := printed.content ++ content }

def next (printed : Printed) : String × Printed :=
  (printed.words.headD "", { printed with words := printed.words.tail, asks := true })

def complain (printed : Printed) (text : String) : Printed :=
  { printed with complaints := printed.complaints ++ [(printed.content.size, text)] }

/-- What is wrong with a word that is not a number as a whole, though it may start with one. -/
def incomplete (dialect : Dialect) (word : String) (startsWithNumber : Bool) : String :=
  match dialect with
  | .shell _ =>
    word ++ if startsWithNumber then ": not completely converted" else ": expected numeric value"
  | .extended _ => word ++ ": invalid number"
  | .program =>
    escaped word ++ ": " ++
      if startsWithNumber then "value not completely converted" else "expected a numeric value"

def nextInteger (dialect : Dialect) (printed : Printed) : Int × Printed :=
  match printed.words with
  | [] => (0, { printed with asks := true })
  | word :: words =>
    let printed := { printed with words, asks := true }
    let text := word.toList.dropWhile isSpace
    match readInteger dialect text with
    | (value, []) => (value, printed)
    | (value, rest) =>
      (value, printed.complain (incomplete dialect word (rest.length < text.length)))

/-- The number with a fraction in the next word, which is zero if none is left. A quote in front of
a character stands for its number. -/
def nextFraction (dialect : Dialect) (printed : Printed) : Fraction × Printed :=
  let ofNatural (value : Nat) : Fraction := .finite false { numerator := value }
  match printed.words with
  | [] => (ofNatural 0, { printed with asks := true })
  | word :: words =>
    let printed := { printed with words, asks := true }
    match word.toList with
    | '\x27' :: character :: _ | '"' :: character :: _ =>
      (ofNatural (dialect.codeOf character), printed)
    | text =>
      match readFraction text with
      | none =>
        (ofNatural 0,
          if text.isEmpty then printed else printed.complain (incomplete dialect word false))
      | some (fraction, rest) =>
        let exactness := if !dialect.isPlain then Exactness.extended else Exactness.double
        let (brought, isOutside) := exactness.bring fraction
        (brought,
          if isOutside then
            let shown := if dialect.isProgram then escaped word else word
            printed.complain (shown ++ ": Numerical result out of range")
          else if rest.isEmpty then printed
          else printed.complain (incomplete dialect word true))

def size (dialect : Dialect) (printed : Printed) : Size → Option Int × Printed
  | .absent => (none, printed)
  | .fixed count => (some count, printed)
  | .word =>
    let (value, printed) := printed.nextInteger dialect
    (some value, printed)

def convert (dialect : Dialect) (printed : Printed) (conversion : Conversion) : Printed :=
  let (width, printed) := printed.size dialect conversion.width
  let (precision, printed) := printed.size dialect conversion.precision
  let width := width.getD 0
  let most := (precision.filter (0 ≤ ·)).map Int.toNat
  let cut (content : List UInt8) : List UInt8 :=
    match most with
    | some most => content.take most
    | none => content
  match conversion.letter with
  | 's' =>
    let (word, printed) := printed.next
    printed.write (conversion.pad width (cut (bytes word)))
  | 'b' =>
    let (word, printed) := printed.next
    let (content, stops) := expandEscapes dialect (word.length + 1) word.toList
    { printed.write (conversion.pad width (cut content)) with stops }
  | 'q' | 'Q' =>
    let (word, printed) := printed.next
    printed.write (conversion.pad width (cut (bytes (Shell.Quotation.withBackslashes word))))
  | 'c' =>
    let (word, printed) := printed.next
    printed.write (conversion.pad width ((bytes word ++ [0]).take 1))
  | letter =>
    if fractionLetters.contains letter then
      let (value, printed) := printed.nextFraction dialect
      printed.write (conversion.showFraction width most value)
    else
      let (value, printed) := printed.nextInteger dialect
      let (front, digits) := conversion.showInteger most value
      printed.write (conversion.padNumber width most.isNone front digits)

def fill (dialect : Dialect) (printed : Printed) : List FormatPiece → Printed × Option (List Char)
  | [] => (printed, none)
  | .bytes content :: pieces => fill dialect (printed.write content) pieces
  | .stop :: _ => ({ printed with stops := true }, none)
  | .invalid text :: _ => (printed, some text)
  | .conversion conversion :: pieces =>
    let printed := printed.convert dialect conversion
    if printed.stops then (printed, none) else fill dialect printed pieces

/-- Prints a format as often as it takes to use up the words. It is fuelled by their number. -/
def fillAll (dialect : Dialect) (pieces : List FormatPiece) :
    Nat → Printed → Printed × Option (List Char)
  | 0, printed => (printed, none)
  | fuel + 1, printed =>
    match fill dialect { printed with asks := false } pieces with
    | (printed, none) =>
      if printed.asks && !printed.stops && !printed.words.isEmpty then
        fillAll dialect pieces fuel printed
      else (printed, none)
    | failed => failed

end Printed

def invalidConversion (dialect : Dialect) (text : List Char) : Nat × String :=
  match dialect with
  | .program => (1, String.ofList text ++ ": invalid conversion specification")
  | .shell _ =>
    (2, if text.length = 1 then "missing format character"
      else String.ofList text ++ ": invalid directive")
  | .extended _ =>
    (1, if text.length = 1 then "\x60%': missing format character"
      else "\x60" ++ String.ofList (text.drop (text.length - 1)) ++ "': invalid format character")

/-- A content that is written with messages in between, each after some of its bytes. `start` is the
number of bytes that have been written before. -/
def withMessages (start : Nat) (content : List UInt8) :
    List (Nat × List UInt8) → List (Stream × List UInt8)
  | [] => [(.output, content)]
  | (position, message) :: messages =>
    (.output, content.take (position - start)) :: (.messages, message) ::
      withMessages position (content.drop (position - start)) messages

/-- Prints words by a format. The shell writes all messages before what it prints. -/
def printf (dialect : Dialect) (words : List String) : Outcome :=
  let words := if words.head? = some "--" then words.tail else words
  let outcome (status : Nat) (complaints : List (Nat × String)) (content : List UInt8) : Outcome :=
    let messages := complaints.map fun (position, text) =>
      (if dialect.isProgram then position else 0,
        bytes (dialect.front "printf" ++ ": " ++ text ++ "\n"))
    { written := (withMessages 0 content messages).toArray, ending := .exited status }
  match words with
  | [] =>
    match dialect with
    | .shell _ | .extended _ => outcome 2 [(0, "usage: printf format [arg ...]")] []
    | .program =>
      outcome 1 [(0, "missing operand\nTry 'printf --help' for more information.")] []
  | format :: words =>
    let pieces := formatPieces dialect (format.length + 1) format.toList
    let (printed, invalid) := Printed.fillAll dialect pieces (words.length + 1) { words }
    let content := printed.content.toList
    match invalid with
    | some text =>
      let (status, complaint) := invalidConversion dialect text
      outcome status (printed.complain complaint).complaints content
    | none => outcome (if printed.complaints.isEmpty then 0 else 1) printed.complaints content

/-! ## Printing words -/

/-- The options of `echo` in front of words: whether escapes count and whether a line ends. -/
def echoOptions (escapes newline : Bool) : List String → Bool × Bool × List String
  | [] => (escapes, newline, [])
  | word :: words =>
    match word.toList with
    | '-' :: letter :: letters =>
      if (letter :: letters).all ['n', 'e', 'E'].contains then
        let escapes := (letter :: letters).foldl (fun escapes letter =>
          if letter == 'e' then true else if letter == 'E' then false else escapes) escapes
        echoOptions escapes (newline && !(letter :: letters).contains 'n') words
      else (escapes, newline, word :: words)
    | _ => (escapes, newline, word :: words)

/-- Prints words with spaces between them. The plain shell knows a single option, and escapes always
count there. -/
def echo (dialect : Dialect) (words : List String) : Outcome :=
  let (escapes, newline, words) := match dialect, words with
    | .shell _, "-n" :: words => (true, false, words)
    | .shell _, words => (true, true, words)
    | .extended _, words | .program, words => echoOptions false true words
  let text := " ".intercalate words
  let (content, stops) :=
    if escapes then expandEscapes dialect (text.length + 1) text.toList else (bytes text, false)
  .success (if stops || !newline then content else content ++ [10])

end SymbolCache.Program.Utility
