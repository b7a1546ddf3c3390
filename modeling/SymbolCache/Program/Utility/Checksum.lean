import SymbolCache.Program.Digest
import SymbolCache.Program.Utility.Line

/-!
# Check sums of files

Prints digests and check sums of files, and compares files with the digests in a list.
-/

set_option autoImplicit false

namespace SymbolCache.Program.Utility

/-! ## Digests -/

/-- A digest: the name of its algorithm, the name in front of a digest, how many bytes it has, and
how it is computed. -/
structure Digesting where
  algorithm : String
  tag : String
  size : Nat
  digest : List UInt8 → List UInt8

def digestings : List Digesting :=
  [⟨"md5", "MD5", 16, Digest.Message.md5⟩, ⟨"sha1", "SHA1", 20, Digest.Secure.sha1⟩,
    ⟨"sha224", "SHA224", 28, Digest.Secure.sha224⟩, ⟨"sha256", "SHA256", 32, Digest.Secure.sha256⟩,
    ⟨"sha384", "SHA384", 48, Digest.Secure.sha384⟩, ⟨"sha512", "SHA512", 64, Digest.Secure.sha512⟩,
    ⟨"blake2b", "BLAKE2b", 64, Digest.Blake.blake2b⟩]

def escapedName (name : String) : String × Bool :=
  let parts := name.toList.map fun character =>
    match character with
    | '\\' => ['\\', '\\']
    | '\n' => ['\\', 'n']
    | '\r' => ['\\', 'r']
    | character => [character]
  (String.ofList parts.flatten, parts.any fun part => part.length = 2)

def unescapedName : List Char → Option (List Char)
  | [] => some []
  | '\\' :: '\\' :: rest => (unescapedName rest).map ('\\' :: ·)
  | '\\' :: 'n' :: rest => (unescapedName rest).map ('\n' :: ·)
  | '\\' :: 'r' :: rest => (unescapedName rest).map ('\r' :: ·)
  | '\\' :: _ => none
  | character :: rest => (unescapedName rest).map (character :: ·)

structure DigestView where
  isTagged : Bool
  isBinary : Bool
  /-- Whether a zero byte ends a line, and names have no escapes. -/
  endsInZero : Bool

def DigestView.line (view : DigestView) (digesting : Digesting) (name : String)
    (content : List UInt8) : List UInt8 :=
  let digest := Digest.hexadecimal (digesting.digest content)
  let (shown, hasEscapes) := if view.endsInZero then (name, false) else escapedName name
  let front := if hasEscapes then "\\" else ""
  let text :=
    if view.isTagged then digesting.tag ++ " (" ++ shown ++ ") = " ++ digest
    else digest ++ (if view.isBinary then " *" else "  ") ++ shown
  bytes (front ++ text) ++ [if view.endsInZero then 0 else 10]

/-! ## Lists -/

/-- A line of a list: a digest and the file that should have it. -/
structure ListedDigest where
  digesting : Digesting
  digits : String
  path : String

def readDigest (digesting : Digesting) (text : List Char) : Option (String × List Char) :=
  let digits := text.takeWhile fun digit =>
    digit.isDigit || ('a' ≤ digit.toLower && digit.toLower ≤ 'f')
  if digits.length = 2 * digesting.size then
    some ((String.ofList digits).toLower, text.drop digits.length)
  else none

def readTagged (digesting : Digesting) (text : List Char) : Option (String × List Char) := do
  let front := (digesting.tag ++ " (").toList
  if !(front.isPrefixOf text) then none
  let rest := text.drop front.length
  let reversed := rest.reverse.dropWhile fun digit => digit.isAlphanum
  if !(") = ".toList.reverse.isPrefixOf reversed) then none
  let name := (reversed.drop 4).reverse
  let (digits, after) ← readDigest digesting (rest.drop (name.length + 4))
  if after.isEmpty then some (digits, name) else none

def readUntagged (digesting : Digesting) (text : List Char) : Option (String × List Char) := do
  let (digits, rest) ← readDigest digesting text
  match rest with
  | ' ' :: ' ' :: name | ' ' :: '*' :: name => if name.isEmpty then none else some (digits, name)
  | _ => none

def readListed (digestings : List Digesting) (allowsUntagged : Bool) (line : List Char) :
    Option ListedDigest := do
  let text := line.dropWhile isBlank
  let (hasEscapes, text) := match text with
    | '\\' :: text => (true, text)
    | text => (false, text)
  digestings.firstM fun digesting => do
    let (digits, name) ← readTagged digesting text <|>
      (if allowsUntagged then readUntagged digesting text else none)
    let name ← if hasEscapes then unescapedName name else some name
    return { digesting, digits, path := String.ofList name }

structure ListCheck where
  name : String
  digestings : List Digesting
  allowsUntagged : Bool
  ignoresMissing : Bool
  hidesMatches : Bool
  hidesAll : Bool
  isStrict : Bool
  warns : Bool

structure ListResult where
  outcome : Outcome := {}
  proper : Nat := 0
  improper : Nat := 0
  matching : Nat := 0
  different : Nat := 0
  unreadable : Nat := 0

def ListCheck.warning (check : ListCheck) (count : Nat) (one several : String) : Outcome :=
  if count = 0 || check.hidesAll then {}
  else
    complaint 1 check.name ("WARNING: " ++ toString count ++ " " ++
      (if count = 1 then one else several))

def ListCheck.line (check : ListCheck) (list : String) (result : ListResult) (number : Nat)
    (line : List Char) : StateM Surroundings ListResult := do
  let add (outcome : Outcome) : Outcome := result.outcome.andThen outcome
  if line.head? = some '#' then return result
  match readListed check.digestings check.allowsUntagged line with
  | none =>
    let tag := (check.digestings.head?.map Digesting.tag).getD ""
    let warning :=
      if check.warns then
        complaint 1 check.name (list ++ ": " ++ toString number ++ ": improperly formatted " ++
          tag ++ " checksum line")
      else {}
    return { result with outcome := add warning, improper := result.improper + 1 }
  | some listed =>
    let (shown, _) := escapedName listed.path
    let tell (text : String) : Outcome :=
      if check.hidesAll then {} else .success (bytes (shown ++ ": " ++ text ++ "\n"))
    let result := { result with proper := result.proper + 1 }
    match ← readFile listed.path with
    | .error error =>
      if check.ignoresMissing && error = .notFound then return result
      else
        let failure := fileFailure 1 check.name (quotedIfNeeded listed.path) error
        return { result with
          outcome := (add failure).andThen (tell "FAILED open or read")
          unreadable := result.unreadable + 1 }
    | .ok reading =>
      if Digest.hexadecimal (listed.digesting.digest reading.content) = listed.digits then
        let told := if check.hidesMatches then {} else tell "OK"
        return { result with outcome := add told, matching := result.matching + 1 }
      else
        return { result with outcome := add (tell "FAILED"), different := result.different + 1 }

def ListCheck.perform (check : ListCheck) (path : String) : StateM Surroundings Outcome := do
  let list := if path = "-" then "standard input" else quotedIfNeeded path
  match ← readFile path with
  | .error .isDirectory => return complaint 1 check.name (list ++ ": read error")
  | .error error => return fileFailure 1 check.name list error
  | .ok reading =>
    let mut result : ListResult := {}
    for (line, index) in (plainLines (Text.lettersOf reading.content)).zipIdx do
      result ← check.line list result (index + 1) line
    if result.proper = 0 then
      return result.outcome.andThen
        (complaint 1 check.name (list ++ ": no properly formatted checksum lines found"))
    else
      let warnings :=
        [check.warning result.improper "line is improperly formatted"
            "lines are improperly formatted",
          check.warning result.unreadable "listed file could not be read"
            "listed files could not be read",
          check.warning result.different "computed checksum did NOT match"
            "computed checksums did NOT match"]
      let nothing := check.ignoresMissing && result.matching = 0
      let last := if nothing && !check.hidesAll then
          complaint 1 check.name (list ++ ": no file was verified")
        else {}
      let isFine := result.different = 0 && result.unreadable = 0 && !nothing &&
        !(check.isStrict && 0 < result.improper)
      let outcome := (warnings.foldl Outcome.andThen result.outcome).andThen last
      return { outcome with ending := .exited (if isFine then 0 else 1) }

/-! ## Utilities -/

/-- Does something with every file, and ends with a failure if something is wrong. -/
def onContents (name : String) (lineOf : String → List UInt8 → List UInt8) : Utility :=
  onEach fun path => do
    match ← readFile path with
    | .ok reading => return .printing (lineOf path reading.content) reading.elapsed
    | .error error => return fileFailure 1 name (quotedIfNeeded path) error

def digestOptions : List (String × Char) :=
  [("binary", 'b'), ("check", 'c'), ("ignore-missing", 'ι'), ("quiet", 'κ'), ("status", 'σ'),
    ("strict", 'ς'), ("tag", 'τ'), ("text", 't'), ("untagged", 'υ'), ("warn", 'w'), ("zero", 'z')]

def withDigests (name : String) (digestings : List Digesting) (isTagged allowsUntagged : Bool)
    (options : Options) : StateM Surroundings Outcome := do
  let misplaced := [('ι', "--ignore-missing"), ('σ', "--status"), ('w', "--warn"),
    ('κ', "--quiet"), ('ς', "--strict")].find? fun entry => options.has entry.1
  if options.has 'c' then
    if options.has 'τ' then
      return misuse 1 name "the --tag option is meaningless when verifying checksums"
    else
      let check : ListCheck :=
        { name
          digestings
          allowsUntagged
          ignoresMissing := options.has 'ι'
          hidesMatches := options.has 'κ'
          hidesAll := options.has 'σ'
          isStrict := options.has 'ς'
          warns := options.has 'w' }
      onEach check.perform options.paths
  else
    match misplaced, digestings with
    | some (_, word), _ =>
      return misuse 1 name
        ("the " ++ word ++ " option is meaningful only when verifying checksums")
    | none, digesting :: _ =>
      let view : DigestView :=
        { isTagged := (isTagged || options.has 'τ') && !options.has 'υ'
          isBinary := (options.given.reverse.find? fun option =>
            option.1 == 'b' || option.1 == 't').any fun option => option.1 == 'b'
          endsInZero := options.has 'z' }
      onContents name (view.line digesting) options.paths
    | none, [] => return {}

def digestUtility (name algorithm : String) : Utility :=
  withOptions { name, plain := "bctwzικστς", long := digestOptions.filter (·.1 ≠ "untagged") }
    (withDigests name (digestings.filter fun digesting => digesting.algorithm == algorithm) false
      true)

def nameAfter (options : Options) (path : String) : String :=
  if options.words.isEmpty then "" else " " ++ path

def blockCount (size : Nat) (content : List UInt8) : Nat :=
  (content.length + size - 1) / size

def turningLine (options : Options) (path : String) (content : List UInt8) : List UInt8 :=
  let digits := Text.decimal (Digest.Check.turningSum content)
  let blocks := alignRight 5 (Text.decimal (blockCount 1024 content))
  bytes (String.ofList (List.replicate (5 - digits.length) '0' ++ digits ++ ' ' :: blocks) ++
    nameAfter options path ++ "\n")

def plainLine (options : Options) (path : String) (content : List UInt8) : List UInt8 :=
  bytes (toString (Digest.Check.plainSum content) ++ " " ++ toString (blockCount 512 content) ++
    nameAfter options path ++ "\n")

def remainderLine (options : Options) (path : String) (content : List UInt8) : List UInt8 :=
  bytes (toString (Digest.Check.remainder content) ++ " " ++ toString content.length ++
    nameAfter options path ++ "\n")

def sum : Utility :=
  withOptions { name := "sum", plain := "rs", long := [("sysv", 's')] } fun options =>
    let line := if options.has 's' then plainLine options else turningLine options
    onContents "sum" line options.paths

def unknownAlgorithm (word : String) : Outcome :=
  let names := ["bsd", "sysv", "crc", "md5", "sha1", "sha224", "sha256", "sha384", "sha512",
    "blake2b", "sm3"]
  .failure 1 ("cksum: invalid argument " ++ escaped word ++ " for ‘--algorithm’\n" ++
    "Valid arguments are:\n" ++ String.join (names.map fun name => "  - ‘" ++ name ++ "’\n") ++
    "Try 'cksum --help' for more information.\n")

def cksum : Utility :=
  withOptions
    { name := "cksum", plain := "cwzικστςυ", valued := "a"
      long := ("algorithm", 'a') :: digestOptions.filter fun entry =>
        !(["binary", "text"].contains entry.1) }
    fun options => do
      let known := digestings.filter fun digesting =>
        some digesting.algorithm == options.value? 'a'
      match options.value? 'a' with
      | some "bsd" => onContents "cksum" (turningLine options) options.paths
      | some "sysv" => onContents "cksum" (plainLine options) options.paths
      | none | some "crc" =>
        if options.has 'c' then withDigests "cksum" digestings true false options
        else onContents "cksum" (remainderLine options) options.paths
      | some word =>
        if known.isEmpty then return unknownAlgorithm word
        else withDigests "cksum" known true true options

def checksumTable : List (String × Utility) :=
  [("b2sum", digestUtility "b2sum" "blake2b"), ("cksum", cksum),
    ("md5sum", digestUtility "md5sum" "md5"), ("sha1sum", digestUtility "sha1sum" "sha1"),
    ("sha224sum", digestUtility "sha224sum" "sha224"),
    ("sha256sum", digestUtility "sha256sum" "sha256"),
    ("sha384sum", digestUtility "sha384sum" "sha384"),
    ("sha512sum", digestUtility "sha512sum" "sha512"), ("sum", sum)]

end SymbolCache.Program.Utility
