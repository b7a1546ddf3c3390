import SymbolCache.Program.Quoting
import SymbolCache.Program.Shell.Pattern
import SymbolCache.Program.Shell.Script
import SymbolCache.Program.Shell.State
import SymbolCache.Program.System
import SymbolCache.Program.Utility.Format
import SymbolCache.Text.Cut

/-!
# What words stand for

The pieces of a word are replaced by what they stand for: values, output and results. What is not
quoted in it is then cut into words at the separators, and words with a pattern are replaced by the
paths that it matches.
-/

set_option autoImplicit false

/-!
## Alternatives in braces

A word with alternatives in braces stands for several words, one for each of them. A first and a
last number or letter in braces stand for all in between. Everything else in braces stands for
itself.
-/

namespace SymbolCache.Program.Shell.Braces

def plain (character : Char) : Piece :=
  .character character false

/-- Cuts a word at the commas that stand in no braces, up to the brace that closes. It is fuelled by
the length. -/
def readAlternatives : Nat → Nat → Word → Option (List Word × Word)
  | 0, _, _ | _ + 1, _, [] => none
  | fuel + 1, depth, piece :: rest =>
    let within (depth : Nat) : Option (List Word × Word) :=
      (readAlternatives fuel depth rest).map fun (alternatives, after) =>
        ((piece :: alternatives.headD []) :: alternatives.tail, after)
    if piece = plain '\x7d' then if depth = 0 then some ([[]], rest) else within (depth - 1)
    else if piece = plain '\x7b' then within (depth + 1)
    else if piece = plain ',' && depth = 0 then
      (readAlternatives fuel depth rest).map fun (alternatives, after) =>
        ([] :: alternatives, after)
    else within depth

def integer? (text : List Char) : Option Int :=
  let number? (digits : List Char) : Option Int :=
    if !digits.isEmpty && digits.all Text.isAsciiDigit then
      some (digits.foldl (fun value digit => 10 * value + (digit.toNat - '0'.toNat)) 0)
    else none
  match text with
  | '-' :: digits => (number? digits).map fun value => -value
  | '+' :: digits => number? digits
  | digits => number? digits

def steps (first last : Int) (step : Nat) : List Int :=
  let step := max 1 step
  let count := (last - first).natAbs / step + 1
  (List.range count).map fun index =>
    let distance : Int := (index * step : Nat)
    if first ≤ last then first + distance else first - distance

def isPadded (text : List Char) : Bool :=
  match text with
  | '-' :: '0' :: _ :: _ | '0' :: _ :: _ => true
  | _ => false

def shown (width : Nat) (value : Int) : List Char :=
  let digits := (toString value.natAbs).toList
  let sign : List Char := if value < 0 then ['-'] else []
  sign ++ List.replicate (width - sign.length - digits.length) '0' ++ digits

def pointParts : List Char → List (List Char)
  | [] => [[]]
  | '.' :: '.' :: rest => [] :: pointParts rest
  | character :: rest =>
    match pointParts rest with
    | part :: parts => (character :: part) :: parts
    | [] => [[character]]

def sequence? (text : List Char) : Option (List (List Char)) := do
  let (first, last, step) ← match pointParts text with
    | [first, last] => some (first, last, 1)
    | [first, last, step] => (integer? step).map fun step => (first, last, step.natAbs)
    | _ => none
  match integer? first, integer? last with
  | some start, some finish =>
    let width := if isPadded first || isPadded last then max first.length last.length else 0
    return (steps start finish step).map (shown width)
  | _, _ =>
    match first, last with
    | [start], [finish] =>
      if start.isAlpha && finish.isAlpha then
        return (steps start.toNat finish.toNat step).map fun code => [Char.ofNat code.toNat]
      else none
    | _, _ => none

def expand : Nat → Word → List Word
  | 0, word => [word]
  | _ + 1, [] => [[]]
  | fuel + 1, piece :: rest =>
    let after (fronts : List Word) (rest : Word) : List Word :=
      let ends := expand fuel rest
      fronts.flatMap fun front => ends.map fun finish => front ++ finish
    let whole := after [[piece]] rest
    if piece != plain '\x7b' then whole
    else
      match readAlternatives (rest.length + 1) 0 rest with
      | none => whole
      | some ([inside], rest) =>
        match (plainText? inside).bind fun text => sequence? text.toList with
        | some texts => after (texts.map fun text => text.map plain) rest
        | none => whole
      | some (alternatives, rest) => after (alternatives.flatMap (expand fuel)) rest

def expandAll (word : Word) : List Word :=
  if word.contains (plain '\x7b') then expand (word.length + 1) word else [word]

end SymbolCache.Program.Shell.Braces

namespace SymbolCache.Program.Shell

inductive Item where
  | character (character : Char) (isQuoted : Bool)
  | keeps
  | ends
  deriving Repr, DecidableEq

namespace Item

/-- The items of a value whose words are cut apart. White space around another separator is a part
of it. It is fuelled by the length of the value. -/
def cut (separators : List Char) : Nat → List Char → List Item
  | 0, _ => []
  | _ + 1, [] => []
  | fuel + 1, first :: rest =>
    let isBlank (blank : Char) : Bool :=
      separators.contains blank && [' ', '\t', '\n'].contains blank
    let after := rest.dropWhile isBlank
    if isBlank first then
      match after with
      | next :: _ =>
        if separators.contains next then cut separators fuel after
        else .ends :: cut separators fuel after
      | [] => [.ends]
    else if separators.contains first then .keeps :: .ends :: cut separators fuel after
    else .character first false :: cut separators fuel rest

def ofValue (separators : List Char) (isQuoted splits : Bool) (value : String) : List Item :=
  if isQuoted || !splits then value.toList.map fun character => .character character isQuoted
  else cut separators (value.length + 1) value.toList

def ofValues (separators : List Char) (isQuoted splits joins : Bool) (values : List String) :
    List Item :=
  if isQuoted && splits && !joins then
    [Item.ends].intercalate (values.map fun value =>
      .keeps :: ofValue separators true splits value)
  else if !isQuoted && splits then
    [Item.ends].intercalate (values.map (ofValue separators false splits))
  else
    let separator := if joins then (separators.head?.map String.singleton).getD "" else " "
    ofValue separators true splits (separator.intercalate values)

def marked (items : List Item) : MarkedText :=
  items.filterMap fun
    | .character letter isQuoted => some (letter, isQuoted)
    | .keeps | .ends => none

def text (items : List Item) : String :=
  String.ofList ((marked items).map Prod.fst)

def words : List Item → List MarkedText
  | items =>
    let groups := items.splitOnP fun item => item = .ends
    (groups.filter fun group => !group.isEmpty).map marked

end Item

/-- The values that a piece of a word uses: one, if it is set, or several. Each of several ones has
a number. -/
inductive Values where
  | one (value : Option String)
  | many (values : List (Nat × String)) (joins : Bool)
  deriving Repr, DecidableEq

namespace Values

def isMissing (alsoEmpty : Bool) : Values → Bool
  | .one none | .many [] _ => true
  | .one (some value) | .many [(_, value)] _ => alsoEmpty && value.isEmpty
  | .many _ _ => false

def map (change : String → String) : Values → Values
  | .one value => .one (some (change (value.getD "")))
  | .many values joins =>
    .many (values.map fun (index, value) => (index, change value)) joins

def items (separators : List Char) (isQuoted splits : Bool) : Values → List Item
  | .one value => Item.ofValue separators isQuoted splits (value.getD "")
  | .many values joins =>
    Item.ofValues separators isQuoted splits joins (values.map Prod.snd)

end Values

structure Scripts where
  output : List Char → Run String
  /-- Gives a path under which what a script prints can be read, or under which it is written to. -/
  pipe : List Char → Bool → Run String

def Scope.manner (scope : Scope) : Manner where
  language := scope.language
  hasGroups := scope.isOn "extglob"

namespace Run

def isArguments (name : String) : Bool :=
  name == "@" || name == "*"

def calculate (expression : String) : Run String := do
  let state ← get
  match state.scope.language with
  | .extended => return toString (← evaluate "" expression)
  | .plain =>
    match Arithmetic.evaluate (fun name => (state.lookup? name).getD "") expression.toList with
    | .ok (value, given) =>
      for (name, value) in given do
        assign name (toString value)
      return toString value
    | .error mistake => fail 2 (mistake.message expression)

/-! ## Values -/

def valuesOf (name : String) : Run Values := do
  let state ← get
  if isArguments name then
    let numbered := state.scope.arguments.zipIdx 1
    return .many (numbered.map fun (value, index) => (index, value)) (name == "*")
  else return .one (state.lookup? name)

def valuesInList (name : String) (joins : Bool) : Run Values := do
  let state ← get
  match state.scope.elements? name with
  | some elements =>
    let numbered := elements.entries.zipIdx.map fun ((key, value), place) =>
      (if elements.isKeyed then place else Elements.index key, value)
    return .many numbered joins
  | none => return .many ((state.lookup? name).toList.map fun value => (0, value)) joins

/-- The element of a list with a key, which for numbers is an expression. Those below zero count
from the end. -/
def elementAt (name key : String) : Run Arithmetic.Extended.Target := do
  let elements? := (← get).scope.elements? name
  if (elements?.map Elements.isKeyed).getD false then return { name, key := some key }
  else
    let index ← evaluate "" key
    let next := (elements?.map Elements.next).getD 0
    let index := if index < 0 then index + next else index
    if index < 0 then stop (name ++ "[" ++ key ++ "]: bad array subscript")
    return { name, key := some (toString index) }

def namesWith (start : String) : Run (List String) := do
  let scope := (← get).scope
  let names := scope.values.map Prod.fst ++ scope.lists.map Prod.fst
  let found := names.filter fun name => name.startsWith start
  return (found.mergeSort fun left right => decide (left ≤ right)).eraseDups

/-! ## Changed values -/

def partOf (values : Values) (name : String) (start : Int) (length : Option Int) : Run Values := do
  let refuseLength (length : Int) : Run Values :=
    stop (toString length ++ ": substring expression < 0")
  match values with
  | .one value =>
    let letters := (value.getD "").toList
    let size : Int := letters.length
    let start := if start < 0 then start + size else start
    if start < 0 || size < start then return .one (some "")
    else
      match length with
      | none => return .one (some (String.ofList (letters.drop start.toNat)))
      | some length =>
        let finish := if length < 0 then size + length else start + length
        if finish < start then refuseLength length
        else
          let rest := letters.drop start.toNat
          return .one (some (String.ofList (rest.take (finish - start).toNat)))
  | .many entries joins =>
    let own := (← get).scope.name
    let entries := if isArguments name then (0, own) :: entries else entries
    let last : Int := (entries.getLast?.map fun entry => (entry.1 : Int) + 1).getD 0
    let start := if start < 0 then start + last else start
    let rest := if start < 0 then [] else entries.filter fun entry => start ≤ entry.1
    match length with
    | none => return .many rest joins
    | some length =>
      if rest.isEmpty then return .many [] joins
      else if length < 0 then refuseLength length
      else return .many (rest.take length.toNat) joins

def withCase (toUpper all : Bool) (pattern : List PatternPart) (value : String) : String :=
  let change (letter : Char) : Char :=
    if pattern.isEmpty || Pattern.accepts pattern [letter] then
      if toUpper then Text.upperLetter letter else Text.lowerLetter letter
    else letter
  match value.toList with
  | [] => ""
  | first :: rest => String.ofList (change first :: if all then rest.map change else rest)

def withReplacement (ignoresCase : Bool) (place : ReplacedPlace) (pattern : List PatternPart)
    (change : List Char → List Char) (value : String) : String :=
  let letters := value.toList
  let fuel := letters.length + 1
  String.ofList (match place with
    | .first =>
      if letters.isEmpty then Pattern.replaceFront ignoresCase pattern change letters
      else Pattern.replaceMatches ignoresCase pattern change false fuel letters
    | .all =>
      if letters.isEmpty then Pattern.replaceFront ignoresCase pattern change letters
      else Pattern.replaceMatches ignoresCase pattern change true fuel letters
    | .start => Pattern.replaceFront ignoresCase pattern change letters
    | .finish => Pattern.replaceEnd ignoresCase pattern change letters)

def traitLetters (scope : Scope) (name : String) : String :=
  let name := scope.referred name referenceLimit
  let traits := scope.traitsOf name
  let kind := match scope.elements? name with
    | some elements => if elements.isKeyed then "A" else "a"
    | none => ""
  let has (letter : Char) : Bool :=
    match letter with
    | 'r' => scope.fixed.contains name
    | 'x' => scope.exported.contains name
    | letter => traits.contains letter
  kind ++ String.ofList (['i', 'n', 'r', 'x', 'l', 'u'].filter has)

def elementsText (elements : Elements) : String :=
  let entries := elements.entries.map fun (key, value) =>
    "[" ++ (if elements.isKeyed then Quotation.ifNeeded key else key) ++ "]=" ++
      Quotation.double value
  "(" ++ " ".intercalate entries ++ (if elements.isKeyed && !entries.isEmpty then " )" else ")")

def declaration (name : String) : Run String := do
  let state ← get
  let letters := traitLetters state.scope name
  let front := "declare -" ++ (if letters.isEmpty then "-" else letters) ++ " " ++ name
  match state.scope.elements? name with
  | some elements => return front ++ "=" ++ elementsText elements
  | none =>
    return match state.lookup? name with
      | some value => front ++ "=" ++ Quotation.double value
      | none => front

def inForm (name : String) (letter : Char) (values : Values) : Run Values := do
  let firstUpper (value : String) : String := withCase true false [] value
  match letter with
  | 'Q' | 'K' | 'k' =>
    match values with
    | .one none => return values
    | values => return values.map Quotation.always
  | 'U' => return values.map (withCase true true [])
  | 'u' => return values.map firstUpper
  | 'L' => return values.map (withCase false true [])
  | 'E' =>
    return values.map fun value =>
      let text := (readEscapedQuotes (value.length + 2) (value.toList ++ ['\x27'])).toOption
      (text.map fun text => String.ofList text.1).getD value
  | 'a' =>
    let letters := traitLetters (← get).scope name
    return values.map fun _ => letters
  | 'A' =>
    let scope := (← get).scope
    let letters := traitLetters scope name
    match values with
    | .one (some value) =>
      let front := if letters.isEmpty then "" else "declare -" ++ letters ++ " "
      return .one (some (front ++ name ++ "=" ++ Quotation.always value))
    | .one none => return values
    | .many _ joins => return .many [(0, ← declaration name)] joins
  | _ => return values

/-! ## Pieces -/

mutual

/-- The items of a piece of a word. With `splits`, values are cut into words. It is fuelled by the
depth of words inside pieces. -/
def expandPiece (scripts : Scripts) : Nat → Bool → Piece → Run (List Item)
  | 0, _, _ => return []
  | _ + 1, _, .character character isQuoted => return [.character character isQuoted]
  | _ + 1, _, .empty => return [.keeps]
  | _ + 1, _, .home user => do
    let home ← if user.isEmpty then lookup? "HOME" else pure (System.homeOf? user)
    return Item.ofValue [] true false (home.getD ("~" ++ user))
  | _ + 1, _, .invalid text => do
    match (← get).scope.language with
    | .plain => fail 2 "Bad substitution"
    | .extended => stop ("$\x7b" ++ String.ofList text ++ "\x7d: bad substitution")
  | _ + 1, splits, .output script _ isQuoted => do
    let text ← scripts.output script
    return Item.ofValue (← get).separators isQuoted splits text
  | _ + 1, _, .pipe script isRead => do
    return Item.ofValue [] true false (← scripts.pipe script isRead)
  | fuel + 1, splits, .result expression isQuoted => do
    let language := (← get).scope.language
    let pieces := match language with
      | .plain => piecesOfDocument language expression
      | .extended => piecesOf language true expression
    let items ← pieces.mapM (expandPiece scripts fuel false)
    let result ← calculate (Item.text items.flatten)
    return Item.ofValue (← get).separators isQuoted splits result
  | fuel + 1, splits, .target name subscript adds => do
    let pieces := piecesOf .extended false (subscript.getD [])
    let inside ← pieces.mapM (expandPiece scripts fuel splits)
    let text (characters : String) : List Item :=
      characters.toList.map fun character => .character character false
    let brackets := if subscript.isSome then text "[" ++ inside.flatten ++ text "]" else []
    return text name ++ brackets ++ text (if adds then "+=" else "=")
  | _ + 1, _, .list text =>
    return ('(' :: text ++ [')']).map fun character => .character character false
  | fuel + 1, splits, .value name use isQuoted => do
    let values ← valuesOf name
    let joined : Values := match values with
      | .many [] _ => .one none
      | .many entries _ => .one (some (" ".intercalate (entries.map Prod.snd)))
      | values => values
    let values := match (← get).scope.language, use with
      | .plain, .dropFront _ _ | .plain, .dropEnd _ _ => joined
      | _, _ => values
    useValues scripts fuel splits name { name } values use isQuoted
  | fuel + 1, splits, .reference reference use isQuoted => do
    match reference with
    | .names start joins =>
      let names := (← namesWith start).zipIdx.map fun (name, index) => (index, name)
      useValues scripts fuel splits start { name := start } (.many names joins) use isQuoted
    | .keys name joins =>
      let state ← get
      let keys := match state.scope.elements? name with
        | some elements => elements.keys
        | none => (state.lookup? name).toList.map fun _ => "0"
      let values := keys.zipIdx.map fun (key, index) => (index, key)
      useValues scripts fuel splits name { name } (.many values joins) use isQuoted
    | .element name subscript => useElement scripts fuel splits name subscript use isQuoted
    | .indirect name =>
      match (← lookup? name) with
      | none => stop (name ++ ": invalid indirect expansion")
      | some text =>
        match readName? text.toList with
        | some (inner, []) =>
          useValues scripts fuel splits inner { name := inner } (← valuesOf inner) use isQuoted
        | some (inner, '[' :: rest) =>
          match readSubscript? (rest.length + 1) 0 rest with
          | some (subscript, []) => useElement scripts fuel splits inner subscript use isQuoted
          | _ => stop (text ++ ": invalid variable name")
        | other =>
          match text.toList.all Text.isAsciiDigit, other with
          | true, some _ =>
            useValues scripts fuel splits text { name := text } (← valuesOf text) use isQuoted
          | _, _ => stop (text ++ ": invalid variable name")

def useElement (scripts : Scripts) (fuel : Nat) (splits : Bool) (name : String)
    (subscript : List Char) (use : ValueUse)
    (isQuoted : Bool) : Run (List Item) :=
  match fuel with
  | 0 => return []
  | fuel + 1 => do
    match subscript with
    | ['@'] => useValues scripts fuel splits name { name } (← valuesInList name false) use isQuoted
    | ['*'] => useValues scripts fuel splits name { name } (← valuesInList name true) use isQuoted
    | subscript =>
      let items ← (piecesOf .extended false subscript).mapM (expandPiece scripts fuel false)
      let key := Item.text items.flatten
      let target ← elementAt name key
      let value? := (← get).valueAt? target
      useValues scripts fuel splits (name ++ "[" ++ key ++ "]") target (.one value?) use isQuoted

/-- The items of values by how they are used. `label` is what messages call them, and `target` what
a value may be given to. -/
def useValues (scripts : Scripts) (fuel : Nat) (splits : Bool) (label : String)
    (target : Arithmetic.Extended.Target)
    (values : Values) (use : ValueUse) (isQuoted : Bool) : Run (List Item) :=
  match fuel with
  | 0 => return []
  | fuel + 1 => do
    let state ← get
    let separators := state.separators
    let language := state.scope.language
    let manner := state.scope.manner
    let shown (values : Values) : Run (List Item) :=
      return values.items separators isQuoted splits
    let checked : Run Values := do
      match values with
      | .one none =>
        if state.scope.isOn "nounset" && !isArguments label then
          match language with
          | .plain => fail 2 (label ++ ": parameter not set")
          | .extended =>
            let isSign := label == "!" || use = .whole && label.toList.all Text.isAsciiDigit
            failUnbound (if isSign then "$" ++ label else label)
        else return values
      | values => return values
    let pieces (word : List Char) : List Piece :=
      if isQuoted then piecesOf language true word else withHome (piecesOf language false word)
    let itemsOf (word : List Piece) : Run (List Item) := do
      return (← word.mapM (expandPiece scripts fuel false)).flatten
    let other (word : List Char) : Run (List Item) := do
      let items ← (pieces word).mapM (expandPiece scripts fuel splits)
      return items.flatten.map fun
        | .character character false =>
          if splits && separators.contains character then .ends else .character character false
        | item => item
    let pattern (word : List Char) : Run (List PatternPart) := do
      let items ← itemsOf (withHome (piecesOf language false word))
      return Pattern.ofMarked manner (Item.marked items)
    let number (expression : List Char) : Run Int := do
      evaluate "" (Item.text (← itemsOf (piecesOf language true expression)))
    let shortened (drop : List PatternPart → List Char → List Char) (word : List Char) :
        Run (List Item) := do
      let pattern ← pattern word
      shown ((← checked).map fun value =>
        Pattern.textOf manner (drop pattern (Pattern.letters manner value.toList)))
    match use with
    | .whole => shown (← checked)
    | .length =>
      let length ← match values with
        | .many entries _ => pure entries.length
        | .one _ => do
          match ← checked, language with
          | .one (some value), .plain => pure (bytes value).length
          | .one (some value), .extended => pure value.length
          | _, _ => pure 0
      let length := if isArguments label then state.scope.arguments.length else length
      return Item.ofValue separators isQuoted splits (toString length)
    | .orElse alsoEmpty word => if values.isMissing alsoEmpty then other word else shown values
    | .andThen alsoEmpty word => if values.isMissing alsoEmpty then return [] else other word
    | .orAssign alsoEmpty word =>
      if values.isMissing alsoEmpty then
        let value := Item.text (← itemsOf (pieces word))
        match language with
        | .plain => assign label value
        | .extended => give target false value
        return Item.ofValue separators isQuoted splits value
      else shown values
    | .orFail alsoEmpty word =>
      if values.isMissing alsoEmpty then
        let text := Item.text (← itemsOf (piecesOf language isQuoted word))
        match language with
        | .plain =>
          let reason := if alsoEmpty then "parameter not set or null" else "parameter not set"
          fail 2 (label ++ ": " ++ if word.isEmpty then reason else text)
        | .extended =>
          let reason := if alsoEmpty then "parameter null or not set" else "parameter not set"
          refuse (if state.scope.outerTraps.isSome then 1 else 127)
            (label ++ ": " ++ if word.isEmpty then reason else text)
          throw .exit
      else shown values
    | .dropFront longest word => shortened (Pattern.dropFront longest) word
    | .dropEnd longest word => shortened (Pattern.dropEnd longest) word
    | .part start length => do
      let values ← checked
      let start ← number start
      let length ← match length with
        | some expression => do pure (some (← number expression))
        | none => pure none
      shown (← partOf values label start length)
    | .replace place word replacement => do
      let pattern ← pattern word
      let marks := Item.marked (← itemsOf (piecesOf language false replacement))
      let isFilled := state.scope.isOn "patsub_replacement"
      let change (found : List Char) : List Char :=
        marks.flatMap fun (letter, isQuoted) =>
          if letter == '&' && !isQuoted && isFilled then found else [letter]
      let values ← checked
      if word.isEmpty && (place = .first || place = .all) then shown values
      else
        let ignoresCase := state.scope.isOn "nocasematch"
        shown (values.map (withReplacement ignoresCase place pattern change))
    | .changeCase toUpper all word => do
      let pattern ← pattern word
      shown ((← checked).map (withCase toUpper all pattern))
    | .form letter => do shown (← inForm target.name letter (← checked))

end

/-! ## Words -/

def mayVanish : Piece → Bool
  | .value "@" .whole true => true
  | .reference (.element _ ['@']) _ true | .reference (.keys _ false) _ true
  | .reference (.indirect _) _ true | .value "@" (.part _ _) true => true
  | _ => false

def expandItems (scripts : Scripts) (fuel : Nat) (splits : Bool) (word : Word) :
    Run (List Item) := do
  match word with
  | .empty :: piece :: rest =>
    let items ← expandPiece scripts fuel splits piece
    let isGone := mayVanish piece && items.isEmpty && splits
    let following ← rest.mapM (expandPiece scripts fuel splits)
    return (if isGone then [] else [.keeps]) ++ items ++ following.flatten
  | word => return (← word.mapM (expandPiece scripts fuel splits)).flatten

def pathManner (scope : Scope) : Pattern.PathManner where
  toManner := { scope.manner with ignoresCase := scope.isOn "nocaseglob" }
  showsHidden := scope.isOn "dotglob"
  goesDeep := scope.isOn "globstar"

def expandPaths (word : MarkedText) : Run (List String) := do
  let state ← get
  let text := String.ofList (word.map Prod.fst)
  if state.scope.isOn "noglob" then return [text]
  else
    match Pattern.matchingPaths? (pathManner state.scope) state.disk word with
    | none => return [text]
    | some [] =>
      if state.scope.isOn "nullglob" then return []
      else if state.scope.isOn "failglob" then stop ("no match: " ++ text)
      else return [text]
    | some paths => return paths

def expandOne (scripts : Scripts) (fuel : Nat) (word : Word) : Run (List String) := do
  let items ← expandItems scripts fuel true (withHome word)
  return (← (Item.words items).mapM expandPaths).flatten

def expandWord (scripts : Scripts) (fuel : Nat) (word : Word) : Run (List String) := do
  if (← get).scope.isOn "braceexpand" then
    return (← (Braces.expandAll word).mapM (expandOne scripts fuel)).flatten
  else expandOne scripts fuel word

def expandWords (scripts : Scripts) (fuel : Nat) (words : List Word) : Run (List String) := do
  return (← words.mapM (expandWord scripts fuel)).flatten

def expandText (scripts : Scripts) (fuel : Nat) (word : Word) : Run String := do
  return Item.text (← expandItems scripts fuel false (withHome word))

def expandValue (scripts : Scripts) (fuel : Nat) (word : Word) : Run String := do
  return Item.text (← expandItems scripts fuel false (withHomes word))

def expandPattern (scripts : Scripts) (fuel : Nat) (word : Word) : Run (List PatternPart) := do
  let items ← expandItems scripts fuel false (withHome word)
  return Pattern.ofMarked (← get).scope.manner (Item.marked items)

end Run

end SymbolCache.Program.Shell
