import SymbolCache.Documentation
import SymbolCache.Proofs.Text.Trimming

/-!
# Written documentation

How the documentation of a package is written: declarations, each on a line or in a group, and lines
of prose and of bodies between them.
-/

set_option autoImplicit false

namespace SymbolCache.Documentation

/-! ## Parts of a line -/

def IsName (text : List Char) : Prop :=
  text ≠ [] ∧ ∀ character ∈ text, isIdentifierCharacter character = true

instance (text : List Char) : Decidable (IsName text) :=
  decidable_of_iff (text ≠ [] ∧ text.all isIdentifierCharacter = true)
    (and_congr_right fun _ => List.all_eq_true)

inductive Balanced (opening closing : Char) : List Char → Prop where
  | nil : Balanced opening closing []
  | other {character : Char} {rest : List Char} :
      character ≠ opening → character ≠ closing → Balanced opening closing rest →
      Balanced opening closing (character :: rest)
  | nested {inside rest : List Char} :
      Balanced opening closing inside → Balanced opening closing rest →
      Balanced opening closing (opening :: (inside ++ closing :: rest))

/-- What follows the name of a function: parameters of types or of values, and results. -/
def IsSignature (text : List Char) : Prop :=
  (text.head? = some '(' ∨ text.head? = some '[') ∧ Text.Trimmed text

/-! ## Values -/

structure Part where
  gap : List Char
  text : List Char

def Part.Apart (part : Part) : Prop :=
  part.gap ≠ [] ∧ Text.Blank part.gap

def written (mark : List Char) : Option Part → List Char
  | none => []
  | some part => part.gap ++ (mark ++ part.text)

/-- The type of some values: it does not go on with names, and nothing in it looks like the start of
a value or of a comment or like an elision. -/
structure IsValueType (text : List Char) : Prop where
  filled : text ≠ []
  trimmed : Text.Trimmed text
  no_name : text.head? ≠ some ','
  no_value : '=' ∉ text
  no_comment : ¬ ['/', '/'] <:+: text
  no_elision : ¬ ['.', '.', '.'] <:+ text

structure Values where
  names : List (List Char)
  type : Option Part
  value : Option Part
  comment : Option Part

namespace Values

def line (values : Values) : List Char :=
  List.intercalate [',', ' '] values.names ++ (written [] values.type ++
    (written ['='] values.value ++ written ['/', '/'] values.comment))

def declarations (kind : SymbolKind) (values : Values) : List Declaration :=
  values.names.map fun name => {
    name := String.ofList name
    kind
    signature := values.type.map fun part => String.ofList part.text }

structure Fits (values : Values) : Prop where
  some_name : values.names ≠ []
  names : ∀ name ∈ values.names, IsName name
  type : ∀ part ∈ values.type, part.Apart ∧ IsValueType part.text
  value : ∀ part ∈ values.value, part.Apart
  comment : ∀ part ∈ values.comment, part.Apart

end Values

/-! ## Types -/

/-- What a type is. What follows the keyword of a structure or of an interface may be any text. -/
inductive Body where
  | struct (rest : List Char)
  | interface (rest : List Char)
  | other (underlying : List Char)

namespace Body

def line : Body → List Char
  | .struct rest => "struct".toList ++ rest
  | .interface rest => "interface".toList ++ rest
  | .other underlying => underlying

def kind : Body → SymbolKind
  | .struct _ => .struct
  | .interface _ => .interface
  | .other _ => .type

def signature : Body → Option String
  | .other underlying => some (String.ofList underlying)
  | _ => none

/-- A text that is not taken for type parameters, for a structure or for an interface, and that has
no brace or elision at its end. -/
structure IsUnderlying (text : List Char) : Prop where
  filled : text ≠ []
  trimmed : Text.Trimmed text
  no_parameters : text.head? ≠ some '['
  no_struct : ¬ "struct".toList <+: text
  no_interface : ¬ "interface".toList <+: text
  no_brace : text.getLast? ≠ some '\x7b'
  no_elision : ¬ ['.', '.', '.'] <:+ text

def Fits : Body → Prop
  | .other underlying => IsUnderlying underlying
  | _ => True

end Body

def parameterText : Option (List Char) → List Char
  | none => []
  | some parameters => '[' :: (parameters ++ [']'])

/-! ## Documents -/

/-- A line that declares nothing: it is indented or starts with none of the keywords. Empty lines
are among them. -/
def IsProse (line : List Char) : Prop :=
  (∃ character ∈ line.head?, Text.isWhiteSpace character = true) ∨
    ∀ keyword ∈ ["func ", "type ", "const ", "var "], ¬ keyword.toList <+: line

theorem isProse_cons {first : Char} (other : first ∉ ['f', 't', 'c', 'v']) (rest : List Char) :
    IsProse (first :: rest) := by
  refine .inr fun keyword member starts => ?_
  simp only [List.mem_cons, List.not_mem_nil, or_false, not_or] at member other
  obtain ⟨func, type, const, var⟩ := other
  rcases member with rfl | rfl | rfl | rfl
  · exact func (List.cons_prefix_cons.mp starts).1.symm
  · exact type (List.cons_prefix_cons.mp starts).1.symm
  · exact const (List.cons_prefix_cons.mp starts).1.symm
  · exact var (List.cons_prefix_cons.mp starts).1.symm

/-- A line of a group that declares nothing: it is blank or an indented comment. -/
def IsRemark (line : List Char) : Prop :=
  Text.Blank line ∨ line.head? = some '\t' ∧ ['/', '/'] <+: Text.trim line

inductive Member where
  | remark (line : List Char)
  | values (values : Values)

namespace Member

def line : Member → List Char
  | .remark line => line
  | .values list => '\t' :: list.line

def declarations (kind : SymbolKind) : Member → List Declaration
  | .remark _ => []
  | .values list => list.declarations kind

def Fits : Member → Prop
  | .remark line => IsRemark line
  | .values list => list.Fits

end Member

/-- A declaration or a group of declarations, or a line that declares nothing. -/
inductive Item where
  | prose (line : List Char)
  | function (name signature : List Char)
  | method (receiver name signature : List Char)
  | type (name : List Char) (parameters : Option (List Char)) (body : Body)
  | values (kind : SymbolKind) (values : Values)
  | group (kind : SymbolKind) (members : List Member)

namespace Item

def lines : Item → List (List Char)
  | .prose line => [line]
  | .function name signature => ["func ".toList ++ (name ++ signature)]
  | .method receiver name signature =>
    ["func ".toList ++ '(' :: (receiver ++ ')' :: ' ' :: (name ++ signature))]
  | .type name parameters body =>
    ["type ".toList ++ (name ++ (parameterText parameters ++ ' ' :: body.line))]
  | .values kind list => [kind.word.toList ++ ' ' :: list.line]
  | .group kind members => (kind.word.toList ++ [' ', '(']) :: (members.map Member.line ++ [[')']])

def declarations : Item → List Declaration
  | .prose _ => []
  | .function name signature =>
    [⟨String.ofList name, .func, some (String.ofList ("func".toList ++ signature))⟩]
  | .method _ name signature =>
    [⟨String.ofList name, .method, some (String.ofList ("func".toList ++ signature))⟩]
  | .type name _ body => [⟨String.ofList name, body.kind, body.signature⟩]
  | .values kind list => list.declarations kind
  | .group kind members => members.flatMap (Member.declarations kind)

def WellFormed : Item → Prop
  | .prose line => IsProse line
  | .function name signature => IsName name ∧ IsSignature signature
  | .method receiver name signature =>
    Balanced '(' ')' receiver ∧ IsName name ∧ IsSignature signature
  | .type name parameters body =>
    IsName name ∧ (∀ text ∈ parameters, Balanced '[' ']' text) ∧ body.Fits
  | .values kind list => (kind = .const ∨ kind = .var) ∧ list.Fits
  | .group kind members => (kind = .const ∨ kind = .var) ∧ ∀ member ∈ members, member.Fits

def Fits (item : Item) : Prop :=
  item.WellFormed ∧ ∀ line ∈ item.lines, '\n' ∉ line

end Item

def document (items : List Item) : String :=
  String.ofList ((items.flatMap Item.lines).flatMap fun line => line ++ ['\n'])

end SymbolCache.Documentation
