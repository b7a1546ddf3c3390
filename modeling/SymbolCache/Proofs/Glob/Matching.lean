import Mathlib.Data.List.Basic
import Mathlib.Data.List.Induction
import SymbolCache.Glob.Match
import SymbolCache.Proofs.Text.Bytes

/-!
# What patterns match

A token spells texts, and so does a list of tokens: those that can be cut into texts of its tokens.
The places that a list of tokens leads to are told by the texts it spells, whichever paths and
places it starts from. So it matches a path exactly if it spells it.
-/

set_option autoImplicit false

namespace SymbolCache.Glob

/-! ## The texts of a pattern -/

mutual

inductive Token.Spells : Token → List UInt8 → Prop where
  | literal {character : Char} : Token.Spells (.literal character) (characterBytes character)
  | any {byte : UInt8} : Token.Spells .any [byte]
  | zeroOrMore {text : List UInt8} : Token.Spells .zeroOrMore text
  | noPrefix : Token.Spells .recursivePrefix []
  | recursivePrefix {text : List UInt8} : Token.Spells .recursivePrefix (text ++ [0x2F])
  | recursiveSuffix {text : List UInt8} : Token.Spells .recursiveSuffix (0x2F :: text)
  | slash : Token.Spells .recursiveBetween [0x2F]
  | recursiveBetween {text : List UInt8} :
      Token.Spells .recursiveBetween (0x2F :: text ++ [0x2F])
  | charClass {negated : Bool} {ranges : List (Char × Char)} {byte : UInt8}
      (inside : ((ranges.any fun range => rangeHasByte range byte) != negated) = true) :
      Token.Spells (.charClass negated ranges) [byte]
  | void {branches : List (List Token)} (void : areVoid branches = true) :
      Token.Spells (.alternates branches) []
  | alternates {branches : List (List Token)} {branch : List Token} {text : List UInt8}
      (member : branch ∈ branches) (solid : isVoidList branch = false)
      (spells : Spells branch text) : Token.Spells (.alternates branches) text

inductive Spells : List Token → List UInt8 → Prop where
  | nil : Spells [] []
  | cons {token : Token} {tokens : List Token} {first rest : List UInt8}
      (head : token.Spells first) (tail : Spells tokens rest) :
      Spells (token :: tokens) (first ++ rest)

end

theorem spells_nil_iff {text : List UInt8} : Spells [] text ↔ text = [] := by
  constructor
  · intro spells
    cases spells
    rfl
  · rintro rfl
    exact .nil

theorem spells_cons_iff {token : Token} {tokens : List Token} {text : List UInt8} :
    Spells (token :: tokens) text ↔
      ∃ first rest, text = first ++ rest ∧ token.Spells first ∧ Spells tokens rest := by
  constructor
  · intro spells
    cases spells with
    | cons head tail => exact ⟨_, _, rfl, head, tail⟩
  · rintro ⟨first, rest, rfl, head, tail⟩
    exact .cons head tail

theorem spells_append_iff {first second : List Token} {text : List UInt8} :
    Spells (first ++ second) text ↔
      ∃ before after, text = before ++ after ∧ Spells first before ∧ Spells second after := by
  induction first generalizing text with
  | nil => simp [spells_nil_iff]
  | cons token tokens ih =>
      rw [List.cons_append, spells_cons_iff]
      constructor
      · rintro ⟨head, rest, rfl, spells, behind⟩
        obtain ⟨before, after, rfl, inner, outer⟩ := ih.mp behind
        exact ⟨head ++ before, after, (List.append_assoc ..).symm, .cons spells inner, outer⟩
      · rintro ⟨before, after, rfl, spells, outer⟩
        obtain ⟨head, rest, rfl, spells, inner⟩ := spells_cons_iff.mp spells
        exact ⟨head, rest ++ after, List.append_assoc .., spells,
          ih.mpr ⟨rest, after, rfl, inner, outer⟩⟩

/-! ## Places by the texts in front of them -/

def Holds (path : List UInt8) (places : Places) (before : List UInt8) : Prop :=
  before <+: path ∧ places[before.length]? = some true

def Advances (path : List UInt8) (language : List UInt8 → Prop) (step : Places → Places) : Prop :=
  ∀ places : Places, places.length = path.length + 1 →
    (step places).length = path.length + 1 ∧
      ∀ later, Holds path (step places) later ↔ later <+: path ∧
        ∃ before text, later = before ++ text ∧ language text ∧ Holds path places before

section

variable {path : List UInt8} {first second : List UInt8 → Prop} {step next : Places → Places}

theorem Advances.congr (advances : Advances path first step)
    (same : ∀ text, first text ↔ second text) : Advances path second step := by
  intro places length
  obtain ⟨kept, holds⟩ := advances places length
  refine ⟨kept, fun later => (holds later).trans ?_⟩
  simp only [same]

theorem advances_stay : Advances path (· = []) id := by
  intro places length
  refine ⟨length, fun later => ?_⟩
  constructor
  · intro holds
    exact ⟨holds.1, later, [], (List.append_nil later).symm, rfl, holds⟩
  · rintro ⟨-, before, text, rfl, rfl, holds⟩
    rwa [List.append_nil]

private theorem advances_nowhere :
    Advances path (fun _ => False) fun places => places.map fun _ => false := by
  intro places length
  refine ⟨by rw [List.length_map, length], fun later => ?_⟩
  constructor
  · rintro ⟨-, reached⟩
    rw [List.getElem?_map] at reached
    obtain ⟨-, -, wrong⟩ := Option.map_eq_some_iff.mp reached
    exact nomatch wrong
  · rintro ⟨-, -, -, -, wrong, -⟩
    exact wrong.elim

theorem Advances.then (advances : Advances path first step) (more : Advances path second next) :
    Advances path (fun text => ∃ front back, text = front ++ back ∧ first front ∧ second back)
      fun places => next (step places) := by
  intro places length
  obtain ⟨kept, holds⟩ := advances places length
  obtain ⟨keptAgain, holdsNext⟩ := more (step places) kept
  refine ⟨keptAgain, fun later => (holdsNext later).trans ?_⟩
  constructor
  · rintro ⟨starts, middle, back, rfl, spelledBack, reached⟩
    obtain ⟨-, before, front, rfl, spelledFront, reached⟩ := (holds middle).mp reached
    exact ⟨starts, before, front ++ back, List.append_assoc ..,
      ⟨front, back, rfl, spelledFront, spelledBack⟩, reached⟩
  · rintro ⟨starts, before, text, rfl, ⟨front, back, rfl, spelledFront, spelledBack⟩, reached⟩
    rw [← List.append_assoc] at starts
    have middle : before ++ front <+: path := (List.prefix_append _ _).trans starts
    refine ⟨by rwa [← List.append_assoc], before ++ front, back, (List.append_assoc ..).symm,
      spelledBack, ?_⟩
    exact (holds _).mpr ⟨middle, before, front, rfl, spelledFront, reached⟩

theorem Advances.either (advances : Advances path first step) (more : Advances path second next) :
    Advances path (fun text => first text ∨ second text)
      fun places => union (step places) (next places) := by
  intro places length
  obtain ⟨kept, holds⟩ := advances places length
  obtain ⟨keptNext, holdsNext⟩ := more places length
  have keptBoth : (union (step places) (next places)).length = path.length + 1 := by
    rw [union, List.length_zipWith, kept, keptNext, Nat.min_self]
  refine ⟨keptBoth, fun later => ?_⟩
  have either : Holds path (union (step places) (next places)) later ↔
      Holds path (step places) later ∨ Holds path (next places) later := by
    rw [Holds, Holds, Holds, ← and_or_left]
    refine and_congr_right fun starts => ?_
    have bound := starts.length_le
    rw [union, List.getElem?_zipWith, List.getElem?_eq_getElem (by omega),
      List.getElem?_eq_getElem (by omega)]
    simp
  rw [either, holds, holdsNext, ← and_or_left]
  simp only [or_and_right, and_or_left, exists_or]

/-! ### Steps over bytes -/

private theorem length_afterByte {accepts : UInt8 → Bool} {places : Places}
    (length : places.length = path.length + 1) :
    (afterByte accepts path places).length = path.length + 1 := by
  rw [afterByte, List.length_cons, List.length_zipWith, length]
  omega

private theorem holds_afterByte {accepts : UInt8 → Bool} {places : Places} {later : List UInt8}
    {byte : UInt8} :
    Holds path (afterByte accepts path places) (later ++ [byte]) ↔
      later ++ [byte] <+: path ∧ accepts byte = true ∧ places[later.length]? = some true := by
  refine and_congr_right fun starts => ?_
  have here : path[later.length]? = some byte := by
    obtain ⟨after, rfl⟩ := starts
    simp
  rw [afterByte, List.length_append, List.length_singleton, List.getElem?_cons_succ,
    List.getElem?_zipWith, here]
  cases places[later.length]? with
  | none => simp
  | some place => simp [and_comm]

theorem advances_afterByte (accepts : UInt8 → Bool) :
    Advances path (fun text => ∃ byte, accepts byte = true ∧ text = [byte])
      (afterByte accepts path) := by
  intro places length
  refine ⟨length_afterByte length, fun later => ?_⟩
  induction later using List.reverseRecOn with
  | nil =>
      constructor
      · rintro ⟨-, reached⟩
        exact nomatch reached
      · rintro ⟨-, before, text, parts, ⟨byte, -, rfl⟩, -⟩
        exact absurd parts (by simp)
  | append_singleton later byte =>
      rw [holds_afterByte]
      constructor
      · rintro ⟨starts, accepted, place⟩
        exact ⟨starts, later, [byte], rfl, ⟨byte, accepted, rfl⟩,
          (List.prefix_append _ _).trans starts, place⟩
      · rintro ⟨starts, before, text, parts, ⟨other, accepted, rfl⟩, -, place⟩
        obtain ⟨rfl, same⟩ := List.append_inj' parts rfl
        obtain rfl : byte = other := List.singleton_inj.mp same
        exact ⟨starts, accepted, place⟩

private theorem advances_afterBytes (bytes : List UInt8) :
    Advances path (· = bytes) fun places => afterBytes path bytes places := by
  induction bytes with
  | nil => exact advances_stay
  | cons byte bytes ih =>
      refine ((advances_afterByte (· == byte)).then ih).congr fun text => ?_
      simp only [beq_iff_eq]
      constructor
      · rintro ⟨front, back, rfl, ⟨byte, rfl, rfl⟩, rfl⟩
        rfl
      · rintro rfl
        exact ⟨[byte], bytes, rfl, ⟨byte, rfl, rfl⟩, rfl⟩

private theorem length_onward (reached : Bool) (places : Places) :
    (onward reached places).length = places.length := by
  induction places generalizing reached with
  | nil => rfl
  | cons place places ih => rw [onward, List.length_cons, List.length_cons, ih]

private theorem getElem?_onward {reached : Bool} {places : Places} {position : Nat} :
    (onward reached places)[position]? = some true ↔
      position < places.length ∧
        (reached = true ∨ ∃ earlier ≤ position, places[earlier]? = some true) := by
  induction places generalizing reached position with
  | nil => simp [onward]
  | cons place places ih =>
      cases position with
      | zero => simp [onward]
      | succ position =>
          rw [onward, List.getElem?_cons_succ, ih, List.length_cons, Nat.add_lt_add_iff_right,
            Bool.or_eq_true, or_assoc]
          refine and_congr_right fun _ => or_congr_right ?_
          constructor
          · rintro (here | ⟨earlier, before, held⟩)
            · exact ⟨0, Nat.zero_le _, by rw [List.getElem?_cons_zero, here]⟩
            · exact ⟨earlier + 1, by omega, by rwa [List.getElem?_cons_succ]⟩
          · rintro ⟨earlier, before, held⟩
            cases earlier with
            | zero => exact .inl (by simpa using held)
            | succ earlier => exact .inr ⟨earlier, by omega, by simpa using held⟩

theorem advances_onward : Advances path (fun _ => True) (onward false) := by
  intro places length
  refine ⟨by rw [length_onward, length], fun later => ?_⟩
  rw [Holds, getElem?_onward]
  constructor
  · rintro ⟨starts, -, wrong | ⟨earlier, before, held⟩⟩
    · exact nomatch wrong
    · refine ⟨starts, later.take earlier, later.drop earlier,
        (List.take_append_drop earlier later).symm, trivial,
        (List.take_prefix earlier later).trans starts, ?_⟩
      rwa [List.length_take, Nat.min_eq_left before]
  · rintro ⟨starts, before, text, rfl, -, -, held⟩
    have bound := starts.length_le
    exact ⟨starts, by omega, .inr ⟨before.length, by simp, held⟩⟩

private theorem advances_afterSlash :
    Advances path (fun text => ∃ front, text = front ++ [0x2F]) (afterSlash path) := by
  refine (advances_onward.then (advances_afterByte (· == 0x2F))).congr fun text => ?_
  simp only [beq_iff_eq]
  constructor
  · rintro ⟨front, back, rfl, -, byte, rfl, rfl⟩
    exact ⟨front, rfl⟩
  · rintro ⟨front, rfl⟩
    exact ⟨front, [0x2F], rfl, trivial, 0x2F, rfl, rfl⟩

end

/-! ## Tokens -/

private theorem areVoid_iff {branches : List (List Token)} :
    areVoid branches = true ↔ ∀ branch ∈ branches, isVoidList branch = true := by
  induction branches with
  | nil => simp [areVoid]
  | cons branch branches ih => simp [areVoid, ih]

mutual

theorem Token.advances (path : List UInt8) :
    (token : Token) → Advances path token.Spells fun places => token.places path places
  | .literal character => by
      refine (advances_afterBytes (characterBytes character)).congr fun text => ?_
      constructor
      · rintro rfl
        exact .literal
      · rintro ⟨⟩
        rfl
  | .any => by
      refine (advances_afterByte fun _ => true).congr fun text => ?_
      constructor
      · rintro ⟨byte, -, rfl⟩
        exact .any
      · rintro ⟨⟩
        exact ⟨_, rfl, rfl⟩
  | .zeroOrMore => advances_onward.congr fun _ => iff_of_true trivial .zeroOrMore
  | .recursivePrefix => by
      refine (advances_stay.either advances_afterSlash).congr fun text => ?_
      constructor
      · rintro (rfl | ⟨front, rfl⟩)
        · exact .noPrefix
        · exact .recursivePrefix
      · intro spells
        cases spells with
        | noPrefix => exact .inl rfl
        | recursivePrefix => exact .inr ⟨_, rfl⟩
  | .recursiveSuffix => by
      refine ((advances_afterByte (· == 0x2F)).then advances_onward).congr fun text => ?_
      simp only [beq_iff_eq]
      constructor
      · rintro ⟨front, back, rfl, ⟨byte, rfl, rfl⟩, -⟩
        exact .recursiveSuffix
      · rintro ⟨⟩
        exact ⟨[0x2F], _, rfl, ⟨0x2F, rfl, rfl⟩, trivial⟩
  | .recursiveBetween => by
      refine ((advances_afterByte (· == 0x2F)).then
        (advances_stay.either advances_afterSlash)).congr fun text => ?_
      simp only [beq_iff_eq]
      constructor
      · rintro ⟨front, back, rfl, ⟨byte, rfl, rfl⟩, rfl | ⟨middle, rfl⟩⟩
        · exact .slash
        · exact .recursiveBetween
      · intro spells
        cases spells with
        | slash => exact ⟨[0x2F], [], rfl, ⟨0x2F, rfl, rfl⟩, .inl rfl⟩
        | recursiveBetween => exact ⟨[0x2F], _, rfl, ⟨0x2F, rfl, rfl⟩, .inr ⟨_, rfl⟩⟩
  | .charClass negated ranges => by
      refine (advances_afterByte _).congr fun text => ?_
      constructor
      · rintro ⟨byte, inside, rfl⟩
        exact .charClass inside
      · intro spells
        cases spells with
        | charClass inside => exact ⟨_, inside, rfl⟩
  | .alternates branches => by
      cases void : areVoid branches with
      | true =>
          simp only [Token.places, void, if_true]
          refine advances_stay.congr fun text => ?_
          constructor
          · rintro rfl
            exact .void void
          · intro spells
            cases spells with
            | void => rfl
            | alternates member solid spells =>
                rw [areVoid_iff.mp void _ member] at solid
                exact nomatch solid
      | false =>
          simp only [Token.places, void, Bool.false_eq_true, if_false]
          refine (branchPlaces_advances path branches).congr fun text => ?_
          constructor
          · rintro ⟨branch, member, solid, spells⟩
            exact .alternates member solid spells
          · intro spells
            cases spells with
            | void all => exact nomatch all.symm.trans void
            | alternates member solid spells => exact ⟨_, member, solid, spells⟩

theorem listPlaces_advances (path : List UInt8) : (tokens : List Token) →
    Advances path (Spells tokens) fun places => listPlaces path places tokens
  | [] => advances_stay.congr fun _ => spells_nil_iff.symm
  | token :: tokens =>
      ((token.advances path).then (listPlaces_advances path tokens)).congr fun _ =>
        spells_cons_iff.symm

private theorem branchPlaces_advances (path : List UInt8) : (branches : List (List Token)) →
    Advances path
      (fun text => ∃ branch ∈ branches, isVoidList branch = false ∧ Spells branch text)
      fun places => branchPlaces path places branches
  | [] => advances_nowhere.congr fun _ => by simp
  | branch :: branches => by
      have others := branchPlaces_advances path branches
      cases void : isVoidList branch with
      | true =>
          simp only [branchPlaces, void, if_true]
          exact others.congr fun _ => by simp [void]
      | false =>
          simp only [branchPlaces, void, Bool.false_eq_true, if_false]
          exact ((listPlaces_advances path branch).either others).congr fun _ => by simp [void]

end

/-- Tokens lead through a path exactly if they spell it. -/
theorem lead_iff {tokens : List Token} {path : List UInt8} :
    lead tokens path = true ↔ Spells tokens path := by
  have start : (startOf path).length = path.length + 1 := by
    rw [startOf, List.length_cons, List.length_map]
  obtain ⟨length, holds⟩ := listPlaces_advances path tokens (startOf path) start
  have ends : lead tokens path = true ↔
      Holds path (listPlaces path (startOf path) tokens) path := by
    rw [lead, Holds, List.getLast?_eq_getElem?, length, Nat.add_sub_cancel]
    cases (listPlaces path (startOf path) tokens)[path.length]? <;> simp
  have begins : ∀ before, Holds path (startOf path) before ↔ before = [] := by
    intro before
    cases before with
    | nil => simp [Holds, startOf]
    | cons byte before =>
        refine iff_of_false (fun holds => ?_) (List.cons_ne_nil _ _)
        have elsewhere := holds.2
        rw [startOf, List.length_cons, List.getElem?_cons_succ, List.getElem?_map] at elsewhere
        obtain ⟨-, -, wrong⟩ := Option.map_eq_some_iff.mp elsewhere
        exact nomatch wrong
  rw [ends, holds]
  simp only [begins]
  constructor
  · rintro ⟨-, before, text, parts, spells, rfl⟩
    rwa [parts]
  · intro spells
    exact ⟨List.prefix_rfl, [], path, rfl, spells, rfl⟩

theorem tokensMatch_iff {tokens : List Token} {path : List UInt8}
    (other : tokens ≠ [.recursivePrefix])
    (named : (Strategy.ofTokens tokens).needsFileName = true → Spells tokens path →
      endsInParent path = false) :
    tokensMatch tokens path = true ↔ Spells tokens path := by
  have unfolded : tokensMatch tokens path =
      (!((Strategy.ofTokens tokens).needsFileName && endsInParent path) && lead tokens path) := by
    unfold tokensMatch
    split
    · exact absurd rfl other
    · rfl
  rw [unfolded, Bool.and_eq_true, lead_iff, and_iff_right_iff_imp]
  intro spells
  cases needs : (Strategy.ofTokens tokens).needsFileName with
  | true => rw [named needs spells, Bool.and_false, Bool.not_false]
  | false => rw [Bool.false_and, Bool.not_false]

end SymbolCache.Glob
