/-!
# Patterns of texts

`Pattern.like` compares a text with a pattern where `%` stands for any characters and `_` for one,
without regard to the case of Latin letters. `Pattern.glob` does so where `*` stands for any
characters, `?` for one and brackets for one of a set, with regard to case.
-/

set_option autoImplicit false

namespace FlowAtlas
namespace Sql
namespace Pattern

/-- A Latin letter in lower case. -/
def fold (c : Char) : Char := c.toLower

/-- A part of a pattern. -/
inductive Part
  | any
  | one
  | exactly (c : Char)
  /-- One of some ranges of characters, or none of them. -/
  | among (isNegated : Bool) (ranges : List (Char × Char))
  /-- A set that does not end, which nothing matches. -/
  | nothing
  deriving DecidableEq, Repr, Inhabited

/-- Whether a character matches a part. -/
def Part.holds (isFolded : Bool) (c : Char) : Part → Bool
  | any | nothing => false
  | one => true
  | exactly d => if isFolded then fold c = fold d else c = d
  | among isNegated ranges => isNegated != ranges.any fun (a, b) => a ≤ c && c ≤ b

/-- Whether something holds of a text or of what is left when it loses characters at its start. -/
def holdsBehind (f : List Char → Bool) : List Char → Bool
  | [] => f []
  | c :: rest => f (c :: rest) || holdsBehind f rest

/-- Whether a text matches the parts of a pattern. -/
def holds (isFolded : Bool) : (parts : List Part) → (text : List Char) → Bool
  | [], text => text.isEmpty
  | .any :: parts, text => holdsBehind (holds isFolded parts) text
  | p :: parts, text =>
    match text with
    | [] => false
    | c :: rest => p.holds isFolded c && holds isFolded parts rest

/-- The parts of a pattern with `%` and `_`, where a mark may take the meaning from the next
character. A mark at the end matches nothing. -/
def likeParts (escape : Option Char) : List Char → List Part
  | [] => []
  | c :: rest =>
    if escape = some c then
      match rest with
      | d :: rest => .exactly d :: likeParts escape rest
      | [] => [.nothing]
    else if c = '%' then .any :: likeParts escape rest
    else if c = '_' then .one :: likeParts escape rest
    else .exactly c :: likeParts escape rest

/-- Whether a text matches a pattern with `%` and `_`. -/
def like (pattern text : List Char) (escape : Option Char) : Bool :=
  holds true (likeParts escape pattern) text

/-- The ranges of a set up to the closing bracket, and what stands behind it. -/
def rangesFrom : (fuel : Nat) → List Char → Option (List (Char × Char) × List Char)
  | 0, _ | _, [] => none
  | fuel + 1, c :: rest =>
    if c = ']' then some ([], rest)
    else
      match rest with
      | '-' :: d :: more =>
        if d = ']' then (rangesFrom fuel rest).map fun (rs, rest) => ((c, c) :: rs, rest)
        else (rangesFrom fuel more).map fun (rs, rest) => ((c, d) :: rs, rest)
      | _ => (rangesFrom fuel rest).map fun (rs, rest) => ((c, c) :: rs, rest)

/-- A set behind its opening bracket, and what stands behind it. -/
def setOf? (cs : List Char) : Option (Part × List Char) :=
  let isNegated := cs.head? = some '^'
  let cs := if isNegated then cs.drop 1 else cs
  let isClosed := cs.head? = some ']'
  let found := rangesFrom (cs.length + 1) (if isClosed then cs.drop 1 else cs)
  found.map fun (ranges, rest) =>
    (.among isNegated (if isClosed then (']', ']') :: ranges else ranges), rest)

/-- The parts of a pattern with `*`, `?` and brackets. -/
def globParts : (fuel : Nat) → List Char → List Part
  | 0, _ | _, [] => []
  | fuel + 1, c :: rest =>
    if c = '*' then .any :: globParts fuel rest
    else if c = '?' then .one :: globParts fuel rest
    else if c = '[' then
      match setOf? rest with
      | some (p, rest) => p :: globParts fuel rest
      | none => [.nothing]
    else .exactly c :: globParts fuel rest

/-- Whether a text matches a pattern with `*`, `?` and brackets. -/
def glob (pattern text : List Char) : Bool :=
  holds false (globParts (pattern.length + 1) pattern) text

end Pattern
end Sql
end FlowAtlas
