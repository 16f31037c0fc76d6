import FlowAtlas.Text.CaseTable

/-!
# Lower case

`Text.lower` writes a text in lower case. A letter has one lower-case letter but for two: the dotted
capital i keeps its dot as a mark of its own, and sigma at the end of a word has its own form.
-/

set_option autoImplicit false

namespace FlowAtlas
namespace Text

/-- Whether a letter is the nearest thing that is not passed over. -/
def meetsLetter (cs : List Char) : Bool :=
  match cs.dropWhile isCaseIgnorable with
  | c :: _ => isCased c
  | [] => false

/-- The lower case of a text, of which the part before it is given, the latest first. -/
def lowerFrom : (before : List Char) → List Char → List Char
  | _, [] => []
  | before, c :: rest =>
    let lowered :=
      if c = 'Σ' then if meetsLetter before && !meetsLetter rest then ['ς'] else ['σ']
      else if c = 'İ' then ['i', '\u0307']
      else [lowerChar c]
    lowered ++ lowerFrom (c :: before) rest

/-- A text in lower case. -/
def lower (s : String) : String := String.ofList (lowerFrom [] s.toList)

end Text
end FlowAtlas
