import FlowAtlas.Sql.Document.Path
import FlowAtlas.Sql.Document.Reader
import FlowAtlas.Sql.Error
import FlowAtlas.Sql.Format

/-!
# Values and documents

A value holds a document as a text or in binary form (`Document.ofValue`). A value may also become a
document of its own: a number or a text (`Document.asPart`). The other way, what is no array and no
object in a document is a value (`Document.value`).
-/

set_option autoImplicit false

namespace FlowAtlas
namespace Sql
namespace Document

open Database (Value Encoding)

variable (e : Encoding)

/-! ## Documents in values -/

/-- Letters as a text. -/
def textValue (letters : Letters) : Value := Texts.ofBytes e (Format.ofChars letters)

/-- Letters as bytes. -/
def bytesValue (letters : Letters) : Value := .blob (Format.ofChars letters)

/-- The letters of bytes. -/
def lettersOf (bytes : Bytes) : Letters := bytes.map fun b => Char.ofNat b.toNat

/-- The letters of bytes that are a document in binary form. -/
def binaryOf? : Value → Option Letters
  | .blob bytes => if isBinary (lettersOf bytes) then some (lettersOf bytes) else none
  | _ => none

/-- The document that a value which is there holds. -/
def ofPresent (v : Value) : Except SqlError Document :=
  match binaryOf? v with
  | some letters => (ofBinary? letters).elim (.error .malformedDocument) .ok
  | none =>
    match ofText (Texts.characters e v) with
    | .ok (d, _) => .ok d
    | .error _ => .error .malformedDocument

/-- The document that a value holds. Nothing holds none. -/
def ofValue (v : Value) : Except SqlError (Option Document) :=
  if v = .null then .ok none else some <$> ofPresent e v

/-! ## Values as documents -/

/-- How a number of double precision is written in a document. -/
def realLetters (x : Float) : Letters :=
  (if x < 0 then ['-'] else []) ++
    if x.isInf then RealForm.plain.digitsText ⟨['9'], 1000⟩ else RealForm.plain.text x

/-- A value as a part of a document. Bytes have to be a document. -/
def asPart (v : Value) : Except SqlError Document :=
  match v with
  | .null => .ok null
  | .integer n => .ok (number false false (Numeral.signedDecimal n).toList)
  | .real bits =>
    let x := Float.ofBits bits
    .ok (if x.isInf then infinity (x < 0) else number true false (realLetters x))
  | .text _ => .ok (text ⟨.raw, Texts.characters e v⟩)
  | .blob _ =>
    match binaryOf? v with
    | some letters => (ofBinary? letters).elim (.error .malformedDocument) .ok
    | none => .error .bytesInDocument

/-- A value as it is written as a part of a document. -/
def partText (v : Value) : Except SqlError Letters :=
  match v with
  | .real bits => .ok (realLetters (Float.ofBits bits))
  | v => render <$> asPart e v

/-! ## Documents as values -/

/-- No more digits of base sixteen than these have a place in 64 bits. -/
def hexLimit : Nat := 16

/-- The value of a whole number that is written in base sixteen. -/
def hexValue (letters : Letters) : Except SqlError Value :=
  let isNegative := letters.head? = some '-'
  let digits := (letters.drop (if isNegative then 3 else 2)).dropWhile (· = '0')
  if hexLimit < digits.length then .error .malformedDocument
  else
    let n := ofBits (Lettering.code digits)
    .ok (.integer (ofBits (bitsOf (if isNegative then -n else n))))

/-- The value of a number. -/
def numberValue (isReal isExtended : Bool) (letters : Letters) : Except SqlError Value :=
  let t := NumberText.ofChars letters
  if isExtended && !isReal then hexValue letters
  else if !t.hasDigits then .error .malformedDocument
  else if !isReal && NumberText.isInt64 t.wholeValue then .ok (.integer t.wholeValue)
  else .ok (realValue t.realValue)

/-- The value of a document. Arrays and objects stay documents, as texts or in binary form. -/
def value (isBinary : Bool) : Document → Except SqlError Value
  | null => .ok .null
  | truth b => .ok (ofTruth b)
  | number isReal isExtended letters => numberValue isReal isExtended letters
  | text t => .ok (textValue e t.decoded)
  | d => .ok (if isBinary then bytesValue d.binary else textValue e d.render)

/-- A document as a text or in binary form. -/
def whole (isBinary : Bool) (d : Document) : Value :=
  if isBinary then bytesValue d.binary else textValue e d.render

end Document
end Sql
end FlowAtlas
