import FlowAtlas.Sql.Document.Function
import FlowAtlas.Sql.Traversal

/-!
# Documents in documents

A text that is put into a document is a text in it, unless a function of documents made it: then it
is a part of the document. `Expr.asPart` changes a formula so that it has such a part in binary form,
by which it is known.
-/

set_option autoImplicit false

namespace FlowAtlas
namespace Sql

namespace Document

/-- Functions whose value is a document. -/
def makers : List String :=
  ["json", "json_array", "json_insert", "json_object", "json_patch", "json_quote", "json_remove",
    "json_replace", "json_set"]

/-- Functions that make a document of the rows of a group. -/
def gatherers : List String :=
  ["json_group_array", "json_group_object", "jsonb_group_array", "jsonb_group_object"]

/-- Functions that have one of their arguments as their value. -/
def choosers : List String := ["coalesce", "ifnull", "likelihood", "likely", "max", "min", "unlikely"]

end Document

/-- A formula whose document has its binary form. -/
def Expr.inBinary (e : Expr) : Expr := .call "jsonb" [e]

mutual

/-- A formula that has its value in binary form if that is a document. -/
def Expr.asPart : Expr → Expr
  | .field f => .field (f.part.elim f fun c => { f with column := some c })
  | .call "json_extract" [a, p] => .call "jsonb_extract" [a, p]
  | .call "nullif" [a, b] =>
    .call "iif" [.unary .isNull (.call "nullif" [a, b]), .null, a.asPart]
  | .call "iif" [t, a, b] => .call "iif" [t, a.asPart, b.asPart]
  | .call f args =>
    if Document.makers.contains f || f = "json_extract" then (Expr.call f args).inBinary
    else if Document.choosers.contains f then .call f (Expr.asParts args)
    else .call f args
  | .binary (.extract false) a p => (Expr.binary (.extract false) a p).inBinary
  | .total f isDistinct args order pick =>
    let e := Expr.total f isDistinct args order pick
    if Document.gatherers.contains f then e.inBinary else e
  | .windowed f args pick w =>
    let e := Expr.windowed f args pick w
    if Document.gatherers.contains f then e.inBinary else e
  | .cases operand branches otherwise =>
    .cases operand (Expr.branchesAsParts branches) (Expr.optionAsPart otherwise)
  | .collate a c => .collate a.asPart c
  | .scalar ⟨named, ⟨isDistinct, .value e asName spelling :: columns, sources, filter, groups, having,
      windows⟩, [], order, limit, offset⟩ =>
    let isSingle := groups.isEmpty && e.any Expr.isTotal
    let e := if order.isEmpty || isSingle then e.asPart else e
    .scalar ⟨named, ⟨isDistinct, .value e asName spelling :: columns, sources, filter, groups, having,
      windows⟩, [], order, limit, offset⟩
  | .unary .positive a => .unary .positive a.asPart
  | e => e

/-- Formulas that have their values in binary form if those are documents. -/
def Expr.asParts : List Expr → List Expr
  | [] => []
  | e :: es => e.asPart :: Expr.asParts es

/-- Branches that have their values in binary form if those are documents. -/
def Expr.branchesAsParts : List (Expr × Expr) → List (Expr × Expr)
  | [] => []
  | (c, e) :: rest => (c, e.asPart) :: Expr.branchesAsParts rest

/-- A formula, if there is one, that has its value in binary form if that is a document. -/
def Expr.optionAsPart : Option Expr → Option Expr
  | none => none
  | some e => some e.asPart

end

namespace Document

/-- Each second formula as a part, from the first or the second one on. -/
def secondAsParts (isFirst : Bool) : List Expr → List Expr
  | [] => []
  | e :: es => (if isFirst then e.asPart else e) :: secondAsParts (!isFirst) es

/-- The arguments of a function, where those that it puts into a document are parts. -/
def argumentsOf (f : String) (args : List Expr) : List Expr :=
  match plainName f with
  | "json_array" | "json_quote" | "json_group_array" | "subtype" => Expr.asParts args
  | "json_object" | "json_group_object" => secondAsParts false args
  | "json_insert" | "json_replace" | "json_set" => secondAsParts true args
  | _ => args

end Document
end Sql
end FlowAtlas
