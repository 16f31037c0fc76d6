import Mathlib.Data.List.Nodup
import FlowAtlas.Graph.Basic
import FlowAtlas.Proofs.Text.Numeral

/-!
# What messages about a graph tell

Messages name nodes by the texts of their keys.  The three sorts of keys share one space of texts,
and a key stands in a message with other words behind it.  So two things could go wrong: two keys
might be written alike, and one key might be written as another is with the beginning of what
follows it.  `texts_tell_keys` says that neither happens.

* `Text.Delimited` says that a way of writing values leaves no doubt about the value or about where
  its text ends, given what may come behind it.  What is written in one word ends at the next
  character that belongs to no word (`Text.delimited_of_isWord`); numbers, units and the names of
  kinds are such words.
* A key has ended when what follows neither goes on with a word nor begins like the mark of
  callbacks (`NodeKey.EndsKey`, `NodeKey.delimited_text`).  The messages keep to that, also where
  they put the kind of a node in parentheses behind its key (`GraphError.endsKey_kind`).
-/

set_option autoImplicit false

namespace FlowAtlas

/-! ## Words -/

namespace Text

variable {α : Type} {write : α → String} {MayFollow : List Char → Prop} {a b : α} {c : Char}
  {word words rest s t : List Char}

/-- The characters of numbers and names. -/
def isWordChar (c : Char) : Bool := c.isAlphanum || c == '_'

/-- The text does not go on with a word. -/
def EndsWord (rest : List Char) : Prop := ∀ c ∈ rest.head?, isWordChar c = false

theorem endsWord_nil : EndsWord [] := by
  simp [EndsWord]

theorem endsWord_cons (hc : isWordChar c = false) : EndsWord (c :: rest) := by
  simpa [EndsWord] using hc

/-- A word reaches up to where no word goes on. -/
theorem takeWhile_append_of_endsWord (hword : ∀ c ∈ word, isWordChar c = true)
    (hrest : EndsWord rest) : (word ++ rest).takeWhile isWordChar = word := by
  rw [List.takeWhile_append_of_pos hword]
  cases rest with
  | nil => simp
  | cons c rest => simp [hrest c rfl]

/-! ### Values in a text -/

/-- From a text that begins with what is written for a value, both the value and the rest of the
text are known, as long as the rest is one that may follow a value. -/
def Delimited (write : α → String) (MayFollow : List Char → Prop) : Prop :=
  ∀ ⦃a b : α⦄ ⦃s t : List Char⦄, MayFollow s → MayFollow t →
    (write a).toList ++ s = (write b).toList ++ t → a = b ∧ s = t

theorem Delimited.inj (h : Delimited write MayFollow) (hnil : MayFollow [])
    (heq : (write a).toList = (write b).toList) : a = b :=
  (h hnil hnil (congrArg (· ++ []) heq)).1

/-- In front of words that may follow it, a value is told, together with what comes behind them. -/
theorem Delimited.split (h : Delimited write MayFollow)
    (hwords : ∀ rest, MayFollow (words ++ rest))
    (heq : (write a).toList ++ (words ++ s) = (write b).toList ++ (words ++ t)) :
    a = b ∧ s = t := by
  obtain ⟨hab, hst⟩ := h (hwords s) (hwords t) heq
  exact ⟨hab, List.append_cancel_left hst⟩

theorem Delimited.splitWord (h : Delimited write EndsWord) (hc : isWordChar c = false)
    (heq : (write a).toList ++ (c :: words ++ s) = (write b).toList ++ (c :: words ++ t)) :
    a = b ∧ s = t :=
  h.split (fun _ => endsWord_cons hc) heq

/-- What is written in one word ends with the word. -/
theorem delimited_of_isWord (hinj : Function.Injective write)
    (hword : ∀ a, ∀ c ∈ (write a).toList, isWordChar c = true) : Delimited write EndsWord := by
  intro a b s t hs ht h
  have hab : (write a).toList = (write b).toList := by
    rw [← takeWhile_append_of_endsWord (hword a) hs, h, takeWhile_append_of_endsWord (hword b) ht]
  rw [hab] at h
  exact ⟨hinj (String.toList_inj.1 hab), List.append_cancel_left h⟩

/-- Finitely many values with different names, each of which is a word. -/
theorem delimited_of_nodup {l : List α} (hmem : ∀ a, a ∈ l) (hnodup : (l.map write).Nodup)
    (hword : (l.all fun a => (write a).toList.all isWordChar) = true) : Delimited write EndsWord :=
  delimited_of_isWord (fun a b => List.inj_on_of_nodup_map hnodup (hmem a) (hmem b)) fun a =>
    List.all_eq_true.1 (List.all_eq_true.1 hword a (hmem a))

end Text

open Text

/-! ### Numbers -/

namespace Numeral

variable {base n : Nat} {c : Char}

theorem isWordChar_of_mem_toDigits (hbase : 1 < base) (hle : base ≤ 16)
    (hc : c ∈ Nat.toDigits base n) : isWordChar c = true := by
  have hdigits : ∀ d : Fin 16, isWordChar d.val.digitChar = true := by decide
  obtain ⟨d, hd, rfl⟩ := exists_digitChar_of_mem hbase hc
  exact hdigits ⟨d, Nat.lt_of_lt_of_le hd hle⟩

theorem decimal_injective : Function.Injective decimal := by
  intro m n h
  have hread := congrArg (fun s => ofDecimal? s.toList) h
  simpa [ofDecimal?_toDigits] using hread

theorem hex_injective : Function.Injective hex := by
  intro m n h
  have hread := congrArg (fun s => ofHex? (s.toList.drop 2)) h
  simpa [ofHex?_toDigits] using hread

theorem isWordChar_of_mem_decimal (hc : c ∈ (decimal n).toList) : isWordChar c = true := by
  rw [toList_decimal] at hc
  exact isWordChar_of_mem_toDigits (by omega) (by omega) hc

theorem delimited_decimal : Delimited decimal EndsWord :=
  delimited_of_isWord decimal_injective fun _ _ => isWordChar_of_mem_decimal

theorem delimited_hex : Delimited hex EndsWord := by
  refine delimited_of_isWord hex_injective fun n => ?_
  have hzero : isWordChar '0' = true := by decide
  have hx : isWordChar 'x' = true := by decide
  simp only [toList_hex, List.forall_mem_cons]
  exact ⟨hzero, hx, fun c => isWordChar_of_mem_toDigits (by omega) (by omega)⟩

end Numeral

/-! ### Units and kinds -/

theorem UnitId.delimited_text : Delimited UnitId.text EndsWord := by
  refine delimited_of_isWord ?_ fun u => ?_
  · rintro ⟨m⟩ ⟨n⟩ h
    simpa [text, Numeral.decimal_injective.eq_iff] using h
  · have hu : isWordChar 'u' = true := by decide
    rw [text, String.toList_append]
    exact List.forall_mem_cons.2 ⟨hu, fun _ => Numeral.isWordChar_of_mem_decimal⟩

theorem NodeKind.mem_all (k : NodeKind) : k ∈ all := by
  cases k <;> decide

theorem NodeKind.delimited_text : Delimited NodeKind.text EndsWord :=
  delimited_of_nodup mem_all (by decide) (by decide)

theorem EdgeKind.mem_all (k : EdgeKind) : k ∈ all := by
  cases k <;> decide

theorem EdgeKind.delimited_text : Delimited EdgeKind.text EndsWord :=
  delimited_of_nodup mem_all (by decide) (by decide)

/-! ## Keys -/

namespace NodeKey

variable {unit : UnitId} {tag signature : UInt64} {version : UInt8} {kind : NodeKind}
  {callback callback' : Bool} {c d : Char} {rest s t : List Char}

/-- What sets the text of a boundary node for callbacks apart from that of the other one. -/
def callbackMark (callback : Bool) : List Char := if callback then " (callback)".toList else []

/-- What may come behind a key: no more of a word, and no mark of callbacks. -/
structure EndsKey (rest : List Char) : Prop where
  endsWord : EndsWord rest
  not_mark : ¬callbackMark true <+: rest

theorem endsKey_nil : EndsKey [] :=
  ⟨endsWord_nil, by decide⟩

/-- Two characters are enough to tell the mark of callbacks from other words. -/
theorem endsKey_cons_cons (hc : isWordChar c = false) (hmark : [c, d] ≠ [' ', '(']) :
    EndsKey (c :: d :: rest) := by
  refine ⟨endsWord_cons hc, fun h => hmark ?_⟩
  obtain ⟨more, hmore⟩ := h
  exact (congrArg (List.take 2) hmore).symm

theorem toList_block : (block unit tag version).text.toList =
    unit.text.toList ++ ("+".toList ++ ((Numeral.hex tag.toNat).toList ++
      (".v".toList ++ (Numeral.decimal version.toNat).toList))) := by
  simp only [text, String.toList_append, List.append_assoc]

theorem toList_boundary : (boundary signature kind callback).text.toList =
    kind.text.toList ++ ("(".toList ++ ((Numeral.hex signature.toNat).toList ++
      (")".toList ++ callbackMark callback))) := by
  cases callback <;> simp [text, callbackMark]

/-! ### Keys of different sorts -/

theorem block_append_ne_boundary : (block unit tag version).text.toList ++ s ≠
    (boundary signature kind callback).text.toList ++ t := by
  rw [toList_block, toList_boundary, UnitId.text]
  cases kind <;> simp [NodeKind.text]

theorem block_append_ne_processRoot :
    (block unit tag version).text.toList ++ s ≠ processRoot.text.toList ++ t := by
  rw [toList_block, UnitId.text]
  simp [text]

/-- The root is no kind, though kinds begin as it does. -/
theorem boundary_append_ne_processRoot :
    (boundary signature kind callback).text.toList ++ s ≠ processRoot.text.toList ++ t := by
  rw [toList_boundary]
  cases kind <;> simp [text, NodeKind.text]

/-! ### Keys of one sort -/

theorem callbackMark_append_inj (hs : EndsKey s) (ht : EndsKey t)
    (h : callbackMark callback ++ s = callbackMark callback' ++ t) :
    callback = callback' ∧ s = t := by
  cases callback with
  | false =>
    cases callback' with
    | false => exact ⟨rfl, h⟩
    | true => exact absurd ⟨t, h.symm⟩ hs.not_mark
  | true =>
    cases callback' with
    | false => exact absurd ⟨s, h⟩ ht.not_mark
    | true => exact ⟨rfl, List.append_cancel_left h⟩

/-- **A key is told by its text**, also where more text follows. -/
theorem delimited_text : Delimited text EndsKey := by
  intro a b s t hs ht h
  -- keys of one sort come apart word by word, and the sorts are told apart by how they begin
  cases a with
  | block unit tag version =>
    cases b with
    | block unit' tag' version' =>
      simp only [toList_block, List.append_assoc] at h
      obtain ⟨hunit, htail⟩ := UnitId.delimited_text.splitWord (by decide) h
      obtain ⟨htag, htail⟩ := Numeral.delimited_hex.splitWord (by decide) htail
      obtain ⟨hversion, hst⟩ := Numeral.delimited_decimal hs.endsWord ht.endsWord htail
      rw [hunit, UInt64.toNat_inj.1 htag, UInt8.toNat_inj.1 hversion]
      exact ⟨rfl, hst⟩
    | boundary signature kind callback => exact absurd h block_append_ne_boundary
    | processRoot => exact absurd h block_append_ne_processRoot
  | boundary signature kind callback =>
    cases b with
    | block unit tag version => exact absurd h.symm block_append_ne_boundary
    | boundary signature' kind' callback' =>
      simp only [toList_boundary, List.append_assoc] at h
      obtain ⟨hkind, htail⟩ := NodeKind.delimited_text.splitWord (by decide) h
      obtain ⟨hsignature, htail⟩ := Numeral.delimited_hex.splitWord (by decide) htail
      obtain ⟨hcallback, hst⟩ := callbackMark_append_inj hs ht htail
      rw [hkind, UInt64.toNat_inj.1 hsignature, hcallback]
      exact ⟨rfl, hst⟩
    | processRoot => exact absurd h boundary_append_ne_processRoot
  | processRoot =>
    cases b with
    | block unit tag version => exact absurd h.symm block_append_ne_processRoot
    | boundary signature kind callback => exact absurd h.symm boundary_append_ne_processRoot
    | processRoot => exact ⟨rfl, List.append_cancel_left h⟩

/-- In front of words that end a key, a key is told, together with what comes behind them. -/
theorem split_text {a b : NodeKey} (hc : isWordChar c = false) (hmark : [c, d] ≠ [' ', '('])
    (h : a.text.toList ++ (c :: d :: rest ++ s) = b.text.toList ++ (c :: d :: rest ++ t)) :
    a = b ∧ s = t :=
  delimited_text.split (fun _ => endsKey_cons_cons hc hmark) h

end NodeKey

/-!
## Messages

The characters of each message are spelled out once, in the order in which they are told apart.  An
equation for `message` would be looked for by unfolding the appends, which takes long, so that the
definition is opened by `delta`.
-/

namespace AdjacencyError

variable {edge : EdgeId} {ordinal : UInt8} {existing requested : EdgeKind}

@[simp] theorem toList_callContinuationTaken : (callContinuationTaken edge).message.toList =
    "node already holds call-continuation edge EdgeId(".toList ++
      ((Numeral.decimal edge.index).toList ++ (")".toList ++ [])) := by
  delta message
  simp only [String.toList_append, List.append_assoc, List.append_nil]

@[simp] theorem toList_mixedOrdinal : (mixedOrdinal ordinal existing requested).message.toList =
    "ordinal ".toList ++ ((Numeral.decimal ordinal.toNat).toList ++ (" holds ".toList ++
      (existing.text.toList ++ (" edges; cannot add a ".toList ++ (requested.text.toList ++
        (" edge".toList ++ [])))))) := by
  delta message
  simp only [String.toList_append, List.append_assoc, List.append_nil]

/-- A refusal is told by its message. -/
theorem message_injective : Function.Injective message := by
  intro a b h
  rw [← String.toList_inj] at h
  cases a with
  | callContinuationTaken edge =>
    cases b with
    | callContinuationTaken edge' =>
      rw [toList_callContinuationTaken, toList_callContinuationTaken] at h
      obtain ⟨hedge, -⟩ :=
        Numeral.delimited_decimal.splitWord (by decide) (List.append_cancel_left h)
      exact congrArg callContinuationTaken (congrArg EdgeId.mk hedge)
    | mixedOrdinal ordinal existing requested => simp at h
  | mixedOrdinal ordinal existing requested =>
    cases b with
    | callContinuationTaken edge => simp at h
    | mixedOrdinal ordinal' existing' requested' =>
      rw [toList_mixedOrdinal, toList_mixedOrdinal] at h
      obtain ⟨hordinal, htail⟩ :=
        Numeral.delimited_decimal.splitWord (by decide) (List.append_cancel_left h)
      obtain ⟨hexisting, htail⟩ := EdgeKind.delimited_text.splitWord (by decide) htail
      obtain ⟨hrequested, -⟩ := EdgeKind.delimited_text.splitWord (by decide) htail
      rw [UInt8.toNat_inj.1 hordinal, hexisting, hrequested]

end AdjacencyError

namespace GraphError

variable {source target node node' : NodeKey} {existing requested : EdgeKind}
  {existingOrdinal requestedOrdinal : UInt8} {kind kind' : NodeKind} {count count' : Nat}
  {cause : AdjacencyError} {rest words : List Char}

@[simp] theorem toList_multipleEdge :
    (multipleEdge source target existing existingOrdinal requested
      requestedOrdinal).message.toList =
      "multiple edges ".toList ++ (source.text.toList ++ (" -> ".toList ++ (target.text.toList ++
        (": existing ".toList ++ (existing.text.toList ++ ("#".toList ++
          ((Numeral.decimal existingOrdinal.toNat).toList ++ (", new ".toList ++
            (requested.text.toList ++ ("#".toList ++
              (Numeral.decimal requestedOrdinal.toNat).toList)))))))))) := by
  delta message
  simp only [String.toList_append, List.append_assoc]

@[simp] theorem toList_illegalEdgeState : (illegalEdgeState node cause).message.toList =
    "illegal edge state on ".toList ++ (node.text.toList ++ (": ".toList ++
      cause.message.toList)) := by
  delta message
  simp only [String.toList_append, List.append_assoc]

/-- How a node breaks the rule on entries and exits, from its key on. -/
def violationText (node : NodeKey) (kind : NodeKind) (count : Nat) (words : List Char) :
    List Char :=
  node.text.toList ++ (" (".toList ++ (kind.text.toList ++ (") has ".toList ++
    ((Numeral.decimal count).toList ++ words))))

@[simp] theorem toList_entryHasIncoming : (entryHasIncoming node kind count).message.toList =
    "entry node ".toList ++ violationText node kind count " incoming edge(s)".toList := by
  delta message
  simp only [violationText, String.toList_append, List.append_assoc]

@[simp] theorem toList_exitHasOutgoing : (exitHasOutgoing node kind count).message.toList =
    "exit node ".toList ++ violationText node kind count " outgoing edge(s)".toList := by
  delta message
  simp only [violationText, String.toList_append, List.append_assoc]

/-- A kind in parentheses is no mark of callbacks. -/
theorem endsKey_kind : NodeKey.EndsKey (" (".toList ++ (kind.text.toList ++ rest)) := by
  refine ⟨endsWord_cons (by decide), ?_⟩
  cases kind <;> simp [NodeKey.callbackMark, NodeKind.text]

theorem violationText_inj (hwords : EndsWord words)
    (h : violationText node kind count words = violationText node' kind' count' words) :
    node = node' ∧ kind = kind' ∧ count = count' := by
  obtain ⟨hnode, htail⟩ := NodeKey.delimited_text endsKey_kind endsKey_kind h
  obtain ⟨hkind, htail⟩ :=
    NodeKind.delimited_text.splitWord (by decide) (List.append_cancel_left htail)
  exact ⟨hnode, hkind, (Numeral.delimited_decimal hwords hwords htail).1⟩

/-- An inconsistency is told by its message. -/
theorem message_injective : Function.Injective message := by
  intro e e' h
  rw [← String.toList_inj] at h
  -- messages of different sorts differ within their first two letters
  cases e with
  | multipleEdge source target existing existingOrdinal requested requestedOrdinal =>
    cases e' with
    | multipleEdge source' target' existing' existingOrdinal' requested' requestedOrdinal' =>
      rw [toList_multipleEdge, toList_multipleEdge] at h
      obtain ⟨hsource, htail⟩ :=
        NodeKey.split_text (by decide) (by decide) (List.append_cancel_left h)
      obtain ⟨htarget, htail⟩ := NodeKey.split_text (by decide) (by decide) htail
      obtain ⟨hexisting, htail⟩ := EdgeKind.delimited_text.splitWord (by decide) htail
      obtain ⟨hordinal, htail⟩ := Numeral.delimited_decimal.splitWord (by decide) htail
      obtain ⟨hrequested, htail⟩ := EdgeKind.delimited_text.splitWord (by decide) htail
      have hordinal' := Numeral.delimited_decimal.inj endsWord_nil htail
      rw [hsource, htarget, hexisting, UInt8.toNat_inj.1 hordinal, hrequested,
        UInt8.toNat_inj.1 hordinal']
    | _ => simp at h
  | illegalEdgeState node cause =>
    cases e' with
    | illegalEdgeState node' cause' =>
      rw [toList_illegalEdgeState, toList_illegalEdgeState] at h
      obtain ⟨hnode, htail⟩ :=
        NodeKey.split_text (by decide) (by decide) (List.append_cancel_left h)
      rw [hnode, AdjacencyError.message_injective (String.toList_inj.1 htail)]
    | _ => simp at h
  | entryHasIncoming node kind count =>
    cases e' with
    | entryHasIncoming node' kind' count' =>
      rw [toList_entryHasIncoming, toList_entryHasIncoming] at h
      obtain ⟨hnode, hkind, hcount⟩ :=
        violationText_inj (endsWord_cons (by decide)) (List.append_cancel_left h)
      rw [hnode, hkind, hcount]
    | _ => simp at h
  | exitHasOutgoing node kind count =>
    cases e' with
    | exitHasOutgoing node' kind' count' =>
      rw [toList_exitHasOutgoing, toList_exitHasOutgoing] at h
      obtain ⟨hnode, hkind, hcount⟩ :=
        violationText_inj (endsWord_cons (by decide)) (List.append_cancel_left h)
      rw [hnode, hkind, hcount]
    | _ => simp at h

end GraphError

/-- **Texts tell keys.**  Keys that are written alike are equal, and messages that are worded alike
are about the same inconsistency, with the same keys in it. -/
theorem texts_tell_keys :
    (∀ a b : NodeKey, a.text = b.text ↔ a = b) ∧
      ∀ e e' : GraphError, e.message = e'.message ↔ e = e' := by
  refine ⟨fun a b => ⟨fun h => ?_, fun h => congrArg NodeKey.text h⟩, fun e e' => ?_⟩
  · exact NodeKey.delimited_text.inj NodeKey.endsKey_nil (congrArg String.toList h)
  · exact GraphError.message_injective.eq_iff

example :
    (GraphError.entryHasIncoming (.boundary 0x77 .clusterEntry true) .clusterEntry 1).message =
      "entry node cluster_entry(0x77) (callback) (cluster_entry) has 1 incoming edge(s)" := by
  decide +kernel

end FlowAtlas
