import FlowAtlas.Json.Text
import FlowAtlas.Json.Token
import FlowAtlas.Proofs.Text.Numeral
import Mathlib.Data.List.Basic
import Mathlib.Data.List.TakeWhile

/-!
# Documents are read as they were written

A document is read back from its text, whether it is written without blanks or over many lines
(`Json.ofText?_compact`, `ofText?_pretty`).  Both texts are read as the same tokens
(`Scanner.read_compact`, `read_pretty`), and from its tokens a document is put together again
(`Json.ofTokens?_tokens`).
-/

set_option autoImplicit false

namespace FlowAtlas

/-!
## Tokens are read as they were written

What stands for a token in a text is read as that token, whatever tokens come before it
(`Scanner.read_mark`, `read_word`).  Marks and strings end by themselves.  A word goes on as long as
there are characters of words, so the next character has to be another one.
-/

/-! ### Numbers -/

namespace Numeral

/-- A number is written without needless zeros in front. -/
theorem head?_toDigits_ne_zero {n : Nat} (hn : 0 < n) : (Nat.toDigits 10 n).head? ≠ some '0' := by
  have hdigits : ∀ d : Fin 10, 0 < d.val → d.val.digitChar ≠ '0' := by decide
  induction n using Nat.base_induction 10 (by omega) with
  | single d hd =>
    rw [Nat.toDigits_of_lt_base hd]
    exact fun h => hdigits ⟨d, hd⟩ hn (Option.some.inj h)
  | digit m d hd hm ih =>
    rw [← Nat.toDigits_append_toDigits (by omega) hm hd,
      List.head?_append_of_ne_nil _ Nat.toDigits_ne_nil]
    exact ih hm

theorem isDigit_of_mem_toDigits {n : Nat} {c : Char} (hc : c ∈ Nat.toDigits 10 n) :
    c.isDigit = true :=
  Nat.isDigit_of_mem_toDigits (by omega) (by omega) hc

end Numeral

namespace Token

variable {c : Char} {lexeme : List Char}

/-- Whether a token is written in the characters of words. -/
def isWord : Token → Bool
  | null | bool _ | integer _ | real _ => true
  | _ => false

/-- The word writes the token. -/
structure Writes (word : List Char) (t : Token) : Prop where
  isWordChar : ∀ c ∈ word, isWordChar c = true
  ofWord?_eq : ofWord? word = some t

theorem isWordChar_of_isDigit (hc : c.isDigit = true) : isWordChar c = true := by
  rw [isWordChar, Char.isAlphanum, hc]
  simp

theorem whole?_toDigits (n : Nat) : whole? (Nat.toDigits 10 n) = some (Nat.toDigits 10 n, []) := by
  have hdigit : ∀ c ∈ Nat.toDigits 10 n, c.isDigit = true := fun c =>
    Numeral.isDigit_of_mem_toDigits
  have hdigits : digits? (Nat.toDigits 10 n) = some (Nat.toDigits 10 n, []) := by
    rw [digits?, List.takeWhile_eq_self_iff.2 hdigit, List.dropWhile_eq_nil_iff.2 hdigit]
    split
    · rename_i hnil
      exact absurd hnil Nat.toDigits_ne_nil
    · rfl
  rw [whole?, hdigits]
  refine if_neg ?_
  rintro ⟨hhead, hne⟩
  rcases Nat.eq_zero_or_pos n with rfl | hn
  · exact hne rfl
  · exact Numeral.head?_toDigits_ne_zero hn hhead

/-- A word that does not begin with a letter writes a number if anything. -/
theorem ofWord?_of_head {word : List Char} (h : c = '-' ∨ c.isDigit = true) :
    ofWord? (c :: word) = ofNumber? (c :: word) := by
  have hne : c ≠ 'n' ∧ c ≠ 't' ∧ c ≠ 'f' := by
    refine ⟨?_, ?_, ?_⟩ <;> rintro rfl <;> exact absurd h (by decide)
  rw [ofWord?, if_neg, if_neg, if_neg]
  · exact fun h => hne.2.2 (List.cons.inj h).1
  · exact fun h => hne.2.1 (List.cons.inj h).1
  · exact fun h => hne.1 (List.cons.inj h).1

/-- The text of a whole number is a word that writes it. -/
theorem writes_integerText (n : Int) : Writes (integerText n) (integer n) := by
  have hwhole := whole?_toDigits n.natAbs
  have hvalue := Numeral.ofDecimal?_toDigits n.natAbs
  have hdigit : ∀ c ∈ Nat.toDigits 10 n.natAbs, c.isDigit = true := fun c =>
    Numeral.isDigit_of_mem_toDigits
  rw [integerText, Numeral.toList_decimal]
  split
  · rename_i hneg
    refine ⟨List.forall_mem_cons.2 ⟨rfl, fun c hc => isWordChar_of_isDigit (hdigit c hc)⟩, ?_⟩
    rw [List.singleton_append, ofWord?_of_head (.inl rfl), ofNumber?]
    simp only [List.head?_cons, beq_self_eq_true, if_true, List.drop_one, List.tail_cons, hwhole,
      hvalue, Option.bind_eq_bind, Option.bind_some, List.isEmpty_nil]
    rw [if_neg (by omega)]
    exact congrArg (fun n => some (integer n)) (by omega)
  · rename_i hneg
    refine ⟨fun c hc => isWordChar_of_isDigit (hdigit c hc), ?_⟩
    obtain ⟨d, ds, hds⟩ :=
      List.exists_cons_of_ne_nil (Nat.toDigits_ne_nil (b := 10) (n := n.natAbs))
    have hd : d.isDigit = true := hdigit d (hds ▸ List.mem_cons_self)
    have hsign : (some d == some '-') = false := by
      refine beq_eq_false_iff_ne.2 ?_
      rintro ⟨⟩
      cases hd
    rw [List.nil_append, hds, ofWord?_of_head (.inr hd), ofNumber?, ← hds]
    simp only [hds ▸ List.head?_cons, hsign, Bool.false_eq_true, if_false, hwhole, hvalue,
      Option.bind_eq_bind, Option.bind_some, List.isEmpty_nil, if_true]
    exact congrArg (fun n => some (integer n)) (by omega)

/-- What is kept of the token is written by its text. -/
def WellWritten : Token → Prop
  | real lexeme => Writes lexeme (real lexeme)
  | _ => True

theorem writes_text {t : Token} (h : t.WellWritten) (hword : t.isWord = true) :
    Writes t.text t := by
  cases t with
  | null => exact ⟨List.all_eq_true.1 rfl, rfl⟩
  | bool b => cases b <;> exact ⟨List.all_eq_true.1 rfl, rfl⟩
  | integer n => exact writes_integerText n
  | real lexeme => exact h
  | openArray | closeArray | openObject | closeObject | comma | colon | string _ => cases hword

end Token

/-! ### Strings -/

namespace JsonText

/-- The code by which a character of a string is read. -/
def code : Option Char → Nat
  | some c => c.toNat
  | none => 0xd800

theorem isLow_code (x : Option Char) : isLow (code x) = false := by
  cases x with
  | none => rfl
  | some c =>
    have hvalid : c.toNat < 0xd800 ∨ 0xdfff < c.toNat ∧ c.toNat < 0x110000 := c.valid
    rw [code, isLow, Bool.and_eq_false_iff, decide_eq_false_iff_not, decide_eq_false_iff_not]
    omega

theorem ofCode_code (x : Option Char) : ofCode (code x) = x := by
  cases x with
  | none => rfl
  | some c =>
    have hvalid : c.toNat < 0xd800 ∨ 0xdfff < c.toNat ∧ c.toNat < 0x110000 := c.valid
    have hhigh : isHigh c.toNat = false := by
      rw [isHigh, Bool.and_eq_false_iff, decide_eq_false_iff_not, decide_eq_false_iff_not]
      omega
    have hlow := isLow_code (some c)
    rw [code] at hlow ⊢
    rw [ofCode, hhigh, hlow, Char.ofNat_toNat]
    rfl

/-- No two characters of a string are read as one. -/
theorem ofCodes_map_code (t : JsonText) : ofCodes (t.map code) = t := by
  induction t with
  | nil => rfl
  | cons x t ih =>
    cases t with
    | nil => exact congrArg (· :: []) (ofCode_code x)
    | cons y t =>
      rw [List.map_cons] at ih
      rw [List.map_cons, List.map_cons, ofCodes, isLow_code, Bool.and_false, ofCode_code, ih]
      rfl

end JsonText

/-! ### Scanning -/

namespace Scanner

open JsonText (code escape hexEscape quoted)

variable {s s' : Scanner} {held : List Token} {codes : List Nat} {c : Char} {cs : List Char}
  {t : Token} {word : List Char}

/-- The tokens of what was scanned and what is left of the text. -/
def read (s : Scanner) (cs : List Char) : Option (List Token) := cs.foldlM step s >>= finish

theorem read_cons (h : s.step c = some s') : s.read (c :: cs) = s'.read cs := by
  rw [read, List.foldlM_cons, h]
  rfl

theorem read_hexEscape {n : Nat} (hn : n < 0x10000) :
    read ⟨held, .string codes⟩ (hexEscape n ++ cs) = read ⟨held, .string (n :: codes)⟩ cs := by
  have hdigit : ∀ m, Numeral.hexDigit? (Nat.digitChar (m % 16)) = some (m % 16) := fun m =>
    Numeral.hexDigit?_digitChar (Nat.mod_lt m (by omega))
  have hstep : ∀ value left m, step ⟨held, .digits codes value (left + 1)⟩
      (Nat.digitChar (m % 16)) = some ⟨held, .digits codes (value * 16 + m % 16) left⟩ := by
    intro value left m
    rw [step]
    dsimp only
    rw [hdigit]
    rfl
  have hlast : ∀ value m, step ⟨held, .digits codes value 0⟩ (Nat.digitChar (m % 16)) =
      some ⟨held, .string ((value * 16 + m % 16) :: codes)⟩ := by
    intro value m
    rw [step]
    dsimp only
    rw [hdigit]
    rfl
  have hvalue : (((0 * 16 + n / 0x1000 % 16) * 16 + n / 0x100 % 16) * 16 + n / 0x10 % 16) * 16 +
      n % 16 = n := by omega
  have hslash : step ⟨held, .string codes⟩ '\\' = some ⟨held, .escape codes⟩ := rfl
  have hu : step ⟨held, .escape codes⟩ 'u' = some ⟨held, .digits codes 0 3⟩ := rfl
  simp only [hexEscape, List.cons_append, List.nil_append]
  rw [read_cons hslash, read_cons hu, read_cons (hstep _ _ _), read_cons (hstep _ _ _),
    read_cons (hstep _ _ _), read_cons (hlast _ _), hvalue]

/-- A character of a string is read by its code. -/
theorem read_escape (x : Option Char) :
    read ⟨held, .string codes⟩ (escape x ++ cs) = read ⟨held, .string (code x :: codes)⟩ cs := by
  have hslash : step ⟨held, .string codes⟩ '\\' = some ⟨held, .escape codes⟩ := rfl
  have hletter : ∀ l n, l ≠ 'u' → JsonText.escaped? l = some n →
      read ⟨held, .string codes⟩ (['\\', l] ++ cs) = read ⟨held, .string (n :: codes)⟩ cs := by
    intro l n hu hl
    have hstep : step ⟨held, .escape codes⟩ l = some ⟨held, .string (n :: codes)⟩ := by
      rw [step]
      dsimp only
      rw [if_neg hu, hl]
      rfl
    rw [List.cons_append, read_cons hslash, List.singleton_append, read_cons hstep]
  fun_cases JsonText.escape x
  case case1 => exact read_hexEscape (by decide)
  case case2 => exact hletter '"' 0x22 (by decide) rfl
  case case3 => exact hletter '\\' 0x5c (by decide) rfl
  case case4 => exact hletter 'b' 0x08 (by decide) rfl
  case case5 => exact hletter 'f' 0x0c (by decide) rfl
  case case6 => exact hletter 'n' 0x0a (by decide) rfl
  case case7 => exact hletter 'r' 0x0d (by decide) rfl
  case case8 => exact hletter 't' 0x09 (by decide) rfl
  case case9 c _ _ _ _ _ _ _ hc =>
    have hlt : c.toNat < 0x20 := hc
    exact read_hexEscape (by omega)
  case case10 c hquote hback _ _ _ _ _ hc =>
    have hstep : step ⟨held, .string codes⟩ c = some ⟨held, .string (c.toNat :: codes)⟩ := by
      rw [step]
      dsimp only
      rw [if_neg hquote, if_neg hback, if_neg hc]
    exact read_cons hstep

theorem read_flatMap_escape (t : JsonText) : read ⟨held, .string codes⟩ (t.flatMap escape ++ cs) =
    read ⟨held, .string ((t.map code).reverse ++ codes)⟩ cs := by
  induction t generalizing codes with
  | nil => rfl
  | cons x t ih =>
    rw [List.flatMap_cons, List.append_assoc, read_escape, ih, List.map_cons, List.reverse_cons,
      List.append_assoc, List.singleton_append]

/-- A string between quotes is read as the string. -/
theorem read_quoted (t : JsonText) :
    read ⟨held, .between⟩ (quoted t ++ cs) = read ⟨.string t :: held, .between⟩ cs := by
  have hopen : step ⟨held, .between⟩ '"' = some ⟨held, .string []⟩ := rfl
  have hclose : step ⟨held, .string ((t.map code).reverse ++ [])⟩ '"' =
      some ⟨.string t :: held, .between⟩ := by
    rw [step, List.append_nil]
    dsimp only
    rw [if_pos rfl, List.reverse_reverse, JsonText.ofCodes_map_code]
  rw [quoted, List.cons_append, List.cons_append, List.append_assoc, read_cons hopen,
    read_flatMap_escape, List.singleton_append, read_cons hclose]

/-! #### Marks and words -/

/-- A token that is no word ends by itself. -/
theorem read_mark (h : t.isWord = false) :
    read ⟨held, .between⟩ (t.text ++ cs) = read ⟨t :: held, .between⟩ cs := by
  cases t with
  | string t => exact read_quoted t
  | openArray | closeArray | openObject | closeObject | comma | colon => exact read_cons rfl
  | null | bool _ | integer _ | real _ => cases h

theorem start_of_isWordChar (hc : Token.isWordChar c = true) :
    start held c = some ⟨held, .word [c]⟩ := by
  have hblank : Token.isBlank c = false := by
    rw [Token.isBlank]
    simp only [Bool.or_eq_false_iff, beq_eq_false_iff_ne]
    refine ⟨⟨⟨?_, ?_⟩, ?_⟩, ?_⟩ <;> rintro rfl <;> cases hc
  have hquote : c ≠ '"' := by
    rintro rfl
    cases hc
  rw [start, hblank, if_neg Bool.false_ne_true, if_neg hquote, if_pos hc]

/-- The characters of a word are gathered. -/
theorem read_wordChars (h : ∀ c ∈ word, Token.isWordChar c = true) (gathered : List Char) :
    read ⟨held, .word gathered⟩ (word ++ cs) =
      read ⟨held, .word (word.reverse ++ gathered)⟩ cs := by
  induction word generalizing gathered with
  | nil => rfl
  | cons c word ih =>
    obtain ⟨hc, hword⟩ := List.forall_mem_cons.1 h
    have hstep : step ⟨held, .word gathered⟩ c = some ⟨held, .word (c :: gathered)⟩ := if_pos hc
    rw [List.cons_append, read_cons hstep, ih hword, List.reverse_cons, List.append_assoc,
      List.singleton_append]

/-- A word is read as what it writes once another character or the end of the text comes. -/
theorem read_gathered (h : Token.ofWord? word = some t)
    (hend : ∀ c ∈ cs.head?, Token.isWordChar c = false) :
    read ⟨held, .word word.reverse⟩ cs = read ⟨t :: held, .between⟩ cs := by
  cases cs with
  | nil =>
    rw [read, List.foldlM_nil, Option.pure_def, Option.bind_eq_bind, Option.bind_some, finish]
    dsimp only
    rw [List.reverse_reverse, h]
    rfl
  | cons c cs =>
    have hc : Token.isWordChar c = false := hend c rfl
    have hstep : step ⟨held, .word word.reverse⟩ c = step ⟨t :: held, .between⟩ c := by
      rw [step, step]
      dsimp only
      rw [hc, if_neg Bool.false_ne_true, List.reverse_reverse, h]
      rfl
    rw [read, read, List.foldlM_cons, List.foldlM_cons, hstep]

theorem read_word (h : Token.Writes word t) (hend : ∀ c ∈ cs.head?, Token.isWordChar c = false) :
    read ⟨held, .between⟩ (word ++ cs) = read ⟨t :: held, .between⟩ cs := by
  cases word with
  | nil => cases h.ofWord?_eq
  | cons c word =>
    obtain ⟨hc, hword⟩ := List.forall_mem_cons.1 h.isWordChar
    have hstart : step ⟨held, .between⟩ c = some ⟨held, .word [c]⟩ := start_of_isWordChar hc
    rw [List.cons_append, read_cons hstart, read_wordChars hword, ← List.reverse_cons,
      read_gathered h.ofWord?_eq hend]

/-- Blanks between tokens are passed over. -/
theorem read_blanks (h : ∀ c ∈ word, Token.isBlank c = true) :
    read ⟨held, .between⟩ (word ++ cs) = read ⟨held, .between⟩ cs := by
  induction word with
  | nil => rfl
  | cons c word ih =>
    obtain ⟨hc, hword⟩ := List.forall_mem_cons.1 h
    have hstep : step ⟨held, .between⟩ c = some ⟨held, .between⟩ := if_pos hc
    rw [List.cons_append, read_cons hstep, ih hword]

/-- **What stands for a token is read as the token**, if a word is followed by what is no part of
it. -/
theorem read_token (h : t.WellWritten) (hend : ∀ c ∈ cs.head?, Token.isWordChar c = false) :
    read ⟨held, .between⟩ (t.text ++ cs) = read ⟨t :: held, .between⟩ cs := by
  cases hword : t.isWord with
  | false => exact read_mark hword
  | true => exact read_word (Token.writes_text h hword) hend

end Scanner

/-! ## From tokens to documents -/

namespace JsonReader

variable {r r' : JsonReader} {t : Token} {ts : List Token} {outer : List OpenJson}

/-- The document of what was read and what is left of the tokens. -/
def read (r : JsonReader) (ts : List Token) : Option Json := ts.foldlM step r >>= finish

theorem read_cons (h : r.step t = some r') : r.read (t :: ts) = r'.read ts := by
  rw [read, List.foldlM_cons, h]
  rfl

/-- The tokens of a value do not begin with the end of an array, so a first item is read as any
other. -/
theorem read_firstItem (v : Json) : read (firstItem outer) (v.tokens ++ ts) =
    read (value (.array [] :: outer)) (v.tokens ++ ts) := by
  cases v with
  | array items => cases items <;> rfl
  | object members => cases members <;> rfl
  | null | bool _ | integer _ | real _ | string _ => rfl

mutual

/-- A value is read from its tokens. -/
theorem read_tokens : ∀ (v : Json) (outer : List OpenJson) (ts : List Token),
    read (value outer) (v.tokens ++ ts) = read (after v outer) ts
  | .null, _, _ | .bool _, _, _ | .integer _, _, _ | .real _, _, _ | .string _, _, _
  | .array [], _, _ | .object [], _, _ => rfl
  | .array (v :: items), outer, ts => by
    have hopen : step (value outer) .openArray = some (firstItem outer) := rfl
    rw [Json.tokens, List.cons_append, read_cons hopen, List.append_assoc, read_firstItem,
      read_tokens, read_itemTokens]
    rfl
  | .object ((k, v) :: members), outer, ts => by
    have hopen : step (value outer) .openObject = some (firstKey outer) := rfl
    have hkey : step (firstKey outer) (.string k) = some (colon [] k outer) := rfl
    have hcolon : step (colon [] k outer) .colon = some (value (.object [] k :: outer)) := rfl
    rw [Json.tokens, List.cons_append, List.cons_append, List.cons_append, read_cons hopen,
      read_cons hkey, read_cons hcolon, List.append_assoc, read_tokens, read_memberTokens]
    rfl

/-- The rest of an array is read behind one of its items. -/
theorem read_itemTokens : ∀ (items : List Json) (v : Json) (held : List Json)
    (outer : List OpenJson) (ts : List Token),
    read (after v (.array held :: outer)) (Json.itemTokens items ++ ts) =
      read (after (.array (held.reverse ++ v :: items)) outer) ts
  | [], v, held, outer, ts => by
    have hclose : step (after v (.array held :: outer)) .closeArray =
        some (after (.array (v :: held).reverse) outer) := rfl
    rw [Json.itemTokens, List.singleton_append, read_cons hclose, List.reverse_cons]
  | w :: items, v, held, outer, ts => by
    have hcomma : step (after v (.array held :: outer)) .comma =
        some (value (.array (v :: held) :: outer)) := rfl
    rw [Json.itemTokens, List.cons_append, read_cons hcomma, List.append_assoc, read_tokens,
      read_itemTokens, List.reverse_cons, List.append_assoc, List.singleton_append]

/-- The rest of an object is read behind one of its members. -/
theorem read_memberTokens : ∀ (members : List (JsonText × Json)) (k : JsonText) (v : Json)
    (held : List (JsonText × Json)) (outer : List OpenJson) (ts : List Token),
    read (after v (.object held k :: outer)) (Json.memberTokens members ++ ts) =
      read (after (.object (held.reverse ++ (k, v) :: members)) outer) ts
  | [], k, v, held, outer, ts => by
    have hclose : step (after v (.object held k :: outer)) .closeObject =
        some (after (.object ((k, v) :: held).reverse) outer) := rfl
    rw [Json.memberTokens, List.singleton_append, read_cons hclose, List.reverse_cons]
  | (l, w) :: members, k, v, held, outer, ts => by
    have hcomma : step (after v (.object held k :: outer)) .comma =
        some (key ((k, v) :: held) outer) := rfl
    have hkey : step (key ((k, v) :: held) outer) (.string l) =
        some (colon ((k, v) :: held) l outer) := rfl
    have hcolon : step (colon ((k, v) :: held) l outer) .colon =
        some (value (.object ((k, v) :: held) l :: outer)) := rfl
    rw [Json.memberTokens, List.cons_append, List.cons_append, List.cons_append, read_cons hcomma,
      read_cons hkey, read_cons hcolon, List.append_assoc, read_tokens, read_memberTokens,
      List.reverse_cons, List.append_assoc, List.singleton_append]

end

end JsonReader

namespace Json

/-- A document is put together from its tokens. -/
theorem ofTokens?_tokens (v : Json) : ofTokens? v.tokens = some v := by
  have hread := JsonReader.read_tokens v [] []
  rw [List.append_nil] at hread
  exact hread

/-! ## From texts to tokens -/

/-- Each number that is kept as it was written is the text of a number. -/
inductive WellWritten : Json → Prop
  | null : WellWritten null
  | bool (b : Bool) : WellWritten (bool b)
  | integer (n : Int) : WellWritten (integer n)
  | real {lexeme : List Char} (h : Token.WellWritten (.real lexeme)) : WellWritten (real lexeme)
  | string (t : JsonText) : WellWritten (string t)
  | array {items : List Json} (h : ∀ v ∈ items, WellWritten v) : WellWritten (array items)
  | object {members : List (JsonText × Json)} (h : ∀ m ∈ members, WellWritten m.2) :
    WellWritten (object members)

end Json

namespace Scanner

variable {held : List Token} {cs : List Char}

/-- No word goes on in the text. -/
def EndsWord (cs : List Char) : Prop := ∀ c ∈ cs.head?, Token.isWordChar c = false

theorem endsWord_items (items : List Json) (cs : List Char) :
    EndsWord ((Json.itemTokens items).flatMap Token.text ++ cs) := by
  cases items <;> rintro c ⟨⟩ <;> rfl

theorem endsWord_members (members : List (JsonText × Json)) (cs : List Char) :
    EndsWord ((Json.memberTokens members).flatMap Token.text ++ cs) := by
  cases members <;> rintro c ⟨⟩ <;> rfl

/-- A value of one token is read as that token. -/
theorem read_sole {v : Json} {t : Token} (hv : v.tokens = [t]) (ht : t.WellWritten)
    (hend : EndsWord cs) : read ⟨held, .between⟩ (v.tokens.flatMap Token.text ++ cs) =
      read ⟨v.tokens.reverse ++ held, .between⟩ cs := by
  rw [hv, List.flatMap_singleton, read_token ht hend]
  rfl

mutual

/-- The text of a value without blanks is read as its tokens. -/
theorem read_compact : ∀ (v : Json), v.WellWritten → ∀ (held : List Token) (cs : List Char),
    EndsWord cs → read ⟨held, .between⟩ (v.tokens.flatMap Token.text ++ cs) =
      read ⟨v.tokens.reverse ++ held, .between⟩ cs
  | .null, _, _, _, hend | .bool _, _, _, _, hend | .integer _, _, _, _, hend
  | .string _, _, _, _, hend => read_sole rfl trivial hend
  | .real _, .real h, _, _, hend => read_sole rfl h hend
  | .array [], _, _, _, _ | .object [], _, _, _, _ => rfl
  | .array (v :: items), .array h, held, cs, _ => by
    obtain ⟨hv, hitems⟩ := List.forall_mem_cons.1 h
    have hrest := endsWord_items items cs
    rw [Json.tokens, List.flatMap_cons, List.flatMap_append, List.append_assoc, List.append_assoc,
      read_mark rfl, read_compact v hv _ _ hrest, read_compactItems items hitems]
    simp only [List.reverse_cons, List.reverse_append, List.append_assoc, List.cons_append,
      List.nil_append]
  | .object ((k, v) :: members), .object h, held, cs, _ => by
    obtain ⟨hv, hmembers⟩ := List.forall_mem_cons.1 h
    have hrest := endsWord_members members cs
    rw [Json.tokens, List.flatMap_cons, List.flatMap_cons, List.flatMap_cons, List.flatMap_append]
    simp only [List.append_assoc]
    rw [read_mark rfl, read_mark rfl, read_mark rfl, read_compact v hv _ _ hrest,
      read_compactMembers members hmembers]
    simp only [List.reverse_cons, List.reverse_append, List.append_assoc, List.cons_append,
      List.nil_append]

/-- So is the text of the rest of an array. -/
theorem read_compactItems : ∀ (items : List Json), (∀ v ∈ items, v.WellWritten) →
    ∀ (held : List Token) (cs : List Char),
      read ⟨held, .between⟩ ((Json.itemTokens items).flatMap Token.text ++ cs) =
        read ⟨(Json.itemTokens items).reverse ++ held, .between⟩ cs
  | [], _, _, _ => rfl
  | v :: items, h, held, cs => by
    obtain ⟨hv, hitems⟩ := List.forall_mem_cons.1 h
    have hrest := endsWord_items items cs
    rw [Json.itemTokens, List.flatMap_cons, List.flatMap_append, List.append_assoc,
      List.append_assoc, read_mark rfl, read_compact v hv _ _ hrest, read_compactItems items hitems]
    simp only [List.reverse_cons, List.reverse_append, List.append_assoc, List.cons_append,
      List.nil_append]

/-- And so is the text of the rest of an object. -/
theorem read_compactMembers : ∀ (members : List (JsonText × Json)),
    (∀ m ∈ members, m.2.WellWritten) → ∀ (held : List Token) (cs : List Char),
      read ⟨held, .between⟩ ((Json.memberTokens members).flatMap Token.text ++ cs) =
        read ⟨(Json.memberTokens members).reverse ++ held, .between⟩ cs
  | [], _, _, _ => rfl
  | (k, v) :: members, h, held, cs => by
    obtain ⟨hv, hmembers⟩ := List.forall_mem_cons.1 h
    have hrest := endsWord_members members cs
    rw [Json.memberTokens, List.flatMap_cons, List.flatMap_cons, List.flatMap_cons,
      List.flatMap_append]
    simp only [List.append_assoc]
    rw [read_mark rfl, read_mark rfl, read_mark rfl, read_compact v hv _ _ hrest,
      read_compactMembers members hmembers]
    simp only [List.reverse_cons, List.reverse_append, List.append_assoc, List.cons_append,
      List.nil_append]

end

/-! ### Texts over many lines -/

theorem read_newLine (depth : Nat) :
    read ⟨held, .between⟩ (Json.newLine depth ++ cs) = read ⟨held, .between⟩ cs := by
  refine read_blanks fun c hc => ?_
  rw [Json.newLine, List.mem_cons] at hc
  rcases hc with rfl | hc
  · rfl
  · rw [List.eq_of_mem_replicate hc]
    rfl

/-- A key and the colon behind it are two tokens. -/
theorem read_key (k : JsonText) : read ⟨held, .between⟩ (k.quoted ++ (": ".toList ++ cs)) =
    read ⟨.colon :: .string k :: held, .between⟩ cs := by
  have hcolon : step ⟨.string k :: held, .between⟩ ':' =
      some ⟨.colon :: .string k :: held, .between⟩ := rfl
  have hblank : step ⟨.colon :: .string k :: held, .between⟩ ' ' =
      some ⟨.colon :: .string k :: held, .between⟩ := rfl
  have htext : ": ".toList ++ cs = ':' :: ' ' :: cs := rfl
  rw [read_quoted, htext, read_cons hcolon, read_cons hblank]

theorem endsWord_prettyItems (depth : Nat) (items : List Json) (cs : List Char) :
    EndsWord (Json.prettyItems depth items ++ cs) := by
  cases items <;> rintro c ⟨⟩ <;> rfl

theorem endsWord_prettyMembers (depth : Nat) (members : List (JsonText × Json)) (cs : List Char) :
    EndsWord (Json.prettyMembers depth members ++ cs) := by
  cases members <;> rintro c ⟨⟩ <;> rfl

mutual

/-- The text of a value over many lines is read as its tokens. -/
theorem read_pretty : ∀ (v : Json), v.WellWritten → ∀ (depth : Nat) (held : List Token)
    (cs : List Char), EndsWord cs → read ⟨held, .between⟩ (v.prettyAt depth ++ cs) =
      read ⟨v.tokens.reverse ++ held, .between⟩ cs
  | .null, _, _, _, _, hend => read_token (t := .null) trivial hend
  | .bool b, _, _, _, _, hend => read_token (t := .bool b) trivial hend
  | .integer n, _, _, _, _, hend => by
    rw [Json.prettyAt]
    exact read_token trivial hend
  | .string t, _, _, _, _, _ => by
    rw [Json.prettyAt]
    exact read_quoted t
  | .real _, .real h, _, _, _, hend => by
    rw [Json.prettyAt]
    exact read_token h hend
  | .array [], _, _, _, _, _ | .object [], _, _, _, _, _ => rfl
  | .array (v :: items), .array h, depth, held, cs, _ => by
    obtain ⟨hv, hitems⟩ := List.forall_mem_cons.1 h
    have hrest := endsWord_prettyItems depth items cs
    have hopen : step ⟨held, .between⟩ '[' = some ⟨.openArray :: held, .between⟩ := rfl
    rw [Json.prettyAt, List.cons_append, read_cons hopen, List.append_assoc, List.append_assoc,
      read_newLine, read_pretty v hv _ _ _ hrest, read_prettyItems items hitems, Json.tokens]
    simp only [List.reverse_cons, List.reverse_append, List.append_assoc, List.cons_append,
      List.nil_append]
  | .object ((k, v) :: members), .object h, depth, held, cs, _ => by
    obtain ⟨hv, hmembers⟩ := List.forall_mem_cons.1 h
    have hrest := endsWord_prettyMembers depth members cs
    have hopen : step ⟨held, .between⟩ '\x7b' = some ⟨.openObject :: held, .between⟩ := rfl
    rw [Json.prettyAt, List.cons_append, read_cons hopen]
    simp only [List.append_assoc]
    rw [read_newLine, read_key, read_pretty v hv _ _ _ hrest, read_prettyMembers members hmembers,
      Json.tokens]
    simp only [List.reverse_cons, List.reverse_append, List.append_assoc, List.cons_append,
      List.nil_append]

/-- So is the text of the rest of an array. -/
theorem read_prettyItems : ∀ (items : List Json), (∀ v ∈ items, v.WellWritten) →
    ∀ (depth : Nat) (held : List Token) (cs : List Char),
      read ⟨held, .between⟩ (Json.prettyItems depth items ++ cs) =
        read ⟨(Json.itemTokens items).reverse ++ held, .between⟩ cs
  | [], _, depth, held, cs => by
    rw [Json.prettyItems, List.append_assoc, read_newLine]
    exact read_mark (t := .closeArray) rfl
  | v :: items, h, depth, held, cs => by
    obtain ⟨hv, hitems⟩ := List.forall_mem_cons.1 h
    have hrest := endsWord_prettyItems depth items cs
    have hcomma : step ⟨held, .between⟩ ',' = some ⟨.comma :: held, .between⟩ := rfl
    rw [Json.prettyItems, List.cons_append, read_cons hcomma, List.append_assoc, List.append_assoc,
      read_newLine, read_pretty v hv _ _ _ hrest, read_prettyItems items hitems, Json.itemTokens]
    simp only [List.reverse_cons, List.reverse_append, List.append_assoc, List.cons_append,
      List.nil_append]

/-- And so is the text of the rest of an object. -/
theorem read_prettyMembers : ∀ (members : List (JsonText × Json)),
    (∀ m ∈ members, m.2.WellWritten) → ∀ (depth : Nat) (held : List Token) (cs : List Char),
      read ⟨held, .between⟩ (Json.prettyMembers depth members ++ cs) =
        read ⟨(Json.memberTokens members).reverse ++ held, .between⟩ cs
  | [], _, depth, held, cs => by
    rw [Json.prettyMembers, List.append_assoc, read_newLine]
    exact read_mark (t := .closeObject) rfl
  | (k, v) :: members, h, depth, held, cs => by
    obtain ⟨hv, hmembers⟩ := List.forall_mem_cons.1 h
    have hrest := endsWord_prettyMembers depth members cs
    have hcomma : step ⟨held, .between⟩ ',' = some ⟨.comma :: held, .between⟩ := rfl
    rw [Json.prettyMembers, List.cons_append, read_cons hcomma]
    simp only [List.append_assoc]
    rw [read_newLine, read_key, read_pretty v hv _ _ _ hrest, read_prettyMembers members hmembers,
      Json.memberTokens]
    simp only [List.reverse_cons, List.reverse_append, List.append_assoc, List.cons_append,
      List.nil_append]

end

end Scanner

/-! ## Whole documents -/

namespace Json

variable {v : Json}

theorem endsWord_nil : Scanner.EndsWord [] := by
  rintro c ⟨⟩

theorem ofText?_of_read {cs : List Char}
    (h : Scanner.read ⟨[], .between⟩ (cs ++ []) =
      Scanner.read ⟨v.tokens.reverse ++ [], .between⟩ []) :
    ofText? (String.ofList cs) = some v := by
  rw [List.append_nil, List.append_nil] at h
  have hscan : Token.scan cs = some v.tokens :=
    h.trans (congrArg some (List.reverse_reverse _))
  rw [ofText?, String.toList_ofList, hscan]
  exact ofTokens?_tokens v

/-- **A document is read back from its text without blanks.** -/
theorem ofText?_compact (h : v.WellWritten) : ofText? v.compact = some v :=
  ofText?_of_read (Scanner.read_compact v h [] [] endsWord_nil)

/-- **A document is read back from its text over many lines.** -/
theorem ofText?_pretty (h : v.WellWritten) : ofText? v.pretty = some v :=
  ofText?_of_read (Scanner.read_pretty v h 0 [] [] endsWord_nil)

end Json
end FlowAtlas
