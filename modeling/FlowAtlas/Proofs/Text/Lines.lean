import FlowAtlas.Bytes

/-!
# The lines of a text

Texts that are joined by line feeds come apart again in the form that they have as bytes
(`ofText_intercalate`, `lines_intercalate`), since no other character has the byte of a line feed in
its form (`mem_ofText_iff`).
-/

set_option autoImplicit false

namespace FlowAtlas
namespace Bytes

variable {c : Char} {s : String}

/-! ## Texts as bytes -/

theorem toList_loop (a : ByteArray) (i : Nat) (found : Bytes) :
    ByteArray.toList.loop a i found = found.reverse ++ a.data.toList.drop i := by
  fun_induction ByteArray.toList.loop a i found with
  | case1 i found hi ih =>
    have hi : i < a.data.toList.length := hi
    have hget : a.get! i = a.data.toList[i] := getElem!_pos a.data i hi
    rw [ih, List.reverse_cons, List.append_assoc, List.drop_eq_getElem_cons hi, hget,
      List.singleton_append]
  | case2 i found hi =>
    rw [List.drop_eq_nil_of_le (Nat.le_of_not_lt hi), List.append_nil]

theorem toList_eq (a : ByteArray) : a.toList = a.data.toList := by
  rw [ByteArray.toList, toList_loop, List.reverse_nil, List.nil_append, List.drop_zero]

/-- The bytes of a text, character by character. -/
theorem ofText_eq (s : String) : ofText s = s.toList.flatMap String.utf8EncodeChar := by
  rw [ofText, String.toUTF8_eq_toByteArray, toList_eq, ← String.utf8Encode_toList, List.utf8Encode,
    List.toList_data_toByteArray]

/-- Every character takes a byte. -/
theorem length_le_length_ofText (s : String) : s.toList.length ≤ (ofText s).length := by
  rw [ofText_eq]
  induction s.toList with
  | nil => exact Nat.le_refl 0
  | cons c cs ih =>
    have hpos := Char.utf8Size_pos c
    rw [List.flatMap_cons, List.length_append, String.length_utf8EncodeChar, List.length_cons]
    omega

theorem ofText_ne_nil (h : s ≠ "") : ofText s ≠ [] := by
  have hlength := length_le_length_ofText s
  have hpos := List.length_pos_iff.2 fun hnil => h (String.toList_eq_nil_iff.1 hnil)
  exact List.length_pos_iff.1 (by omega)

/-- A text is read as it was written. -/
@[simp] theorem text?_ofText (s : String) : text? (ofText s) = some s := by
  have hbytes : (⟨(ofText s).toArray⟩ : ByteArray) = s.toByteArray := by
    rw [ofText, String.toUTF8_eq_toByteArray, toList_eq]
  rw [text?, hbytes, String.fromUTF8?, dif_pos s.isValidUTF8]
  rfl

theorem ofText_inj {s' : String} (h : ofText s = ofText s') : s = s' := by
  have htext := congrArg text? h
  rw [text?_ofText, text?_ofText] at htext
  exact Option.some.inj htext

/-- Bytes that are read as a text are its bytes. -/
theorem ofText_of_text? {bs : Bytes} (h : text? bs = some s) : ofText s = bs := by
  rw [text?, String.fromUTF8?] at h
  split at h
  · cases h
    rw [ofText, String.toUTF8_eq_toByteArray, toList_eq]
    rfl
  · cases h

/-- Only an ASCII character has its byte in its form. -/
theorem toNat_eq_of_mem {b : UInt8} (hb : b.toNat < 128) (h : b ∈ String.utf8EncodeChar c) :
    c.toNat = b.toNat := by
  show c.val.toNat = b.toNat
  simp only [String.utf8EncodeChar] at h
  split at h
  · rw [List.mem_singleton, ← UInt8.toNat_inj, UInt8.toNat_ofNat'] at h
    omega
  · -- in a longer form, the bytes are too large
    exfalso
    split at h
    · simp only [List.mem_cons, List.not_mem_nil, or_false, ← UInt8.toNat_inj,
        UInt8.toNat_ofNat'] at h
      omega
    · split at h <;>
      · simp only [List.mem_cons, List.not_mem_nil, or_false, ← UInt8.toNat_inj,
          UInt8.toNat_ofNat'] at h
        omega

/-- The byte of an ASCII character stands in a text just where the character does. -/
theorem mem_ofText_iff (hc : c.toNat < 128) : UInt8.ofNat c.toNat ∈ ofText s ↔ c ∈ s.toList := by
  have hbyte : (UInt8.ofNat c.toNat).toNat = c.toNat := by
    rw [UInt8.toNat_ofNat']
    omega
  rw [ofText_eq, List.mem_flatMap]
  constructor
  · rintro ⟨d, hd, hmem⟩
    have heq := toNat_eq_of_mem (by omega) hmem
    rwa [← Char.toNat_inj.1 (heq.trans hbyte)]
  · refine fun h => ⟨c, h, ?_⟩
    have hsmall : c.val.toNat ≤ 0x7f := Nat.le_of_lt_succ hc
    rw [String.utf8EncodeChar, if_pos hsmall]
    exact List.mem_singleton.2 rfl

theorem newline_not_mem_ofText (h : '\n' ∉ s.toList) : 0x0a ∉ ofText s :=
  fun hmem => h ((mem_ofText_iff (c := '\n') (by decide)).1 hmem)

theorem ofText_append (s t : String) : ofText (s ++ t) = ofText s ++ ofText t := by
  rw [ofText_eq, ofText_eq, ofText_eq, String.toList_append, List.flatMap_append]

theorem ofText_intercalate (texts : List String) :
    ofText ("\n".intercalate texts) = [0x0a].intercalate (texts.map ofText) := by
  have hfeed : ofText "\n" = [0x0a] := by rw [ofText_eq]; rfl
  induction texts with
  | nil => rw [ofText_eq]; rfl
  | cons s texts ih =>
    cases texts with
    | nil => rw [String.intercalate_singleton, List.map_singleton, List.intercalate_singleton]
    | cons t texts =>
      have hne : t :: texts ≠ [] := List.cons_ne_nil t texts
      rw [String.intercalate_cons_of_ne_nil hne, ofText_append, ofText_append, ih, hfeed,
        List.map_cons, List.map_cons, List.map_cons, List.intercalate_cons_cons]

/-! ## Lines -/

theorem not_mem_of_mem_splitOn {x : UInt8} {bs piece : Bytes} (h : piece ∈ bs.splitOn x) :
    x ∉ piece := by
  induction bs generalizing piece with
  | nil =>
    rw [List.splitOn_nil, List.mem_singleton] at h
    rw [h]
    exact List.not_mem_nil
  | cons b bs ih =>
    rw [List.splitOn_cons_eq_if_modifyHead] at h
    split at h
    · rcases List.mem_cons.1 h with rfl | h
      · exact List.not_mem_nil
      · exact ih h
    · rename_i hb
      cases hsplit : bs.splitOn x with
      | nil =>
        rw [hsplit] at h
        cases h
      | cons first rest =>
        rw [hsplit] at h ih
        rcases List.mem_cons.1 h with rfl | h
        · rw [List.mem_cons, not_or]
          exact ⟨fun heq => hb (beq_iff_eq.2 heq.symm), ih List.mem_cons_self⟩
        · exact ih (List.mem_cons_of_mem _ h)

theorem newline_not_mem_of_mem_lines {bs line : Bytes} (h : line ∈ lines bs) : 0x0a ∉ line := by
  rw [lines] at h
  split at h
  · exact not_mem_of_mem_splitOn (List.dropLast_subset _ h)
  · exact not_mem_of_mem_splitOn h

/-- Pieces between line feeds are the lines, up to an empty piece at the end. -/
theorem lines_intercalate {pieces : List Bytes} (h : ∀ p ∈ pieces, 0x0a ∉ p) :
    lines ([0x0a].intercalate pieces) =
      if pieces.getLast? = some [] then pieces.dropLast else pieces := by
  by_cases hpieces : pieces = []
  · rw [hpieces]
    rfl
  · rw [lines, List.splitOn_intercalate _ h hpieces]

/-- Texts that are written as lines are read as these lines. -/
theorem lines_ofText_join {texts : List String} (h : ∀ s ∈ texts, '\n' ∉ s.toList) :
    lines (ofText (String.join (texts.map (· ++ "\n")))) = texts.map ofText := by
  have hbytes : ofText (String.join (texts.map (· ++ "\n"))) =
      [0x0a].intercalate (texts.map ofText ++ [[]]) := by
    have hfeed : ofText "\n" = [0x0a] := by rw [ofText_eq]; rfl
    clear h
    induction texts with
    | nil => rw [ofText_eq]; rfl
    | cons s texts ih =>
      rw [List.map_cons, String.join_cons, ofText_append, ofText_append, ih, hfeed, List.map_cons,
        List.cons_append, List.intercalate_cons_of_ne_nil (by simp)]
  have hpieces : ∀ p ∈ texts.map ofText ++ [[]], 0x0a ∉ p := by
    intro p hp
    rcases List.mem_append.1 hp with hp | hp
    · obtain ⟨s, hs, rfl⟩ := List.mem_map.1 hp
      exact newline_not_mem_ofText (h s hs)
    · rw [List.mem_singleton.1 hp]
      exact List.not_mem_nil
  rw [hbytes, lines_intercalate hpieces, List.getLast?_concat, if_pos rfl, List.dropLast_concat]

end Bytes

/-!
## The order of texts

Texts are ordered by the places of their characters.  The order of their forms as bytes is the same
(`ofText_le_ofText_iff`): a character before another one has a form before that of the other,
whatever comes behind them (`utf8EncodeChar_append_lt`), so the first difference decides both.
-/

namespace Bytes

/-- The greater of two numbers is greater in the digits before the last, or in the last one. -/
theorem lt_by_digit {m n : Nat} (h : m < n) :
    m / 64 < n / 64 ∨ m / 64 = n / 64 ∧ m % 64 < n % 64 := by
  omega

/-- Of numbers with three last digits, the greater one is greater where they differ first. -/
theorem lt_by_digits {m n : Nat} (h : m < n) :
    m / 262144 < n / 262144 ∨ m / 262144 = n / 262144 ∧
      (m / 4096 % 64 < n / 4096 % 64 ∨ m / 4096 % 64 = n / 4096 % 64 ∧
        (m / 64 % 64 < n / 64 % 64 ∨ m / 64 % 64 = n / 64 % 64 ∧ m % 64 < n % 64)) := by
  have hthree (k : Nat) : k / 4096 = k / 64 / 64 := by omega
  have htwo (k : Nat) : k / 262144 = k / 64 / 64 / 64 := by omega
  rw [hthree, hthree, htwo, htwo]
  rcases lt_by_digit h with h | ⟨hlow, h⟩
  · rcases lt_by_digit h with h | ⟨hmid, h⟩
    · rcases lt_by_digit h with h | ⟨hhigh, h⟩
      · exact .inl h
      · exact .inr ⟨hhigh, .inl h⟩
    · exact .inr ⟨by rw [hmid], .inr ⟨by rw [hmid], .inl h⟩⟩
  · exact .inr ⟨by rw [hlow], .inr ⟨by rw [hlow], .inr ⟨by rw [hlow], h⟩⟩⟩

/-- A character before another one has a form before that of the other, whatever comes behind. -/
theorem utf8EncodeChar_append_lt {c d : Char} (h : c < d) (u v : Bytes) :
    String.utf8EncodeChar c ++ u < String.utf8EncodeChar d ++ v := by
  have hlt : c.val.toNat < d.val.toNat := UInt32.lt_iff_toNat_lt.1 (Char.lt_def.1 h)
  have hbound : d.val.toNat < 0x110000 := by
    have := d.valid
    unfold UInt32.isValidChar Nat.isValidChar at this
    omega
  have hdigits := lt_by_digits hlt
  -- the splits give the number of bytes of each form; of two forms, the longer one starts higher
  simp only [String.utf8EncodeChar]
  repeat' split
  all_goals
    simp (disch := omega) only [List.cons_append, List.nil_append, List.cons_lt_cons_iff,
      UInt8.lt_iff_toNat_lt, ← UInt8.toNat_inj, UInt8.toNat_ofNat', Nat.reducePow,
      Nat.mod_eq_of_lt]
    omega

theorem utf8EncodeChar_append_pos (c : Char) (u : Bytes) :
    ([] : Bytes) < String.utf8EncodeChar c ++ u := by
  simp only [String.utf8EncodeChar]
  split
  · exact List.nil_lt_cons _ _
  · split
    · exact List.nil_lt_cons _ _
    · split <;> exact List.nil_lt_cons _ _

theorem flatMap_utf8EncodeChar_lt {cs ds : List Char} (h : cs < ds) :
    cs.flatMap String.utf8EncodeChar < ds.flatMap String.utf8EncodeChar := by
  induction ds generalizing cs with
  | nil => exact absurd h (List.not_lt_nil cs)
  | cons d ds ih =>
    cases cs with
    | nil =>
      rw [List.flatMap_nil, List.flatMap_cons]
      exact utf8EncodeChar_append_pos d _
    | cons c cs =>
      rw [List.flatMap_cons, List.flatMap_cons]
      rcases List.cons_lt_cons_iff.1 h with hlt | ⟨rfl, hrest⟩
      · exact utf8EncodeChar_append_lt hlt _ _
      · exact List.append_left_lt (ih hrest)

theorem ofText_lt_ofText {s t : String} (h : s < t) : ofText s < ofText t := by
  rw [ofText_eq, ofText_eq]
  exact flatMap_utf8EncodeChar_lt h

/-- **Texts and their bytes are ordered alike.** -/
theorem ofText_le_ofText_iff {s t : String} : ofText s ≤ ofText t ↔ s ≤ t := by
  constructor
  · intro h
    refine String.not_lt.1 fun hlt => ?_
    exact h (ofText_lt_ofText hlt)
  · intro h hlt
    by_cases hst : s < t
    · exact List.lt_asymm (ofText_lt_ofText hst) hlt
    · rw [String.le_antisymm h (String.not_lt.1 hst)] at hlt
      exact List.lt_irrefl _ hlt

end Bytes
end FlowAtlas
