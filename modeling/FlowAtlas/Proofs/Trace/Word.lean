import Mathlib.Algebra.Group.Nat.Defs
import FlowAtlas.Bytes
import FlowAtlas.Trace.TagWord

/-!
# Words and their bytes

A number of given width and its bytes determine each other (`toNat_ofNat`, `ofNat_toNat`), so what
is packed into a word may be found among the bytes of the word.  For a tag word these are five bytes
of address and one byte each of ordinal, kind and version: `TagWord.ofWord_encode` and
`TagWord.decode_word` say so for writing and for reading.
-/

set_option autoImplicit false

namespace FlowAtlas
namespace Bytes

variable {bs : Bytes} {n : Nat}

/-! ## Numbers -/

@[simp] theorem length_ofNat (width n : Nat) : (ofNat width n).length = width := by
  induction width generalizing n with
  | zero => rfl
  | succ width ih => rw [ofNat, List.length_cons, ih]

@[simp] theorem length_ofWord (w : UInt64) : (ofWord w).length = 8 := length_ofNat 8 w.toNat

theorem toNat_ofNat (width n : Nat) : toNat (ofNat width n) = n % 256 ^ width := by
  induction width generalizing n with
  | zero => rw [ofNat, toNat, Nat.pow_zero, Nat.mod_one]
  | succ width ih =>
    have hbyte : (UInt8.ofNat n).toNat = n % 256 := rfl
    rw [ofNat, toNat, ih, hbyte, Nat.pow_succ', Nat.mod_mul]

theorem ofNat_toNat (bs : Bytes) : ofNat bs.length (toNat bs) = bs := by
  induction bs with
  | nil => rfl
  | cons b bs ih =>
    have hb : b.toNat < 256 := b.toNat_lt
    have hlow : UInt8.ofNat (b.toNat + 256 * toNat bs) = b := by
      rw [← UInt8.toNat_inj, UInt8.toNat_ofNat']
      omega
    have hhigh : (b.toNat + 256 * toNat bs) / 256 = toNat bs := by omega
    rw [List.length_cons, toNat, ofNat, hlow, hhigh, ih]

/-- Bytes are the form of the number that they write. -/
theorem ofNat_eq_of_toNat_eq {width : Nat} (hwidth : bs.length = width) (hn : toNat bs = n) :
    ofNat width n = bs := by
  rw [← hwidth, ← hn, ofNat_toNat]

/-- Equally many bytes that write the same number are the same. -/
theorem eq_of_toNat_eq {bs' : Bytes} (hlength : bs.length = bs'.length)
    (h : toNat bs = toNat bs') : bs = bs' := by
  rw [← ofNat_toNat bs, hlength, h, ofNat_toNat]

theorem toNat_append (low rest : Bytes) :
    toNat (low ++ rest) = toNat low + 256 ^ low.length * toNat rest := by
  induction low with
  | nil => rw [List.nil_append, toNat, List.length_nil, Nat.pow_zero, Nat.one_mul, Nat.zero_add]
  | cons b low ih =>
    rw [List.cons_append, toNat, toNat, ih, List.length_cons, Nat.pow_succ', Nat.mul_add,
      Nat.mul_assoc, Nat.add_assoc]

theorem toNat_lt (bs : Bytes) : toNat bs < 256 ^ bs.length := by
  induction bs with
  | nil => exact Nat.one_pos
  | cons b bs ih =>
    have hb : b.toNat < 256 := b.toNat_lt
    rw [toNat, List.length_cons, Nat.pow_succ']
    omega

/-! ## Words -/

theorem word_of_length_eq (hbs : bs.length = 8) (rest : Bytes) :
    (bs ++ rest).word 0 = UInt64.ofNat (toNat bs) := by
  rw [word, Nat.mul_zero, List.drop_zero, List.take_left' hbs]

/-- Behind eight bytes begins the next word. -/
theorem word_append_succ (hbs : bs.length = 8) (rest : Bytes) (i : Nat) :
    (bs ++ rest).word (i + 1) = rest.word i := by
  have hplace : 8 * (i + 1) = bs.length + 8 * i := by omega
  rw [word, word, hplace, ← List.drop_drop, List.drop_left]

theorem toNat_word_of_length_eq (hbs : bs.length = 8) (rest : Bytes) :
    ((bs ++ rest).word 0).toNat = toNat bs := by
  have hlt := toNat_lt bs
  rw [hbs] at hlt
  rw [word_of_length_eq hbs, UInt64.toNat_ofNat_of_lt' hlt]

@[simp] theorem word_ofWord_append (w : UInt64) (rest : Bytes) : (ofWord w ++ rest).word 0 = w := by
  have hlt : w.toNat < 256 ^ 8 := w.toNat_lt
  rw [word_of_length_eq (length_ofWord w), ofWord, toNat_ofNat, Nat.mod_eq_of_lt hlt,
    UInt64.ofNat_toNat]

theorem ofWord_word (hbs : bs.length = 8) : ofWord (bs.word 0) = bs := by
  have hword := toNat_word_of_length_eq hbs []
  rw [List.append_nil] at hword
  rw [ofWord, hword, ← hbs, ofNat_toNat]

end Bytes

/-! ## Tag words -/

namespace TagWord

open Bytes (toNat)

variable {low : Bytes} {ordinal kind version : UInt8}

theorem toNat_clip (tag : UInt64) : (clip tag).toNat = tag.toNat % 2 ^ 40 := by
  rw [clip, UInt64.toNat_mod]
  rfl

theorem clip_eq_of_lt {tag : UInt64} (h : tag < tagLimit) : clip tag = tag := by
  have hlt : tag.toNat < 2 ^ 40 := h
  rw [← UInt64.toNat_inj, toNat_clip, Nat.mod_eq_of_lt hlt]

theorem clip_lt (tag : UInt64) : clip tag < tagLimit := by
  have hlt : (clip tag).toNat < 2 ^ 40 := by
    rw [toNat_clip]
    exact Nat.mod_lt _ (Nat.two_pow_pos 40)
  exact hlt

/-- The eight bytes of a tag word with these five bytes of address. -/
def form (low : Bytes) (ordinal kind version : UInt8) : Bytes := low ++ [ordinal, kind, version]

theorem length_form (hlow : low.length = 5) (ordinal kind version : UInt8) :
    (form low ordinal kind version).length = 8 := by
  rw [form, List.length_append, hlow]
  rfl

theorem toNat_form (hlow : low.length = 5) : toNat (form low ordinal kind version) =
    toNat low + 2 ^ 40 * ordinal.toNat + 2 ^ 48 * kind.toNat + 2 ^ 56 * version.toNat := by
  rw [form, Bytes.toNat_append, hlow]
  simp only [Bytes.toNat]
  omega

/-- **The bytes of a tag word that is written.** -/
theorem ofWord_encode (t : TagWord) :
    Bytes.ofWord t.encode = form (Bytes.ofNat 5 t.tag.toNat) t.ordinal t.kind t.version := by
  have hlow := Bytes.length_ofNat 5 t.tag.toNat
  have htag : toNat (Bytes.ofNat 5 t.tag.toNat) = t.tag.toNat % 2 ^ 40 := Bytes.toNat_ofNat 5 _
  refine Bytes.ofNat_eq_of_toNat_eq (length_form hlow _ _ _) ?_
  have hordinal := t.ordinal.toNat_lt
  have hkind := t.kind.toNat_lt
  have hversion := t.version.toNat_lt
  have hfits : t.tag.toNat % 2 ^ 40 + 2 ^ 40 * t.ordinal.toNat + 2 ^ 48 * t.kind.toNat +
      2 ^ 56 * t.version.toNat < 2 ^ 64 := by omega
  rw [toNat_form hlow, htag, encode, toNat_clip]
  exact (UInt64.toNat_ofNat_of_lt' hfits).symm

/-- **The parts of a tag word that is read.** -/
theorem decode_word (hlow : low.length = 5) (rest : Bytes) :
    decode (Bytes.word (form low ordinal kind version ++ rest) 0) =
      ⟨UInt64.ofNat (toNat low), ordinal, kind, version⟩ := by
  have hword := Bytes.toNat_word_of_length_eq (length_form hlow ordinal kind version) rest
  have hlt := Bytes.toNat_lt low
  have hordinal := ordinal.toNat_lt
  have hkind := kind.toNat_lt
  have hversion := version.toNat_lt
  rw [toNat_form hlow] at hword
  rw [hlow] at hlt
  rw [decode, TagWord.mk.injEq, ← UInt64.toNat_inj, ← UInt8.toNat_inj, ← UInt8.toNat_inj,
    ← UInt8.toNat_inj, toNat_clip, UInt64.toNat_ofNat', UInt8.toNat_ofNat', UInt8.toNat_ofNat',
    UInt8.toNat_ofNat', hword]
  show _ = _ ∧ _ / 2 ^ 40 % 2 ^ 8 = _ ∧ _ / 2 ^ 48 % 2 ^ 8 = _ ∧ _ / 2 ^ 56 % 2 ^ 8 = _
  omega

/-- Eight bytes are the form of some tag word. -/
theorem exists_form (bs : Bytes) (hbs : 8 ≤ bs.length) :
    ∃ low ordinal kind version rest, low.length = 5 ∧
      bs = form low ordinal kind version ++ rest := by
  have hdrop : 3 ≤ (bs.drop 5).length := by
    rw [List.length_drop]
    omega
  match hrest : bs.drop 5, hdrop with
  | ordinal :: kind :: version :: rest, _ =>
    refine ⟨bs.take 5, ordinal, kind, version, rest, by rw [List.length_take]; omega, ?_⟩
    rw [form, List.append_assoc, List.cons_append, List.cons_append, List.cons_append,
      List.nil_append, ← hrest, List.take_append_drop]

theorem address_lt (hlow : low.length = 5) : UInt64.ofNat (toNat low) < tagLimit := by
  have hlt := Bytes.toNat_lt low
  rw [hlow] at hlt
  have hfits : toNat low < 2 ^ 64 := by omega
  have haddress : (UInt64.ofNat (toNat low)).toNat < 2 ^ 40 := by
    rw [UInt64.toNat_ofNat_of_lt' hfits]
    exact hlt
  exact haddress

theorem clip_address (hlow : low.length = 5) :
    clip (UInt64.ofNat (toNat low)) = UInt64.ofNat (toNat low) :=
  clip_eq_of_lt (address_lt hlow)

/-- The address in the bytes that are written for one. -/
theorem ofNat_toNat_clip (tag : UInt64) :
    UInt64.ofNat (toNat (Bytes.ofNat 5 (clip tag).toNat)) = clip tag := by
  have hlt : (clip tag).toNat < 256 ^ 5 := clip_lt tag
  rw [Bytes.toNat_ofNat, Nat.mod_eq_of_lt hlt, UInt64.ofNat_toNat]

/-- The bytes of an address that is read. -/
theorem ofNat_address (hlow : low.length = 5) :
    Bytes.ofNat 5 (UInt64.ofNat (toNat low)).toNat = low := by
  have hlt := Bytes.toNat_lt low
  rw [hlow] at hlt
  have hfits : toNat low < 2 ^ 64 := by omega
  exact Bytes.ofNat_eq_of_toNat_eq hlow (UInt64.toNat_ofNat_of_lt' hfits).symm

/-- Another ordinal. -/
theorem set_ordinal (hlow : low.length = 5) (rest : Bytes) (o : UInt8) :
    (form low ordinal kind version ++ rest).set 5 o = form low o kind version ++ rest := by
  rw [form, form, List.append_assoc, List.append_assoc, List.set_append_right _ _ (by omega), hlow]
  rfl

/-- Another kind. -/
theorem set_kind (hlow : low.length = 5) (rest : Bytes) (k : UInt8) :
    (form low ordinal kind version ++ rest).set 6 k = form low ordinal k version ++ rest := by
  rw [form, form, List.append_assoc, List.append_assoc, List.set_append_right _ _ (by omega), hlow]
  rfl

end TagWord
end FlowAtlas
