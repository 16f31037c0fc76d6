import FlowAtlas.Text.Character
import FlowAtlas.Text.Numeral

/-!
# Numbers are read as they were written

The digits of a number in a base are read as that number, provided that each digit is read as what
it stands for (`ofDigits?_toDigits`).  Bases ten and sixteen are the ones in use.
-/

set_option autoImplicit false

namespace FlowAtlas
namespace Numeral

variable {base n : Nat} {c : Char}

/-! ## Single digits -/

theorem decimalDigit?_digitChar {d : Nat} (hd : d < 10) : decimalDigit? d.digitChar = some d := by
  have hdigits : ∀ d : Fin 10, decimalDigit? d.val.digitChar = some d.val := by decide
  exact hdigits ⟨d, hd⟩

theorem hexDigit?_digitChar {d : Nat} (hd : d < 16) : hexDigit? d.digitChar = some d := by
  have hdigits : ∀ d : Fin 16, hexDigit? d.val.digitChar = some d.val := by decide
  exact hdigits ⟨d, hd⟩

/-- What is written in a base has digits of that base only. -/
theorem exists_digitChar_of_mem (hbase : 1 < base) (hc : c ∈ Nat.toDigits base n) :
    ∃ d < base, c = d.digitChar := by
  induction n using Nat.base_induction base hbase with
  | single d hd =>
    rw [Nat.toDigits_of_lt_base hd, List.mem_singleton] at hc
    exact ⟨d, hd, hc⟩
  | digit m d hd hm ih =>
    rw [← Nat.toDigits_append_toDigits hbase hm hd, Nat.toDigits_of_lt_base hd, List.mem_append,
      List.mem_singleton] at hc
    rcases hc with hc | hc
    · exact ih hc
    · exact ⟨d, hd, hc⟩

theorem isDecimalDigit_of_mem_toDigits (hc : c ∈ Nat.toDigits 10 n) :
    Text.isDecimalDigit c = true :=
  Text.isDecimalDigit_of_isDigit (Nat.isDigit_of_mem_toDigits (by omega) (by omega) hc)

theorem isSome_hexDigit?_of_mem_toDigits (hc : c ∈ Nat.toDigits 16 n) :
    (hexDigit? c).isSome = true := by
  obtain ⟨d, hd, rfl⟩ := exists_digitChar_of_mem (by omega) hc
  rw [hexDigit?_digitChar hd]
  rfl

/-! ## Runs of digits -/

/-- **The digits of a number are read as that number.** -/
theorem ofDigits?_toDigits {digit? : Char → Option Nat} (hbase : 1 < base)
    (hdigit : ∀ d < base, digit? d.digitChar = some d) (n : Nat) :
    ofDigits? base digit? (Nat.toDigits base n) = some n := by
  have hfold : (Nat.toDigits base n).foldlM (fun n c => (digit? c).map (n * base + ·)) 0 =
      some n := by
    induction n using Nat.base_induction base hbase with
    | single d hd =>
      rw [Nat.toDigits_of_lt_base hd, List.foldlM_cons, hdigit d hd, Nat.zero_mul]
      exact congrArg some (Nat.zero_add d)
    | digit m d hd hm ih =>
      rw [← Nat.toDigits_append_toDigits hbase hm hd, List.foldlM_append, ih,
        Nat.toDigits_of_lt_base hd, Option.bind_eq_bind, Option.bind_some, List.foldlM_cons,
        hdigit d hd]
      exact congrArg (fun x => some (x + d)) (Nat.mul_comm m base)
  rw [ofDigits?]
  · exact hfold
  · exact Nat.toDigits_ne_nil

theorem ofDecimal?_toDigits (n : Nat) : ofDecimal? (Nat.toDigits 10 n) = some n :=
  ofDigits?_toDigits (by omega) (fun _ => decimalDigit?_digitChar) n

theorem ofHex?_toDigits (n : Nat) : ofHex? (Nat.toDigits 16 n) = some n :=
  ofDigits?_toDigits (by omega) (fun _ => hexDigit?_digitChar) n

@[simp] theorem word?_toNat (w : UInt64) : word? w.toNat = some w := by
  have hlt : w.toNat < wordLimit := w.toNat_lt
  rw [word?, if_pos hlt, UInt64.ofNat_toNat]

/-! ## Numbers as texts -/

@[simp] theorem toList_decimal (n : Nat) : (decimal n).toList = Nat.toDigits 10 n :=
  String.toList_ofList

@[simp] theorem toList_hex (n : Nat) : (hex n).toList = '0' :: 'x' :: Nat.toDigits 16 n := by
  rw [hex, String.toList_append, String.toList_ofList, String.toList_ofList]
  rfl

end Numeral
end FlowAtlas
