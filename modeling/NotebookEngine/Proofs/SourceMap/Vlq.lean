/-
**Numbers of variable length are read back.**

A number is written in groups of five bits, the lowest first, and read by gathering them; a word of 64 bits
holds all groups of the differences between numbers of 32 bits.

Main results:

* `Vlq.value?_digit` — a digit is read as its value;
* `Vlq.decodeFrom_groups` — the groups of a number are gathered to the number;
* `Vlq.unsigned_signed` — a sign that is put into the lowest bit is found there;
* `Vlq.decode_flatMap_encode` — **integers that are written one after the other are read back**.
-/

import Mathlib.Data.List.Basic
import Mathlib.Tactic.Ring
import NotebookEngine.SourceMap.Vlq

set_option autoImplicit false

namespace NotebookEngine

/-! ### The bytes of a text -/

namespace Text

theorem toList_loop (bs : ByteArray) (i : Nat) (acc : List UInt8) :
    ByteArray.toList.loop bs i acc = acc.reverse ++ bs.data.toList.drop i := by
  induction i, acc using ByteArray.toList.loop.induct bs with
  | case1 i acc hi ih =>
      have hdrop : bs.data.toList.drop i = bs.get! i :: bs.data.toList.drop (i + 1) := by
        rw [List.drop_eq_getElem_cons (by simpa using hi), ByteArray.get!]
        simp [hi]
      rw [ByteArray.toList.loop, if_pos hi, ih, hdrop, List.reverse_cons, List.append_assoc]
      rfl
  | case2 i acc hi =>
      rw [ByteArray.toList.loop, if_neg hi, List.drop_of_length_le (by simpa using hi), List.append_nil]

theorem utf8EncodeChar_of_lt {c : Char} (h : c.toNat < 128) :
    (String.utf8EncodeChar c).map UInt8.toNat = [c.toNat] := by
  have hle : c.val.toNat ≤ 127 := Nat.le_of_lt_succ h
  rw [String.utf8EncodeChar, if_pos hle, List.map_singleton, UInt8.toNat_ofNat']
  exact congrArg (fun n => [n]) (Nat.mod_eq_of_lt (by omega))

/-- The characters of the first 128 codes are bytes. -/
theorem toBytes_ofList {cs : List Char} (h : ∀ c ∈ cs, c.toNat < 128) :
    toBytes (String.ofList cs) = cs.map Char.toNat := by
  have hbytes : (String.ofList cs).toUTF8.toList = cs.flatMap String.utf8EncodeChar := by
    rw [ByteArray.toList, toList_loop, List.reverse_nil, List.nil_append, List.drop_zero, String.toUTF8,
      String.toByteArray_ofList, List.utf8Encode, List.toList_data_toByteArray]
  rw [toBytes, hbytes, List.map_flatMap, List.map_eq_flatMap]
  exact List.flatMap_congr fun c hc => utf8EncodeChar_of_lt (h c hc)

end Text

namespace Vlq

/-! ### Digits -/

/-- A digit is read as its value. -/
theorem value?_digit {n : Nat} (h : n < 64) : value? (digit n).toNat = some n := by
  have hall : ∀ m : Fin 64, value? (digit m.1).toNat = some m.1 := by decide +kernel
  exact hall ⟨n, h⟩

/-- A digit has a code below 128, and no separator is a digit. -/
theorem digit_plain {n : Nat} (h : n < 64) :
    (digit n).toNat < 128 ∧ digit n ≠ ',' ∧ digit n ≠ ';' := by
  have hall : ∀ m : Fin 64, (digit m.1).toNat < 128 ∧ digit m.1 ≠ ',' ∧ digit m.1 ≠ ';' := by
    decide +kernel
  exact hall ⟨n, h⟩

/-- Every character of the groups of a number is a digit. -/
theorem mem_groups {n : Nat} {c : Char} (h : c ∈ groups n) : ∃ m < 64, c = digit m := by
  induction n using groups.induct with
  | case1 n hlt =>
      rw [groups, if_pos hlt] at h
      exact ⟨n, by omega, List.mem_singleton.1 h⟩
  | case2 n hge ih =>
      rw [groups, if_neg hge] at h
      rcases List.mem_cons.1 h with rfl | h
      · exact ⟨n % 32 + 32, by omega, rfl⟩
      · exact ih h

/-! ### Groups -/

/-- The groups of a number are gathered to the number, above what was gathered before. -/
theorem decodeFrom_groups (n : Nat) {word shift : Nat} (hshift : shift < 64)
    (hn : n * 2 ^ shift < 2 ^ 60) (bs : List Nat) :
    decodeFrom word shift ((groups n).map Char.toNat ++ bs) =
      (do return unsigned (word + n * 2 ^ shift) :: (← decodeFrom 0 0 bs)) := by
  induction n using groups.induct generalizing word shift with
  | case1 n hlt =>
      rw [groups, if_pos hlt, List.map_singleton, List.singleton_append, decodeFrom]
      rw [value?_digit (by omega), Option.getD_some, if_neg (by omega)]
      simp only [Nat.mod_eq_of_lt hlt, if_pos hlt, Nat.pow_eq]
  | case2 n hge ih =>
      have hgroup : n % 32 + 32 < 64 := by omega
      rw [groups, if_neg hge, List.map_cons, List.cons_append, decodeFrom]
      rw [value?_digit hgroup, Option.getD_some, if_neg (by omega)]
      simp only [if_neg (show ¬ n % 32 + 32 < 32 by omega), Nat.pow_eq]
      have hpow : 2 ^ (shift + 5) = 2 ^ shift * 32 := Nat.pow_add 2 shift 5
      have hvalue : (n % 32 + 32) % 32 * 2 ^ shift + n / 32 * 2 ^ (shift + 5) = n * 2 ^ shift := by
        have hmod : (n % 32 + 32) % 32 = n % 32 := by omega
        calc (n % 32 + 32) % 32 * 2 ^ shift + n / 32 * 2 ^ (shift + 5)
            = (n % 32 + 32 * (n / 32)) * 2 ^ shift := by rw [hmod, hpow]; ring
          _ = n * 2 ^ shift := by rw [Nat.mod_add_div]
      have hhigh : n / 32 * 2 ^ (shift + 5) < 2 ^ 60 := by omega
      have hnext : shift + 5 < 64 := by
        have hone : 1 * 2 ^ (shift + 5) ≤ n / 32 * 2 ^ (shift + 5) := Nat.mul_le_mul_right _ (by omega)
        have hlt : 2 ^ (shift + 5) < 2 ^ 60 := by omega
        have := (Nat.pow_lt_pow_iff_right (by omega)).1 hlt
        omega
      rw [ih hnext hhigh, Nat.add_assoc, hvalue]

/-! ### Signs -/

theorem signed_lt {i : Int} (h : i.natAbs < 2 ^ 58) : signed i < 2 ^ 60 := by
  rw [signed]
  split <;> omega

/-- A sign that is put into the lowest bit is found there. -/
theorem unsigned_signed {i : Int} (h : i.natAbs < 2 ^ 58) : unsigned (signed i) = i := by
  have hword : signed i % Nat.pow 2 64 = signed i := Nat.mod_eq_of_lt (by
    have := signed_lt h
    simp only [Nat.pow_eq]
    omega)
  rw [unsigned, hword]
  have hsmall : signed i < Nat.pow 2 63 := by
    have := signed_lt h
    simp only [Nat.pow_eq]
    omega
  simp only [if_pos hsmall]
  rw [signed]
  split
  · rw [if_pos (by omega)]
    omega
  · rw [if_neg (by omega)]
    omega

/-! ### Integers -/

/-- An integer at the start of the bytes. -/
theorem decodeFrom_encode {i : Int} (h : i.natAbs < 2 ^ 58) (bs : List Nat) :
    decodeFrom 0 0 ((encode i).map Char.toNat ++ bs) = (do return i :: (← decodeFrom 0 0 bs)) := by
  have hsigned : signed i * 2 ^ 0 < 2 ^ 60 := by
    rw [Nat.pow_zero, Nat.mul_one]
    exact signed_lt h
  rw [encode, decodeFrom_groups _ (by omega) hsigned, Nat.pow_zero, Nat.mul_one, Nat.zero_add,
    unsigned_signed h]

theorem mem_encode {i : Int} {c : Char} (h : c ∈ encode i) : c.toNat < 128 ∧ c ≠ ',' ∧ c ≠ ';' := by
  obtain ⟨m, hm, rfl⟩ := mem_groups h
  exact digit_plain hm

/-- **Integers that are written one after the other are read back**, if they are not too large. -/
theorem decode_flatMap_encode {is : List Int} (h : ∀ i ∈ is, i.natAbs < 2 ^ 58) :
    decode (is.flatMap encode) = .ok is := by
  have hplain : ∀ c ∈ is.flatMap encode, c.toNat < 128 := by
    intro c hc
    obtain ⟨i, -, hi⟩ := List.mem_flatMap.1 hc
    exact (mem_encode hi).1
  rw [decode, Text.toBytes_ofList hplain]
  clear hplain
  induction is with
  | nil => rfl
  | cons i is ih =>
      obtain ⟨hi, his⟩ := List.forall_mem_cons.1 h
      rw [List.flatMap_cons, List.map_append, decodeFrom_encode hi, ih his]
      rfl

end Vlq

end NotebookEngine
