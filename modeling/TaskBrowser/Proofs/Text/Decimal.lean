import TaskBrowser.Proofs.Template.Parts

/-!
# Numbers of a fixed width

A number in decimal ends with its last digit, before which its tenth is written (`ofNat_of_le`).  So
a number that is filled with zeros up to a width is, digit by digit, what its tenths leave
(`zeroFilled_succ`), and nothing in it is no digit (`isDigit_of_mem_zeroFilled`).
-/

namespace TaskBrowser

namespace Text

theorem digitsUpTo_of_lt (b : Nat) {n : Nat} (h : n < 10) (acc : Text) :
    digitsUpTo (b + 1) n acc = digitChar n :: acc := by
  rw [digitsUpTo, if_pos h]

theorem digitsUpTo_of_le (b : Nat) {n : Nat} (h : 10 ≤ n) (acc : Text) :
    digitsUpTo (b + 1) n acc = digitsUpTo b (n / 10) (digitChar n :: acc) := by
  rw [digitsUpTo, if_neg (Nat.not_lt.2 h)]

/-- A number has the same digits under every bound that it stays below. -/
theorem digitsUpTo_eq {b b' n : Nat} (hb : n < 2 ^ (b + 1)) (hb' : n < 2 ^ (b' + 1)) (acc : Text) :
    digitsUpTo (b + 1) n acc = digitsUpTo (b' + 1) n acc := by
  induction b generalizing b' n acc with
  | zero =>
      have hn : n < 10 := by omega
      rw [digitsUpTo_of_lt _ hn, digitsUpTo_of_lt _ hn]
  | succ b ih =>
      rcases Nat.lt_or_ge n 10 with hn | hn
      · rw [digitsUpTo_of_lt _ hn, digitsUpTo_of_lt _ hn]
      · rw [digitsUpTo_of_le _ hn, digitsUpTo_of_le _ hn]
        cases b' with
        | zero => omega
        | succ b' =>
            rw [Nat.pow_succ] at hb hb'
            exact ih (by omega) (by omega) _

theorem ofNat_of_lt {n : Nat} (h : n < 10) : ofNat n = [digitChar n] :=
  digitsUpTo_of_lt _ h []

/-- The last digit of a number stands behind the digits of its tenth. -/
theorem ofNat_of_le {n : Nat} (h : 10 ≤ n) : ofNat n = ofNat (n / 10) ++ [digitChar n] := by
  obtain ⟨b, hb⟩ : ∃ b, n.log2 = b + 1 :=
    Nat.exists_eq_add_one.2 ((Nat.le_log2 (by omega)).2 (by omega))
  have hn : n < 2 ^ (b + 1) * 2 := by
    rw [← Nat.pow_succ, ← hb]
    exact Nat.lt_log2_self
  have htenth : n / 10 < 2 ^ (b + 1) := by omega
  rw [ofNat, hb, digitsUpTo_of_le _ h, ofNat, Template.digitsUpTo_append]
  exact digitsUpTo_eq htenth Nat.lt_log2_self _

theorem zeroFilled_one {n : Nat} (h : n < 10) : zeroFilled 1 n = [digitChar n] := by
  rw [zeroFilled, ofNat_of_lt h]
  rfl

/-- The last digit of a number of a width of more than one stands behind its tenth. -/
theorem zeroFilled_succ (w n : Nat) :
    zeroFilled (w + 2) n = zeroFilled (w + 1) (n / 10) ++ [digitChar n] := by
  rw [zeroFilled, zeroFilled]
  by_cases hn : n < 10
  · rw [ofNat_of_lt hn, Nat.div_eq_of_lt hn, ofNat_of_lt (by decide), List.length_singleton,
      List.length_singleton, Nat.add_sub_cancel, show w + 2 - 1 = w + 1 from rfl,
      List.replicate_succ']
    rfl
  · rw [ofNat_of_le (by omega), List.length_append, List.length_singleton, List.append_assoc]
    congr 2
    omega

theorem zeroFilled_two {n : Nat} (h : n < 100) :
    zeroFilled 2 n = [digitChar (n / 10), digitChar n] := by
  rw [zeroFilled_succ, zeroFilled_one (by omega)]
  rfl

theorem zeroFilled_four {n : Nat} (h : n < 10000) :
    zeroFilled 4 n =
      [digitChar (n / 1000), digitChar (n / 100), digitChar (n / 10), digitChar n] := by
  have hhundreds : n / 10 / 10 = n / 100 := by omega
  have hthousands : n / 100 / 10 = n / 1000 := by omega
  rw [zeroFilled_succ, zeroFilled_succ, zeroFilled_two (by omega), hhundreds, hthousands]
  rfl

/-! ## Digits -/

theorem isAsciiDigit_digitChar (n : Nat) : isAsciiDigit (digitChar n) = true ∧
    (digitChar n).toNat - '0'.toNat = n % 10 := by
  have h : ∀ k < 10, isAsciiDigit (Char.ofNat ('0'.toNat + k)) = true ∧
      (Char.ofNat ('0'.toNat + k)).toNat - '0'.toNat = k := by decide
  exact h (n % 10) (Nat.mod_lt n (by decide))

theorem isDecimal_digitChar (n : Nat) : isDecimal (digitChar n) = true := by
  rw [isDecimal, (Template.digitChar_spec n).2]
  rfl

theorem digitChar_ne {c : Char} (hc : isDigit c = false) (n : Nat) : digitChar n ≠ c := by
  rintro rfl
  rw [(Template.digitChar_spec n).1] at hc
  cases hc

/-- A number that is filled with zeros has only digits. -/
theorem isDigit_of_mem_zeroFilled {w n : Nat} {c : Char} (h : c ∈ zeroFilled w n) :
    isDigit c = true := by
  rcases List.mem_append.1 h with h | h
  · obtain rfl := (List.mem_replicate.1 h).2
    decide
  · exact (Template.mem_digitsUpTo h).resolve_right List.not_mem_nil

end Text

end TaskBrowser
