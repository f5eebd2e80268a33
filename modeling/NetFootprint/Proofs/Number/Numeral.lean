import Mathlib.Algebra.Group.Nat.Defs
import NetFootprint.Proofs.Declaration.Spelling
import NetFootprint.Proofs.Layer.Number

/-!
# Numerals of whole numbers

A whole number is written in decimal digits behind a sign, and what is written is read as that
number unless it has too many digits. A numeral in any other spelling is read as a number that does
not have too many digits either, so it can be written and read again.
-/

namespace NetFootprint.Numeral

open Text

variable {cs : List Char} {c : Char} {n : Int} {s : String}

/-! ## Digits -/

theorem asciiDigit?_of_isDigit (h : c.isDigit = true) :
    asciiDigit? c = some (c.toNat - '0'.toNat) := by
  have hrange : '0' ≤ c ∧ c ≤ '9' := by simpa [Char.isDigit, Char.le_def] using h
  rw [asciiDigit?, if_pos hrange]

theorem asciiDigit?_lt_ten {d : Nat} (h : asciiDigit? c = some d) : d < 10 := by
  unfold asciiDigit? at h
  split at h
  · next hrange =>
    have hc : c.toNat ≤ '9'.toNat := hrange.2
    have hnine : '9'.toNat = 57 := rfl
    have hzero : '0'.toNat = 48 := rfl
    obtain rfl := Option.some.inj h
    omega
  · cases h

theorem digitsValue_digits (h : ∀ c ∈ cs, c.isDigit = true) (sofar : Nat) :
    digitsValue sofar cs = some (Nat.ofDigitChars 10 cs sofar) := by
  induction cs generalizing sofar with
  | nil => rfl
  | cons c rest ih =>
    obtain ⟨hc, hrest⟩ := List.forall_mem_cons.mp h
    rw [digitsValue, asciiDigit?_of_isDigit hc, Nat.ofDigitChars_cons]
    exact ih hrest _

/-- Each digit makes a number grow tenfold at most. -/
theorem digitsValue_lt {sofar value : Nat} (h : digitsValue sofar cs = some value) :
    value < (sofar + 1) * 10 ^ cs.length := by
  induction cs generalizing sofar with
  | nil =>
    obtain rfl := Option.some.inj h
    simp
  | cons c rest ih =>
    rw [digitsValue] at h
    cases hd : asciiDigit? c with
    | none => simp [hd] at h
    | some d =>
      rw [hd] at h
      have hlt := asciiDigit?_lt_ten hd
      have hgrown : 10 * sofar + d + 1 ≤ (sofar + 1) * 10 := by omega
      calc value < (10 * sofar + d + 1) * 10 ^ rest.length := ih h
        _ ≤ (sofar + 1) * 10 * 10 ^ rest.length := Nat.mul_le_mul_right _ hgrown
        _ = (sofar + 1) * 10 ^ (c :: rest).length := by
          rw [List.length_cons, Nat.pow_succ, Nat.mul_comm (10 ^ rest.length), Nat.mul_assoc]

theorem joinDigits_digits (h : ∀ c ∈ cs, c.isDigit = true) (afterDigit : Bool) :
    joinDigits afterDigit cs = some cs := by
  induction cs generalizing afterDigit with
  | nil => cases afterDigit <;> rfl
  | cons c rest ih =>
    obtain ⟨hc, hrest⟩ := List.forall_mem_cons.mp h
    have hne : c ≠ '_' := by
      rintro rfl
      cases hc
    unfold joinDigits
    split
    · next heq => cases heq
    · next heq => exact absurd (List.cons.inj heq).1 hne
    · next heq =>
      obtain ⟨rfl, rfl⟩ := List.cons.inj heq
      rw [ih hrest]
      rfl

/-! ## What is written -/

/-- The sign and the digits of a number. -/
def spelling (n : Int) : List Char :=
  (if n < 0 then ['-'] else []) ++ Nat.toDigits 10 n.natAbs

theorem toList_toString (n : Int) : (toString n).toList = spelling n := by
  rw [Int.toString_eq_repr, Int.repr_eq_if, spelling]
  by_cases hn : 0 ≤ n
  · have habs : n.toNat = n.natAbs := by omega
    rw [if_pos hn, if_neg (Int.not_lt.mpr hn), Nat.toList_repr, habs]
    rfl
  · have habs : (-n).toNat = n.natAbs := by omega
    rw [if_neg hn, if_pos (Int.not_le.mp hn), String.toList_append, Nat.toList_repr, habs]
    rfl

theorem isDigit_toDigits {k : Nat} : ∀ c ∈ Nat.toDigits 10 k, c.isDigit = true :=
  fun _ hc => Nat.isDigit_of_mem_toDigits (by decide) (by decide) hc

theorem digit_or_minus (h : c ∈ spelling n) : c.isDigit = true ∨ c = '-' := by
  rcases List.mem_append.mp h with hsign | hdigit
  · split at hsign
    · exact .inr (List.mem_singleton.mp hsign)
    · cases hsign
  · exact .inl (isDigit_toDigits c hdigit)

theorem spelling_ne_nil (n : Int) : spelling n ≠ [] :=
  List.append_ne_nil_of_right_ne_nil _ Nat.toDigits_ne_nil

theorem plain_char (h : c.isDigit = true ∨ c = '-') :
    isBlank c = false ∧ plainDigit c = c ∧ Text.isBlank c = false := by
  rcases h with hdigit | rfl
  · have hrange := Char.isDigit_iff_toNat.mp hdigit
    have hzero : '0'.toNat = 48 := rfl
    have hnine : '9'.toNat = 57 := rfl
    have hascii : c.toNat < 128 := by omega
    have hspace : c ≠ ' ' := by
      rintro rfl
      cases hdigit
    refine ⟨?_, if_pos hascii, ?_⟩
    · rw [isBlank, if_pos hascii]
      simp [hspace]
      omega
    · simp [Text.isBlank]
      omega
  · exact ⟨rfl, rfl, rfl⟩

theorem plain_toString (n : Int) : plain (toString n) = spelling n := by
  have hplain : ∀ c ∈ spelling n, isBlank c = false ∧ plainDigit c = c :=
    fun c hc => ⟨(plain_char (digit_or_minus hc)).1, (plain_char (digit_or_minus hc)).2.1⟩
  have htrim : trimWhile isBlank (spelling n) = spelling n := by
    have hinside : trimWhile isBlank ([] ++ (spelling n ++ [])) = spelling n :=
      trimWhile_append (by simp) (by simp) (fun c hc => (hplain c hc).1) (spelling_ne_nil n)
    rwa [List.nil_append, List.append_nil] at hinside
  rw [plain, toList_toString, htrim]
  exact (List.map_congr_left fun c hc => (hplain c hc).2).trans (List.map_id _)

theorem sign_spelling (n : Int) :
    sign (spelling n) = (decide (n < 0), Nat.toDigits 10 n.natAbs) := by
  unfold spelling
  by_cases hn : n < 0
  · rw [if_pos hn, decide_eq_true hn]
    rfl
  · rw [if_neg hn, decide_eq_false hn, List.nil_append]
    have hne : Nat.toDigits 10 n.natAbs ≠ [] := Nat.toDigits_ne_nil
    have hdigits := isDigit_toDigits (k := n.natAbs)
    generalize Nat.toDigits 10 n.natAbs = ds at hne hdigits
    cases ds with
    | nil => exact absurd rfl hne
    | cons c rest =>
      have hc := hdigits c List.mem_cons_self
      unfold sign
      split
      · next heq =>
        obtain ⟨rfl, -⟩ := List.cons.inj heq
        cases hc
      · next heq =>
        obtain ⟨rfl, -⟩ := List.cons.inj heq
        cases hc
      · rfl

theorem natural?_toDigits (k : Nat) :
    natural? (Nat.toDigits 10 k) = if k < 10 ^ maxWholeDigits then some k else none := by
  have hne : Nat.toDigits 10 k ≠ [] := Nat.toDigits_ne_nil
  have hlength : (Nat.toDigits 10 k).length ≤ maxWholeDigits ↔ k < 10 ^ maxWholeDigits :=
    Nat.length_toDigits_le_iff (by decide) (by decide)
  rw [natural?.eq_2 _ hne, digitsValue_digits isDigit_toDigits, Nat.ofDigitChars_ten_toDigits]
  simp only [hlength]

/-! ## What is read -/

theorem pow_ten (k : Nat) : Nat.pow 10 k = 10 ^ k := rfl

theorem not_tooLong_iff : ¬ TooLong n ↔ n.natAbs < 10 ^ maxWholeDigits := by
  rw [TooLong, Nat.not_le, pow_ten]

theorem whole?_eq (s : String) :
    whole? s = ((joinDigits false (sign (plain s)).2).bind natural?).map fun k : Nat =>
      if (sign (plain s)).1 then -(k : Int) else k := by
  unfold whole?
  obtain ⟨negative, cs⟩ := sign (plain s)
  dsimp only
  cases (joinDigits false cs).bind natural? <;> rfl

/-- A number that is written is read as it was, unless it has too many digits. -/
theorem whole?_toString (n : Int) : whole? (toString n) = some n ↔ ¬ TooLong n := by
  have hsigned : (if decide (n < 0) = true then -(n.natAbs : Int) else n.natAbs) = n := by
    by_cases hn : n < 0
    · rw [if_pos (decide_eq_true hn)]
      omega
    · rw [if_neg (by simpa using hn)]
      omega
  rw [not_tooLong_iff, whole?_eq, plain_toString, sign_spelling,
    joinDigits_digits isDigit_toDigits, Option.bind_some, natural?_toDigits]
  by_cases hlt : n.natAbs < 10 ^ maxWholeDigits
  · rw [if_pos hlt, Option.map_some, hsigned]
    exact iff_of_true rfl hlt
  · rw [if_neg hlt]
    exact iff_of_false (by simp) hlt

theorem natural?_lt {k : Nat} (h : natural? cs = some k) : k < 10 ^ maxWholeDigits := by
  cases cs with
  | nil => cases h
  | cons c rest =>
    rw [natural?.eq_2 _ (by simp)] at h
    split at h
    · next hlength =>
      have hlt := digitsValue_lt h
      rw [Nat.zero_add, Nat.one_mul] at hlt
      exact Nat.lt_of_lt_of_le hlt (Nat.pow_le_pow_right (by decide) hlength)
    · cases h

/-- No number that is read has too many digits. -/
theorem not_tooLong_of_whole? (h : whole? s = some n) : ¬ TooLong n := by
  rw [whole?_eq] at h
  obtain ⟨k, hk, rfl⟩ := Option.map_eq_some_iff.mp h
  obtain ⟨digits, -, hdigits⟩ := Option.bind_eq_some_iff.mp hk
  have habs : (if (sign (plain s)).1 then -(k : Int) else k).natAbs = k := by
    split <;> omega
  rw [not_tooLong_iff, habs]
  exact natural?_lt hdigits

end NetFootprint.Numeral
