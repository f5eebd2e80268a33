import Mathlib.Data.List.Forall2
import NetFootprint.Phase

/-!
# How phases are spelled

The name of a phase is recognised in any letter case and with white space around it. Case and white
space are those of all scripts, so what is to be shown is that nothing else happens to the letters
of the alphabet.
-/

namespace NetFootprint

namespace Text

variable {before word after : List Char} {c : Char}

theorem toNat_le_toLower (c : Char) : c.toNat ≤ c.toLower.toNat := by
  unfold Char.toLower
  split
  · next h =>
    have hc : c.val.toNat ≤ 90 := h.2
    have hshift : ('a'.val - 'A'.val).toNat = 32 := by decide
    simp only [Char.toNat, UInt32.toNat_add]
    omega
  · exact Nat.le_refl _

theorem ascii_of_isLower (h : c.isLower = true) : c.toNat < 128 := by
  have hz : c.toNat ≤ 122 := (Bool.and_eq_true_iff.mp h).2 |> of_decide_eq_true
  omega

theorem letter_ascii (n : Fin 128) : (Char.ofNat n).toLower.isLower = true →
    lowerMap.char (Char.ofNat n) = [(Char.ofNat n).toLower] ∧ isBlank (Char.ofNat n) = false := by
  revert n
  decide +kernel

/-- Of the letters a to z and A to Z the lower case is the usual one, and they are no blanks. -/
theorem letter (h : c.toLower.isLower = true) :
    lowerMap.char c = [c.toLower] ∧ isBlank c = false := by
  have hc : c.toNat < 128 := Nat.lt_of_le_of_lt (toNat_le_toLower c) (ascii_of_isLower h)
  have hascii := letter_ascii ⟨c.toNat, hc⟩
  rw [Char.ofNat_toNat] at hascii
  exact hascii h

theorem lowerFrom_letters (h : ∀ c ∈ word, c.toLower.isLower = true) (before : List Char) :
    lowerFrom before word = word.map Char.toLower := by
  induction word generalizing before with
  | nil => rfl
  | cons c rest ih =>
    have hc := h c List.mem_cons_self
    have hsigma : c ≠ '\u03a3' := by
      rintro rfl
      exact absurd hc (by decide)
    rw [lowerFrom, if_neg hsigma, (letter hc).1, ih fun d hd => h d (List.mem_cons_of_mem c hd)]
    rfl

theorem dropWhile_none {p : Char → Bool} {cs : List Char} (h : ∀ c ∈ cs, p c = false)
    (hne : cs ≠ []) (more : List Char) : (cs ++ more).dropWhile p = cs ++ more := by
  cases cs with
  | nil => exact absurd rfl hne
  | cons c rest => simp [h c List.mem_cons_self]

theorem trimWhile_append {p : Char → Bool} (hbefore : ∀ c ∈ before, p c = true)
    (hafter : ∀ c ∈ after, p c = true) (hword : ∀ c ∈ word, p c = false) (hne : word ≠ []) :
    trimWhile p (before ++ (word ++ after)) = word := by
  have hfront : (before ++ (word ++ after)).dropWhile p = word ++ after := by
    rw [List.dropWhile_append_of_pos hbefore, dropWhile_none hword hne]
  have hback : (word ++ after).reverse.dropWhile p = word.reverse ++ [] := by
    rw [List.reverse_append, List.dropWhile_append_of_pos (by simpa using hafter)]
    have hreversed : ∀ c ∈ word.reverse, p c = false := by simpa using hword
    have hrev := dropWhile_none hreversed (by simpa using hne) []
    rwa [List.append_nil] at hrev ⊢
  rw [trimWhile, hfront, hback, List.append_nil, List.reverse_reverse]

/-- A word of letters with white space around it, trimmed and in lower case. -/
theorem lower_trim {s : String} (hs : s.toList = before ++ (word ++ after))
    (hbefore : ∀ c ∈ before, isBlank c = true) (hafter : ∀ c ∈ after, isBlank c = true)
    (hword : ∀ c ∈ word, c.toLower.isLower = true) (hne : word ≠ []) :
    lower (trim s) = String.ofList (word.map Char.toLower) := by
  have htrim : trim s = String.ofList word := by
    rw [trim, hs, trimWhile_append hbefore hafter (fun c hc => (letter (hword c hc)).2) hne]
  rw [lower, htrim, String.toList_ofList, lowerFrom_letters hword]

end Text

namespace Phase

/-- A text spells a phase: the letters of its name in any case, with white space around them. -/
def Spells (p : Phase) (s : String) : Prop :=
  ∃ before word after : List Char, s.toList = before ++ (word ++ after) ∧
    (∀ c ∈ before, Text.isBlank c = true) ∧ (∀ c ∈ after, Text.isBlank c = true) ∧
    word.map Char.toLower = p.name.toList

theorem name_isLower (p : Phase) : ∀ c ∈ p.name.toList, c.isLower = true := by
  rw [← List.all_eq_true]
  cases p <;> decide

theorem Spells.ofWord? {p : Phase} {s : String} (h : p.Spells s) : ofWord? s = some p := by
  obtain ⟨before, word, after, hs, hbefore, hafter, hword⟩ := h
  have hletters : ∀ c ∈ word, c.toLower.isLower = true := by
    intro c hc
    refine p.name_isLower _ ?_
    rw [← hword]
    exact List.mem_map_of_mem hc
  have hne : word ≠ [] := by
    rintro rfl
    cases p <;> cases hword
  rw [Phase.ofWord?, Text.lower_trim hs hbefore hafter hletters hne, hword]
  cases p <;> rfl

theorem spells_name (p : Phase) : p.Spells p.name := by
  refine ⟨[], p.name.toList, [], by simp, by simp, by simp, ?_⟩
  cases p <;> decide

/-- A value spells phases: nothing for none, one text for one, or a list of texts. -/
def AllSpelled (ps : List Phase) (v : Value) : Prop :=
  List.Forall₂ (fun p w => ∃ s, w = .text s ∧ p.Spells s) ps v.oneOrMore

end Phase

end NetFootprint
