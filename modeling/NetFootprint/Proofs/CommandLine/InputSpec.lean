import NetFootprint.CommandLine.InputSpec
import NetFootprint.Proofs.Number.Numeral

/-!
# Input specifications written and read again

The name of an input may hold anything, colons, commas and white space included: only what stands
behind the last colon is taken for extents, and written extents hold no colon. So a specification
that is written is read as it was. One that was given in another spelling can be written and read
again.
-/

namespace NetFootprint.CommandLine

open Numeral

variable {name after : List Char} {extents : List Int} {c : Char}

/-! ## Colons and commas -/

theorem splitAtLastColon_append (name : List Char) (h : ':' ∉ after) :
    splitAtLastColon (name ++ ':' :: after) = some (name, after) := by
  have hdifferent : ∀ c ∈ after.reverse, decide (c ≠ ':') = true := by
    intro c hc
    refine decide_eq_true ?_
    rintro rfl
    exact h (List.mem_reverse.mp hc)
  have hreverse : (name ++ ':' :: after).reverse = after.reverse ++ ':' :: name.reverse := by simp
  have hbefore : (name ++ ':' :: after).reverse.dropWhile (· ≠ ':') = ':' :: name.reverse := by
    rw [hreverse, List.dropWhile_append_of_pos hdifferent]
    rfl
  have hbehind : (name ++ ':' :: after).reverse.takeWhile (· ≠ ':') = after.reverse := by
    rw [hreverse, List.takeWhile_append_of_pos hdifferent]
    simp
  simp only [splitAtLastColon, hbefore, hbehind, List.reverse_reverse]

theorem splitAtCommas_eq (cs : List Char) : splitAtCommas cs = cs.splitOn ',' := by
  induction cs with
  | nil => rfl
  | cons c cs ih =>
    rw [splitAtCommas, List.splitOn, List.splitOnP_cons_eq_if_modifyHead, ← List.splitOn, ← ih]
    by_cases hc : c = ','
    · rw [if_pos hc, if_pos (by simpa using hc)]
    · rw [if_neg hc, if_neg (by simpa using hc)]
      obtain ⟨field, fields, hfields⟩ := List.exists_cons_of_ne_nil (splitAtCommas_ne_nil cs)
      rw [hfields]
      rfl

/-! ## Extents -/

/-- The extents behind the colon. -/
def extentsText (extents : List Int) : List Char := [','].intercalate (extents.map spelling)

theorem toList_inputSpec (name : String) (extents : List Int) :
    (inputSpec name extents).toList = name.toList ++ ':' :: extentsText extents := by
  have hspelled : (extents.map toString).map String.toList = extents.map spelling := by
    rw [List.map_map]
    exact List.map_congr_left fun n _ => toList_toString n
  rw [inputSpec, String.toList_append, String.toList_append, joinWith, String.toList_intercalate,
    hspelled, List.append_assoc]
  rfl

theorem mem_extentsText (h : c ∈ extentsText extents) : c.isDigit = true ∨ c = '-' ∨ c = ',' := by
  induction extents with
  | nil => cases h
  | cons n rest ih =>
    cases rest with
    | nil =>
      have hc : c ∈ spelling n := by simpa [extentsText, List.intercalate] using h
      exact (digit_or_minus hc).imp_right .inl
    | cons m rest =>
      have hc : c ∈ spelling n ++ ',' :: extentsText (m :: rest) := by
        simpa [extentsText, List.intercalate] using h
      rcases List.mem_append.mp hc with hn | hc
      · exact (digit_or_minus hn).imp_right .inl
      · rcases List.mem_cons.mp hc with rfl | hrest
        · exact .inr (.inr rfl)
        · exact ih hrest

theorem colon_notMem_extentsText : ':' ∉ extentsText extents := by
  intro h
  rcases mem_extentsText h with hdigit | hminus | hcomma
  · cases hdigit
  · cases hminus
  · cases hcomma

theorem comma_notMem_spelling (n : Int) : ',' ∉ spelling n := by
  intro h
  rcases digit_or_minus h with hdigit | hminus
  · cases hdigit
  · cases hminus

theorem spelling_not_blank (n : Int) : (spelling n).all Text.isBlank = false := by
  obtain ⟨c, rest, hcs⟩ := List.exists_cons_of_ne_nil (spelling_ne_nil n)
  have hc := (plain_char (digit_or_minus (n := n) (by rw [hcs]; exact List.mem_cons_self))).2.2
  rw [hcs, List.all_cons, hc, Bool.false_and]

theorem readExtents_spellings (extents : List Int) :
    readExtents (extents.map spelling) = extents.mapM fun n => whole? (toString n) := by
  have hkept : (extents.map spelling).filter (fun f => !f.all Text.isBlank) =
      extents.map spelling := by
    refine List.filter_eq_self.mpr fun f hf => ?_
    obtain ⟨n, -, rfl⟩ := List.mem_map.mp hf
    rw [spelling_not_blank, Bool.not_false]
  rw [readExtents, hkept, List.mapM_map]
  refine congrArg (extents.mapM ·) (funext fun n => ?_)
  rw [Function.comp_apply, ← toList_toString, String.ofList_toList]

/-- The fields that are written are those that are read; without extents there is one blank
field. -/
theorem readExtents_extentsText (extents : List Int) :
    readExtents (splitAtCommas (extentsText extents)) =
      extents.mapM fun n => whole? (toString n) := by
  by_cases hnil : extents = []
  · subst hnil
    rfl
  · have hfields : (extentsText extents).splitOn ',' = extents.map spelling := by
      refine List.splitOn_intercalate ',' (fun f hf => ?_) (by simpa using hnil)
      obtain ⟨n, -, rfl⟩ := List.mem_map.mp hf
      exact comma_notMem_spelling n
    rw [splitAtCommas_eq, hfields, readExtents_spellings]

theorem mapM_whole?_toString :
    (extents.mapM fun n => whole? (toString n)) = some extents ↔ ∀ n ∈ extents, ¬ TooLong n := by
  induction extents with
  | nil => simp
  | cons n rest ih =>
    rw [List.mapM_cons, List.forall_mem_cons, ← ih, ← whole?_toString]
    cases whole? (toString n) with
    | none => simp
    | some m => cases rest.mapM fun n => whole? (toString n) <;> simp

/-! ## Specifications -/

theorem readInputSpec_eq {spec : String} (h : splitAtLastColon spec.toList = some (name, after))
    (hname : name ≠ []) :
    readInputSpec spec = (readExtents (splitAtCommas after)).elim
      (.error (specFault "input shape must be integers" spec))
      (fun extents => .ok (String.ofList name, extents)) := by
  cases name with
  | nil => exact absurd rfl hname
  | cons c rest =>
    simp only [readInputSpec, h]
    cases readExtents (splitAtCommas after) <;> rfl

theorem readInputSpec_inputSpec {name : String} (hname : name ≠ "") :
    readInputSpec (inputSpec name extents) = .ok (name, extents) ↔
      ∀ n ∈ extents, ¬ TooLong n := by
  have hcolon : ':' ∉ extentsText extents := colon_notMem_extentsText
  have hsplit := splitAtLastColon_append name.toList hcolon
  rw [← toList_inputSpec] at hsplit
  rw [readInputSpec_eq hsplit (by simpa using hname), readExtents_extentsText,
    String.ofList_toList, ← mapM_whole?_toString]
  cases extents.mapM fun n => whole? (toString n) <;> simp

theorem exists_field {fields : List (List Char)} (h : readExtents fields = some extents) {n : Int}
    (hn : n ∈ extents) : ∃ s, whole? s = some n := by
  unfold readExtents at h
  generalize fields.filter (fun f => !f.all Text.isBlank) = kept at h
  induction kept generalizing extents with
  | nil =>
    obtain rfl := Option.some.inj h
    cases hn
  | cons f rest ih =>
    simp only [List.mapM_cons, Option.bind_eq_bind, Option.bind_eq_some_iff] at h
    obtain ⟨m, hm, ms, hms, hcons⟩ := h
    obtain rfl := Option.some.inj hcons
    rcases List.mem_cons.mp hn with rfl | hrest
    · exact ⟨_, hm⟩
    · exact ih hrest hms

theorem ne_empty_of_readInputSpec {spec name : String}
    (h : readInputSpec spec = .ok (name, extents)) :
    name ≠ "" ∧ ∀ n ∈ extents, ¬ TooLong n := by
  unfold readInputSpec at h
  split at h
  · cases h
  · cases h
  · next before after hempty hsplit =>
    split at h
    · next shape hshape =>
      cases h
      refine ⟨?_, fun n hn => ?_⟩
      · simpa using hempty
      · obtain ⟨s, hs⟩ := exists_field hshape hn
        exact not_tooLong_of_whole? hs
    · cases h

/-- A specification that is written is read as it was, whatever the name holds, unless a number in it
has too many digits. Whatever was read from a specification in any spelling can be written and read
again. -/
theorem readInputSpec_roundTrip :
    (∀ name extents, name ≠ "" →
      (readInputSpec (inputSpec name extents) = .ok (name, extents) ↔
        ∀ n ∈ extents, ¬ TooLong n)) ∧
    (∀ spec name extents, readInputSpec spec = .ok (name, extents) →
      readInputSpec (inputSpec name extents) = .ok (name, extents)) := by
  refine ⟨fun name extents hname => readInputSpec_inputSpec hname, fun spec name extents h => ?_⟩
  obtain ⟨hname, hshort⟩ := ne_empty_of_readInputSpec h
  exact (readInputSpec_inputSpec hname).mpr hshort

theorem readInputSpec_roundTrip_spaced :
    readInputSpec (inputSpec "a:1, b " [0, -3, 572]) = .ok ("a:1, b ", [0, -3, 572]) ∧
    readInputSpec "data: 1 ,, +1_0" = .ok ("data", [1, 10]) ∧
    readInputSpec (inputSpec "data" [1, 10]) = .ok ("data", [1, 10]) := by
  obtain ⟨hwritten, hread⟩ := readInputSpec_roundTrip
  have hshort : ∀ n ∈ [0, -3, (572 : Int)], ¬ TooLong n := by
    intro n hn
    have hthree : n.natAbs < 10 ^ 3 := by
      revert n
      decide
    rw [not_tooLong_iff]
    exact Nat.lt_of_lt_of_le hthree (Nat.pow_le_pow_right (by decide) (by decide))
  have hdata : readInputSpec "data: 1 ,, +1_0" = .ok ("data", [1, 10]) := by rfl
  refine ⟨(hwritten "a:1, b " [0, -3, 572] (by decide)).mpr hshort, hdata, hread _ _ _ hdata⟩

end NetFootprint.CommandLine
