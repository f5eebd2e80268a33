import NetFootprint.Proofs.Declaration.Reading
import NetFootprint.Proofs.Declaration.Spelling

/-!
# Records written and read again

A declaration is written as a record in one way, but there are many records that read as it: names
under either of two keys, and phases spelled in any letter case, alone or in a list. What was read
from any of them is written and read again unchanged.
-/

namespace NetFootprint

namespace Declaration

variable {d : Declaration} {fields : List (String × Value)} {key other : String} {v : Value}

/-- Everything that a declaration says in names is text. -/
def Textual (d : Declaration) : Prop := ∀ top ∈ d.outputs, ∃ name, top = .text name

theorem map_text_plain {items : List Value} (h : ∀ v ∈ items, ∃ s, v = .text s) :
    (items.map Value.plain).map .text = items := by
  rw [List.map_map]
  refine (List.map_congr_left fun v hv => ?_).trans (List.map_id items)
  obtain ⟨s, rfl⟩ := h v hv
  rfl

theorem map_plain_text (names : List String) : (names.map .text).map Value.plain = names := by
  rw [List.map_map]
  exact List.map_id names

/-- A record that says what a declaration says, in one of the ways there are. The entries may be in
any order and there may be others. -/
structure WrittenAs (d : Declaration) (fields : List (String × Value)) : Prop where
  type : fields.lookup "type" = some (.text d.type)
  name : (fields.lookup "name").getD (.text "") = .text d.name
  inputs : (under fields "inputs" "bottom").getD (.list []) = .list (d.inputs.map .text)
  outputs : (under fields "outputs" "top").getD (.list []) = .list d.outputs
  params : paramsOf fields = .object d.params
  included : Phase.AllSpelled d.included ((fields.lookup "include").getD .null)
  excluded : Phase.AllSpelled d.excluded ((fields.lookup "exclude").getD .null)

theorem namesOf_of_list {items : List Value}
    (h : (under fields key other).getD (.list []) = .list items) :
    namesOf fields key other = .ok (items.map Value.plain) := by
  cases hv : under fields key other with
  | none =>
    rw [hv] at h
    obtain rfl : items = [] := by simpa using h.symm
    exact namesOf_of_none hv
  | some v =>
    rw [hv] at h
    obtain rfl : v = .list items := h
    exact namesOf_of_some hv

theorem phasesOf_of_allSpelled {ps : List Phase} (h : Phase.AllSpelled ps v)
    (name type key : String) :
    phasesOf name type key v = .ok ps := by
  refine mapM_eq_ok.mpr (h.flip.imp ?_)
  rintro w p ⟨s, rfl, hs⟩
  rw [explain_eq_ok, Phase.ofValue, show (Value.text s).plain = s from rfl, hs.ofWord?]

/-- All records that say the same read as the same declaration. -/
theorem ofValue_of_writtenAs (ht : d.Textual) (h : d.WrittenAs fields) :
    ofValue (.object fields) = .ok d := by
  have hname : nameOf fields = d.name := by
    rw [nameOf, h.name]
    rfl
  have hinputs : namesOf fields "inputs" "bottom" = .ok d.inputs := by
    rw [namesOf_of_list h.inputs, map_plain_text]
  rw [ofValue_typed h.type h.params, hinputs, namesOf_of_list h.outputs,
    phasesOf_of_allSpelled h.included, phasesOf_of_allSpelled h.excluded, hname]
  simp only [liftM, monadLift, MonadLift.monadLift, Except.mapError, ok_bind, map_text_plain ht]
  rfl

/-! ## The record that is written -/

theorem lookup_phaseEntry (key other : String) (ps : List Phase) :
    (phaseEntry key ps).lookup other =
      if ps = [] ∨ other ≠ key then none else some (.list (ps.map fun p => .text p.name)) := by
  unfold phaseEntry
  by_cases hps : ps = []
  · simp [hps]
  · by_cases hkey : other = key
    · simp [hps, hkey]
    · have hne : (other == key) = false := beq_eq_false_iff_ne.mpr hkey
      simp [hps, hkey, List.lookup_cons, hne]

theorem allSpelled_phaseEntry (key : String) (ps : List Phase) :
    Phase.AllSpelled ps (((phaseEntry key ps).lookup key).getD .null) := by
  rw [lookup_phaseEntry]
  by_cases hps : ps = []
  · subst hps
    exact .nil
  · rw [if_neg (by simp [hps])]
    refine List.forall₂_map_right_iff.mpr (List.forall₂_same.mpr fun p _ => ?_)
    exact ⟨p.name, rfl, p.spells_name⟩

theorem toValue_writtenAs (d : Declaration) :
    ∃ fields, d.toValue = .object fields ∧ d.WrittenAs fields := by
  refine ⟨_, rfl, ?_⟩
  have hincluded := allSpelled_phaseEntry "include" d.included
  have hexcluded := allSpelled_phaseEntry "exclude" d.excluded
  constructor
  case included =>
    simpa [List.lookup_append, List.lookup_cons, lookup_phaseEntry "exclude"] using hincluded
  case excluded =>
    simpa [List.lookup_append, List.lookup_cons, lookup_phaseEntry "include"] using hexcluded
  all_goals simp [under, paramsOf, List.lookup_append, List.lookup_cons]

/-- Only texts are read as names. -/
theorem textual_of_ofValue (h : ofValue v = .ok d) : d.Textual := by
  cases v with
  | object fields =>
    cases ht : fields.lookup "type" with
    | none =>
      rw [ofValue_untyped ht] at h
      cases h
    | some t =>
      by_cases hp : ∃ params, paramsOf fields = .object params
      · obtain ⟨params, hp⟩ := hp
        rw [ofValue_typed ht hp] at h
        obtain ⟨inputs, -, h⟩ := bind_eq_ok.mp h
        obtain ⟨outputs, -, h⟩ := bind_eq_ok.mp h
        obtain ⟨included, -, h⟩ := bind_eq_ok.mp h
        obtain ⟨excluded, -, h⟩ := bind_eq_ok.mp h
        obtain rfl := pure_eq_ok.mp h
        intro top htop
        obtain ⟨name, -, rfl⟩ := List.mem_map.mp htop
        exact ⟨name, rfl⟩
      · rw [ofValue_noMapping ht fun params hparams => hp ⟨params, hparams⟩] at h
        cases h
  | null | bool _ | int _ | float _ | text _ | list _ => cases h

theorem ofValue_toValue (h : d.Textual) : ofValue d.toValue = .ok d := by
  obtain ⟨fields, hfields, hwritten⟩ := toValue_writtenAs d
  rw [hfields]
  exact ofValue_of_writtenAs h hwritten

/-- What is written is read as it was, whatever was read can be written and read again, and all
records that say the same are read as the same. -/
theorem ofValue_roundTrip :
    (∀ d : Declaration, d.Textual → ofValue d.toValue = .ok d) ∧
    (∀ v d, ofValue v = .ok d → d.Textual ∧ ofValue d.toValue = .ok d) ∧
    (∀ (d : Declaration) fields, d.Textual → d.WrittenAs fields →
      ofValue (.object fields) = .ok d) := by
  refine ⟨fun d => ofValue_toValue, fun v d h => ?_, fun d fields => ofValue_of_writtenAs⟩
  exact ⟨textual_of_ofValue h, ofValue_toValue (textual_of_ofValue h)⟩

/-- A rectifier that is not there in testing. -/
def untested : Declaration := ⟨"ReLU", "relu", ["a"], [.text "a"], [], [], [.test]⟩

/-- A record of it with other keys and a phase that stands alone. -/
def untestedRecord : List (String × Value) :=
  [("top", .list [.text "a"]), ("bottom", .list [.text "a"]), ("exclude", .text " TeSt\t"),
    ("include", .null), ("name", .text "relu"), ("type", .text "ReLU")]

theorem untested_textual : untested.Textual := by
  intro top htop
  exact ⟨"a", by simpa [untested] using htop⟩

theorem untested_writtenAs : untested.WrittenAs untestedRecord := by
  have hspelled : Phase.test.Spells " TeSt\t" :=
    ⟨[' '], ['T', 'e', 'S', 't'], ['\t'], rfl, by simp [Text.isBlank], by simp [Text.isBlank], rfl⟩
  have hexcluded : Phase.AllSpelled [.test] (.text " TeSt\t") := .cons ⟨_, rfl, hspelled⟩ .nil
  constructor
  case excluded => simpa [untested, untestedRecord, List.lookup_cons] using hexcluded
  all_goals simp [untested, untestedRecord, under, paramsOf, Phase.AllSpelled, Value.oneOrMore,
    List.lookup_cons]

theorem ofValue_roundTrip_untested :
    ofValue untested.toValue = .ok untested ∧ ofValue (.object untestedRecord) = .ok untested ∧
      untested.Textual := by
  obtain ⟨hwritten, hread, hspelled⟩ := ofValue_roundTrip
  have hrecord := hspelled untested untestedRecord untested_textual untested_writtenAs
  exact ⟨hwritten untested untested_textual, hrecord, (hread _ _ hrecord).1⟩

end Declaration

end NetFootprint
