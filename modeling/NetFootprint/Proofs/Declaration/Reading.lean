import NetFootprint.Declaration
import NetFootprint.Proofs.Outcome

/-!
# Reading a record

A record of any shape is read or refused with an explanation that tells which record it is. There is
one exception: the inputs and outputs are taken from the members of an entry, and an entry that has
no members is not explained.
-/

namespace NetFootprint

namespace Value

def field? : Value → String → Option Value
  | object fields, key => fields.lookup key
  | _, _ => none

/-- Nothing, a truth value or a number has no members. -/
def isAtom : Value → Bool
  | null | bool _ | int _ | float _ => true
  | text _ | list _ | object _ => false

theorem members_of_atom {v : Value} (h : v.isAtom = true) : v.members = .error .wrongKind := by
  cases v with
  | null | bool _ | int _ | float _ => rfl
  | text _ | list _ | object _ => cases h

theorem exists_members {v : Value} (h : v.isAtom = false) : ∃ items, v.members = .ok items := by
  cases v with
  | null | bool _ | int _ | float _ => cases h
  | text _ | list _ | object _ => exact ⟨_, rfl⟩

end Value

/-- The fault is about a part of a record, and tells the name and the tag of the record as far as it
has them. -/
structure Fault.ExplainsRecord (f : Fault) (v : Value) : Prop where
  parameter : ∃ message layer type key, f = .invalidParameter message layer type key
  name : ∀ w, v.field? "name" = some w → w.plain ≠ "" →
    contextEntry "layer_name" (.text w.plain) ∈ f.context
  type : ∀ w, v.field? "type" = some w → w.plain ≠ "" →
    contextEntry "layer_type" (.text w.plain) ∈ f.context

namespace Declaration

variable {fields : List (String × Value)} {key other : String} {v w : Value}

def under (fields : List (String × Value)) (key other : String) : Option Value :=
  (fields.lookup key).or (fields.lookup other)

theorem namesOf_of_none (h : under fields key other = none) :
    namesOf fields key other = .ok [] := by
  obtain ⟨hkey, hother⟩ := Option.or_eq_none_iff.mp h
  rw [namesOf, hkey, hother]

theorem namesOf_of_some (h : under fields key other = some v) :
    namesOf fields key other = (v.members >>= fun items => .ok (items.map Value.plain)) := by
  rw [under] at h
  cases hkey : fields.lookup key with
  | some w =>
    rw [hkey] at h
    obtain rfl := Option.some.inj h
    rw [namesOf, hkey]
    rfl
  | none =>
    rw [hkey, Option.none_or] at h
    rw [namesOf, hkey, h]
    rfl

theorem namesOf_of_atom (h : under fields key other = some v) (hv : v.isAtom = true) :
    namesOf fields key other = .error .wrongKind := by
  rw [namesOf_of_some h, Value.members_of_atom hv]
  rfl

theorem exists_namesOf (h : ∀ v, under fields key other = some v → v.isAtom = false) :
    ∃ names, namesOf fields key other = .ok names := by
  cases hv : under fields key other with
  | none => exact ⟨[], namesOf_of_none hv⟩
  | some v =>
    obtain ⟨items, hitems⟩ := Value.exists_members (h v hv)
    rw [namesOf_of_some hv, hitems]
    exact ⟨_, rfl⟩

theorem namesOf_cases (fields : List (String × Value)) (key other : String) :
    (∃ names, namesOf fields key other = .ok names) ∨
      namesOf fields key other = .error .wrongKind := by
  by_cases h : ∀ v, under fields key other = some v → v.isAtom = false
  · exact .inl (exists_namesOf h)
  · push Not at h
    obtain ⟨v, hv, hatom⟩ := h
    exact .inr (namesOf_of_atom hv (by simpa using hatom))

def nameOf (fields : List (String × Value)) : String :=
  ((fields.lookup "name").getD (.text "")).plain

def paramsOf (fields : List (String × Value)) : Value :=
  (fields.lookup "params").getD (.object [])

theorem ofValue_typed {t : Value} {params : List (String × Value)}
    (ht : fields.lookup "type" = some t) (hp : paramsOf fields = .object params) :
    ofValue (.object fields) = (do
      let inputs ← namesOf fields "inputs" "bottom"
      let outputs ← namesOf fields "outputs" "top"
      let included ← phasesOf (nameOf fields) t.plain "include"
        ((fields.lookup "include").getD .null)
      let excluded ← phasesOf (nameOf fields) t.plain "exclude"
        ((fields.lookup "exclude").getD .null)
      return ⟨t.plain, nameOf fields, inputs, outputs.map .text, params, included, excluded⟩) := by
  rw [paramsOf] at hp
  simp only [ofValue, ht, hp]
  rfl

theorem ofValue_untyped (ht : fields.lookup "type" = none) :
    ofValue (.object fields) =
      .error (recordFault "layer declaration has no 'type'" (nameOf fields) "" "type") := by
  simp only [ofValue, ht]
  rfl

theorem ofValue_noMapping {t : Value} (ht : fields.lookup "type" = some t)
    (hp : ∀ params, paramsOf fields ≠ .object params) :
    ofValue (.object fields) =
      .error (recordFault "'params' must be a mapping" (nameOf fields) t.plain "params") := by
  unfold paramsOf at hp
  cases h : (fields.lookup "params").getD (.object []) with
  | object params => exact absurd h (hp params)
  | null | bool _ | int _ | float _ | text _ | list _ =>
    simp only [ofValue, ht, h]
    rfl

/-- A record with a tag and a mapping of parameters gives its inputs or its outputs by something
that has no members. -/
def NamesByAtom (v : Value) : Prop :=
  ∃ fields t params w, v = .object fields ∧ fields.lookup "type" = some t ∧
    paramsOf fields = .object params ∧
    (under fields "inputs" "bottom" = some w ∨ under fields "outputs" "top" = some w) ∧
    w.isAtom = true

/-- A failure that is explained to whoever wrote the record. -/
def RecordExplained (v : Value) (e : Failure) : Prop := ∃ f, e = .fault f ∧ f.ExplainsRecord v

theorem recordExplained {message name type parameter : String}
    (hname : ∀ w, fields.lookup "name" = some w → w.plain = name)
    (htype : ∀ w, fields.lookup "type" = some w → w.plain = type) :
    RecordExplained (.object fields) (recordFault message name type parameter) := by
  refine ⟨_, rfl, ⟨message, _, _, _, rfl⟩, ?_, ?_⟩
  · intro w hw hne
    obtain rfl := hname w hw
    simp [Fault.context, Fault.layerContext, Fault.entry?, Value.truthy, hne]
  · intro w hw hne
    obtain rfl := htype w hw
    simp [Fault.context, Fault.layerContext, Fault.entry?, Value.truthy, hne]

theorem phasesOf_failsOnly {name type : String}
    (hname : ∀ w, fields.lookup "name" = some w → w.plain = name)
    (htype : ∀ w, fields.lookup "type" = some w → w.plain = type) :
    FailsOnly (RecordExplained (.object fields)) (phasesOf name type key v) := by
  refine .mapM fun p _ => .explain (recordExplained hname htype) ?_
  unfold Phase.ofValue
  split
  · exact .ok _
  · exact .error (.inr (.inl rfl))

/-- A record whose names can be read is read, or it is refused with an explanation. -/
theorem ofValue_failsOnly (h : ¬ NamesByAtom v) : FailsOnly (RecordExplained v) (ofValue v) := by
  cases v with
  | object fields =>
    have hname : ∀ w, fields.lookup "name" = some w →
        w.plain = nameOf fields := by
      intro w hw
      rw [nameOf, hw, Option.getD_some]
    cases ht : fields.lookup "type" with
    | none =>
      rw [ofValue_untyped ht]
      refine .error (recordExplained hname fun w hw => ?_)
      rw [ht] at hw
      cases hw
    | some t =>
      have htype : ∀ w, fields.lookup "type" = some w → w.plain = t.plain := by
        intro w hw
        rw [Option.some.inj (ht.symm.trans hw)]
      by_cases hp : ∃ params, paramsOf fields = .object params
      · obtain ⟨params, hp⟩ := hp
        rw [ofValue_typed ht hp]
        have hread : ∀ w, under fields "inputs" "bottom" = some w ∨
            under fields "outputs" "top" = some w → w.isAtom = false := by
          intro w hw
          by_contra hatom
          exact h ⟨fields, t, params, w, rfl, ht, hp, hw, by simpa using hatom⟩
        have hinputs : ∃ names, namesOf fields "inputs" "bottom" = .ok names :=
          exists_namesOf fun w hw => hread w (.inl hw)
        have houtputs : ∃ names, namesOf fields "outputs" "top" = .ok names :=
          exists_namesOf fun w hw => hread w (.inr hw)
        refine .bind (.lift (.of_ok hinputs)) fun inputs _ => ?_
        refine .bind (.lift (.of_ok houtputs)) fun outputs _ => ?_
        refine .bind (phasesOf_failsOnly hname htype) fun included _ => ?_
        exact .bind (phasesOf_failsOnly hname htype) fun excluded _ => .ok _
      · rw [ofValue_noMapping ht fun params hparams => hp ⟨params, hparams⟩]
        exact .error (recordExplained hname htype)
  | null | bool _ | int _ | float _ | text _ | list _ =>
    refine .error ⟨_, rfl, ⟨_, _, _, _, rfl⟩, ?_, ?_⟩
    · intro w hw
      cases hw
    · intro w hw
      cases hw

/-- A record whose names cannot be read is not explained. -/
theorem ofValue_of_namesByAtom (h : NamesByAtom v) : ofValue v = .error (.misuse .wrongKind) := by
  obtain ⟨fields, t, params, w, rfl, ht, hp, hw, hatom⟩ := h
  rw [ofValue_typed ht hp]
  rcases namesOf_cases fields "inputs" "bottom" with ⟨names, hnames⟩ | hfail
  · have hout : under fields "outputs" "top" = some w := by
      refine hw.resolve_left fun hin => ?_
      rw [namesOf_of_atom hin hatom] at hnames
      cases hnames
    rw [hnames, namesOf_of_atom hout hatom]
    rfl
  · rw [hfail]
    rfl

/-- A record of any shape is read or refused with an explanation, unless its names are given by
something that has no members. -/
theorem ofValue_explained_iff (v : Value) :
    (((∃ d, ofValue v = .ok d) ∨ ∃ f, ofValue v = .error (.fault f) ∧ f.ExplainsRecord v) ↔
      ¬ NamesByAtom v) ∧
    (ofValue v = .error (.misuse .wrongKind) ↔ NamesByAtom v) := by
  have hread : ¬ NamesByAtom v →
      (∃ d, ofValue v = .ok d) ∨ ∃ f, ofValue v = .error (.fault f) ∧ f.ExplainsRecord v := by
    intro h
    cases hv : ofValue v with
    | ok d => exact .inl ⟨d, rfl⟩
    | error e =>
      obtain ⟨f, rfl, hf⟩ := ofValue_failsOnly h e hv
      exact .inr ⟨f, rfl, hf⟩
  have hexclusive : ((∃ d, ofValue v = .ok d) ∨
      ∃ f, ofValue v = .error (.fault f) ∧ f.ExplainsRecord v) →
      ofValue v ≠ .error (.misuse .wrongKind) := by
    rintro (⟨d, hd⟩ | ⟨f, hf, -⟩) hmisuse
    · rw [hd] at hmisuse
      cases hmisuse
    · rw [hf] at hmisuse
      cases hmisuse
  constructor
  · exact ⟨fun h hatom => hexclusive h (ofValue_of_namesByAtom hatom), hread⟩
  · refine ⟨fun h => ?_, ofValue_of_namesByAtom⟩
    by_contra hatom
    exact hexclusive (hread hatom) h

def nullInputs : Value :=
  .object [("type", .text "ReLU"), ("name", .text "relu"), ("inputs", .null),
    ("outputs", .list [.text "y"])]

theorem not_explained_nullInputs :
    ¬ ((∃ d, ofValue nullInputs = .ok d) ∨ ∃ f, ofValue nullInputs = .error (.fault f)) := by
  rintro (⟨d, hd⟩ | ⟨f, hf⟩)
  · cases hd
  · cases hf

end Declaration

end NetFootprint
