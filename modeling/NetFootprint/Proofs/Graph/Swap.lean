import NetFootprint.Proofs.Graph.Carried

/-!
# Independent layers in the other order

Two neighbouring layers that do not refer to each other may change places. What is on the device is
the same then, with one exception: a layer that hands on whether its input is on the device looks at
it when it is built. If the other layer is the first to put this input on the device, the blobs that
are handed on are disputed: they are on the device in one of the two orders only. A later layer that
computes on the device settles the matter for the disputed blobs that it reads, and a later layer
that hands on a disputed blob adds what it makes to the dispute.
-/

namespace NetFootprint

namespace Declaration

variable {a b d : Declaration} {on on' : Residency} {name : String} {disputed : List String}

/-- Neither declaration refers to what the other writes, and they write different blobs. -/
structure Independent (a b : Declaration) : Prop where
  left : ∀ name, .text name ∈ b.outputs → ¬a.Refers name
  right : ∀ name, .text name ∈ a.outputs → ¬b.Refers name
  apart : ∀ top ∈ a.outputs, top ∉ b.outputs

theorem Independent.symm (h : a.Independent b) : b.Independent a where
  left := h.right
  right := h.left
  apart top hb ha := h.apart top ha hb

/-- The layer hands on whether its input is on the device, and the other layer puts it there. -/
def waitsFor (d other : Declaration) (on : Residency) : Bool :=
  d.handsOn && (other.readsOnDevice &&
    d.inputs.any fun input => other.inputs.contains input && on input == some false)

/-- The blobs that are on the device in only one of the two orders of two layers. -/
def dispute (a b : Declaration) (on : Residency) : List String :=
  (if a.waitsFor b on then a.outputNames else []) ++
    if b.waitsFor a on then b.outputNames else []

def stillDisputed (disputed : List String) (d : Declaration) : List String :=
  disputed.filter (fun name => !(d.readsOnDevice && d.inputs.contains name)) ++
    if d.handsOn && d.inputs.any disputed.contains then d.outputNames else []

theorem mem_dispute : name ∈ dispute a b on ↔
    a.waitsFor b on = true ∧ name ∈ a.outputNames ∨
      b.waitsFor a on = true ∧ name ∈ b.outputNames := by
  simp [dispute, List.mem_append]

theorem mem_stillDisputed : name ∈ stillDisputed disputed d ↔
    name ∈ disputed ∧ (d.readsOnDevice && d.inputs.contains name) = false ∨
      (d.handsOn && d.inputs.any disputed.contains) = true ∧ name ∈ d.outputNames := by
  simp only [stillDisputed, List.mem_append, List.mem_filter, Bool.not_eq_true',
    List.mem_ite_nil_right]

/-! ## Two layers -/

theorem carry_isSome (h : (on name).isSome = true) : (d.carry on name).isSome = true := by
  obtain ⟨resident, hres⟩ := Option.isSome_iff_exists.mp h
  rw [carry_known hres]
  rfl

/-- The second of two independent layers could be added without the first. -/
theorem Fits.of_carry (h : b.Fits (a.carry on)) (hind : a.Independent b) : b.Fits on where
  known := by
    intro input hin
    cases hon : on input with
    | some resident => rfl
    | none =>
      have hout : input ∉ a.outputNames := by
        intro hout
        exact hind.right input (mem_outputNames.mp hout) (.inl hin)
      have hknown := h.known input hin
      rwa [carry_unknown hon hout] at hknown
  single := h.single
  fresh := by
    intro hhands name hout
    have hnone := h.fresh hhands name hout
    rw [← Option.not_isSome_iff_eq_none] at hnone ⊢
    exact mt carry_isSome hnone

theorem carry_carry_known {resident : Bool} (h : on name = some resident) :
    a.carry (b.carry on) name = b.carry (a.carry on) name := by
  rw [carry_known (carry_known h), carry_known (carry_known h), Bool.or_right_comm]

theorem carry_carry_unknown (h : on name = none) (ha : name ∉ a.outputNames)
    (hb : name ∉ b.outputNames) : b.carry (a.carry on) name = none :=
  carry_unknown (carry_unknown h ha) hb

theorem carry_carry_made (hind : a.Independent b) (ha : a.Fits on) (hnone : on name = none)
    (hout : name ∈ a.outputNames) :
    ∃ resident, b.carry (a.carry on) name = some resident ∧
      a.carry (b.carry on) name = some (resident ^^ a.waitsFor b on) := by
  have htop := mem_outputNames.mp hout
  have hunread : b.inputs.contains name = false := by
    rw [Bool.eq_false_iff, ne_eq, List.contains_iff_mem]
    exact fun hin => hind.right name htop (.inl hin)
  have hfree : b.carry on name = none :=
    carry_unknown hnone fun hb => hind.apart _ htop (mem_outputNames.mp hb)
  refine ⟨_, carry_known (carry_new hnone hout), ?_⟩
  rw [carry_new hfree hout, hunread, Bool.and_false, Bool.or_false]
  cases hhands : a.handsOn with
  | false => simp [waitsFor, hhands]
  | true =>
    obtain ⟨input, hin⟩ := ha.single hhands
    obtain ⟨resident, hres⟩ := Option.isSome_iff_exists.mp (ha.known input (by simp [hin]))
    simp only [waitsFor, hhands, off_of_handsOn hhands, hin, List.any_cons, List.any_nil,
      carry_known hres, hres]
    cases resident <;> cases b.readsOnDevice <;> cases b.inputs.contains input <;> rfl

end Declaration

/-- Two residencies are the same but for some names, about which they disagree. -/
structure Residency.Differ (on on' : Residency) (disputed : List String) : Prop where
  agree : ∀ name ∉ disputed, on' name = on name
  disagree : ∀ name ∈ disputed, ∃ resident, on name = some resident ∧ on' name = some !resident

namespace Residency.Differ

open Declaration

variable {a b d : Declaration} {on on' : Residency} {disputed : List String}

/-- In the two orders of independent layers the disputed blobs differ, and no others do. -/
theorem of_independent (hind : a.Independent b) (ha : a.Fits on) (hb : b.Fits (a.carry on)) :
    Differ (b.carry (a.carry on)) (a.carry (b.carry on)) (dispute a b on) := by
  have hb' : b.Fits on := hb.of_carry hind
  have hfresh : ∀ name ∈ dispute a b on, on name = none := by
    intro name hname
    rcases mem_dispute.mp hname with ⟨hwaits, hout⟩ | ⟨hwaits, hout⟩
    · exact ha.fresh (Bool.and_eq_true_iff.mp hwaits).1 name hout
    · exact hb'.fresh (Bool.and_eq_true_iff.mp hwaits).1 name hout
  have hapart : ∀ name, name ∈ a.outputNames → name ∉ b.outputNames := by
    intro name hname
    rw [mem_outputNames] at hname ⊢
    exact hind.apart _ hname
  constructor
  · intro name hname
    rw [mem_dispute, not_or] at hname
    cases hon : on name with
    | some resident => exact carry_carry_known hon
    | none =>
      by_cases hout : name ∈ a.outputNames
      · obtain ⟨resident, hab, hba⟩ := carry_carry_made hind ha hon hout
        have hno : a.waitsFor b on = false := Bool.eq_false_iff.mpr fun h => hname.1 ⟨h, hout⟩
        rw [hab, hba, hno, Bool.xor_false]
      · by_cases hout' : name ∈ b.outputNames
        · obtain ⟨resident, hba, hab⟩ := carry_carry_made hind.symm hb' hon hout'
          have hno : b.waitsFor a on = false := Bool.eq_false_iff.mpr fun h => hname.2 ⟨h, hout'⟩
          rw [hab, hba, hno, Bool.xor_false]
        · rw [carry_carry_unknown hon hout hout', carry_carry_unknown hon hout' hout]
  · intro name hname
    have hon := hfresh name hname
    rcases mem_dispute.mp hname with ⟨hwaits, hout⟩ | ⟨hwaits, hout⟩
    · obtain ⟨resident, hab, hba⟩ := carry_carry_made hind ha hon hout
      exact ⟨resident, hab, by rw [hba, hwaits, Bool.xor_true]⟩
    · obtain ⟨resident, hba, hab⟩ := carry_carry_made hind.symm hb' hon hout
      refine ⟨!resident, by rw [hab, hwaits, Bool.xor_true], by rw [hba, Bool.not_not]⟩

/-- One more layer settles what it reads on the device, and disputes what it hands on. -/
theorem carry (h : Differ on on' disputed) (hd : d.Fits on) :
    Differ (d.carry on) (d.carry on') (stillDisputed disputed d) := by
  constructor
  · intro name hname
    rw [mem_stillDisputed, not_or] at hname
    by_cases hmem : name ∈ disputed
    · obtain ⟨resident, hon, hon'⟩ := h.disagree name hmem
      have hread : (d.readsOnDevice && d.inputs.contains name) = true := by
        simpa [hmem] using hname.1
      rw [carry_known hon, carry_known hon', hread, Bool.or_true, Bool.or_true]
    · have hsame := h.agree name hmem
      cases hon : on name with
      | some resident => rw [carry_known hon, carry_known (hsame.trans hon)]
      | none =>
        by_cases hout : name ∈ d.outputNames
        · rw [carry_new hon hout, carry_new (hsame.trans hon) hout]
          cases hhands : d.handsOn with
          | false => rfl
          | true =>
            obtain ⟨input, hin⟩ := hd.single hhands
            have hagreed : input ∉ disputed := by
              simpa [hhands, hout, hin] using hname.2
            simp only [hin, List.any_cons, List.any_nil, h.agree input hagreed]
        · rw [carry_unknown hon hout, carry_unknown (hsame.trans hon) hout]
  · intro name hname
    rcases mem_stillDisputed.mp hname with ⟨hmem, hunread⟩ | ⟨hhanded, hout⟩
    · obtain ⟨resident, hon, hon'⟩ := h.disagree name hmem
      rw [carry_known hon, carry_known hon', hunread, Bool.or_false, Bool.or_false]
      exact ⟨resident, rfl, rfl⟩
    · obtain ⟨hhands, hany⟩ := Bool.and_eq_true_iff.mp hhanded
      obtain ⟨input, hin⟩ := hd.single hhands
      have hdisputed : input ∈ disputed := by simpa [hin] using hany
      obtain ⟨resident, hinput, hinput'⟩ := h.disagree input hdisputed
      have hon := hd.fresh hhands name hout
      have hon' : on' name = none := by
        rw [h.agree name, hon]
        intro hmem
        obtain ⟨_, hknown, -⟩ := h.disagree name hmem
        rw [hon] at hknown
        cases hknown
      rw [carry_new hon hout, carry_new hon' hout, hhands, off_of_handsOn hhands, hin]
      refine ⟨resident, ?_, ?_⟩ <;> cases resident <;> simp [hinput, hinput']

theorem nil_iff (h : Differ on on' disputed) : disputed = [] ↔ on' = on := by
  constructor
  · rintro rfl
    funext name
    exact h.agree name List.not_mem_nil
  · rintro rfl
    apply List.eq_nil_iff_forall_not_mem.mpr
    intro name hmem
    obtain ⟨resident, hon, hon'⟩ := h.disagree name hmem
    rw [hon] at hon'
    cases resident <;> cases hon'

end Residency.Differ

/-! ## Runs -/

open Declaration

theorem Visible.swap {first rest : List Declaration} {a b : Declaration}
    (h : Visible (first ++ a :: b :: rest)) (hind : a.Independent b) :
    Visible (first ++ b :: a :: rest) := by
  have hperm : (first ++ [a] ++ [b]).Perm (first ++ [b] ++ [a]) := by
    rw [List.append_assoc, List.append_assoc]
    exact (List.Perm.swap b a []).append_left first
  rw [List.append_cons, List.append_cons] at h ⊢
  apply h.append_perm _ hperm
  have hpair := h.of_append
  simp only [visible_snoc_iff] at hpair ⊢
  obtain ⟨⟨hfirst, ha⟩, hb⟩ := hpair
  refine ⟨⟨hfirst, fun name hrefers => ?_⟩, fun name hrefers => ?_⟩
  · obtain ⟨earlier, hmem, htop⟩ := hb name hrefers
    rcases List.mem_append.mp hmem with hmem | hlast
    · exact ⟨earlier, hmem, htop⟩
    · obtain rfl := List.mem_singleton.mp hlast
      exact absurd hrefers (hind.right name htop)
  · obtain ⟨earlier, hmem, htop⟩ := ha name hrefers
    exact ⟨earlier, List.mem_append_left _ hmem, htop⟩

namespace Graph

variable {g g' : Graph} {phase : Phase} {elementSize : Option (List Float)}
  {ds first rest : List Declaration} {a b : Declaration}

theorem Built.differ_extendAll (h : Built phase elementSize ds g) (hnamed : ∀ d ∈ rest, d.Named)
    (hg : g.extendAll rest = .ok g') {on : Residency} {disputed : List String}
    (hdiffer : g.residency.Differ on disputed) :
    g'.residency.Differ (rest.foldl (fun on d => d.carry on) on)
      (rest.foldl stillDisputed disputed) := by
  induction rest generalizing g ds on disputed with
  | nil =>
    obtain rfl := pure_eq_ok.mp hg
    exact hdiffer
  | cons d rest ih =>
    obtain ⟨hd, hrest⟩ := List.forall_mem_cons.mp hnamed
    obtain ⟨next, hnext, hg⟩ := extendAll_cons_eq_ok.mp hg
    have hstep := hdiffer.carry (h.fits hnext)
    rw [← h.residency_extend hd hnext] at hstep
    exact ih (h.extend hd.text hnext) hrest hg hstep

/-- Two independent neighbours may be built in either order. The two graphs have the same blobs and
layers, and what is on the device differs for the disputed blobs and for no others. -/
theorem extendAll_swapped (hnamed : ∀ d ∈ first ++ a :: b :: rest, d.Named)
    (hind : a.Independent b)
    (h : (empty phase elementSize).extendAll (first ++ a :: b :: rest) = .ok g) :
    ∃ before g', (empty phase elementSize).extendAll first = .ok before ∧
      (empty phase elementSize).extendAll (first ++ b :: a :: rest) = .ok g' ∧
      Built phase elementSize (first ++ a :: b :: rest) g ∧
      Built phase elementSize (first ++ b :: a :: rest) g' ∧ g.Reordered g' ∧
      g.residency.Differ g'.residency
        (rest.foldl stillDisputed (dispute a b before.residency)) := by
  have hstart := Built.empty phase elementSize
  have hperm : (first ++ a :: b :: rest).Perm (first ++ b :: a :: rest) :=
    (List.Perm.swap b a rest).append_left first
  have hvisible : Visible (first ++ b :: a :: rest) :=
    (hstart.visible visible_nil hnamed h).swap hind
  obtain ⟨g', hg', hbuilt, hbuilt', hreordered⟩ := extendAll_reordered hnamed hperm hvisible h
  obtain ⟨before, hbefore, hrest⟩ := extendAll_append_eq_ok.mp h
  obtain ⟨before', hbefore', hrest'⟩ := extendAll_append_eq_ok.mp hg'
  obtain rfl := eq_of_ok hbefore hbefore'
  obtain ⟨hfirst, hmore⟩ := List.forall_mem_append.mp hnamed
  simp only [List.forall_mem_cons] at hmore
  obtain ⟨ha, hb, hnamedRest⟩ := hmore
  have hfirstBuilt := hstart.extendAll (fun d hd => (hfirst d hd).text) hbefore
  obtain ⟨one, hone, hmore⟩ := extendAll_cons_eq_ok.mp hrest
  obtain ⟨two, htwo, hend⟩ := extendAll_cons_eq_ok.mp hmore
  -- only the two neighbours bring in a difference; the layers after them carry it on
  have hcarried := hfirstBuilt.residency_extend ha hone
  have hpair := hfirstBuilt.extend ha.text hone
  have hfits := hpair.fits htwo
  rw [hcarried] at hfits
  have hdiffer := Residency.Differ.of_independent hind (hfirstBuilt.fits hone) hfits
  rw [← hcarried, ← hpair.residency_extend hb htwo] at hdiffer
  have hend := (hpair.extend hb.text htwo).differ_extendAll hnamedRest hend hdiffer
  have hother : g'.residency =
      rest.foldl (fun on d => d.carry on) (a.carry (b.carry before.residency)) :=
    hfirstBuilt.residency_extendAll (by simpa [ha, hb] using hnamedRest) hrest'
  rw [← hother] at hend
  exact ⟨before, g', hbefore, hg', hbuilt, hbuilt', hreordered, hend⟩

end Graph

end NetFootprint
