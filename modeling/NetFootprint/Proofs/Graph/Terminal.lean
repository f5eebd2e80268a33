import Mathlib.Data.List.Induction
import NetFootprint.Proofs.Graph.Staged

/-!
# The outputs of a graph

The terminal ids are kept up to date by each layer: what it reads is taken out, what it writes is put
at the end unless it stands there. So the outputs of a graph are the blobs whose last use is a write,
in the order of these writes. A layer that works in place reads what it writes, so it moves the blob
to the end.
-/

namespace NetFootprint

/-- The layer reads or writes the blob at a place. -/
def Layer.Uses (l : Layer) (ref : Nat) : Prop := some ref ∈ l.inputs ∨ ref ∈ l.outputs

/-- The layer at an index is the last one that reads or writes the blob at a place. -/
structure LastUse (layers : List Layer) (ref k : Nat) (l : Layer) : Prop where
  index : layers[k]? = some l
  uses : l.Uses ref
  last : ∀ j l', layers[j]? = some l' → l'.Uses ref → j ≤ k

theorem getElem?_snoc_iff {α : Type} {xs : List α} {x y : α} {j : Nat} :
    (xs ++ [x])[j]? = some y ↔ xs[j]? = some y ∨ j = xs.length ∧ y = x := by
  rw [List.getElem?_append]
  split
  · next hlt => simp [Nat.ne_of_lt hlt]
  · next hle =>
    rw [List.getElem?_eq_none (Nat.le_of_not_lt hle), List.getElem?_singleton]
    by_cases hj : j = xs.length
    · simp [hj, eq_comm]
    · have hpos : j - xs.length ≠ 0 := by omega
      simp [hj, hpos]

/-- One more layer is the last use of what it reads or writes, and of nothing else. -/
theorem lastUse_snoc_iff {layers : List Layer} {last l : Layer} {ref k : Nat} :
    LastUse (layers ++ [last]) ref k l ↔
      last.Uses ref ∧ k = layers.length ∧ l = last ∨ ¬ last.Uses ref ∧ LastUse layers ref k l := by
  have hself : (layers ++ [last])[layers.length]? = some last :=
    getElem?_snoc_iff.mpr (.inr ⟨rfl, rfl⟩)
  constructor
  · rintro ⟨hk, huses, hlast⟩
    rcases getElem?_snoc_iff.mp hk with hold | ⟨rfl, rfl⟩
    · have hlt := (List.getElem?_eq_some_iff.mp hold).1
      refine .inr ⟨fun hlater => ?_, hold, huses, fun j l' hj => ?_⟩
      · have hle := hlast _ _ hself hlater
        omega
      · exact hlast j l' (getElem?_snoc_iff.mpr (.inl hj))
    · exact .inl ⟨huses, rfl, rfl⟩
  · rintro (⟨huses, rfl, rfl⟩ | ⟨hnot, hk, huses, hlast⟩)
    · refine ⟨hself, huses, fun j l' hj _ => ?_⟩
      have hlt := (List.getElem?_eq_some_iff.mp hj).1
      rw [List.length_append, List.length_singleton] at hlt
      omega
    · refine ⟨getElem?_snoc_iff.mpr (.inl hk), huses, fun j l' hj huse => ?_⟩
      rcases getElem?_snoc_iff.mp hj with hold | ⟨-, rfl⟩
      · exact hlast j l' hold huse
      · exact absurd huse hnot

namespace Graph

variable {g g' : Graph} {l : Layer} {draft : Draft} {ref : Nat} {fresh : List Nat}
  {rank : Option Int}

/-! ## Lists without repetitions -/

theorem mem_foldl_addId {new ids : List Nat} {id : Nat} :
    id ∈ new.foldl addId ids ↔ id ∈ ids ∨ id ∈ new := by
  induction new generalizing ids with
  | nil => simp
  | cons first rest ih => simp [ih, mem_addId, or_assoc]

theorem foldl_addId_of_disjoint {new ids : List Nat} (h : ∀ id ∈ new, id ∉ ids) :
    new.foldl addId ids = ids ++ new.foldl addId [] := by
  have hstep (more : List Nat) (id : Nat) (hid : id ∉ ids) :
      addId (ids ++ more) id = ids ++ addId more id := by
    by_cases hmore : id ∈ more <;> simp [addId, hid, hmore]
  have hgeneral (more : List Nat) :
      new.foldl addId (ids ++ more) = ids ++ new.foldl addId more := by
    induction new generalizing more with
    | nil => rfl
    | cons first rest ih =>
      obtain ⟨hfirst, hrest⟩ := List.forall_mem_cons.mp h
      rw [List.foldl_cons, List.foldl_cons, hstep more first hfirst, ih hrest]
  simpa using hgeneral []

theorem pairwise_foldl_addId (new : List Nat) :
    (new.foldl addId []).Pairwise fun a b => new.idxOf a < new.idxOf b := by
  induction new using List.reverseRecOn with
  | nil => simp
  | append_singleton rest last ih =>
    have hmem {id : Nat} (hid : id ∈ rest.foldl addId []) : id ∈ rest := by
      simpa [mem_foldl_addId] using hid
    have hold : (rest.foldl addId []).Pairwise fun a b =>
        (rest ++ [last]).idxOf a < (rest ++ [last]).idxOf b := by
      refine ih.imp_of_mem fun ha hb hlt => ?_
      rwa [List.idxOf_append_of_mem (hmem ha), List.idxOf_append_of_mem (hmem hb)]
    rw [List.foldl_append, List.foldl_cons, List.foldl_nil, addId]
    split
    · exact hold
    · next hnot =>
      have hlast : last ∉ rest := by simpa [mem_foldl_addId] using hnot
      refine List.pairwise_append.mpr ⟨hold, List.pairwise_singleton _ _, fun a ha b hb => ?_⟩
      rw [List.mem_singleton.mp hb, List.idxOf_append_of_mem (hmem ha),
        List.idxOf_append_of_notMem hlast]
      exact Nat.lt_add_right _ (List.idxOf_lt_length_of_mem (hmem ha))

theorem filterMap_foldl_addId {f : Nat → Option Nat}
    (hinj : ∀ i j r, f i = some r → f j = some r → i = j) {new : List Nat}
    (hnew : ∀ i ∈ new, ∃ r, f i = some r) (ids : List Nat) :
    (new.foldl addId ids).filterMap f = (new.filterMap f).foldl addId (ids.filterMap f) := by
  induction new generalizing ids with
  | nil => rfl
  | cons i rest ih =>
    obtain ⟨⟨r, hr⟩, hrest⟩ := List.forall_mem_cons.mp hnew
    have hmem : i ∈ ids ↔ r ∈ ids.filterMap f := by
      rw [List.mem_filterMap]
      constructor
      · exact fun hi => ⟨i, hi, hr⟩
      · rintro ⟨j, hj, hjr⟩
        rwa [hinj i j r hr hjr]
    have hstep : (addId ids i).filterMap f = addId (ids.filterMap f) r := by
      by_cases hi : i ∈ ids
      · simp [addId, hi, hmem.mp hi]
      · have hnot : r ∉ ids.filterMap f := fun hmem' => hi (hmem.mpr hmem')
        simp [addId, List.contains_eq_mem, hi, hnot, hr, -List.mem_filterMap]
    rw [List.foldl_cons, ih hrest, hstep, List.filterMap_cons_some hr, List.foldl_cons]

/-! ## Ids -/

theorem Numbered.empty (phase : Phase) (elementSize : Option (List Float)) :
    (Graph.empty phase elementSize).Numbered := by
  intro ref i
  simp [Graph.empty, blob, show (default : Blob).id = none from rfl]

theorem Numbered.foldl_register (h : g.Numbered) (hfresh : fresh.Nodup)
    (hnew : ∀ ref ∈ fresh, ref < g.blobs.length ∧ ref ∉ g.registered) :
    (fresh.foldl Graph.register g).Numbered := by
  induction fresh generalizing g with
  | nil => exact h
  | cons ref rest ih =>
    obtain ⟨⟨hlt, hnot⟩, hrest⟩ := List.forall_mem_cons.mp hnew
    obtain ⟨hself, hnodup⟩ := List.nodup_cons.mp hfresh
    refine ih (h.register hlt hnot) hnodup fun other hother => ⟨?_, ?_⟩
    · simpa [Graph.register] using (hrest other hother).1
    · have hne : other ≠ ref := fun he => hself (he ▸ hother)
      simp [Graph.register, (hrest other hother).2, hne]

theorem Numbered.marked (h : g.Numbered) (l : Layer) : (g.marked l).Numbered := by
  intro ref i
  rw [id_blob_marked, h ref i, marked_eq]

theorem Numbered.withRank (h : g.Numbered) (rank : Option Int) : (g.withRank rank).Numbered := by
  intro ref i
  rw [withRank_eq]
  exact h ref i

theorem Numbered.accepted (h : g.Numbered) (hfresh : fresh.Nodup)
    (hnew : ∀ ref ∈ fresh, ref < g.blobs.length ∧ ref ∉ g.registered) :
    (g.accepted l fresh rank).Numbered := by
  have hready : (((g.withRank rank).marked l).enlist l).Numbered := (h.withRank rank).marked l
  refine hready.foldl_register hfresh fun ref href => ?_
  change ref < ((g.withRank rank).marked l).blobs.length ∧
    ref ∉ ((g.withRank rank).marked l).registered
  rw [length_blobs_marked, marked_eq, withRank_eq]
  exact hnew ref href

theorem terminal_accepted : (g.accepted l fresh rank).terminal =
    ((g.accepted l fresh rank).idsOf l.outputs).foldl addId
      (g.terminal.filter fun id => !(g.idsOf l.leading).contains id) := by
  have hids : ((g.withRank rank).marked l).idsOf l.leading = g.idsOf l.leading := by
    simp only [idsOf, id_blob_marked]
    rw [withRank_eq]
    rfl
  have hterminal : ((((g.withRank rank).marked l).enlist l).terminal) =
      g.terminal.filter fun id => !(g.idsOf l.leading).contains id := by
    rw [enlist, hids, marked_eq, withRank_eq]
  rw [← hterminal, accepted, publish, foldl_register_eq]
  rfl

theorem Numbered.filterMap_idsOf (h : g.Numbered) {refs : List Nat}
    (hrefs : ∀ ref ∈ refs, ref ∈ g.registered) :
    (g.idsOf refs).filterMap (g.registered[·]?) = refs := by
  induction refs with
  | nil => rfl
  | cons ref rest ih =>
    obtain ⟨hmem, hrest⟩ := List.forall_mem_cons.mp hrefs
    obtain ⟨i, hi⟩ := List.mem_iff_getElem?.mp hmem
    simp only [idsOf, List.filterMap_cons, (h ref i).mpr hi, hi]
    exact congrArg (ref :: ·) (ih hrest)

theorem Numbered.inj (h : g.Numbered) {i j : Nat} (hi : g.registered[i]? = some ref)
    (hj : g.registered[j]? = some ref) : i = j :=
  Option.some.inj (((h ref i).mpr hi).symm.trans ((h ref j).mpr hj))

/-! ## One step -/

def outputRefs (g : Graph) : List Nat := g.terminal.filterMap (g.registered[·]?)

theorem outputs_eq (g : Graph) : g.outputs = g.outputRefs.map g.blob := by
  rw [outputs, outputRefs, List.map_filterMap]

def unread (g : Graph) (l : Layer) : List Nat :=
  g.outputRefs.filter fun ref => !l.inputs.contains (some ref)

theorem new_unregistered (hplaced : ∀ ref ∈ g.registered, ref < g.blobs.length) (draft : Draft) :
    ∀ ref ∈ List.range' g.blobs.length (madeBlobs draft.outputs).length,
      ref < (g.grown draft).blobs.length ∧ ref ∉ (g.grown draft).registered := by
  intro ref href
  rw [List.mem_range'_1] at href
  refine ⟨?_, fun hmem => ?_⟩
  · rw [grown, List.length_append]
    exact href.2
  · exact absurd (hplaced ref hmem) (Nat.not_lt.mpr href.1)

theorem Adds.numbered (h : g.Adds l draft g')
    (hplaced : ∀ ref ∈ g.registered, ref < g.blobs.length) (hg : g.Numbered) : g'.Numbered := by
  obtain ⟨rank, hg'⟩ := h.taken
  have hgrown : (g.grown draft).Numbered := hg.placing hplaced rfl (id_of_made h.drafted) rfl
  rw [hg']
  exact hgrown.accepted List.nodup_range' (new_unregistered hplaced draft)

/-- A layer takes what it reads out of the outputs of a graph and puts what it writes at the end. -/
theorem Adds.outputRefs_eq (h : g.Adds l draft g')
    (hplaced : ∀ ref ∈ g.registered, ref < g.blobs.length) (hg : g.Numbered)
    (hterminal : ∀ id ∈ g.terminal, id < g.registered.length) :
    g'.outputRefs = l.outputs.foldl addId (g.unread l) := by
  have hnumbered := h.numbered hplaced hg
  have hlookup {id : Nat} (hid : id ∈ g.terminal) : g'.registered[id]? = g.registered[id]? := by
    rw [h.registered, List.getElem?_append_left (hterminal id hid)]
  -- an id is read by the layer exactly if its blob is
  have hread {id r : Nat} (hr : g.registered[id]? = some r) :
      id ∈ g.idsOf l.leading ↔ some r ∈ l.inputs := by
    rw [idsOf, List.mem_filterMap, ← h.mem_leading_iff]
    constructor
    · rintro ⟨r', hlead, hid⟩
      rwa [Option.some.inj (hr.symm.trans ((hg r' id).mp hid))]
    · exact fun hlead => ⟨r, hlead, (hg r id).mpr hr⟩
  have hkept : (g.terminal.filter fun id => !(g.idsOf l.leading).contains id).filterMap
      (g'.registered[·]?) = g.unread l := by
    rw [unread, outputRefs, List.filter_filterMap, List.filterMap_filter]
    refine List.filterMap_congr fun id hid => ?_
    rw [hlookup hid]
    obtain ⟨r, hr⟩ : ∃ r, g.registered[id]? = some r :=
      ⟨_, List.getElem?_eq_getElem (hterminal id hid)⟩
    by_cases hin : some r ∈ l.inputs
    · simp [hr, hin, (hread hr).mpr hin, Option.filter_some]
    · have hnot : id ∉ g.idsOf l.leading := fun hmem => hin ((hread hr).mp hmem)
      simp [hr, hin, hnot, Option.filter_some]
  obtain ⟨rank, hg'⟩ := h.taken
  have hids : (g.grown draft).idsOf l.leading = g.idsOf l.leading := by
    refine List.filterMap_congr fun ref href => ?_
    obtain ⟨r, hsome, hr⟩ := h.inputs_registered (h.mem_leading_iff.mp href)
    rw [Option.some.inj hsome, blob_grown_of_lt (hplaced r hr)]
  have hstep : g'.terminal = (g'.idsOf l.outputs).foldl addId
      (g.terminal.filter fun id => !(g.idsOf l.leading).contains id) := by
    rw [← hids, hg']
    exact terminal_accepted
  have hout : ∀ ref ∈ l.outputs, ref ∈ g'.registered := fun ref href => h.output_registered href
  rw [outputRefs, hstep, filterMap_foldl_addId (fun i j r => hnumbered.inj), hkept,
    hnumbered.filterMap_idsOf hout]
  intro id hid
  obtain ⟨ref, -, href⟩ := List.mem_filterMap.mp hid
  exact ⟨ref, (hnumbered ref id).mp href⟩

/-! ## Runs -/

/-- The last use of one blob is before that of another, or it is the same layer, which writes the one
in front of the other. -/
def UsedBefore (layers : List Layer) (a b : Nat) : Prop :=
  ∃ k l k' l', LastUse layers a k l ∧ LastUse layers b k' l' ∧
    (k < k' ∨ k = k' ∧ l.outputs.idxOf a < l'.outputs.idxOf b)

/-- The outputs of a graph are the registered blobs whose last use is a write, each of them once and
in the order of these writes. -/
structure ExactOutputs (g : Graph) : Prop where
  blobs : g.outputs = g.outputRefs.map g.blob
  mem : ∀ ref, ref ∈ g.outputRefs ↔
    ref ∈ g.registered ∧ ∃ k l, LastUse g.layers ref k l ∧ ref ∈ l.outputs
  nodup : g.outputRefs.Nodup
  ordered : g.outputRefs.Pairwise (UsedBefore g.layers)

theorem ExactOutputs.empty (phase : Phase) (elementSize : Option (List Float)) :
    (Graph.empty phase elementSize).ExactOutputs where
  blobs := rfl
  mem ref := by simp [outputRefs, Graph.empty]
  nodup := List.nodup_nil
  ordered := .nil

/-- The outputs are a matter of ids and layers, and of those blobs that are registered. -/
theorem ExactOutputs.grown (h : g.ExactOutputs) (draft : Draft) : (g.grown draft).ExactOutputs where
  blobs := outputs_eq _
  mem := h.mem
  nodup := h.nodup
  ordered := h.ordered

theorem UsedBefore.snoc {layers : List Layer} {a b : Nat} (h : UsedBefore layers a b)
    (ha : ¬ l.Uses a) (hb : ¬ l.Uses b) : UsedBefore (layers ++ [l]) a b := by
  obtain ⟨k, l₁, k', l₂, hk, hk', horder⟩ := h
  exact ⟨k, l₁, k', l₂, lastUse_snoc_iff.mpr (.inr ⟨ha, hk⟩), lastUse_snoc_iff.mpr (.inr ⟨hb, hk'⟩),
    horder⟩

theorem UsedBefore.ne {layers : List Layer} {a b : Nat} (h : UsedBefore layers a b) : a ≠ b := by
  rintro rfl
  obtain ⟨k, l₁, k', l₂, hk, hk', horder⟩ := h
  have hle := hk.last _ _ hk'.index hk'.uses
  have hge := hk'.last _ _ hk.index hk.uses
  rcases horder with hlt | ⟨rfl, hlt⟩
  · omega
  · obtain rfl := Option.some.inj (hk.index.symm.trans hk'.index)
    exact Nat.lt_irrefl _ hlt

theorem Adds.lastUse (h : g.Adds l draft g') (huse : l.Uses ref) :
    LastUse g'.layers ref g.layers.length l := by
  rw [h.layers]
  exact lastUse_snoc_iff.mpr (.inl ⟨huse, rfl, rfl⟩)

/-- What a layer does not read it does not write either: an output that is no input is new. -/
theorem Adds.not_uses (h : g.Adds l draft g')
    (hplaced : ∀ ref ∈ g.registered, ref < g.blobs.length) (href : ref ∈ g.registered)
    (hread : some ref ∉ l.inputs) : ¬ l.Uses ref := by
  refine fun huse => huse.elim hread fun hout => ?_
  obtain ⟨i, hi⟩ := List.mem_iff_getElem?.mp hout
  rcases h.output_at hi with ⟨hnew, -⟩ | ⟨-, -, hin, -⟩
  · exact absurd (hplaced ref href) (Nat.not_lt.mpr hnew)
  · exact hread (List.mem_of_getElem? hin)

theorem Adds.of_mem_unread (h : g.Adds l draft g') (hg : g.ExactOutputs)
    (hplaced : ∀ ref ∈ g.registered, ref < g.blobs.length) (href : ref ∈ g.unread l) :
    ref ∈ g.outputRefs ∧ ¬ l.Uses ref := by
  obtain ⟨hold, hread⟩ := List.mem_filter.mp href
  exact ⟨hold, h.not_uses hplaced ((hg.mem ref).mp hold).1 (by simpa using hread)⟩

theorem Adds.outputRefs_append (h : g.Adds l draft g') (hg : g.ExactOutputs)
    (hplaced : ∀ ref ∈ g.registered, ref < g.blobs.length) (hnumbered : g.Numbered)
    (hterminal : ∀ id ∈ g.terminal, id < g.registered.length) :
    g'.outputRefs = g.unread l ++ l.outputs.foldl addId [] := by
  rw [h.outputRefs_eq hplaced hnumbered hterminal]
  refine foldl_addId_of_disjoint fun ref hout href => ?_
  exact (h.of_mem_unread hg hplaced href).2 (.inr hout)

theorem mem_written {outputs : List Nat} : ref ∈ outputs.foldl addId [] ↔ ref ∈ outputs := by
  simp [mem_foldl_addId]

theorem Adds.mem_outputRefs_iff (h : g.Adds l draft g') (hg : g.ExactOutputs)
    (hplaced : ∀ ref ∈ g.registered, ref < g.blobs.length) :
    ref ∈ g.unread l ++ l.outputs.foldl addId [] ↔
      ref ∈ g'.registered ∧ ∃ k l', LastUse g'.layers ref k l' ∧ ref ∈ l'.outputs := by
  rw [List.mem_append, mem_written]
  constructor
  · rintro (hkept | hout)
    · obtain ⟨hold, hnot⟩ := h.of_mem_unread hg hplaced hkept
      obtain ⟨hmem, k, l', hlast, hwrites⟩ := (hg.mem ref).mp hold
      refine ⟨h.extends.registered.subset hmem, k, l', ?_, hwrites⟩
      rw [h.layers]
      exact lastUse_snoc_iff.mpr (.inr ⟨hnot, hlast⟩)
    · exact ⟨h.output_registered hout, _, l, h.lastUse (.inr hout), hout⟩
  · rintro ⟨hmem, k, l', hlast, hwrites⟩
    rw [h.layers] at hlast
    rcases lastUse_snoc_iff.mp hlast with ⟨-, -, rfl⟩ | ⟨hnot, hlast⟩
    · exact .inr hwrites
    · have hold : ref ∈ g.registered := by
        rw [h.registered, List.mem_append] at hmem
        exact hmem.resolve_right fun hnew => hnot (.inr (h.mem_new.mp hnew).1)
      refine .inl (List.mem_filter.mpr ⟨(hg.mem ref).mpr ⟨hold, k, l', hlast, hwrites⟩, ?_⟩)
      simpa using fun hin => hnot (.inl hin)

theorem Adds.outputRefs_ordered (h : g.Adds l draft g') (hg : g.ExactOutputs)
    (hplaced : ∀ ref ∈ g.registered, ref < g.blobs.length) :
    (g.unread l ++ l.outputs.foldl addId []).Pairwise (UsedBefore g'.layers) := by
  refine List.pairwise_append.mpr ⟨?_, ?_, fun a ha b hb => ?_⟩
  · rw [h.layers]
    refine (hg.ordered.filter _).imp_of_mem fun ha hb hab => ?_
    exact hab.snoc (h.of_mem_unread hg hplaced ha).2 (h.of_mem_unread hg hplaced hb).2
  · refine (pairwise_foldl_addId l.outputs).imp_of_mem fun ha hb hlt => ?_
    have huse := h.lastUse (.inr (mem_written.mp ha))
    have huse' := h.lastUse (.inr (mem_written.mp hb))
    exact ⟨_, l, _, l, huse, huse', .inr ⟨rfl, hlt⟩⟩
  · obtain ⟨hold, hnot⟩ := h.of_mem_unread hg hplaced ha
    obtain ⟨-, k, l', hlast, -⟩ := (hg.mem a).mp hold
    refine ⟨k, l', _, l, ?_, h.lastUse (.inr (mem_written.mp hb)), .inl ?_⟩
    · rw [h.layers]
      exact lastUse_snoc_iff.mpr (.inr ⟨hnot, hlast⟩)
    · exact (List.getElem?_eq_some_iff.mp hlast.index).1

theorem Adds.exactOutputs (h : g.Adds l draft g') (hg : g.ExactOutputs)
    (hplaced : ∀ ref ∈ g.registered, ref < g.blobs.length) (hnumbered : g.Numbered)
    (hterminal : ∀ id ∈ g.terminal, id < g.registered.length) : g'.ExactOutputs := by
  have hrefs := h.outputRefs_append hg hplaced hnumbered hterminal
  have hordered : g'.outputRefs.Pairwise (UsedBefore g'.layers) := by
    rw [hrefs]
    exact h.outputRefs_ordered hg hplaced
  constructor
  · exact outputs_eq g'
  · intro ref
    rw [hrefs]
    exact h.mem_outputRefs_iff hg hplaced
  · exact hordered.imp fun hab => hab.ne
  · exact hordered

theorem Adds.terminal_lt (h : g.Adds l draft g')
    (hterminal : ∀ id ∈ g.terminal, id < g.registered.length) (hg' : g'.Numbered) :
    ∀ id ∈ g'.terminal, id < g'.registered.length := by
  obtain ⟨rank, htaken⟩ := h.taken
  intro id hid
  have hcase : id ∈ g.terminal ∨ id ∈ g'.idsOf l.outputs := by
    rw [htaken, terminal_accepted, mem_foldl_addId, ← htaken] at hid
    exact hid.imp_left fun hold => List.mem_of_mem_filter hold
  rcases hcase with hold | hnew
  · rw [h.registered, List.length_append]
    exact Nat.lt_add_right _ (hterminal id hold)
  · obtain ⟨ref, -, href⟩ := List.mem_filterMap.mp hnew
    exact (List.getElem?_eq_some_iff.mp ((hg' ref id).mp href)).1

theorem Staged.numbered (h : g.Staged) :
    g.Numbered ∧ ∀ id ∈ g.terminal, id < g.registered.length := by
  induction h with
  | empty phase elementSize => exact ⟨.empty phase elementSize, by simp [Graph.empty]⟩
  | add h₁ ha ih =>
    have hnext := ha.numbered h₁.tidy.placed ih.1
    exact ⟨hnext, ha.terminal_lt ih.2 hnext⟩
  | aside h₁ hd ih => exact ⟨ih.1.placing h₁.tidy.placed rfl (id_of_made hd) rfl, ih.2⟩

theorem Staged.exactOutputs (h : g.Staged) : g.ExactOutputs := by
  induction h with
  | empty phase elementSize => exact .empty phase elementSize
  | add h₁ ha ih =>
    exact ha.exactOutputs ih h₁.tidy.placed h₁.numbered.1 h₁.numbered.2
  | aside _ _ ih => exact ih.grown _

end Graph

namespace Session

/-- After a run of creations by name the outputs of the graph are the blobs that a layer writes and
no later layer uses, in the order in which they were written last. -/
theorem run_exactOutputs (phase : Phase) (elementSize : Option (List Float)) (calls : List Call)
    (hcalls : ∀ c ∈ calls, c.ByName) :
    ((start phase elementSize).run calls).graph.ExactOutputs :=
  (staged_start phase elementSize hcalls).exactOutputs

/-- A softmax reads the data before a ReLU writes them in place, so they are an output again, behind
the probabilities; what a second ReLU makes of another blob beside them is not registered. -/
def rewrittenInPlace : List Call :=
  [.create { plainLayer "Input" "source" [] "data" with
      outputs := [.text "data", .text "other"]
      params := [("shape", .list [.list [.int 1, .int 2, .int 3, .int 4],
        .list [.int 1, .int 2, .int 3, .int 4]])] } none,
    .create (plainLayer "Softmax" "softmax" ["data"] "p") none,
    .build (plainLayer "ReLU" "unused" ["other"] "y") none,
    .create (plainLayer "ReLU" "relu" ["data"] "data") none]

theorem run_exactOutputs_rewrittenInPlace :
    (∀ c ∈ rewrittenInPlace, c.ByName) ∧
      ((start .test none).run rewrittenInPlace).graph.outputRefs = [1, 2, 0] ∧
      ((start .test none).run rewrittenInPlace).graph.ExactOutputs := by
  have hcalls : ∀ c ∈ rewrittenInPlace, c.ByName := by
    simp only [rewrittenInPlace, List.forall_mem_cons]
    exact ⟨rfl, rfl, rfl, rfl, by simp⟩
  exact ⟨hcalls, by decide +kernel, run_exactOutputs .test none rewrittenInPlace hcalls⟩

end Session

end NetFootprint
