import Mathlib.Data.List.GetD
import NetFootprint.Proofs.Graph.Residency

/-!
# The arena and the index

The registered blobs are numbered in the order in which they came, and a name leads to the one blob
that has it. Layers may be built early and appended late, so this cannot rest on how a graph grew:
it is an invariant, `Orderly`, that every operation restores, because a layer is checked against the
graph as it is when it is appended. Names are texts here; those that are no texts need not be equal
to themselves.
-/

namespace NetFootprint

theorem Value.equals_text_left {v : Value} {name : String} :
    (Value.text name).equals v = true ↔ v = .text name := by
  cases v with
  | text other => rw [Value.equals_text, beq_iff_eq, Value.text.injEq, eq_comm]
  | _ => simp [Value.equals, Value.amount?]

namespace Graph

variable {g g' : Graph} {l : Layer} {draft : Draft} {ref : Nat} {fresh outputs before : List Nat}
  {rank rank' : Option Int}

/-- Arena and index fit together: an id is the position of its blob, a name leads to the one
registered blob that has it, no two layers have one name, and the terminal ids are ids of registered
blobs, each of them once. -/
structure Indexed (g : Graph) : Prop where
  id : ∀ i ref, g.registered[i]? = some ref → (g.blob ref).id = some i
  index : ∀ name ref, g.find? name = some ref ↔ ref ∈ g.registered ∧ (g.blob ref).name = name
  names : (g.registeredBlobs.map Blob.name).Nodup
  layers : (g.layers.map Layer.name).Nodup
  terminal : g.terminal.Nodup
  registered : ∀ id ∈ g.terminal, id < g.registered.length

/-- What every operation restores: the registered blobs are there under different names, a blob has
an id exactly if it is registered, and the lists of layers and of terminal ids fit. -/
structure Orderly (g : Graph) : Prop where
  placed : ∀ ref ∈ g.registered, ref < g.blobs.length
  text : ∀ ref < g.blobs.length, ∃ name, (g.blob ref).name = .text name
  id : ∀ ref i, (g.blob ref).id = some i ↔ g.registered[i]? = some ref
  names : (g.registeredBlobs.map Blob.name).Nodup
  layers : (g.layers.map Layer.name).Nodup
  terminal : g.terminal.Nodup
  registered : ∀ id ∈ g.terminal, id < g.registered.length

theorem equals_of_find? {name : Value} (h : g.find? name = some ref) :
    (g.blob ref).name.equals name = true :=
  List.find?_some (p := fun ref => (g.blob ref).name.equals name) h

namespace Orderly

theorem empty (phase : Phase) (elementSize : Option (List Float)) :
    (Graph.empty phase elementSize).Orderly where
  placed := by simp [Graph.empty]
  text := by simp [Graph.empty]
  id ref i := by simp [Graph.empty, blob, show (default : Blob).id = none from rfl]
  names := List.nodup_nil
  layers := List.nodup_nil
  terminal := List.nodup_nil
  registered := by simp [Graph.empty]

theorem eq_of_name (h : g.Orderly) {other : Nat} (href : ref ∈ g.registered)
    (hother : other ∈ g.registered) (hname : (g.blob ref).name = (g.blob other).name) :
    ref = other := by
  have hnodup : (g.registered.map fun ref => (g.blob ref).name).Nodup := by
    simpa only [registeredBlobs, List.map_map, Function.comp_def] using h.names
  exact List.inj_on_of_nodup_map hnodup href hother hname

theorem find?_iff (h : g.Orderly) {name : Value} :
    g.find? name = some ref ↔ ref ∈ g.registered ∧ (g.blob ref).name = name := by
  have hequals : ∀ other ∈ g.registered,
      (g.blob other).name.equals name = true ↔ (g.blob other).name = name := by
    intro other hother
    obtain ⟨t, ht⟩ := h.text other (h.placed other hother)
    rw [ht, Value.equals_text_left, eq_comm]
  constructor
  · intro hfind
    have hmem := mem_registered_of_find? hfind
    exact ⟨hmem, (hequals ref hmem).mp (equals_of_find? hfind)⟩
  · rintro ⟨hmem, hname⟩
    have hsome : (g.find? name).isSome = true :=
      List.find?_isSome.mpr ⟨ref, hmem, (hequals ref hmem).mpr hname⟩
    obtain ⟨other, hother⟩ := Option.isSome_iff_exists.mp hsome
    have hmem' := mem_registered_of_find? hother
    have hname' := (hequals other hmem').mp (equals_of_find? hother)
    rw [h.eq_of_name hmem hmem' (hname.trans hname'.symm)]
    exact hother

theorem find?_eq_none_iff (h : g.Orderly) {name : Value} :
    g.find? name = none ↔ ∀ ref ∈ g.registered, (g.blob ref).name ≠ name := by
  constructor
  · intro hnone ref hmem hname
    rw [h.find?_iff.mpr ⟨hmem, hname⟩] at hnone
    cases hnone
  · intro hall
    cases hfind : g.find? name with
    | none => rfl
    | some ref =>
      obtain ⟨hmem, hname⟩ := h.find?_iff.mp hfind
      exact absurd hname (hall ref hmem)

theorem indexed (h : g.Orderly) : g.Indexed where
  id i ref hi := (h.id ref i).mpr hi
  index _ _ := h.find?_iff
  names := h.names
  layers := h.layers
  terminal := h.terminal
  registered := h.registered

/-! ## Operations that leave names and ids alone -/

theorem congr (h : g.Orderly) (hsize : g'.blobs.length = g.blobs.length)
    (hname : ∀ ref, (g'.blob ref).name = (g.blob ref).name)
    (hid : ∀ ref, (g'.blob ref).id = (g.blob ref).id)
    (hregistered : g'.registered = g.registered) (hlayers : g'.layers = g.layers)
    (hterminal : g'.terminal = g.terminal) : g'.Orderly where
  placed := by rw [hregistered, hsize]; exact h.placed
  text := by simpa only [hsize, hname] using h.text
  id := by simpa only [hid, hregistered] using h.id
  names := by
    simpa only [registeredBlobs, List.map_map, Function.comp_def, hname, hregistered] using h.names
  layers := by rw [hlayers]; exact h.layers
  terminal := by rw [hterminal]; exact h.terminal
  registered := by rw [hterminal, hregistered]; exact h.registered

end Orderly

theorem id_blob_update (f : Blob → Blob) (hf : ∀ b, (f b).id = b.id) (ref other : Nat) :
    ((g.update ref f).blob other).id = (g.blob other).id := by
  by_cases ho : other = ref
  · subst ho
    by_cases hl : other < g.blobs.length
    · rw [blob_update_self hl, hf]
    · simp [update, blob, List.getD_eq_getElem?_getD, hl]
  · rw [blob_update_of_ne ho]

theorem id_blob_marked (ref : Nat) : ((g.marked l).blob ref).id = (g.blob ref).id := by
  have hfold (refs : List Nat) : ((refs.foldl Graph.mark g).blob ref).id = (g.blob ref).id := by
    induction refs generalizing g with
    | nil => rfl
    | cons first rest ih =>
      rw [List.foldl_cons, ih]
      exact id_blob_update (fun b => { b with resident := true }) (fun _ => rfl) first ref
  unfold marked
  split
  · exact hfold _
  · rfl

theorem Orderly.mark (h : g.Orderly) (ref : Nat) : (g.mark ref).Orderly :=
  h.congr (length_blobs_update g ref _) (fun other => name_blob_mark g ref other)
    (fun other => id_blob_update (fun b => { b with resident := true }) (fun _ => rfl) ref other)
    rfl rfl rfl

theorem Orderly.foldl_mark (h : g.Orderly) (refs : List Nat) :
    (refs.foldl Graph.mark g).Orderly := by
  induction refs generalizing g with
  | nil => exact h
  | cons ref rest ih => exact ih (h.mark ref)

theorem Orderly.marked (h : g.Orderly) (l : Layer) : (g.marked l).Orderly := by
  unfold Graph.marked
  split
  · exact h.foldl_mark _
  · exact h

theorem Orderly.withRank (h : g.Orderly) (rank : Option Int) : (g.withRank rank).Orderly := by
  rw [withRank_eq]
  exact h.congr rfl (fun _ => rfl) (fun _ => rfl) rfl rfl rfl

/-! ## New blobs -/

/-- A blob has an id exactly if it is registered, and the id is its position then. -/
def Numbered (g : Graph) : Prop :=
  ∀ ref i, (g.blob ref).id = some i ↔ g.registered[i]? = some ref

theorem blob_of_append {more : List Blob} (hg' : g'.blobs = g.blobs ++ more) {ref : Nat} :
    g'.blob ref =
      if ref < g.blobs.length then g.blob ref else more.getD (ref - g.blobs.length) default := by
  split
  · next hlt =>
    simp [blob, hg', List.getD_eq_getElem?_getD, List.getElem?_append_left hlt]
  · next hle =>
    simp [blob, hg', List.getD_eq_getElem?_getD, List.getElem?_append_right (Nat.le_of_not_lt hle)]

theorem Numbered.placing (h : g.Numbered) (hplaced : ∀ ref ∈ g.registered, ref < g.blobs.length)
    {more : List Blob} (hblobs : g'.blobs = g.blobs ++ more) (hmore : ∀ b ∈ more, b.id = none)
    (hregistered : g'.registered = g.registered) : g'.Numbered := by
  intro ref i
  rw [blob_of_append hblobs, hregistered]
  split
  · exact h ref i
  · next hle =>
    have hid : (more.getD (ref - g.blobs.length) default).id = none := by
      by_cases hat : ref - g.blobs.length < more.length
      · rw [List.getD_eq_getElem _ _ hat]
        exact hmore _ (List.getElem_mem hat)
      · rw [List.getD_eq_default _ _ (Nat.le_of_not_lt hat)]
        rfl
    simp only [hid, reduceCtorEq, false_iff]
    exact fun hi => hle (hplaced ref (List.mem_of_getElem? hi))

theorem Orderly.placing (h : g.Orderly) {more : List Blob} (hblobs : g'.blobs = g.blobs ++ more)
    (hmore : ∀ b ∈ more, b.id = none ∧ ∃ name, b.name = .text name)
    (hregistered : g'.registered = g.registered) (hlayers : g'.layers = g.layers)
    (hterminal : g'.terminal = g.terminal) : g'.Orderly where
  placed := by
    intro ref href
    rw [hregistered] at href
    rw [hblobs, List.length_append]
    exact Nat.lt_add_right _ (h.placed ref href)
  text := by
    intro ref href
    rw [blob_of_append hblobs]
    split
    · next hlt => exact h.text ref hlt
    · next hle =>
      rw [hblobs, List.length_append] at href
      have hat : ref - g.blobs.length < more.length := by omega
      rw [List.getD_eq_getElem _ _ hat]
      exact (hmore _ (List.getElem_mem hat)).2
  id := Numbered.placing h.id h.placed hblobs (fun b hb => (hmore b hb).1) hregistered
  names := by
    have hold : g'.registeredBlobs = g.registeredBlobs := by
      rw [registeredBlobs, hregistered, registeredBlobs]
      refine List.map_congr_left fun ref href => ?_
      rw [blob_of_append hblobs, if_pos (h.placed ref href)]
    rw [hold]
    exact h.names
  layers := by rw [hlayers]; exact h.layers
  terminal := by rw [hterminal]; exact h.terminal
  registered := by rw [hterminal, hregistered]; exact h.registered

theorem id_of_made {s : Site} {t : LayerType} (hd : s.layer t = .ok draft) :
    ∀ b ∈ madeBlobs draft.outputs, b.id = none := by
  intro b hb
  obtain ⟨top, -, hmakes⟩ := exists_of_mem_right (Site.layer_outputs hd) (mem_madeBlobs.mp hb)
  cases hmakes with
  | made k _ _ _ hmade _ =>
    obtain ⟨-, rfl⟩ := Site.newBlob_eq_ok.mp hmade
    rfl

theorem id_name_of_made {s : Site} {t : LayerType} (hd : s.layer t = .ok draft)
    (htext : ∀ top ∈ s.declaration.outputs, ∃ name, top = .text name) :
    ∀ b ∈ madeBlobs draft.outputs, b.id = none ∧ ∃ name, b.name = .text name := by
  intro b hb
  refine ⟨id_of_made hd b hb, ?_⟩
  obtain ⟨top, htop, hmakes⟩ :=
    exists_of_mem_right (Site.layer_outputs hd) (mem_madeBlobs.mp hb)
  cases hmakes with
  | made k _ hname _ hmade _ =>
    obtain ⟨-, rfl⟩ := Site.newBlob_eq_ok.mp hmade
    obtain ⟨name, rfl⟩ := htext top htop
    exact ⟨name, hname⟩

theorem Orderly.grown (h : g.Orderly)
    (hmade : ∀ b ∈ madeBlobs draft.outputs, b.id = none ∧ ∃ name, b.name = .text name) :
    (g.grown draft).Orderly :=
  h.placing rfl hmade rfl rfl rfl

/-! ## Registering -/

theorem id_register (h : ref < g.blobs.length) (other : Nat) :
    ((g.register ref).blob other).id =
      if other = ref then some g.registered.length else (g.blob other).id := by
  have hblob : (g.register ref).blob other =
      (g.update ref (fun b => { b with id := some g.registered.length })).blob other := rfl
  rw [hblob]
  split
  · next he => rw [he, blob_update_self h]
  · next he => rw [blob_update_of_ne he]

theorem name_register (ref other : Nat) :
    ((g.register ref).blob other).name = (g.blob other).name :=
  Blob.of_fixed Blob.name (fixed_blob_register ref other)

theorem Numbered.register (h : g.Numbered) (href : ref < g.blobs.length)
    (hnot : ref ∉ g.registered) : (g.register ref).Numbered := by
  intro r i
  have hregistered : (g.register ref).registered = g.registered ++ [ref] := rfl
  rw [id_register href, hregistered, List.getElem?_append]
  split
  · next he =>
    subst he
    constructor
    · intro hi
      obtain rfl := Option.some.inj hi
      simp
    · intro hi
      split at hi
      · exact absurd (List.mem_of_getElem? hi) hnot
      · next hle =>
        rw [List.getElem?_singleton] at hi
        have hzero : i - g.registered.length = 0 := (Option.ite_none_right_eq_some.mp hi).1
        rw [show i = g.registered.length by omega]
  · next hne =>
    rw [h r i]
    split
    · exact Iff.rfl
    · next hle =>
      rw [List.getElem?_eq_none (Nat.le_of_not_lt hle), List.getElem?_singleton]
      simp [Ne.symm hne]

theorem Orderly.register (h : g.Orderly) (href : ref < g.blobs.length)
    (hnew : g.find? (g.blob ref).name = none) : (g.register ref).Orderly := by
  have hsize : (g.register ref).blobs.length = g.blobs.length := by simp [Graph.register]
  have hregistered : (g.register ref).registered = g.registered ++ [ref] := rfl
  have hother := h.find?_eq_none_iff.mp hnew
  have hnot : ref ∉ g.registered := fun hmem => hother ref hmem rfl
  constructor
  · intro r hr
    rw [hsize]
    rcases List.mem_append.mp (hregistered ▸ hr) with hold | hself
    · exact h.placed r hold
    · rwa [List.mem_singleton.mp hself]
  · intro r hr
    rw [name_register]
    exact h.text r (hsize ▸ hr)
  · exact Numbered.register h.id href hnot
  · have hnames : (g.register ref).registeredBlobs.map Blob.name =
        g.registeredBlobs.map Blob.name ++ [(g.blob ref).name] := by
      simp only [registeredBlobs, hregistered, List.map_append, List.map_map, List.map_singleton,
        Function.comp_def, name_register]
    rw [hnames, List.nodup_append]
    refine ⟨h.names, by simp, ?_⟩
    intro name hname last hlast heq
    obtain ⟨b, hb, rfl⟩ := List.mem_map.mp hname
    obtain ⟨r, hr, rfl⟩ := List.mem_map.mp hb
    exact hother r hr (heq.trans (List.mem_singleton.mp hlast))
  · exact h.layers
  · exact h.terminal
  · intro id hid
    rw [hregistered, List.length_append]
    exact Nat.lt_add_right _ (h.registered id hid)

/-- Blobs under new and different names can be registered one after the other. -/
theorem Orderly.foldl_register (h : g.Orderly)
    (hnew : ∀ ref ∈ fresh, ref < g.blobs.length ∧ g.find? (g.blob ref).name = none)
    (hnames : fresh.Pairwise fun a b => (g.blob a).name ≠ (g.blob b).name) :
    (fresh.foldl Graph.register g).Orderly := by
  induction fresh generalizing g with
  | nil => exact h
  | cons ref rest ih =>
    obtain ⟨hself, hrest⟩ := List.forall_mem_cons.mp hnew
    obtain ⟨hapart, hpairs⟩ := List.pairwise_cons.mp hnames
    have hnext := h.register hself.1 hself.2
    refine ih hnext (fun other hother => ⟨?_, ?_⟩) ?_
    · simpa [Graph.register] using (hrest other hother).1
    · rw [hnext.find?_eq_none_iff]
      intro r hr
      rw [name_register, name_register]
      rcases List.mem_append.mp hr with hold | hlast
      · exact h.find?_eq_none_iff.mp (hrest other hother).2 r hold
      · rw [List.mem_singleton.mp hlast]
        exact hapart other hother
    · simpa only [name_register] using hpairs

/-! ## Terminal blobs -/

theorem mem_addId {ids : List Nat} {id other : Nat} :
    other ∈ addId ids id ↔ other ∈ ids ∨ other = id := by
  unfold addId
  split
  · next hc =>
    have hmem : id ∈ ids := by simpa using hc
    exact ⟨.inl, fun h => h.elim (fun h => h) fun h => h ▸ hmem⟩
  · simp

theorem nodup_addId {ids : List Nat} (h : ids.Nodup) (id : Nat) : (addId ids id).Nodup := by
  unfold addId
  split
  · exact h
  · next hc =>
    have hnot : id ∉ ids := by simpa using hc
    exact List.nodup_append.mpr ⟨h, by simp, fun a ha b hb he =>
      hnot (List.mem_singleton.mp hb ▸ he ▸ ha)⟩

theorem foldl_addId {n : Nat} (new ids : List Nat) (h : ids.Nodup) (hids : ∀ id ∈ ids, id < n)
    (hnew : ∀ id ∈ new, id < n) :
    (new.foldl addId ids).Nodup ∧ ∀ id ∈ new.foldl addId ids, id < n := by
  induction new generalizing ids with
  | nil => exact ⟨h, hids⟩
  | cons first rest ih =>
    obtain ⟨hfirst, hrest⟩ := List.forall_mem_cons.mp hnew
    refine ih (addId ids first) (nodup_addId h first) (fun id hid => ?_) hrest
    rcases mem_addId.mp hid with hold | rfl
    · exact hids id hold
    · exact hfirst

theorem Orderly.lt_of_mem_idsOf (h : g.Orderly) {refs : List Nat} {id : Nat}
    (hid : id ∈ g.idsOf refs) : id < g.registered.length := by
  obtain ⟨ref, -, href⟩ := List.mem_filterMap.mp hid
  exact (List.getElem?_eq_some_iff.mp ((h.id ref id).mp href)).1

/-! ## Taking a layer in -/

theorem Orderly.enlist (h : g.Orderly) (hname : ∀ other ∈ g.layers, other.name ≠ l.name) :
    (g.enlist l).Orderly where
  placed := h.placed
  text := h.text
  id := h.id
  names := h.names
  layers := by
    have hlayers : (g.enlist l).layers.map Layer.name = g.layers.map Layer.name ++ [l.name] := by
      simp [Graph.enlist]
    rw [hlayers, List.nodup_append]
    refine ⟨h.layers, by simp, ?_⟩
    intro name hmem last hlast heq
    obtain ⟨other, hother, rfl⟩ := List.mem_map.mp hmem
    exact hname other hother (heq.trans (List.mem_singleton.mp hlast))
  terminal := h.terminal.filter _
  registered id hid := h.registered id (List.mem_of_mem_filter hid)

theorem Orderly.publish (h : g.Orderly)
    (hnew : ∀ ref ∈ fresh, ref < g.blobs.length ∧ g.find? (g.blob ref).name = none)
    (hnames : fresh.Pairwise fun a b => (g.blob a).name ≠ (g.blob b).name) :
    (g.publish l fresh).Orderly := by
  have hgrown := h.foldl_register hnew hnames
  have hterminal := foldl_addId ((fresh.foldl Graph.register g).idsOf l.outputs) _
    hgrown.terminal hgrown.registered fun id hid => hgrown.lt_of_mem_idsOf hid
  exact { hgrown with terminal := hterminal.1, registered := hterminal.2 }

/-- A layer that passes the checks is taken into an orderly graph, whenever it was built. -/
theorem Orderly.accepted (h : g.Orderly) (ha : g.approve l = .ok (fresh, rank))
    (houtputs : ∀ ref ∈ l.outputs, ref < g.blobs.length) : (g.accepted l fresh rank).Orderly := by
  obtain ⟨hname, hv⟩ := approve_ok ha
  have hready := (h.withRank rank).marked l
  -- marking leaves the names as they are, so what was new is new still
  have hblob (ref : Nat) : (((g.withRank rank).marked l).blob ref).name = (g.blob ref).name := by
    rw [Blob.of_fixed Blob.name (fixed_blob_marked ref), withRank_eq]
    rfl
  have hfind (name : Value) : ((g.withRank rank).marked l).find? name = g.find? name := by
    unfold find?
    rw [marked_eq, withRank_eq]
    refine List.find?_congr fun ref _ => ?_
    have hsame := hblob ref
    rw [marked_eq, withRank_eq] at hsame
    rw [hsame]
  have hnew : ∀ ref ∈ fresh, ref < g.blobs.length ∧ g.find? (g.blob ref).name = none := by
    intro ref href
    rw [hv.new] at href
    obtain ⟨hout, hisNew⟩ := List.mem_filter.mp href
    exact ⟨houtputs ref hout, by simpa [isNew] using hisNew⟩
  have hapart : fresh.Pairwise fun a b => (g.blob a).name ≠ (g.blob b).name := by
    refine (approve_apart ha).imp_of_mem fun ha _ hequals heq => ?_
    obtain ⟨name, hname⟩ := h.text _ (hnew _ ha).1
    rw [← heq, hname, Value.equals_text] at hequals
    simp at hequals
  have hlayers : ((g.withRank rank).marked l).layers = g.layers := by
    rw [marked_eq, withRank_eq]
  refine (hready.enlist (by rwa [hlayers])).publish (fun ref href => ?_) ?_
  · change ref < ((g.withRank rank).marked l).blobs.length ∧
      ((g.withRank rank).marked l).find? (((g.withRank rank).marked l).blob ref).name = none
    rw [hfind, hblob, length_blobs_marked, withRank_eq]
    exact hnew ref href
  · change fresh.Pairwise fun a b => (((g.withRank rank).marked l).blob a).name ≠
      (((g.withRank rank).marked l).blob b).name
    simpa only [hblob] using hapart

end Graph

end NetFootprint
