import NetFootprint.Proofs.Graph.Pending

/-!
# Layers that are built aside

A family of layers may be built without being registered. Building them changes nothing that was
there; when they put their inputs on the device, in whatever order and how often, the same blobs get
there; and a layer that is registered in the end is not affected by having done so before.
-/

namespace NetFootprint

namespace Call

def Builds : Call → Prop
  | .build .. => True
  | .describe _ | .mark _ | .create .. | .append _ | .commit _ => False

def MakesNothing : Call → Prop
  | .mark _ | .append _ | .commit _ => True
  | .describe _ | .create .. | .build .. => False

def commits (handle : Nat) : Call → Bool
  | .commit other => other == handle
  | .describe _ | .mark _ | .create .. | .build .. | .append _ => false

end Call

/-- Some blobs were added that no registered layer knows of, and nothing that was there changed. -/
structure Graph.Aside (g g' : Graph) : Prop where
  phase : g'.phase = g.phase
  elementSize : g'.elementSize = g.elementSize
  registered : g'.registered = g.registered
  layers : g'.layers = g.layers
  terminal : g'.terminal = g.terminal
  blobs : g.blobs <+: g'.blobs

namespace Graph.Aside

variable {g g' g'' : Graph}

theorem refl (g : Graph) : g.Aside g := ⟨rfl, rfl, rfl, rfl, rfl, List.prefix_rfl⟩

theorem trans (h : g.Aside g') (h' : g'.Aside g'') : g.Aside g'' where
  phase := h'.phase.trans h.phase
  elementSize := h'.elementSize.trans h.elementSize
  registered := h'.registered.trans h.registered
  layers := h'.layers.trans h.layers
  terminal := h'.terminal.trans h.terminal
  blobs := h.blobs.trans h'.blobs

theorem build {l : Layer} {d : Declaration} {inputs : Option (List (Option Nat))}
    (h : g.build d inputs = .ok (l, g')) : g.Aside g' := by
  obtain ⟨t, refs, draft, -, -, -, -, rfl⟩ := build_ok h
  exact ⟨rfl, rfl, rfl, rfl, rfl, List.prefix_append _ _⟩

end Graph.Aside

namespace Session

variable {s s' t : Session} {handle : Nat} {l : Layer} {put : Nat → Bool}

/-! ## Building -/

theorem step_build {c : Call} (hc : c.Builds) :
    s.graph.Aside (s.step c).1.graph ∧ s.layers <+: (s.step c).1.layers := by
  cases c with
  | build d inputs =>
    rw [step]
    split
    · cases hb : s.graph.build d (slots inputs) with
      | error e => exact ⟨.refl _, List.prefix_rfl⟩
      | ok made => exact ⟨.build hb, List.prefix_append _ _⟩
    · exact ⟨.refl _, List.prefix_rfl⟩
  | describe _ | mark _ | create _ _ | append _ | commit _ => exact hc.elim

theorem run_build {family : List Call} (h : ∀ c ∈ family, c.Builds) :
    s.graph.Aside (s.run family).graph ∧ s.layers <+: (s.run family).layers := by
  induction family generalizing s with
  | nil => exact ⟨.refl _, List.prefix_rfl⟩
  | cons c rest ih =>
    obtain ⟨hc, hrest⟩ := List.forall_mem_cons.mp h
    obtain ⟨haside, hlayers⟩ := step_build (s := s) hc
    obtain ⟨haside', hlayers'⟩ := ih (s := (s.step c).1) hrest
    exact ⟨haside.trans haside', hlayers.trans hlayers'⟩

/-! ## Commits -/

theorem Complete.step_commit (hs : s.Complete) (hl : s.layers[handle]? = some l) :
    s.step (.commit handle) = ({ s with graph := s.graph.raise l.reads }, .ok ()) := by
  have hcomplete := hs l (List.mem_of_getElem? hl)
  simp only [step, hl, Graph.commit, Graph.marked_eq_raise hcomplete, hcomplete, Bool.not_true,
    Bool.and_false, Bool.false_eq_true, if_false]

/-- Whether one of some layers needs the blob at a place on the device. -/
def readsAny (s : Session) (handles : List Nat) (ref : Nat) : Bool :=
  handles.any fun handle => s.layers[handle]?.any (·.reads ref)

theorem Complete.run_commits (hs : s.Complete) {handles : List Nat}
    (h : ∀ handle ∈ handles, handle < s.layers.length) :
    s.run (handles.map .commit) = { s with graph := s.graph.raise (s.readsAny handles) } ∧
      s.accepted (handles.map .commit) = handles.map .commit := by
  induction handles generalizing s with
  | nil =>
    have hsame : s.graph.raise (s.readsAny []) = s.graph :=
      Graph.raise_of_resident fun ref _ href => by simp [readsAny] at href
    exact ⟨by rw [hsame]; rfl, rfl⟩
  | cons handle rest ih =>
    obtain ⟨hhandle, hrest⟩ := List.forall_mem_cons.mp h
    have hl : s.layers[handle]? = some s.layers[handle] := List.getElem?_eq_getElem hhandle
    have hstep := hs.step_commit hl
    obtain ⟨hrun, haccepted⟩ := @ih { s with graph := s.graph.raise s.layers[handle].reads } hs hrest
    constructor
    · show (s.step (.commit handle)).1.run (rest.map .commit) = _
      rw [hstep, hrun]
      show { s with graph := (s.graph.raise s.layers[handle].reads).raise (s.readsAny rest) } = _
      rw [Graph.raise_raise]
      congr 2
      funext ref
      simp [readsAny, hl]
    · rw [List.map_cons, accepted_cons_ok (by rw [hstep]), hstep, haccepted]

theorem readsAny_members {first : Nat} {handles : List Nat}
    (h : ∀ handle, handle ∈ handles ↔ first ≤ handle ∧ handle < s.layers.length) :
    s.readsAny handles = fun ref => (s.layers.drop first).any (·.reads ref) := by
  funext ref
  rw [Bool.eq_iff_iff, readsAny, List.any_eq_true, List.any_eq_true]
  constructor
  · rintro ⟨handle, hmem, hread⟩
    obtain ⟨hfirst, hlt⟩ := (h handle).mp hmem
    rw [List.getElem?_eq_getElem hlt] at hread
    refine ⟨s.layers[handle], List.mem_iff_getElem?.mpr ⟨handle - first, ?_⟩, hread⟩
    rw [List.getElem?_drop, Nat.add_sub_cancel' hfirst, List.getElem?_eq_getElem hlt]
  · rintro ⟨l, hmem, hread⟩
    obtain ⟨i, hi⟩ := List.mem_iff_getElem?.mp hmem
    rw [List.getElem?_drop] at hi
    have hlt := (List.getElem?_eq_some_iff.mp hi).1
    exact ⟨first + i, (h _).mpr ⟨by omega, hlt⟩, by rw [hi]; exact hread⟩

/-! ## Commits before a layer is registered -/

theorem Complete.step_append (hs : s.Complete) (hl : s.layers[handle]? = some l) :
    s.step (.append handle) =
      match s.graph.approve l with
      | .ok (fresh, rank) => ({ s with graph := s.graph.accepted l fresh rank }, .ok ())
      | .error e => (s, .error e) := by
  have hcomplete := hs l (List.mem_of_getElem? hl)
  simp only [step, hl, Graph.append]
  cases s.graph.approve l with
  | error e => rfl
  | ok found =>
    simp only [Graph.take_of_complete hcomplete]
    rfl

/-- Two sessions that are the same but for blobs that one of them has on the device already. -/
structure SameBut (put : Nat → Bool) (s s' : Session) : Prop where
  layers : s'.layers = s.layers
  graph : s'.graph.raise put = s.graph.raise put

theorem layers_step {c : Call} (hc : c.MakesNothing) : (s.step c).1.layers = s.layers := by
  cases c with
  | mark ref =>
    rw [step]
    split <;> rfl
  | append handle | commit handle =>
    rw [step]
    split <;> rfl
  | describe _ | create _ _ | build _ _ => exact hc.elim

theorem layers_run {calls : List Call} (h : ∀ c ∈ calls, c.MakesNothing) :
    (s.run calls).layers = s.layers := by
  induction calls generalizing s with
  | nil => rfl
  | cons c rest ih =>
    obtain ⟨hc, hrest⟩ := List.forall_mem_cons.mp h
    exact (ih (s := (s.step c).1) hrest).trans (layers_step hc)

namespace SameBut

variable {c : Call}

theorem refl (put : Nat → Bool) (s : Session) : SameBut put s s := ⟨rfl, rfl⟩

theorem approve (h : SameBut put s s') (l : Layer) : s'.graph.approve l = s.graph.approve l := by
  have happroved : (s'.graph.raise put).approve l = s'.graph.approve l := Graph.approve_raise
  rw [← happroved, h.graph, Graph.approve_raise]

theorem raise (h : SameBut put s s') (more : Nat → Bool) :
    SameBut put { s with graph := s.graph.raise more } { s' with graph := s'.graph.raise more } where
  layers := h.layers
  graph := by rw [Graph.raise_comm, h.graph, Graph.raise_comm]

theorem accepted (h : SameBut put s s') (l : Layer) (fresh : List Nat) (rank : Option Int) :
    SameBut put { s with graph := s.graph.accepted l fresh rank }
      { s' with graph := s'.graph.accepted l fresh rank } where
  layers := h.layers
  graph := by rw [← Graph.accepted_raise, h.graph, Graph.accepted_raise]

theorem length_blobs (h : SameBut put s s') : s'.graph.blobs.length = s.graph.blobs.length := by
  have hlength := congrArg (fun g : Graph => g.blobs.length) h.graph
  simpa using hlength

theorem complete (h : SameBut put s s') (hs : s.Complete) : s'.Complete := by
  intro l hl
  exact hs l (h.layers ▸ hl)

theorem step (h : SameBut put s s') (hs : s.Complete) (hc : c.MakesNothing) :
    SameBut put (s.step c).1 (s'.step c).1 := by
  cases c with
  | mark ref =>
    rw [Session.step, Session.step, h.length_blobs]
    split
    · have hmark (g : Graph) : g.mark ref = g.raise fun other => ref == other := g.mark_eq_raise ref
      rw [hmark, hmark]
      exact h.raise _
    · exact h
  | append handle =>
    cases hl : s.layers[handle]? with
    | none =>
      simp only [Session.step, h.layers, hl]
      exact h
    | some l =>
      rw [hs.step_append hl, (h.complete hs).step_append (h.layers ▸ hl), h.approve]
      cases s.graph.approve l with
      | error e => exact h
      | ok found => exact h.accepted l found.1 found.2
  | commit handle =>
    cases hl : s.layers[handle]? with
    | none =>
      simp only [Session.step, h.layers, hl]
      exact h
    | some l =>
      rw [hs.step_commit hl, (h.complete hs).step_commit (h.layers ▸ hl)]
      exact h.raise l.reads
  | describe _ | create _ _ | build _ _ => exact hc.elim

end SameBut

/-- The commits of a layer may be left out of a run; what they put on the device is what the layer
needs there. -/
theorem Complete.sameBut_run (hs : s.Complete) (hl : s.layers[handle]? = some l)
    (h : SameBut l.reads s s') {calls : List Call} (hcalls : ∀ c ∈ calls, c.MakesNothing) :
    SameBut l.reads (s.run calls) (s'.run (calls.filter fun c => !c.commits handle)) := by
  induction calls generalizing s s' with
  | nil => exact h
  | cons c rest ih =>
    obtain ⟨hc, hrest⟩ := List.forall_mem_cons.mp hcalls
    have hnext : (s.step c).1.layers[handle]? = some l := by rwa [layers_step hc]
    have hcomplete := (step_cases hs c).2
    -- a commit that is left out only touches what the two sessions may differ in
    by_cases hcommit : c.commits handle = true
    · obtain rfl : c = .commit handle := by
        cases c with
        | commit other => rw [eq_of_beq hcommit]
        | _ => cases hcommit
      have hstep : SameBut l.reads (s.step (.commit handle)).1 s' := by
        rw [hs.step_commit hl]
        exact ⟨h.layers, by rw [h.graph, Graph.raise_self]⟩
      rw [List.filter_cons_of_neg (by simp [hcommit])]
      exact ih hcomplete hnext hstep hrest
    · rw [List.filter_cons_of_pos (by simpa using hcommit)]
      exact ih hcomplete hnext (h.step hs hc) hrest

theorem SameBut.step_append (h : SameBut l.reads s s') (hs : s.Complete)
    (hl : s.layers[handle]? = some l) (hok : (s.step (.append handle)).2 = .ok ()) :
    s'.step (.append handle) = s.step (.append handle) := by
  have hcomplete := hs l (List.mem_of_getElem? hl)
  have haccepted (fresh : List Nat) (rank : Option Int) :
      s'.graph.accepted l fresh rank = s.graph.accepted l fresh rank := by
    rw [← Graph.accepted_raise_reads hcomplete, h.graph, Graph.accepted_raise_reads hcomplete]
  rw [hs.step_append hl] at hok ⊢
  rw [(h.complete hs).step_append (h.layers ▸ hl), h.approve]
  cases ha : s.graph.approve l with
  | error e =>
    rw [ha] at hok
    cases hok
  | ok found => simp only [haccepted, h.layers]

/-- How a family of layers that were built aside takes effect. -/
structure Defers (s t : Session) : Prop where
  /-- Nothing that was there changed when the family was built. -/
  aside : s.graph.Aside t.graph
  layers : s.layers <+: t.layers
  /-- Commits of all members, in whatever order and how often, succeed and put on the device what
  one of the members needs there. -/
  commits : ∀ handles : List Nat,
    (∀ handle, handle ∈ handles ↔ s.layers.length ≤ handle ∧ handle < t.layers.length) →
    t.accepted (handles.map .commit) = handles.map .commit ∧
    t.run (handles.map .commit) =
      { t with graph := t.graph.raise fun ref =>
          (t.layers.drop s.layers.length).any fun l => l.reads ref }
  /-- A member that can be registered is registered as if it had not been committed before. -/
  appends : ∀ (handle : Nat) (calls : List Call), (∀ c ∈ calls, c.MakesNothing) →
    ((t.run calls).step (.append handle)).2 = .ok () →
    (t.run (calls.filter fun c => !c.commits handle)).step (.append handle) =
      (t.run calls).step (.append handle)

theorem Complete.defers (hs : s.Complete) {family : List Call} (h : ∀ c ∈ family, c.Builds) :
    s.Defers (s.run family) := by
  obtain ⟨haside, hlayers⟩ := run_build (s := s) h
  have ht : (s.run family).Complete := hs.run family
  refine ⟨haside, hlayers, fun handles hhandles => ?_, fun handle calls hcalls hok => ?_⟩
  · obtain ⟨hrun, haccepted⟩ := ht.run_commits fun handle hmem => ((hhandles handle).mp hmem).2
    rw [readsAny_members hhandles] at hrun
    exact ⟨haccepted, hrun⟩
  · cases hl : ((s.run family).run calls).layers[handle]? with
    | none =>
      simp only [step, hl] at hok
      cases hok
    | some l =>
      have hkept := layers_run hcalls (s := s.run family)
      have hsame := ht.sameBut_run (hkept ▸ hl) (.refl l.reads _) hcalls
      exact hsame.step_append (ht.run calls) hl hok

/-- However a session was used so far, a family of layers that is built aside then takes effect only
when it is committed or registered; and it does not matter whether the layers keep lists of what they
have still to put on the device. -/
theorem run_defers (phase : Phase) (elementSize : Option (List Float)) (calls family : List Call)
    (h : ∀ c ∈ family, c.Builds) :
    ((start phase elementSize).run calls).Defers
        (((start phase elementSize).run calls).run family) ∧
      ∀ later, ((Ledger.start phase elementSize).run (calls ++ family ++ later)).session =
        (((start phase elementSize).run calls).run family).run later := by
  have hs : (start phase elementSize).Complete := by simp [Complete, start]
  refine ⟨(hs.run calls).defers h, fun later => ?_⟩
  have hsession := Ledger.session_run (.start phase elementSize) (Housed.start phase elementSize)
    (calls ++ family ++ later)
  rw [hsession, Session.run, List.foldl_append, List.foldl_append]
  rfl

/-- A source and a layer on its values. -/
def scaledSource : List Call :=
  [.create { plainLayer "Input" "source" [] "data" with
      params := [("shape", .list [.list [.int 1, .int 2, .int 3, .int 4]])] } none,
    .create (plainLayer "ValueTransformation" "scale" ["data"] "scaled") none]

/-- A ReLU on the scaled values and a loss on what it gives, with a layer on values beside them. -/
def lossAside : List Call :=
  [.build (plainLayer "ReLU" "relu" ["scaled"] "y") none,
    .build (plainLayer "ValueTransformation" "shift" ["data"] "shifted") none,
    .build (plainLayer "SoftmaxWithLoss" "loss" ["y"] "loss") (some [2])]

theorem run_defers_lossAside :
    (∀ c ∈ lossAside, c.Builds) ∧
      ((start .train none).run (scaledSource ++ lossAside)).graph.blobs.map Blob.resident =
        [false, false, true, false, true] ∧
      ((start .train none).run (scaledSource ++ lossAside ++
        [.commit 4, .commit 2, .commit 3, .commit 4])).graph.blobs.map Blob.resident =
        [false, true, true, false, true] ∧
      ((start .train none).run scaledSource).Defers
        (((start .train none).run scaledSource).run lossAside) := by
  have hbuilds : ∀ c ∈ lossAside, c.Builds := by
    simp only [lossAside, List.forall_mem_cons]
    exact ⟨trivial, trivial, trivial, by simp⟩
  have hdefers := (run_defers .train none scaledSource lossAside hbuilds).1
  exact ⟨hbuilds, by decide +kernel, by decide +kernel, hdefers⟩

end Session

end NetFootprint
