import NetFootprint.Proofs.Graph.Create

/-!
# Sessions

A session is a graph in use: layers are created by name or from given blobs, registered at once or
only built and appended later, and blobs are put on the device in between. Every call that is
refused leaves the session as it was, so the refused calls of a run might as well not have been
made.
-/

namespace NetFootprint

/-- A graph in use, and the layers that were built for it, registered or not. -/
structure Session where
  graph : Graph
  layers : List Layer

/-- A call on a session. Blobs are given by their places, and layers by the order in which they were
built. -/
inductive Call where
  /-- Makes a blob that belongs to no layer. -/
  | describe (b : Blob)
  /-- Puts a blob on the device. -/
  | mark (ref : Nat)
  /-- Builds a layer on given blobs, or else on those that it names, and registers it. -/
  | create (d : Declaration) (inputs : Option (List Nat))
  /-- Builds a layer without registering it. -/
  | build (d : Declaration) (inputs : Option (List Nat))
  /-- Registers a layer that was built before. -/
  | append (handle : Nat)
  /-- Puts the blobs that a layer reads on the device. -/
  | commit (handle : Nat)

namespace Session

def start (phase : Phase) (elementSize : Option (List Float)) : Session :=
  { graph := Graph.empty phase elementSize, layers := [] }

def holds (s : Session) (inputs : Option (List Nat)) : Bool :=
  (inputs.getD []).all (fun ref => decide (ref < s.graph.blobs.length))

def slots (inputs : Option (List Nat)) : Option (List (Option Nat)) := inputs.map (·.map some)

/-- What is asked for is not there. -/
def unknown (s : Session) : Session × Except Failure Unit := (s, .error (.misuse .missingEntry))

def step (s : Session) : Call → Session × Except Failure Unit
  | .describe b => ({ s with graph := (s.graph.place b).2 }, .ok ())
  | .mark ref =>
    if ref < s.graph.blobs.length then ({ s with graph := s.graph.mark ref }, .ok ())
    else s.unknown
  | .create d inputs =>
    if s.holds inputs then
      let change := s.graph.create d (slots inputs)
      match change.result with
      | .ok l => ({ graph := change.graph, layers := s.layers ++ [l] }, .ok ())
      | .error e => ({ s with graph := change.graph }, .error e)
    else s.unknown
  | .build d inputs =>
    if s.holds inputs then
      match s.graph.build d (slots inputs) with
      | .ok (l, g) => ({ graph := g, layers := s.layers ++ [l] }, .ok ())
      | .error e => (s, .error e)
    else s.unknown
  | .append handle =>
    match s.layers[handle]? with
    | some l => ({ s with graph := (s.graph.append l).graph }, (s.graph.append l).result)
    | none => s.unknown
  | .commit handle =>
    match s.layers[handle]? with
    | some l => ({ s with graph := (s.graph.commit l).graph }, (s.graph.commit l).result)
    | none => s.unknown

def run (s : Session) (calls : List Call) : Session := calls.foldl (fun s c => (s.step c).1) s

def accepted (s : Session) : List Call → List Call
  | [] => []
  | c :: rest =>
    match s.step c with
    | (next, .ok ()) => c :: accepted next rest
    | (next, .error _) => accepted next rest

/-- No layer lacks an input. -/
def Complete (s : Session) : Prop := ∀ l ∈ s.layers, l.complete = true

variable {s : Session}

/-! ## One call -/

theorem allGiven_slots (inputs : Option (List Nat)) : Graph.AllGiven (slots inputs) := by
  intro refs h
  obtain ⟨places, -, rfl⟩ := Option.map_eq_some_iff.mp h
  simp

/-- What a call may make of a session in which no layer lacks an input, and whether it succeeds. -/
inductive Moves (s : Session) : Call → Session × Except Failure Unit → Prop where
  | refused (c : Call) (e : Failure) : Moves s c (s, .error e)
  | described (b : Blob) :
    Moves s (.describe b) ({ s with graph := (s.graph.place b).2 }, .ok ())
  | marked (c : Call) (refs : List Nat) :
    Moves s c ({ s with graph := refs.foldl Graph.mark s.graph }, .ok ())
  | built {d : Declaration} {inputs : Option (List Nat)} {l : Layer} {built : Graph}
    (hheld : s.holds inputs = true) (hb : s.graph.build d (slots inputs) = .ok (l, built)) :
    Moves s (.build d inputs) (⟨built, s.layers ++ [l]⟩, .ok ())
  | created {d : Declaration} {inputs : Option (List Nat)} {l : Layer} {built : Graph}
    {fresh : List Nat} {rank : Option Int} (hheld : s.holds inputs = true)
    (hb : s.graph.build d (slots inputs) = .ok (l, built))
    (ha : built.approve l = .ok (fresh, rank)) :
    Moves s (.create d inputs) (⟨built.accepted l fresh rank, s.layers ++ [l]⟩, .ok ())
  | appended {handle : Nat} {l : Layer} {fresh : List Nat} {rank : Option Int} (hl : l ∈ s.layers)
    (ha : s.graph.approve l = .ok (fresh, rank)) :
    Moves s (.append handle) ({ s with graph := s.graph.accepted l fresh rank }, .ok ())

theorem Complete.moves (hs : s.Complete) (c : Call) : s.Moves c (s.step c) := by
  cases c with
  | describe b => exact .described b
  | mark ref =>
    by_cases href : ref < s.graph.blobs.length
    · rw [step, if_pos href]
      exact .marked _ [ref]
    · rw [step, if_neg href]
      exact .refused _ _
  | create d inputs =>
    by_cases hheld : s.holds inputs = true
    · rcases Graph.create_of_given (g := s.graph) (d := d) (allGiven_slots inputs) with ⟨e, he⟩ |
        ⟨l, built, fresh, rank, hb, ha, hcreate⟩
      · simp only [step, hheld, if_true, he]
        exact .refused _ e
      · simp only [step, hheld, if_true, hcreate]
        exact .created hheld hb ha
    · rw [step, if_neg hheld]
      exact .refused _ _
  | build d inputs =>
    by_cases hheld : s.holds inputs = true
    · cases hb : s.graph.build d (slots inputs) with
      | error e =>
        simp only [step, hheld, if_true, hb]
        exact .refused _ e
      | ok made =>
        simp only [step, hheld, if_true, hb]
        exact .built hheld hb
    · rw [step, if_neg hheld]
      exact .refused _ _
  | append handle =>
    cases hl : s.layers[handle]? with
    | none =>
      simp only [step, hl]
      exact .refused _ _
    | some l =>
      have hmem := List.mem_of_getElem? hl
      rcases Graph.append_of_complete (g := s.graph) (hs l hmem) with ⟨e, he⟩ |
        ⟨fresh, rank, ha, happend⟩
      · simp only [step, hl, he]
        exact .refused _ e
      · simp only [step, hl, happend]
        exact .appended hmem ha
  | commit handle =>
    cases hl : s.layers[handle]? with
    | none =>
      simp only [step, hl]
      exact .refused _ _
    | some l =>
      have hcomplete := hs l (List.mem_of_getElem? hl)
      simp only [step, hl, Graph.commit, Graph.marked, hcomplete, Bool.not_true, Bool.and_false,
        Bool.false_eq_true, if_false]
      split
      · exact .marked _ l.leading
      · exact .marked _ []

/-- A call succeeds, or it leaves the session as it was. Either way no layer lacks an input. -/
theorem step_cases (hs : s.Complete) (c : Call) :
    ((s.step c).2 = .ok () ∨ (s.step c).1 = s) ∧ (s.step c).1.Complete := by
  have hkeep {l : Layer} {g g' : Graph} {d : Declaration} {inputs : Option (List Nat)}
      (hb : s.graph.build d (slots inputs) = .ok (l, g)) : Complete ⟨g', s.layers ++ [l]⟩ := by
    intro l' hl'
    rcases List.mem_append.mp hl' with hold | hnew
    · exact hs l' hold
    · rw [List.mem_singleton.mp hnew]
      exact Graph.complete_of_build hb (allGiven_slots inputs)
  have hmoves := hs.moves c
  generalize s.step c = outcome at hmoves ⊢
  cases hmoves with
  | refused => exact ⟨.inr rfl, hs⟩
  | described | marked | appended => exact ⟨.inl rfl, hs⟩
  | built _ hb | created _ hb _ => exact ⟨.inl rfl, hkeep hb⟩

/-! ## Runs -/

theorem Complete.run (hs : s.Complete) (calls : List Call) : (s.run calls).Complete := by
  induction calls generalizing s with
  | nil => exact hs
  | cons c rest ih => exact ih (step_cases hs c).2

theorem accepted_cons_ok {c : Call} {rest : List Call} (h : (s.step c).2 = .ok ()) :
    s.accepted (c :: rest) = c :: (s.step c).1.accepted rest := by
  rw [accepted]
  split
  · next next hc => rw [hc]
  · next next e hc =>
    rw [hc] at h
    cases h

theorem accepted_cons_error {c : Call} {rest : List Call} {e : Failure}
    (h : (s.step c).2 = .error e) : s.accepted (c :: rest) = (s.step c).1.accepted rest := by
  rw [accepted]
  split
  · next next hc =>
    rw [hc] at h
    cases h
  · next next e' hc => rw [hc]

theorem Complete.run_accepted (hs : s.Complete) (calls : List Call) :
    s.run (s.accepted calls) = s.run calls ∧
      s.accepted (s.accepted calls) = s.accepted calls := by
  induction calls generalizing s with
  | nil => exact ⟨rfl, rfl⟩
  | cons c rest ih =>
    obtain ⟨hcase, hnext⟩ := step_cases hs c
    obtain ⟨hrun, hagain⟩ := ih hnext
    cases hc : (s.step c).2 with
    | ok u =>
      rw [accepted_cons_ok hc, accepted_cons_ok hc, hagain]
      exact ⟨hrun, rfl⟩
    | error e =>
      have hsame : (s.step c).1 = s := by
        rcases hcase with hok | hsame
        · rw [hc] at hok
          cases hok
        · exact hsame
      have hskip : s.run (c :: rest) = s.run rest := by
        rw [Session.run, Session.run, List.foldl_cons, hsame]
      rw [hsame] at hrun hagain
      rw [accepted_cons_error hc, hsame, hskip]
      exact ⟨hrun, hagain⟩

/-- Whatever was called before, a call that does not succeed changes nothing; so a run without the
calls that fail ends where the whole run ends, and nothing fails in it. -/
theorem refused_calls_change_nothing (phase : Phase) (elementSize : Option (List Float))
    (calls : List Call) :
    (∀ c, (((start phase elementSize).run calls).step c).2 = .ok () ∨
      (((start phase elementSize).run calls).step c).1 = (start phase elementSize).run calls) ∧
    (start phase elementSize).run ((start phase elementSize).accepted calls) =
      (start phase elementSize).run calls ∧
    (start phase elementSize).accepted ((start phase elementSize).accepted calls) =
      (start phase elementSize).accepted calls := by
  have hs : (start phase elementSize).Complete := by simp [Complete, start]
  exact ⟨fun c => (step_cases (hs.run calls) c).1, hs.run_accepted calls⟩

end Session

end NetFootprint
