import NetFootprint.Proofs.Graph.Integrity
import NetFootprint.Proofs.Graph.Marks

/-!
# What layers have still to put on the device

A layer can be seen as keeping a list of the blobs that it has still to put on the device, which is
emptied when it does so; a loss has a softmax inside, with a list of its own. A session that keeps
these lists does what a session without them does, because what was put on the device stays there.
-/

namespace NetFootprint

/-- What is still to be put on the device: for a layer itself, and for the softmax inside it. -/
structure Pending where
  own : List Nat
  helper : List Nat

namespace Pending

def nothing : Pending := ⟨[], []⟩

/-- What a layer records while it is built. The softmax inside a loss reads the first input. -/
def ofLayer (l : Layer) : Pending where
  own := if l.family.readsOnDevice then l.leading else []
  helper := if l.family = .softmaxWithLoss then l.leading.take 1 else []

end Pending

namespace Graph

variable {g g' : Graph} {l : Layer} {p : Pending}

/-- Puts on the device what is pending. -/
def drain (g : Graph) (p : Pending) : Graph := p.helper.foldl mark (p.own.foldl mark g)

/-- The graph after a checked layer is taken in that puts on the device what is pending for it. -/
def acceptedDraining (g : Graph) (p : Pending) (l : Layer) (fresh : List Nat) (rank : Option Int) :
    Graph :=
  (((g.withRank rank).drain p).enlist l).publish l fresh

/-- What is pending for a layer is everything, or there is nothing left to be done. -/
def Owes (g : Graph) (l : Layer) (p : Pending) : Prop :=
  p = .ofLayer l ∨ p = .nothing ∧ ∀ ref, l.reads ref = true → (g.blob ref).resident = true

theorem drain_ofLayer (g : Graph) (l : Layer) : g.drain (.ofLayer l) = g.marked l := by
  have hown : g.marked l = (Pending.ofLayer l).own.foldl mark g := by
    unfold marked Pending.ofLayer
    split <;> rfl
  rw [drain, ← hown, foldl_mark_eq_raise]
  -- the softmax inside reads one of the inputs, which are on the device by then
  refine raise_of_resident fun ref href hhelper => ?_
  rw [length_blobs_marked] at href
  have hloss : l.family = .softmaxWithLoss ∧ ref ∈ l.leading := by
    by_cases hl : l.family = .softmaxWithLoss
    · simp only [Pending.ofLayer, if_pos hl, List.contains_iff_mem] at hhelper
      exact ⟨hl, List.mem_of_mem_take hhelper⟩
    · simp [Pending.ofLayer, hl] at hhelper
  rw [resident_marked href, hloss.1, List.contains_iff_mem.mpr hloss.2]
  simp [LayerType.readsOnDevice]

theorem Owes.drain (ho : g.Owes l p) (h : l.complete = true) : g.drain p = g.marked l := by
  rcases ho with rfl | ⟨rfl, hresident⟩
  · exact drain_ofLayer g l
  · rw [marked_eq_raise h, raise_of_resident fun ref _ => hresident ref]
    rfl

theorem Owes.acceptedDraining (ho : g.Owes l p) (h : l.complete = true) (fresh : List Nat)
    (rank : Option Int) : g.acceptedDraining p l fresh rank = g.accepted l fresh rank := by
  have ho' : (g.withRank rank).Owes l p := by
    rw [withRank_eq]
    exact ho
  rw [Graph.acceptedDraining, ho'.drain h, accepted]

theorem lt_of_resident {ref : Nat} (h : (g.blob ref).resident = true) : ref < g.blobs.length := by
  by_contra hlt
  have hdefault : g.blob ref = default := by
    simp [blob, List.getD_eq_getElem?_getD, Nat.le_of_not_lt hlt]
  rw [hdefault] at h
  cases h

theorem Owes.persists (ho : g.Owes l p) (hg : g.Persists g') : g'.Owes l p := by
  refine ho.imp_right fun ⟨hp, hresident⟩ => ⟨hp, fun ref href => ?_⟩
  exact hg.resident ref (lt_of_resident (hresident ref href)) (hresident ref href)

theorem Persists.marked (g : Graph) (l : Layer) : g.Persists (g.marked l) := by
  unfold Graph.marked
  split
  · exact .foldl_mark g _
  · exact .refl g

end Graph

/-- A session that keeps for every layer what is pending for it. -/
structure Ledger where
  session : Session
  pending : Nat → Pending

namespace Ledger

open Session

def start (phase : Phase) (elementSize : Option (List Float)) : Ledger where
  session := .start phase elementSize
  pending _ := .nothing

/-- The lists of the layers after that of one layer was changed. -/
def note (b : Ledger) (handle : Nat) (p : Pending) : Nat → Pending :=
  fun other => if other = handle then p else b.pending other

theorem note_self (b : Ledger) (handle : Nat) (p : Pending) : b.note handle p handle = p :=
  if_pos rfl

theorem note_of_ne (b : Ledger) {handle other : Nat} (h : other ≠ handle) (p : Pending) :
    b.note handle p other = b.pending other :=
  if_neg h

def step (b : Ledger) : Call → Ledger
  | .describe blob => { b with session := (b.session.step (.describe blob)).1 }
  | .mark ref => { b with session := (b.session.step (.mark ref)).1 }
  | .build d inputs =>
    if b.session.holds inputs then
      match b.session.graph.build d (slots inputs) with
      | .ok (l, built) => ⟨⟨built, b.session.layers ++ [l]⟩,
          b.note b.session.layers.length (.ofLayer l)⟩
      | .error _ => b
    else b
  | .create d inputs =>
    if b.session.holds inputs then
      match b.session.graph.build d (slots inputs) with
      | .ok (l, built) =>
        match built.approve l with
        | .ok (fresh, rank) =>
          ⟨⟨built.acceptedDraining (.ofLayer l) l fresh rank, b.session.layers ++ [l]⟩,
            b.note b.session.layers.length .nothing⟩
        | .error _ => b
      | .error _ => b
    else b
  | .append handle =>
    match b.session.layers[handle]? with
    | some l =>
      match b.session.graph.approve l with
      | .ok (fresh, rank) =>
        ⟨{ b.session with
            graph := b.session.graph.acceptedDraining (b.pending handle) l fresh rank },
          b.note handle .nothing⟩
      | .error _ => b
    | none => b
  | .commit handle =>
    match b.session.layers[handle]? with
    | some _ =>
      ⟨{ b.session with graph := b.session.graph.drain (b.pending handle) },
        b.note handle .nothing⟩
    | none => b

def run (b : Ledger) (calls : List Call) : Ledger := calls.foldl step b

/-- The lists are right. -/
structure Sound (b : Ledger) : Prop where
  inputs : ∀ l ∈ b.session.layers, ∀ ref, some ref ∈ l.inputs → ref < b.session.graph.blobs.length
  owes : ∀ (handle : Nat) l, b.session.layers[handle]? = some l →
    b.session.graph.Owes l (b.pending handle)

namespace Sound

variable {b : Ledger} {g : Graph} {l : Layer} {p : Pending}

theorem start (phase : Phase) (elementSize : Option (List Float)) :
    (start phase elementSize).Sound where
  inputs := by simp [Ledger.start, Session.start]
  owes := by simp [Ledger.start, Session.start]

theorem grow (h : b.Sound) (hg : b.session.graph.Persists g) :
    Sound { b with session := { b.session with graph := g } } where
  inputs l hl ref href := Nat.lt_of_lt_of_le (h.inputs l hl ref href) hg.grown.size
  owes handle l hl := (h.owes handle l hl).persists hg

theorem clear (h : b.Sound) {handle : Nat} (hl : b.session.layers[handle]? = some l)
    (hresident : ∀ ref, l.reads ref = true → (b.session.graph.blob ref).resident = true) :
    Sound { b with pending := b.note handle .nothing } where
  inputs := h.inputs
  owes other l' hl' := by
    by_cases ho : other = handle
    · subst ho
      obtain rfl := Option.some.inj (hl.symm.trans hl')
      exact .inr ⟨b.note_self other .nothing, hresident⟩
    · show b.session.graph.Owes l' (b.note handle .nothing other)
      rw [b.note_of_ne ho]
      exact h.owes other l' hl'

theorem hold (h : b.Sound) (hin : ∀ ref, some ref ∈ l.inputs → ref < b.session.graph.blobs.length)
    (ho : b.session.graph.Owes l p) :
    Sound ⟨{ b.session with layers := b.session.layers ++ [l] },
      b.note b.session.layers.length p⟩ where
  inputs l' hl' := by
    rcases List.mem_append.mp hl' with hold | hlast
    · exact h.inputs l' hold
    · rwa [List.mem_singleton.mp hlast]
  owes handle l' hl' := by
    show b.session.graph.Owes l' (b.note b.session.layers.length p handle)
    by_cases hh : handle = b.session.layers.length
    · subst hh
      obtain rfl : l = l' := by simpa using hl'
      rwa [b.note_self]
    · have hlt := (List.getElem?_eq_some_iff.mp hl').1
      rw [List.length_append, List.length_singleton] at hlt
      rw [List.getElem?_append_left (by omega)] at hl'
      rw [b.note_of_ne hh]
      exact h.owes handle l' hl'

end Sound

theorem resident_of_marked {g : Graph} {l : Layer} (h : l.complete = true)
    (hin : ∀ ref, some ref ∈ l.inputs → ref < g.blobs.length) {ref : Nat}
    (hread : l.reads ref = true) : ((g.marked l).blob ref).resident = true := by
  have href : ref < g.blobs.length := hin ref (by simpa using (Bool.and_eq_true_iff.mp hread).2)
  rw [Graph.resident_marked href, ← l.reads_eq h, hread, Bool.or_true]

theorem resident_of_accepted {g : Graph} {l : Layer} (h : l.complete = true)
    (hin : ∀ ref, some ref ∈ l.inputs → ref < g.blobs.length) (fresh : List Nat)
    (rank : Option Int) {ref : Nat} (hread : l.reads ref = true) :
    ((g.accepted l fresh rank).blob ref).resident = true := by
  have href : ref < g.blobs.length := hin ref (by simpa using (Bool.and_eq_true_iff.mp hread).2)
  rw [Graph.resident_accepted href, ← l.reads_eq h, hread, Bool.or_true]

theorem lt_of_built {s : Session} (hs : s.Housed) {d : Declaration} {inputs : Option (List Nat)}
    {l : Layer} {built : Graph} (hheld : s.holds inputs = true)
    (hb : s.graph.build d (slots inputs) = .ok (l, built)) :
    ∀ ref, some ref ∈ l.inputs → ref < built.blobs.length := by
  have hsize := (Graph.persists_build hb).grown.size
  obtain ⟨t, refs, draft, -, hreads, -, rfl, -⟩ := Graph.build_ok hb
  intro ref href
  exact Nat.lt_of_lt_of_le (hreads.lt hs.placed (lt_of_holds hheld) ref href) hsize

variable {b : Ledger}

/-- A call does the same to a session with lists and to one without. -/
theorem Sound.step (h : b.Sound) (hs : b.session.Housed) (c : Call) :
    (b.step c).session = (b.session.step c).1 ∧ (b.step c).Sound := by
  cases c with
  | describe blob => exact ⟨rfl, h.grow (hs.step (.describe blob)).2⟩
  | mark ref =>
    by_cases href : ref < b.session.graph.blobs.length
    · simp only [Ledger.step, Session.step, if_pos href]
      exact ⟨trivial, h.grow (.foldl_mark _ [ref])⟩
    · simp only [Ledger.step, Session.step, if_neg href]
      exact ⟨trivial, h⟩
  | build d inputs =>
    by_cases hheld : b.session.holds inputs = true
    · cases hb : b.session.graph.build d (slots inputs) with
      | error e =>
        simp only [Ledger.step, Session.step, hheld, if_true, hb]
        exact ⟨trivial, h⟩
      | ok made =>
        obtain ⟨l, built⟩ := made
        simp only [Ledger.step, Session.step, hheld, if_true, hb]
        have hgrown := h.grow (Graph.persists_build hb)
        exact ⟨trivial, hgrown.hold (lt_of_built hs hheld hb) (.inl rfl)⟩
    · simp only [Ledger.step, Session.step, hheld]
      exact ⟨rfl, h⟩
  | create d inputs =>
    by_cases hheld : b.session.holds inputs = true
    · cases hb : b.session.graph.build d (slots inputs) with
      | error e =>
        simp only [Ledger.step, Session.step, Graph.create, hheld, if_true, hb]
        exact ⟨trivial, h⟩
      | ok made =>
        obtain ⟨l, built⟩ := made
        cases ha : built.approve l with
        | error e =>
          simp only [Ledger.step, Session.step, Graph.create, hheld, if_true, hb, ha]
          exact ⟨trivial, h⟩
        | ok found =>
          obtain ⟨fresh, rank⟩ := found
          have hcomplete := Graph.complete_of_build hb (allGiven_slots inputs)
          have howes : built.Owes l (.ofLayer l) := .inl rfl
          simp only [Ledger.step, Session.step, Graph.create, hheld, if_true, hb, ha,
            Graph.take_of_complete hcomplete, howes.acceptedDraining hcomplete, Except.map]
          have hin := lt_of_built hs hheld hb
          have hgrown := h.grow ((Graph.persists_build hb).trans (.accepted built l fresh rank))
          refine ⟨rfl, hgrown.hold (by simpa using hin) (.inr ⟨rfl, fun ref hread => ?_⟩)⟩
          exact resident_of_accepted hcomplete hin fresh rank hread
    · simp only [Ledger.step, Session.step, hheld]
      exact ⟨rfl, h⟩
  | append handle =>
    cases hl : b.session.layers[handle]? with
    | none =>
      simp only [Ledger.step, Session.step, hl]
      exact ⟨rfl, h⟩
    | some l =>
      have hmem := List.mem_of_getElem? hl
      have hcomplete := hs.complete l hmem
      cases ha : b.session.graph.approve l with
      | error e =>
        simp only [Ledger.step, Session.step, Graph.append, hl, ha]
        exact ⟨trivial, h⟩
      | ok found =>
        obtain ⟨fresh, rank⟩ := found
        simp only [Ledger.step, Session.step, Graph.append, hl, ha,
          Graph.take_of_complete hcomplete, (h.owes handle l hl).acceptedDraining hcomplete]
        have hgrown := h.grow (.accepted b.session.graph l fresh rank)
        refine ⟨rfl, hgrown.clear hl fun ref hread => ?_⟩
        exact resident_of_accepted hcomplete (h.inputs l hmem) fresh rank hread
  | commit handle =>
    cases hl : b.session.layers[handle]? with
    | none =>
      simp only [Ledger.step, Session.step, hl]
      exact ⟨rfl, h⟩
    | some l =>
      have hmem := List.mem_of_getElem? hl
      have hcomplete := hs.complete l hmem
      simp only [Ledger.step, Session.step, hl, (h.owes handle l hl).drain hcomplete]
      have hgrown := h.grow (.marked b.session.graph l)
      refine ⟨rfl, hgrown.clear hl fun ref hread => ?_⟩
      exact resident_of_marked hcomplete (h.inputs l hmem) hread

theorem session_run (h : b.Sound) (hs : b.session.Housed) (calls : List Call) :
    (b.run calls).session = b.session.run calls := by
  induction calls generalizing b with
  | nil => rfl
  | cons c rest ih =>
    obtain ⟨hsession, hnext⟩ := h.step hs c
    have hhoused : (b.step c).session.Housed := by
      rw [hsession]
      exact (hs.step c).1
    have hrest : ((b.step c).run rest).session = (b.session.step c).1.run rest := by
      rw [ih hnext hhoused, hsession]
    exact hrest

end Ledger

end NetFootprint
