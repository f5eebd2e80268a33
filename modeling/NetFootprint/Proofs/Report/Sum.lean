import Mathlib.Algebra.BigOperators.Group.List.Basic
import Mathlib.Algebra.Ring.Int.Defs
import NetFootprint.Proofs.Outcome
import NetFootprint.Report

/-!
# Sums of figures

Figures are added up in whole numbers, one after the other, by computations that may fail. Where
none of them does, the result is the sum of the list.
-/

namespace NetFootprint

namespace Amount

theorem sum_whole (ns : List Int) : sum (ns.map (fun n => .ok (whole n))) = .ok (whole ns.sum) := by
  have h : ∀ (ns : List Int) (t : Int), (ns.map (fun n => Except.ok (whole n))).foldlM
      (fun total a => do total.add (← a)) (whole t) =
        (Except.ok (whole (t + ns.sum)) : Except Misuse Amount) := by
    intro ns
    induction ns with
    | nil => intro t; simp [pure, Except.pure]
    | cons n ns ih =>
      intro t
      rw [List.map_cons, List.foldlM_cons]
      exact (ih (t + n)).trans (by rw [List.sum_cons, Int.add_assoc])
  simpa [sum] using h ns 0

end Amount

theorem sum_le_sum_of_forall₂ {ns ms : List Int} (h : List.Forall₂ (· ≤ ·) ns ms) :
    ns.sum ≤ ms.sum := by
  induction h with
  | nil => exact Int.le_refl _
  | cons hle _ ih =>
    rw [List.sum_cons, List.sum_cons]
    exact Int.add_le_add hle ih

/-! ## Sums of what may fail -/

section

variable {f : Blob → Except Misuse Int} {blobs : List Blob} {total : Int}

theorem foldlM_add_eq_ok {start : Int} :
    blobs.foldlM (fun t b => do return t + (← f b)) start = .ok total ↔
      ∃ values, blobs.mapM f = .ok values ∧ start + values.sum = total := by
  induction blobs generalizing start with
  | nil => simp [pure_eq_ok]
  | cons b rest ih =>
    simp only [List.foldlM_cons, List.mapM_cons, bind_eq_ok, pure_eq_ok]
    constructor
    · rintro ⟨next, ⟨value, hvalue, rfl⟩, hrest⟩
      obtain ⟨values, hvalues, hsum⟩ := ih.mp hrest
      refine ⟨value :: values, ⟨value, hvalue, values, hvalues, rfl⟩, ?_⟩
      rw [List.sum_cons]
      omega
    · rintro ⟨_, ⟨value, hvalue, values, hvalues, rfl⟩, hsum⟩
      rw [List.sum_cons] at hsum
      refine ⟨start + value, ⟨value, hvalue, rfl⟩, ih.mpr ⟨values, hvalues, ?_⟩⟩
      omega

theorem sumOver_eq_ok :
    Body.sumOver f blobs = .ok total ↔
      ∃ values, blobs.mapM f = .ok values ∧ values.sum = total := by
  rw [Body.sumOver, foldlM_add_eq_ok]
  simp only [Int.zero_add]

theorem sumOver_flatMap {α : Type} {own : α → List Blob} {owners : List α} {totals : List Int}
    (h : List.Forall₂ (fun l t => Body.sumOver f (own l) = .ok t) owners totals) :
    ∃ values, (owners.flatMap own).mapM f = .ok values ∧ values.sum = totals.sum := by
  induction h with
  | nil => exact ⟨[], rfl, rfl⟩
  | cons hfirst _ ih =>
    obtain ⟨values, hvalues, hsum⟩ := sumOver_eq_ok.mp hfirst
    obtain ⟨others, hothers, hrest⟩ := ih
    refine ⟨values ++ others, ?_, ?_⟩
    · rw [List.flatMap_cons]
      exact mapM_eq_ok.mpr (List.rel_append (mapM_eq_ok.mp hvalues) (mapM_eq_ok.mp hothers))
    · rw [List.sum_append, List.sum_cons, hsum, hrest]

end

/-! ## Columns of a report -/

namespace Footprint

/-- The figures can be added up layer by layer or kind by kind. -/
theorem sum_total (fs : List Footprint) :
    (fs.map total).sum = (fs.map parameter).sum + (fs.map overhead).sum +
      (fs.map forward).sum + (fs.map backward).sum := by
  rw [← List.sum_map_add, ← List.sum_map_add, ← List.sum_map_add]
  rfl

end Footprint

namespace Report

theorem column_of_whole {r : Report} {figure : Row → Value} {ns : List Int}
    (h : r.rows.map figure = ns.map Value.int) : r.column figure = .ok (.whole ns.sum) := by
  have hf : r.rows.map (fun row => (figure row).amount) =
      ns.map (fun n => Except.ok (Amount.whole n)) := by
    have := congrArg (List.map Value.amount) h
    simpa [List.map_map, Function.comp_def] using this
  rw [column, hf, Amount.sum_whole]

/-- The total of whole figures is the sum of the totals of their layers. -/
theorem total_of_footprints {r : Report} {entries : List (String × String × Footprint)}
    (h : r.rows = entries.map (fun e => .ofFootprint e.1 e.2.1 e.2.2)) :
    r.total = .ok (.whole (entries.map (fun e => e.2.2.total)).sum) := by
  have hc (figure : Row → Value) (part : Footprint → Int)
      (hf : ∀ name type f, figure (.ofFootprint name type f) = .int (part f)) :
      r.column figure = .ok (.whole (entries.map (fun e => part e.2.2)).sum) := by
    apply column_of_whole
    simp [h, hf]
  have hs := Footprint.sum_total (entries.map (fun e => e.2.2))
  simp only [List.map_map, Function.comp_def] at hs
  rw [hs, total, parameter, overhead, forward, backward,
    hc Row.parameter Footprint.parameter fun _ _ _ => rfl,
    hc Row.overhead Footprint.overhead fun _ _ _ => rfl,
    hc Row.forward Footprint.forward fun _ _ _ => rfl,
    hc Row.backward Footprint.backward fun _ _ _ => rfl]
  rfl

end Report

end NetFootprint
