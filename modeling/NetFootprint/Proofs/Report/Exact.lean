import NetFootprint.Proofs.Graph.Residency
import NetFootprint.Proofs.Report.Defined
import NetFootprint.Proofs.Report.Formula

/-!
# The budget check and exact counts

A report counts elements in signed 64-bit arithmetic. What a network requires is the same sum with
exact counts. The report never exceeds it, so a network that meets a budget is never refused; and
the two are the same, so that no other network passes, exactly when every blob on the device has
fewer than `2 ^ 63` elements.
-/

namespace NetFootprint

/-! ## Products -/

theorem foldl_mul (extents : List Nat) (start : Nat) :
    extents.foldl (· * ·) start = start * exactProduct extents := by
  induction extents generalizing start with
  | nil => simp [exactProduct]
  | cons e rest ih =>
    have hcons : exactProduct (e :: rest) = rest.foldl (· * ·) (1 * e) := rfl
    rw [List.foldl_cons, ih, hcons, ih, Nat.one_mul, Nat.mul_assoc]

@[simp] theorem exactProduct_cons (e : Nat) (rest : List Nat) :
    exactProduct (e :: rest) = e * exactProduct rest := by
  have hcons : exactProduct (e :: rest) = rest.foldl (· * ·) (1 * e) := rfl
  rw [hcons, foldl_mul, Nat.one_mul]

theorem exactProduct_pos {extents : List Nat} (h : ∀ e ∈ extents, 1 ≤ e) :
    1 ≤ exactProduct extents := by
  induction extents with
  | nil => exact Nat.le_refl 1
  | cons e rest ih =>
    rw [exactProduct_cons]
    exact Nat.mul_pos (h e (by simp)) (ih fun e' he' => h e' (List.mem_cons_of_mem _ he'))

theorem exactProduct_drop_le {extents : List Nat} (h : ∀ e ∈ extents, 1 ≤ e) (n : Nat) :
    exactProduct (extents.drop n) ≤ exactProduct extents := by
  induction extents generalizing n with
  | nil => simp
  | cons e rest ih =>
    cases n with
    | zero => exact Nat.le_refl _
    | succ n =>
      have hle := ih (fun e' he' => h e' (List.mem_cons_of_mem _ he')) n
      rw [List.drop_succ_cons, exactProduct_cons]
      exact Nat.le_trans hle (Nat.le_mul_of_pos_left _ (h e (by simp)))

theorem le_exactProduct {extents : List Nat} (h : ∀ e ∈ extents, 1 ≤ e) {e : Nat}
    (he : e ∈ extents) : e ≤ exactProduct extents := by
  induction extents with
  | nil => cases he
  | cons first rest ih =>
    have hrest : ∀ e' ∈ rest, 1 ≤ e' := fun e' he' => h e' (List.mem_cons_of_mem _ he')
    rw [exactProduct_cons]
    rcases List.mem_cons.mp he with rfl | he
    · exact Nat.le_mul_of_pos_right _ (exactProduct_pos hrest)
    · exact Nat.le_trans (ih hrest he) (Nat.le_mul_of_pos_left _ (h first (by simp)))

theorem wrappedProduct_eq_ok {extents : List Nat} {n : Int} :
    wrappedProduct extents = .ok n ↔
      (∀ e ∈ extents, e < 2 ^ 64) ∧ n = Int.bmod (exactProduct extents) (2 ^ 64) := by
  have hany : extents.any (fun e => Nat.pow 2 64 ≤ e) = true ↔ ¬ ∀ e ∈ extents, e < 2 ^ 64 := by
    simp [List.any_eq_true]
  simp only [wrappedProduct, ite_eq_ok, reduceCtorEq, and_false, false_or, hany, not_not,
    Except.ok.injEq]
  rw [eq_comm (a := n)]
  rfl

theorem bmod_le_self (n : Nat) : Int.bmod n (2 ^ 64) ≤ n := by
  have hdef := Int.bmod_def (n : Int) (2 ^ 64)
  split at hdef <;> omega

/-- A count stays what it is exactly if it is below `2 ^ 63`. -/
theorem bmod_eq_self_iff (n : Nat) : Int.bmod n (2 ^ 64) = n ↔ n < 2 ^ 63 := by
  have hdef := Int.bmod_def (n : Int) (2 ^ 64)
  constructor <;> intro h
  · split at hdef <;> omega
  · split at hdef <;> omega

theorem wrappedProduct_of_small {extents : List Nat} (hpos : ∀ e ∈ extents, 1 ≤ e)
    (h : exactProduct extents < 2 ^ 63) :
    wrappedProduct extents = .ok (exactProduct extents) := by
  refine wrappedProduct_eq_ok.mpr ⟨fun e he => ?_, ((bmod_eq_self_iff _).mpr h).symm⟩
  have hle := le_exactProduct hpos he
  omega

theorem wrapped_atMost_exact (extents : List Nat) :
    AtMost (wrappedProduct extents) (exactElements extents) := by
  intro n hn
  obtain ⟨-, hvalue⟩ := wrappedProduct_eq_ok.mp hn
  refine ⟨exactProduct extents, rfl, ?_⟩
  rw [hvalue]
  exact bmod_le_self _

/-! ## Blobs in two ways of counting -/

theorem fdiv_le_fdiv_channels {n n' : Int} {k : Nat} (hn : n ≤ n') (hk : k ≠ 0) :
    Int.fdiv n k ≤ Int.fdiv n' k := by
  have hpos : (0 : Int) < k := by omega
  rw [Int.fdiv_eq_ediv_of_nonneg _ hpos.le, Int.fdiv_eq_ediv_of_nonneg _ hpos.le]
  exact Int.ediv_le_ediv hpos hn

theorem Weighs.self {c c' : Count} {b : Blob} (helements : AtMost (c b.shape) (c' b.shape))
    (hspatial : AtMost (c (b.shape.drop 2)) (c' (b.shape.drop 2)))
    (hnonneg : ∀ n, c' (b.shape.drop 2) = .ok n → 0 ≤ n) : Weighs c c' b b where
  elements := helements
  spatial := hspatial
  spatial_nonneg := hnonneg
  channels k hk := ⟨k, hk, Nat.le_refl k⟩
  perChannel n n' k k' hn hn' hk hk' hz := by
    obtain rfl : k = k' := eq_of_ok hk hk'
    obtain ⟨m, hm, hle⟩ := helements n hn
    obtain rfl : n' = m := eq_of_ok hn' hm
    exact fdiv_le_fdiv_channels hle hz

theorem weighs_exact (b : Blob) : Weighs wrappedProduct exactElements b b := by
  refine .self (wrapped_atMost_exact _) (wrapped_atMost_exact _) fun n hn => ?_
  obtain rfl := Except.ok.inj hn
  exact Int.natCast_nonneg _

theorem weighs_wrapped {b : Blob} (hpos : ∀ e ∈ b.shape, 1 ≤ e) (h : b.exactCount < 2 ^ 63) :
    Weighs exactElements wrappedProduct b b := by
  have hdrop : exactProduct (b.shape.drop 2) < 2 ^ 63 :=
    Nat.lt_of_le_of_lt (exactProduct_drop_le hpos 2) h
  have hwhole := wrappedProduct_of_small hpos h
  have hspatial := wrappedProduct_of_small (fun e he => hpos e (List.mem_of_mem_drop he)) hdrop
  refine .self ?_ ?_ fun n hn => ?_
  · rw [hwhole]
    exact .ok (Int.le_refl _)
  · rw [hspatial]
    exact .ok (Int.le_refl _)
  · rw [hspatial] at hn
    obtain rfl := Except.ok.inj hn
    exact Int.natCast_nonneg _

/-- Bytes for the values of a blob on the device, where elements are counted in a given way. -/
def Blob.forwardBytesBy (count : Count) (b : Blob) : Except Misuse Int :=
  if b.resident && b.forward then Body.blobBytes count b else .ok 0

/-- Bytes for the gradient of a blob on the device, where elements are counted in a given way. -/
def Blob.backwardBytesBy (count : Count) (b : Blob) : Except Misuse Int :=
  if b.resident && b.gradient then Body.blobBytes count b else .ok 0

theorem Blob.forwardBytesBy_wrapped : Blob.forwardBytesBy wrappedProduct = Blob.forwardBytes := rfl

theorem Blob.backwardBytesBy_wrapped :
    Blob.backwardBytesBy wrappedProduct = Blob.backwardBytes := rfl

section

variable {c c' : Count} {b : Blob}

theorem Blob.forwardBytesBy_mono (h : b.resident = true → Weighs c c' b b) :
    AtMost (b.forwardBytesBy c) (b.forwardBytesBy c') := by
  unfold Blob.forwardBytesBy
  split
  · next hr => exact Body.blobBytes_mono (h (Bool.and_eq_true _ _ ▸ hr).1)
  · exact .ok (Int.le_refl 0)

theorem Blob.backwardBytesBy_mono (h : b.resident = true → Weighs c c' b b) :
    AtMost (b.backwardBytesBy c) (b.backwardBytesBy c') := by
  unfold Blob.backwardBytesBy
  split
  · next hr => exact Body.blobBytes_mono (h (Bool.and_eq_true _ _ ▸ hr).1)
  · exact .ok (Int.le_refl 0)

end

/-! ## What a network requires -/

namespace Graph

variable {g : Graph} {l : Layer} {accelerated : Bool} {c c' : Count}

/-- Bytes that a layer needs besides its blobs, where elements are counted in a given way. -/
def consumptionBy (g : Graph) (count : Count) (accelerated : Bool) (l : Layer) :
    Except Misuse Int := do
  let parameters ← g.parameterBytes l
  return parameters +
    (← l.body.overheadBytes count accelerated (g.inputsOf l) (g.outputsOf l))

/-- What the layers and the blobs of a network take, where elements are counted in a given way. -/
def required (g : Graph) (count : Count) (accelerated : Bool) : Except Misuse Int := do
  let consumed ← g.layers.mapM (g.consumptionBy count accelerated)
  let forward ← g.registeredBlobs.mapM (Blob.forwardBytesBy count)
  let backward ← g.registeredBlobs.mapM (Blob.backwardBytesBy count)
  return consumed.sum + forward.sum + backward.sum

theorem consumptionBy_wrapped :
    g.consumptionBy wrappedProduct accelerated = g.consumption accelerated := rfl

theorem required_of_balances {n : Network} {rep : Report} (h : rep.Balances n accelerated) :
    ∃ total, n.graph.required wrappedProduct accelerated = .ok total ∧
      rep.total = .ok (.whole total) := by
  obtain ⟨consumed, forward, backward, hconsumed, hforward, hbackward, htotal⟩ := h.total
  refine ⟨_, ?_, htotal⟩
  have hl : n.graph.layers.mapM (n.graph.consumption accelerated) = .ok consumed := hconsumed
  have hf : n.graph.registeredBlobs.mapM Blob.forwardBytes = .ok forward := hforward
  have hb : n.graph.registeredBlobs.mapM Blob.backwardBytes = .ok backward := hbackward
  rw [required, consumptionBy_wrapped, Blob.forwardBytesBy_wrapped, Blob.backwardBytesBy_wrapped,
    hl, ok_bind, hf, ok_bind, hb]
  rfl

/-- A layer that does not compute on the device has no overhead, however elements are counted. -/
theorem overheadBytes_offDevice {body : Body} {inputs outputs : List Blob}
    (h : body.family.readsOnDevice = false) (count : Count) :
    body.overheadBytes count accelerated inputs outputs = .ok 0 := by
  cases body <;> first | rfl | cases h

theorem consumptionBy_mono
    (h : l.family.readsOnDevice = true → ∀ b ∈ g.inputsOf l ++ g.outputsOf l, Weighs c c' b b) :
    AtMost (g.consumptionBy c accelerated l) (g.consumptionBy c' accelerated l) := by
  have hoverhead : AtMost (l.body.overheadBytes c accelerated (g.inputsOf l) (g.outputsOf l))
      (l.body.overheadBytes c' accelerated (g.inputsOf l) (g.outputsOf l)) := by
    cases ht : l.family.readsOnDevice with
    | false =>
      rw [overheadBytes_offDevice ht, overheadBytes_offDevice ht]
      exact .ok (Int.le_refl 0)
    | true =>
      have hall := h ht
      refine Body.overheadBytes_mono accelerated (.refl l.body) ?_ ?_
      · exact List.forall₂_same.mpr fun b hb => hall b (List.mem_append_left _ hb)
      · exact List.forall₂_same.mpr fun b hb => hall b (List.mem_append_right _ hb)
  have hparameters : AtMost (g.parameterBytes l) (g.parameterBytes l) :=
    fun n hn => ⟨n, hn, Int.le_refl n⟩
  exact hparameters.bind fun n n' _ _ hn => hoverhead.bind fun m m' _ _ hm =>
    .ok (Int.add_le_add hn hm)

/-- Figures that are pointwise at most others, and in sum at least, are the others. -/
theorem eq_of_sum_le {ns ms : List Int} (h : List.Forall₂ (· ≤ ·) ns ms)
    (hsum : ms.sum ≤ ns.sum) : ns = ms := by
  induction h with
  | nil => rfl
  | @cons n m ns ms hle hrest ih =>
    have hsums := sum_le_sum_of_forall₂ hrest
    rw [List.sum_cons, List.sum_cons] at hsum
    have hhead : n = m := by omega
    rw [hhead, ih (by omega)]

variable (c') in
/-- Counting more leads to a requirement that is not smaller, and it is the same only if every blob
takes the same. -/
theorem required_mono {total : Int}
    (hlayers : ∀ l ∈ g.layers, l.family.readsOnDevice = true →
      ∀ b ∈ g.inputsOf l ++ g.outputsOf l, Weighs c c' b b)
    (hblobs : ∀ b ∈ g.registeredBlobs, b.resident = true → Weighs c c' b b)
    (h : g.required c accelerated = .ok total) :
    ∃ total', g.required c' accelerated = .ok total' ∧ total ≤ total' ∧
      (total' ≤ total → ∀ b ∈ g.registeredBlobs, b.forwardBytesBy c = b.forwardBytesBy c') := by
  simp only [required, bind_eq_ok, pure_eq_ok] at h
  obtain ⟨consumed, hconsumed, forward, hforward, backward, hbackward, rfl⟩ := h
  obtain ⟨consumed', hconsumed', hcle⟩ :=
    AtMost.mapM (fun l hl => consumptionBy_mono (hlayers l hl)) hconsumed
  obtain ⟨forward', hforward', hfle⟩ :=
    AtMost.mapM (fun b hb => Blob.forwardBytesBy_mono (hblobs b hb)) hforward
  obtain ⟨backward', hbackward', hble⟩ :=
    AtMost.mapM (fun b hb => Blob.backwardBytesBy_mono (hblobs b hb)) hbackward
  have hc := sum_le_sum_of_forall₂ hcle
  have hf := sum_le_sum_of_forall₂ hfle
  have hb := sum_le_sum_of_forall₂ hble
  refine ⟨consumed'.sum + forward'.sum + backward'.sum, ?_, by omega, fun hge b hmem => ?_⟩
  · rw [required, hconsumed', ok_bind, hforward', ok_bind, hbackward']
    rfl
  · obtain rfl := eq_of_sum_le hfle (by omega)
    obtain ⟨i, hi, rfl⟩ := List.mem_iff_getElem.mp hmem
    have h₁ := (List.forall₂_iff_get.mp (mapM_eq_ok.mp hforward)).2 i hi
      ((mapM_eq_ok.mp hforward).length_eq ▸ hi)
    have h₂ := (List.forall₂_iff_get.mp (mapM_eq_ok.mp hforward')).2 i hi
      ((mapM_eq_ok.mp hforward).length_eq ▸ hi)
    exact h₁.trans h₂.symm

theorem Reached.used_resident (h : g.Reached) (hl : l ∈ g.layers)
    (ht : l.family.readsOnDevice = true) {b : Blob} (hb : b ∈ g.inputsOf l ++ g.outputsOf l) :
    b.resident = true := by
  obtain ⟨ref, rfl, huse⟩ := exists_use hb
  exact h.resident_used hl ht huse

theorem Reached.required_exact (h : g.Reached) {total : Int}
    (ht : g.required wrappedProduct accelerated = .ok total) :
    ∃ required, g.required exactElements accelerated = .ok required ∧ total ≤ required ∧
      (required ≤ total ↔ ∀ b ∈ g.registeredBlobs, b.resident = true → b.exactCount < 2 ^ 63) := by
  obtain ⟨required, hrequired, hle, hsame⟩ := required_mono exactElements
    (fun l _ _ b _ => weighs_exact b) (fun b _ _ => weighs_exact b) ht
  refine ⟨required, hrequired, hle, fun hge b hb hres => ?_, fun hsmall => ?_⟩
  -- the two sums are the same, so every blob on the device takes the same in both
  · obtain ⟨ref, href, rfl⟩ := List.mem_map.mp hb
    have hbytes := hsame hge (g.blob ref) hb
    have hkept : ((g.blob ref).resident && (g.blob ref).forward) = true := by
      rw [hres, (h.accounted ref href).forward]
      rfl
    simp only [Blob.forwardBytesBy, hkept, if_true, Body.blobBytes] at hbytes
    have hexact : (exactElements (g.blob ref).shape >>= fun n =>
        (pure (bytesPerElement * n) : Except Misuse Int)) =
          .ok (bytesPerElement * (g.blob ref).exactCount) := rfl
    rw [hexact] at hbytes
    obtain ⟨n, hn, heq⟩ := bind_eq_ok.mp hbytes
    obtain ⟨-, hvalue⟩ := wrappedProduct_eq_ok.mp hn
    have hcount : n = (g.blob ref).exactCount :=
      Int.eq_of_mul_eq_mul_left (by decide) (pure_eq_ok.mp heq)
    exact (bmod_eq_self_iff _).mp (hvalue.symm.trans hcount)
  -- nothing wraps around, so wrapping arithmetic does not count less either
  · have hweighs : ∀ b ∈ g.registeredBlobs, b.resident = true →
        Weighs exactElements wrappedProduct b b := by
      intro b hb hres
      obtain ⟨ref, href, rfl⟩ := List.mem_map.mp hb
      exact weighs_wrapped (h.extents ref href) (hsmall _ hb hres)
    obtain ⟨total', htotal', hle', -⟩ := required_mono wrappedProduct
      (fun l hl hdevice b hb => by
        obtain ⟨ref, href, rfl⟩ := h.mem_blobs hl hb
        exact hweighs _ (List.mem_map_of_mem href) (h.used_resident hl hdevice hb))
      hweighs hrequired
    rw [ht] at htotal'
    obtain rfl := Except.ok.inj htotal'
    exact hle'

end Graph

/-! ## The budget check -/

namespace Report

theorem fits_of_total {rep : Report} {total : Int} (h : rep.total = .ok (.whole total))
    (budget : Int) : rep.fits (.int budget) = .ok (decide (total ≤ budget)) := by
  rw [fits, h]
  rfl

/-- The check of a budget passes exactly if the network fits. -/
theorem checkBudget_eq_ok {rep : Report} {budget : Value} :
    rep.checkBudget budget = .ok () ↔ rep.fits budget = .ok true := by
  simp only [checkBudget, bind_eq_ok, lift_eq_ok]
  constructor
  · rintro ⟨fits, hfits, hrest⟩
    cases fits with
    | true => exact hfits
    | false => simp [bind_eq_ok, throw_eq_ok] at hrest
  · intro hfits
    exact ⟨true, hfits, rfl⟩

end Report

/-- The budget check never refuses a network that meets the budget. It lets no other network pass,
whatever the budget is, exactly if every blob on the device has fewer than `2 ^ 63` elements. -/
theorem Network.fits_sound_iff {r : Request} {n : Network} (h : r.network = .ok n)
    {accelerated : Value} {rep : Report} (hr : n.report accelerated = .ok rep) :
    ∃ required : Int, n.graph.required exactElements accelerated.truthy = .ok required ∧
      (∀ budget : Int, rep.checkBudget (.int budget) = .ok () ↔
        rep.fits (.int budget) = .ok true) ∧
      (∀ budget : Int, required ≤ budget → rep.fits (.int budget) = .ok true) ∧
      ((∀ budget : Int, rep.fits (.int budget) = .ok true → required ≤ budget) ↔
        ∀ b ∈ n.blobs, b.resident = true → b.exactCount < 2 ^ 63) := by
  have hreached := Graph.reached_of_network h
  obtain ⟨total, htotal, hrep⟩ := Graph.required_of_balances (Network.report_balances h hr)
  obtain ⟨required, hrequired, hle, hiff⟩ := hreached.required_exact htotal
  have hfits (budget : Int) : rep.fits (.int budget) = .ok true ↔ total ≤ budget := by
    rw [Report.fits_of_total hrep budget, Except.ok.injEq, decide_eq_true_iff]
  refine ⟨required, hrequired, fun budget => Report.checkBudget_eq_ok, fun budget hb => ?_, ?_⟩
  · exact (hfits budget).mpr (Int.le_trans hle hb)
  · rw [show n.blobs = n.graph.registeredBlobs from rfl, ← hiff]
    constructor
    · intro hsound
      exact hsound total ((hfits total).mpr (Int.le_refl total))
    · intro hge budget hb
      exact Int.le_trans hge ((hfits budget).mp hb)

theorem fits_sound_rectified :
    ∃ n rep, rectified.network = .ok n ∧ n.report (.bool true) = .ok rep ∧
      ∃ required : Int, n.graph.required exactElements true = .ok required ∧
        (∀ budget : Int, rep.checkBudget (.int budget) = .ok () ↔
          rep.fits (.int budget) = .ok true) ∧
        (∀ budget : Int, required ≤ budget → rep.fits (.int budget) = .ok true) ∧
        ((∀ budget : Int, rep.fits (.int budget) = .ok true → required ≤ budget) ↔
          ∀ b ∈ n.blobs, b.resident = true → b.exactCount < 2 ^ 63) := by
  have hrun : rectified.network.toOption.any
      (fun n => (n.report (.bool true)).toOption.isSome) = true := by decide +kernel
  obtain ⟨n, hn, hsome⟩ := exists_of_any hrun
  obtain ⟨rep, hrep⟩ := toOption_isSome_iff.mp hsome
  exact ⟨n, rep, hn, hrep, Network.fits_sound_iff hn hrep⟩

/-- A ReLU over a blob with `2 ^ 64` elements. -/
def overflowing : Request where
  layers := .records (.list
    [.object [("type", .text "ReLU"), ("name", .text "relu"), ("inputs", .list [.text "data"]),
      ("outputs", .list [.text "y"])]])
  phase := .text "test"
  inputNames := .list [.text "data"]
  inputShapes := .list [.list [.int 4294967296, .int 4294967296]]
  elementSize := .null
  label := .null

/-- It passes the check of a budget of no bytes at all, but requires some. -/
theorem not_fits_sound_overflowing :
    ∃ n rep required, overflowing.network = .ok n ∧
      (∀ b ∈ n.blobs, ∀ e ∈ b.shape, e < 2 ^ 63) ∧ n.report (.bool false) = .ok rep ∧
      rep.fits (.int 0) = .ok true ∧ n.graph.required exactElements false = .ok required ∧
      0 < required := by
  have hrun : overflowing.network.toOption.any (fun n => n.small &&
      (n.report (.bool false)).toOption.any (fun rep =>
        (rep.fits (.int 0)).toOption.any (fun fits => fits)) &&
      (n.graph.required exactElements false).toOption.any (fun m => decide (0 < m))) = true := by
    decide +kernel
  obtain ⟨n, hn, htest⟩ := exists_of_any hrun
  simp only [Bool.and_eq_true] at htest
  obtain ⟨⟨hsmall, hfits⟩, hrequired⟩ := htest
  obtain ⟨rep, hrep, hfit⟩ := exists_of_any hfits
  obtain ⟨fits, hok, htrue⟩ := exists_of_any hfit
  obtain ⟨required, hreq, hpos⟩ := exists_of_any hrequired
  exact ⟨n, rep, required, hn, Network.lt_of_small hsmall, hrep, by rw [hok, htrue], hreq,
    of_decide_eq_true hpos⟩

end NetFootprint
