import Mathlib.Algebra.Order.BigOperators.Group.List
import NetFootprint.Proofs.Report.Exact

/-!
# Figures are not negative

Only a count that wraps around is negative. Where no blob of a network has `2 ^ 63` elements or more,
nothing that a layer takes is negative, and neither is what a blob takes.
-/

namespace NetFootprint

/-- Counting the elements of a blob, all of them or those along its spatial axes, gives no negative
number. -/
structure CountsUp (count : Count) (b : Blob) : Prop where
  elements : ∀ n, count b.shape = .ok n → 0 ≤ n
  spatial : ∀ n, count (b.shape.drop 2) = .ok n → 0 ≤ n

theorem countsUp_of_small {b : Blob} (hpos : ∀ e ∈ b.shape, 1 ≤ e) (h : b.exactCount < 2 ^ 63) :
    CountsUp wrappedProduct b where
  elements n hn := by
    rw [wrappedProduct_of_small hpos h] at hn
    obtain rfl := Except.ok.inj hn
    exact Int.natCast_nonneg _
  spatial := (weighs_wrapped hpos h).spatial_nonneg

namespace Body

variable {count : Count} {accelerated : Bool} {body : Body} {inputs outputs blobs : List Blob}
  {b : Blob} {n : Int}

theorem bytes_nonneg (h : 0 ≤ n) : 0 ≤ (bytesPerElement : Int) * n :=
  Int.mul_nonneg (Int.natCast_nonneg _) h

theorem sumOver_nonneg {f : Blob → Except Misuse Int}
    (hf : ∀ b ∈ blobs, ∀ n, f b = .ok n → 0 ≤ n) (h : sumOver f blobs = .ok n) : 0 ≤ n := by
  obtain ⟨values, hvalues, rfl⟩ := sumOver_eq_ok.mp h
  apply List.sum_nonneg
  intro v hv
  obtain ⟨b, hb, hbv⟩ := exists_of_mem_right (mapM_eq_ok.mp hvalues) hv
  exact hf b hb v hbv

theorem blobBytes_nonneg (hb : CountsUp count b) (h : blobBytes count b = .ok n) : 0 ≤ n := by
  simp only [blobBytes, bind_eq_ok, pure_eq_ok] at h
  obtain ⟨elements, helements, rfl⟩ := h
  exact bytes_nonneg (hb.elements _ helements)

theorem weightBytes_nonneg (outs ins volume : Nat) : 0 ≤ weightBytes outs ins volume := by
  rw [weightBytes]
  exact_mod_cast Nat.zero_le (bytesPerElement * outs * (ins * volume + 1))

theorem parameterBytes_nonneg (h : body.parameterBytes inputs outputs = .ok n) : 0 ≤ n := by
  cases body with
  | convolution w m =>
    simp only [parameterBytes, bind_eq_ok, pure_eq_ok] at h
    obtain ⟨src, -, ins, -, rfl⟩ := h
    exact weightBytes_nonneg _ _ _
  | deconvolution w m =>
    simp only [parameterBytes, bind_eq_ok, pure_eq_ok] at h
    obtain ⟨out, -, src, -, outs, -, ins, -, rfl⟩ := h
    exact weightBytes_nonneg _ _ _
  | valueTransformation =>
    simp only [parameterBytes, bind_eq_ok, pure_eq_ok] at h
    obtain ⟨src, -, ins, -, rfl⟩ := h
    exact Int.mul_nonneg (by decide) (Int.natCast_nonneg ins)
  | _ =>
    obtain rfl := Except.ok.inj h
    exact Int.le_refl 0

theorem loweredBytes_nonneg {channels : Except Misuse Nat} {volume : Nat} (hb : CountsUp count b)
    (h : loweredBytes count (b.shape.drop 2) channels volume = .ok n) : 0 ≤ n := by
  simp only [loweredBytes, bind_eq_ok, pure_eq_ok] at h
  obtain ⟨elements, helements, k, -, rfl⟩ := h
  have hbytes := bytes_nonneg (hb.spatial _ helements)
  exact Int.mul_nonneg (Int.mul_nonneg hbytes (Int.natCast_nonneg k)) (Int.natCast_nonneg volume)

theorem mem_of_firstBlob (h : firstBlob blobs = .ok b) : b ∈ blobs := by
  cases blobs with
  | nil => cases h
  | cons first rest =>
    obtain rfl := Except.ok.inj h
    exact List.mem_cons_self

theorem softmaxBytes_nonneg (hb : CountsUp count b) (h : softmaxBytes count b = .ok n) :
    0 ≤ n := by
  obtain ⟨k, -, h⟩ := bind_eq_ok.mp h
  obtain ⟨elements, helements, h⟩ := bind_eq_ok.mp h
  split at h
  · cases h
  · obtain rfl := pure_eq_ok.mp h
    have hdiv : 0 ≤ Int.fdiv elements k :=
      Int.fdiv_nonneg (hb.elements _ helements) (Int.natCast_nonneg k)
    exact bytes_nonneg (Int.add_nonneg (Int.natCast_nonneg k) hdiv)

theorem poolingBytes_nonneg {w : Window} (hb : CountsUp count b)
    (h : poolingBytes count w b = .ok n) : 0 ≤ n := by
  obtain ⟨elements, helements, h⟩ := bind_eq_ok.mp h
  obtain rfl := pure_eq_ok.mp h
  have hcount := hb.elements _ helements
  exact bytes_nonneg (by omega)

section

variable (hin : ∀ b ∈ inputs, CountsUp count b) (hout : ∀ b ∈ outputs, CountsUp count b)

include hin hout

theorem workspaceBytes_nonneg (h : body.workspaceBytes count accelerated inputs outputs = .ok n) :
    0 ≤ n := by
  cases body with
  | convolution w m =>
    cases accelerated with
    | true =>
      obtain rfl := Except.ok.inj h
      exact Int.natCast_nonneg _
    | false =>
      obtain ⟨out, hfirst, h⟩ := bind_eq_ok.mp h
      obtain ⟨src, -, h⟩ := bind_eq_ok.mp h
      exact loweredBytes_nonneg (hout out (mem_of_firstBlob hfirst)) h
  | deconvolution w m =>
    cases accelerated with
    | true =>
      obtain rfl := Except.ok.inj h
      exact Int.natCast_nonneg _
    | false =>
      obtain ⟨src, hfirst, h⟩ := bind_eq_ok.mp h
      obtain ⟨out, -, h⟩ := bind_eq_ok.mp h
      exact loweredBytes_nonneg (hin src (mem_of_firstBlob hfirst)) h
  | _ =>
    obtain rfl := Except.ok.inj h
    exact Int.le_refl 0

theorem internalBytes_nonneg (h : body.internalBytes count inputs outputs = .ok n) : 0 ≤ n := by
  cases body with
  | pooling method w =>
    obtain ⟨out, hfirst, h⟩ := bind_eq_ok.mp h
    exact poolingBytes_nonneg (hout out (mem_of_firstBlob hfirst)) h
  | dropout aliased =>
    obtain ⟨masks, hmasks, h⟩ := bind_eq_ok.mp h
    obtain ⟨buffers, hbuffers, h⟩ := bind_eq_ok.mp h
    obtain rfl := pure_eq_ok.mp h
    have hmask := sumOver_nonneg (fun b hb n hn => blobBytes_nonneg (hin b hb) hn) hmasks
    have hbuffer := sumOver_nonneg (fun b hb n hn => by
      obtain ⟨p, hp, hsome⟩ := List.mem_filterMap.mp hb
      obtain ⟨-, hfirst⟩ := Option.ite_none_right_eq_some.mp hsome
      obtain rfl := Option.some.inj hfirst
      exact blobBytes_nonneg (hin p.1 (List.of_mem_zip hp).1) hn) hbuffers
    exact Int.add_nonneg hmask hbuffer
  | softmax =>
    obtain ⟨src, hfirst, h⟩ := bind_eq_ok.mp h
    exact softmaxBytes_nonneg (hin src (mem_of_firstBlob hfirst)) h
  | softmaxWithLoss =>
    obtain ⟨src, hfirst, h⟩ := bind_eq_ok.mp h
    obtain ⟨helper, hhelper, h⟩ := bind_eq_ok.mp h
    obtain ⟨probabilities, hprobabilities, h⟩ := bind_eq_ok.mp h
    obtain ⟨score, hscore, h⟩ := bind_eq_ok.mp h
    obtain rfl := pure_eq_ok.mp h
    have hsrc := hin src (mem_of_firstBlob hfirst)
    have hscores := sumOver_nonneg
      (fun b hb n hn => blobBytes_nonneg (hout b (List.mem_of_mem_drop hb)) hn) hscore
    exact Int.add_nonneg (Int.add_nonneg (softmaxBytes_nonneg hsrc hhelper)
      (blobBytes_nonneg hsrc hprobabilities)) hscores
  | _ =>
    obtain rfl := Except.ok.inj h
    exact Int.le_refl 0

theorem overheadBytes_nonneg (h : body.overheadBytes count accelerated inputs outputs = .ok n) :
    0 ≤ n := by
  obtain ⟨workspace, hworkspace, h⟩ := bind_eq_ok.mp h
  obtain ⟨internal, hinternal, h⟩ := bind_eq_ok.mp h
  obtain rfl := pure_eq_ok.mp h
  exact Int.add_nonneg (workspaceBytes_nonneg hin hout hworkspace)
    (internalBytes_nonneg hin hout hinternal)

end

end Body

def Blob.bytes (b : Blob) : Except Misuse Int := do
  let forward ← b.forwardBytes
  return forward + (← b.backwardBytes)

section

variable {b : Blob} {n : Int}

theorem Blob.forwardBytes_nonneg (hb : CountsUp wrappedProduct b) (h : b.forwardBytes = .ok n) :
    0 ≤ n := by
  rw [← Blob.forwardBytesBy_wrapped, Blob.forwardBytesBy] at h
  split at h
  · exact Body.blobBytes_nonneg hb h
  · obtain rfl := Except.ok.inj h
    exact Int.le_refl 0

theorem Blob.backwardBytes_nonneg (hb : CountsUp wrappedProduct b) (h : b.backwardBytes = .ok n) :
    0 ≤ n := by
  rw [← Blob.backwardBytesBy_wrapped, Blob.backwardBytesBy] at h
  split at h
  · exact Body.blobBytes_nonneg hb h
  · obtain rfl := Except.ok.inj h
    exact Int.le_refl 0

theorem Blob.bytes_nonneg (hb : CountsUp wrappedProduct b) (h : b.bytes = .ok n) : 0 ≤ n := by
  obtain ⟨forward, hforward, h⟩ := bind_eq_ok.mp h
  obtain ⟨backward, hbackward, h⟩ := bind_eq_ok.mp h
  obtain rfl := pure_eq_ok.mp h
  exact Int.add_nonneg (Blob.forwardBytes_nonneg hb hforward)
    (Blob.backwardBytes_nonneg hb hbackward)

end

namespace Graph

variable {g : Graph} {l : Layer} {accelerated : Bool}

theorem Reached.countsUp (h : g.Reached) (hsmall : ∀ b ∈ g.registeredBlobs, b.exactCount < 2 ^ 63) :
    ∀ b ∈ g.registeredBlobs, CountsUp wrappedProduct b := by
  intro b hb
  obtain ⟨ref, href, rfl⟩ := List.mem_map.mp hb
  exact countsUp_of_small (h.extents ref href) (hsmall _ hb)

theorem Reached.footprint_nonneg (h : g.Reached)
    (hsmall : ∀ b ∈ g.registeredBlobs, b.exactCount < 2 ^ 63) (hl : l ∈ g.layers) {fp : Footprint}
    (hfp : g.footprint accelerated l = .ok fp) : 0 ≤ fp.total := by
  have hblobs : ∀ b ∈ g.inputsOf l ++ g.outputsOf l, CountsUp wrappedProduct b := by
    intro b hb
    obtain ⟨ref, href, rfl⟩ := h.mem_blobs hl hb
    exact h.countsUp hsmall _ (List.mem_map_of_mem href)
  have hout : ∀ b ∈ g.outputsOf l, CountsUp wrappedProduct b := fun b hb =>
    hblobs b (List.mem_append_right _ hb)
  have hown : ∀ b ∈ g.ownedBy l, CountsUp wrappedProduct b := fun b hb =>
    hout b (List.mem_of_mem_filter hb)
  obtain ⟨hparameter, hoverhead, hforward, hbackward⟩ := footprint_eq_ok.mp hfp
  have hparameters := Body.parameterBytes_nonneg hparameter
  have hoverheads := Body.overheadBytes_nonneg
    (fun b hb => hblobs b (List.mem_append_left _ hb)) hout hoverhead
  have hforwards := Body.sumOver_nonneg (fun b hb n => Blob.forwardBytes_nonneg (hown b hb)) hforward
  have hbackwards :=
    Body.sumOver_nonneg (fun b hb n => Blob.backwardBytes_nonneg (hown b hb)) hbackward
  rw [Footprint.total]
  omega

end Graph

end NetFootprint
