import Mathlib.Data.List.Forall2
import NetFootprint.Layer.Footprint
import NetFootprint.Proofs.Outcome

/-!
# The formulas are monotone

The figures of a layer grow with the counts that go into them. So they can be compared where elements
are counted in two ways, and where the same layer stands on smaller and on larger blobs: as soon as
every blob `Weighs` at most what its counterpart weighs, so does every formula.
-/

namespace NetFootprint

section

variable {α β : Type} [LE α] [LE β]

/-- Whenever the first computation gives a result, the second gives one that is not smaller. -/
def AtMost (x y : Except Misuse α) : Prop := ∀ a, x = .ok a → ∃ b, y = .ok b ∧ a ≤ b

theorem AtMost.ok {a b : α} (h : a ≤ b) : AtMost (.ok a) (.ok b) := by
  rintro _ ⟨⟩
  exact ⟨b, rfl, h⟩

theorem AtMost.bind {x y : Except Misuse α} {f g : α → Except Misuse β} (hxy : AtMost x y)
    (hfg : ∀ a b, x = .ok a → y = .ok b → a ≤ b → AtMost (f a) (g b)) :
    AtMost (x >>= f) (y >>= g) := by
  intro c hc
  obtain ⟨a, ha, hfa⟩ := bind_eq_ok.mp hc
  obtain ⟨b, hb, hab⟩ := hxy a ha
  obtain ⟨c', hc', hle⟩ := hfg a b ha hb hab c hfa
  exact ⟨c', bind_eq_ok.mpr ⟨b, hb, hc'⟩, hle⟩

theorem AtMost.mapM {γ : Type} {f g : γ → Except Misuse α} {xs : List γ}
    (h : ∀ x ∈ xs, AtMost (f x) (g x)) {as : List α} (hf : xs.mapM f = .ok as) :
    ∃ bs, xs.mapM g = .ok bs ∧ List.Forall₂ (· ≤ ·) as bs := by
  rw [mapM_eq_ok] at hf
  induction hf with
  | nil => exact ⟨[], rfl, .nil⟩
  | @cons x a xs as hx _ ih =>
    obtain ⟨b, hb, hab⟩ := h x (by simp) a hx
    obtain ⟨bs, hbs, hle⟩ := ih fun y hy => h y (List.mem_cons_of_mem _ hy)
    refine ⟨b :: bs, ?_, .cons hab hle⟩
    rw [List.mapM_cons, hb, ok_bind, hbs]
    rfl

end

theorem mul_le_mul_of_counts {a b : Int} {m n : Nat} (hab : a ≤ b) (hb : 0 ≤ b) (hmn : m ≤ n) :
    a * m ≤ b * n := by
  have hm : a * m ≤ b * m := Int.mul_le_mul_of_nonneg_right hab (Int.natCast_nonneg m)
  have hn : b * m ≤ b * n := Int.mul_le_mul_of_nonneg_left (Int.ofNat_le.mpr hmn) hb
  exact Int.le_trans hm hn

/-! ## Blobs -/

/-- What the formulas take from a blob is at most what they take from another one, where the
elements of the two are counted in a way of their own. -/
structure Weighs (c c' : Count) (b b' : Blob) : Prop where
  elements : AtMost (c b.shape) (c' b'.shape)
  spatial : AtMost (c (b.shape.drop 2)) (c' (b'.shape.drop 2))
  spatial_nonneg : ∀ n, c' (b'.shape.drop 2) = .ok n → 0 ≤ n
  channels : AtMost b.channels b'.channels
  perChannel : ∀ n n' k k', c b.shape = .ok n → c' b'.shape = .ok n' → b.channels = .ok k →
    b'.channels = .ok k' → k ≠ 0 → Int.fdiv n k ≤ Int.fdiv n' k'

namespace Body

/-- Two bodies have the same formulas if they are the same, up to the extents of a pooling window,
which no formula looks at. -/
inductive Alike : Body → Body → Prop where
  | refl (body : Body) : Alike body body
  | pooling (method : String) (w w' : Window) (h : w.kernel.length = w'.kernel.length) :
    Alike (pooling method w) (pooling method w')

variable {c c' : Count} {body body' : Body} {inputs inputs' outputs outputs' : List Blob}
  {b b' : Blob}

theorem firstBlob_bind {α : Type} [LE α] {f f' : Blob → Except Misuse α}
    {blobs blobs' : List Blob} {R : Blob → Blob → Prop} (h : List.Forall₂ R blobs blobs')
    (hf : ∀ b b', R b b' → AtMost (f b) (f' b')) :
    AtMost (firstBlob blobs >>= f) (firstBlob blobs' >>= f') := by
  cases h with
  | nil => intro a ha; cases ha
  | cons hb _ => exact hf _ _ hb

theorem blobBytes_mono (h : Weighs c c' b b') : AtMost (blobBytes c b) (blobBytes c' b') := by
  refine h.elements.bind fun n n' _ _ hn => .ok ?_
  exact Int.mul_le_mul_of_nonneg_left hn (by decide)

theorem sumOver_mono {f f' : Blob → Except Misuse Int} {blobs blobs' : List Blob}
    {R : Blob → Blob → Prop} (h : List.Forall₂ R blobs blobs')
    (hf : ∀ b b', R b b' → AtMost (f b) (f' b')) : AtMost (sumOver f blobs) (sumOver f' blobs') := by
  have hfrom : ∀ s s' : Int, s ≤ s' →
      AtMost (blobs.foldlM (fun total b => do return total + (← f b)) s)
        (blobs'.foldlM (fun total b => do return total + (← f' b)) s') := by
    induction h with
    | nil => exact fun s s' hs => .ok hs
    | cons hb _ ih =>
      intro s s' hs
      rw [List.foldlM_cons, List.foldlM_cons]
      refine AtMost.bind ?_ fun t t' _ _ ht => ih t t' ht
      exact (hf _ _ hb).bind fun n n' _ _ hn => .ok (Int.add_le_add hs hn)
  exact hfrom 0 0 (Int.le_refl 0)

theorem weightBytes_mono {outs outs' ins ins' : Nat} (volume : Nat) (hout : outs ≤ outs')
    (hin : ins ≤ ins') : weightBytes outs ins volume ≤ weightBytes outs' ins' volume := by
  have hrows : ins * volume + 1 ≤ ins' * volume + 1 :=
    Nat.succ_le_succ (Nat.mul_le_mul_right volume hin)
  have hall : bytesPerElement * outs * (ins * volume + 1) ≤
      bytesPerElement * outs' * (ins' * volume + 1) :=
    Nat.mul_le_mul (Nat.mul_le_mul_left _ hout) hrows
  rw [weightBytes, weightBytes]
  exact_mod_cast hall

theorem loweredBytes_mono {b₁ b₁' b₂ b₂' : Blob} (h₁ : Weighs c c' b₁ b₁')
    (h₂ : Weighs c c' b₂ b₂') (volume : Nat) :
    AtMost (loweredBytes c (b₁.shape.drop 2) b₂.channels volume)
      (loweredBytes c' (b₁'.shape.drop 2) b₂'.channels volume) := by
  refine h₁.spatial.bind fun n n' _ hn' hn => h₂.channels.bind fun k k' _ _ hk => .ok ?_
  have hbytes : (bytesPerElement : Int) * n ≤ bytesPerElement * n' :=
    Int.mul_le_mul_of_nonneg_left hn (by decide)
  have hnonneg : (0 : Int) ≤ bytesPerElement * n' :=
    Int.mul_nonneg (by decide) (h₁.spatial_nonneg n' hn')
  have hchannels := mul_le_mul_of_counts hbytes hnonneg hk
  exact Int.mul_le_mul_of_nonneg_right hchannels (Int.natCast_nonneg volume)

theorem softmaxBytes_mono (h : Weighs c c' b b') :
    AtMost (softmaxBytes c b) (softmaxBytes c' b') := by
  refine h.channels.bind fun k k' hk hk' hle => h.elements.bind fun n n' hn hn' _ => ?_
  by_cases hz : k = 0
  · intro total ht
    simp [hz, bind, Except.bind, throw, throwThe, MonadExceptOf.throw] at ht
  · have hz' : k' ≠ 0 := by omega
    rw [if_neg hz, if_neg hz']
    refine .ok ?_
    have hdiv := h.perChannel n n' k k' hn hn' hk hk' hz
    exact Int.mul_le_mul_of_nonneg_left (Int.add_le_add (Int.ofNat_le.mpr hle) hdiv) (by decide)

/-! ## Layers -/

theorem parameterBytes_mono (hbody : Alike body body')
    (hin : List.Forall₂ (Weighs c c') inputs inputs')
    (hout : List.Forall₂ (Weighs c c') outputs outputs') :
    AtMost (body.parameterBytes inputs outputs) (body'.parameterBytes inputs' outputs') := by
  cases hbody with
  | pooling => exact .ok (Int.le_refl 0)
  | refl =>
    cases body with
    | convolution w m =>
      refine firstBlob_bind hin fun b b' hb => hb.channels.bind fun k k' _ _ hk => .ok ?_
      exact weightBytes_mono w.volume (Nat.le_refl m) hk
    | deconvolution w m =>
      refine firstBlob_bind hout fun b₁ b₁' h₁ => firstBlob_bind hin fun b₂ b₂' h₂ => ?_
      refine h₁.channels.bind fun k₁ k₁' _ _ hk₁ => h₂.channels.bind fun k₂ k₂' _ _ hk₂ => .ok ?_
      exact weightBytes_mono w.volume hk₁ hk₂
    | valueTransformation =>
      refine firstBlob_bind hin fun b b' hb => hb.channels.bind fun k k' _ _ hk => .ok ?_
      exact Int.mul_le_mul_of_nonneg_left (Int.ofNat_le.mpr hk) (by decide)
    | _ => exact .ok (Int.le_refl 0)

theorem workspaceBytes_mono (accelerated : Bool) (hbody : Alike body body')
    (hin : List.Forall₂ (Weighs c c') inputs inputs')
    (hout : List.Forall₂ (Weighs c c') outputs outputs') :
    AtMost (body.workspaceBytes c accelerated inputs outputs)
      (body'.workspaceBytes c' accelerated inputs' outputs') := by
  cases hbody with
  | pooling => exact .ok (Int.le_refl 0)
  | refl =>
    cases body with
    | convolution w m =>
      cases accelerated with
      | true => exact .ok (Int.le_refl _)
      | false =>
        refine firstBlob_bind hout fun b₁ b₁' h₁ => firstBlob_bind hin fun b₂ b₂' h₂ => ?_
        exact loweredBytes_mono h₁ h₂ w.volume
    | deconvolution w m =>
      cases accelerated with
      | true => exact .ok (Int.le_refl _)
      | false =>
        refine firstBlob_bind hin fun b₁ b₁' h₁ => firstBlob_bind hout fun b₂ b₂' h₂ => ?_
        exact loweredBytes_mono h₁ h₂ w.volume
    | _ => exact .ok (Int.le_refl 0)

theorem aliased_mono (aliased : List Bool) (hin : List.Forall₂ (Weighs c c') inputs inputs') :
    List.Forall₂ (Weighs c c')
      ((inputs.zip aliased).filterMap (fun p => if p.2 then some p.1 else none))
      ((inputs'.zip aliased).filterMap (fun p => if p.2 then some p.1 else none)) := by
  induction hin generalizing aliased with
  | nil => exact .nil
  | cons hb _ ih =>
    cases aliased with
    | nil => exact .nil
    | cons first rest =>
      cases first with
      | true => exact .cons hb (ih rest)
      | false => exact ih rest

theorem poolingBytes_mono {w w' : Window} (hw : w.kernel.length = w'.kernel.length)
    (h : Weighs c c' b b') : AtMost (poolingBytes c w b) (poolingBytes c' w' b') := by
  refine h.elements.bind fun n n' _ _ hn => .ok ?_
  rw [hw]
  refine Int.mul_le_mul_of_nonneg_left ?_ (by decide)
  exact Int.add_le_add_right (Int.add_le_add_right hn _) _

theorem internalBytes_mono (hbody : Alike body body')
    (hin : List.Forall₂ (Weighs c c') inputs inputs')
    (hout : List.Forall₂ (Weighs c c') outputs outputs') :
    AtMost (body.internalBytes c inputs outputs) (body'.internalBytes c' inputs' outputs') := by
  cases hbody with
  | pooling method w w' hw =>
    exact firstBlob_bind hout fun b b' hb => poolingBytes_mono hw hb
  | refl =>
    cases body with
    | pooling method w => exact firstBlob_bind hout fun b b' hb => poolingBytes_mono rfl hb
    | dropout aliased =>
      have hmasks := sumOver_mono hin fun b b' hb => blobBytes_mono hb
      have hbuffers := sumOver_mono (aliased_mono aliased hin) fun b b' hb => blobBytes_mono hb
      exact hmasks.bind fun n n' _ _ hn => hbuffers.bind fun m m' _ _ hm =>
        .ok (Int.add_le_add hn hm)
    | softmax => exact firstBlob_bind hin fun b b' hb => softmaxBytes_mono hb
    | softmaxWithLoss =>
      have hscores : List.Forall₂ (Weighs c c') (outputs.drop 1) (outputs'.drop 1) :=
        List.forall₂_drop 1 hout
      refine firstBlob_bind hin fun b b' hb => ?_
      refine (softmaxBytes_mono hb).bind fun n n' _ _ hn => ?_
      refine (blobBytes_mono hb).bind fun m m' _ _ hm => ?_
      refine (sumOver_mono hscores fun b b' hb => blobBytes_mono hb).bind fun k k' _ _ hk => .ok ?_
      exact Int.add_le_add (Int.add_le_add hn hm) hk
    | _ => exact .ok (Int.le_refl 0)

theorem overheadBytes_mono (accelerated : Bool) (hbody : Alike body body')
    (hin : List.Forall₂ (Weighs c c') inputs inputs')
    (hout : List.Forall₂ (Weighs c c') outputs outputs') :
    AtMost (body.overheadBytes c accelerated inputs outputs)
      (body'.overheadBytes c' accelerated inputs' outputs') := by
  refine (workspaceBytes_mono accelerated hbody hin hout).bind fun n n' _ _ hn => ?_
  exact (internalBytes_mono hbody hin hout).bind fun m m' _ _ hm => .ok (Int.add_le_add hn hm)

end Body

end NetFootprint
