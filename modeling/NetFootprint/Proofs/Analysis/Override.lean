import NetFootprint.Config
import NetFootprint.Proofs.Outcome

/-!
# Settings in place of the environment

A setting that is given stands in place of the one that the environment has, whatever that one is,
if it can be read at all. The phase of the environment is only read where none is given. The flag and
the amount of memory are read first, and one that cannot be read is refused even if another one is
given in its place.
-/

namespace NetFootprint

namespace Settings

variable {s : Settings} {fields given : List (String × Value)} {key : String}
  {φ : Settings → Settings} {x y : Option String}

/-! ## Settings that are overwritten -/

/-- A change of the settings that is lost as soon as a field is set, and that setting any other field
leaves alone. -/
structure Overwritten (key : String) (φ : Settings → Settings) : Prop where
  own : ∀ s v, (φ s).set key v = s.set key v
  other : ∀ s name v, name ≠ key → Mirrors φ (s.set name v) ((φ s).set name v)

theorem overwritten_phase (p : PhaseSetting) :
    Overwritten "phase" fun s => { s with phase := p } where
  own _ _ := rfl
  other s name v h := by
    unfold set
    refine .ite (fun hname => absurd hname h) fun _ => ?_
    exact .ite (fun _ => .ok _) fun _ => .ite (fun _ => .ok _) fun _ => .ite (fun _ => .ok _)
      fun _ => .error _

theorem overwritten_accelerated (flag : Value) :
    Overwritten "accelerated" fun s => { s with accelerated := flag } where
  own _ _ := rfl
  other s name v h := by
    unfold set
    refine .ite (fun _ => .ok _) fun _ => .ite (fun hname => absurd hname h) fun _ => ?_
    exact .ite (fun _ => .ok _) fun _ => .ite (fun _ => .ok _) fun _ => .error _

theorem overwritten_gpuMemoryMb (amount : Value) :
    Overwritten "gpu_memory_mb" fun s => { s with gpuMemoryMb := amount } where
  own _ _ := rfl
  other s name v h := by
    unfold set
    refine .ite (fun _ => .ok _) fun _ => .ite (fun _ => .ok _) fun _ => ?_
    exact .ite (fun hname => absurd hname h) fun _ => .ite (fun _ => .ok _) fun _ => .error _

/-- Once its field is set, nothing is left of the change. -/
theorem Overwritten.setAll (h : Overwritten key φ) (hkey : ∃ v, (key, v) ∈ fields) (s : Settings) :
    (φ s).setAll fields = s.setAll fields := by
  induction fields generalizing s with
  | nil =>
    obtain ⟨v, hv⟩ := hkey
    cases hv
  | cons f rest ih =>
    obtain ⟨name, w⟩ := f
    unfold Settings.setAll at ih ⊢
    rw [List.foldlM_cons, List.foldlM_cons]
    by_cases hname : name = key
    · subst hname
      rw [h.own]
    · have hrest : ∃ v, (key, v) ∈ rest := by
        obtain ⟨v, hv⟩ := hkey
        refine ⟨v, (List.mem_cons.mp hv).resolve_left fun heq => ?_⟩
        exact hname (congrArg Prod.fst heq).symm
      have hset := h.other s name w hname
      cases hs : s.set name w with
      | error m => rw [hset.eq_error hs]
      | ok next =>
        rw [hset.eq_ok hs, ok_bind, ok_bind]
        exact ih hrest next

def Gives (given : List (String × Value)) (key : String) : Prop :=
  ∃ v, v ≠ Value.null ∧ (key, v) ∈ given

theorem Gives.kept (h : Gives given key) :
    ∃ v, (key, v) ∈ given.filter fun f => !(f.2 == Value.null) := by
  obtain ⟨v, hv, hmem⟩ := h
  refine ⟨v, List.mem_filter.mpr ⟨hmem, ?_⟩⟩
  cases v with
  | null => exact absurd rfl hv
  | bool | int | float | text | list | object => rfl

/-! ## The settings of the environment -/

def phaseSetting : Option String → PhaseSetting
  | none | some "" => .chosen .test
  | some p => .given (.text p)

def flagSetting : Option String → Except Failure Value
  | none => .ok (.bool false)
  | some s => (readFlag "LAYERGAUGE_ACCELERATED" s).map .bool

def amountSetting : Option String → Except Failure Value
  | none | some "" => .ok .null
  | some s => (readNumber "LAYERGAUGE_GPU_MEMORY_MB" s).map .float

theorem amountSetting_some {s : String} (h : s ≠ "") :
    amountSetting (some s) = (readNumber "LAYERGAUGE_GPU_MEMORY_MB" s).map .float := by
  unfold amountSetting
  split
  · next heq => cases heq
  · next heq => exact absurd (Option.some.inj heq) h
  · next heq =>
    obtain rfl := Option.some.inj heq
    rfl

theorem ofEnvironment_eq (env : Environment) : ofEnvironment env = do
    let accelerated ← flagSetting env.accelerated
    let gpuMemoryMb ← amountSetting env.gpuMemoryMb
    return { phase := phaseSetting env.phase, accelerated, gpuMemoryMb } := by
  obtain ⟨phase, accelerated, gpuMemoryMb, verbosity⟩ := env
  unfold ofEnvironment flagSetting
  dsimp only
  split
  · split
    · rfl
    · rfl
    · next hne =>
      rw [amountSetting_some hne]
      rfl
  · split
    · rfl
    · rfl
    · next hne =>
      rw [amountSetting_some hne]
      rfl

/-- The word of a variable, if there is one, is one for a flag. -/
def SpellsFlag (x : Option String) : Prop :=
  ∀ s, x = some s → Text.lower (Text.trim s) ∈ trueWords ++ falseWords

/-- The text of a variable, if there is one, is empty or spells a number. -/
def SpellsAmount (x : Option String) : Prop :=
  ∀ s, x = some s → s = "" ∨ (Numeral.decimal? s).isSome = true

def flagFault (spelling : String) : Failure :=
  .fault (refuse "cannot interpret accelerated flag" "LAYERGAUGE_ACCELERATED" (.text spelling))

def amountFault (spelling : String) : Failure :=
  .fault (refuse "GPU memory budget must be a number" "LAYERGAUGE_GPU_MEMORY_MB" (.text spelling))

theorem flagSetting_ok (h : SpellsFlag x) : ∃ v, flagSetting x = .ok v := by
  cases x with
  | none => exact ⟨_, rfl⟩
  | some s =>
    have hs := h s rfl
    simp only [flagSetting, readFlag]
    split
    · exact ⟨_, rfl⟩
    · next htrue =>
      have hfalse : falseWords.contains (Text.lower (Text.trim s)) = true := by
        have hmem := (List.mem_append.mp hs).resolve_left fun hin => htrue (by simpa using hin)
        simpa using hmem
      rw [if_pos hfalse]
      exact ⟨_, rfl⟩

theorem flagSetting_error (h : ¬ SpellsFlag x) :
    ∃ s, x = some s ∧ flagSetting x = .error (flagFault s) := by
  simp only [SpellsFlag, not_forall, List.mem_append, not_or] at h
  obtain ⟨s, rfl, htrue, hfalse⟩ := h
  refine ⟨s, rfl, ?_⟩
  simp only [flagSetting, readFlag]
  rw [if_neg (by simpa using htrue), if_neg (by simpa using hfalse)]
  rfl

theorem amountSetting_ok (h : SpellsAmount x) : ∃ v, amountSetting x = .ok v := by
  cases x with
  | none => exact ⟨_, rfl⟩
  | some s =>
    rcases h s rfl with rfl | hs
    · exact ⟨_, rfl⟩
    · by_cases hempty : s = ""
      · subst hempty
        exact ⟨_, rfl⟩
      · obtain ⟨number, hnumber⟩ := Option.isSome_iff_exists.mp hs
        rw [amountSetting_some hempty, readNumber, Value.toFloat, hnumber]
        exact ⟨_, rfl⟩

theorem amountSetting_error (h : ¬ SpellsAmount x) :
    ∃ s, x = some s ∧ amountSetting x = .error (amountFault s) := by
  simp only [SpellsAmount, not_forall, not_or] at h
  obtain ⟨s, rfl, hempty, hs⟩ := h
  have hnone : Numeral.decimal? s = none := by simpa using hs
  refine ⟨s, rfl, ?_⟩
  rw [amountSetting_some hempty, readNumber, Value.toFloat, hnone]
  rfl

/-! ## What else settings are refused for -/

/-- A failure that is not told of the environment. -/
def Later (e : Failure) : Prop := ∀ s, e ≠ flagFault s ∧ e ≠ amountFault s

theorem later_misuse (m : Misuse) : Later (.misuse m) := by
  intro s
  constructor <;> exact Failure.noConfusion

theorem later_refuse {message : String} {v : Value}
    (hflag : message ≠ "cannot interpret accelerated flag")
    (hamount : message ≠ "GPU memory budget must be a number") :
    Later (.fault (refuse message key v)) := by
  intro s
  constructor
  · intro h
    simp [flagFault, refuse, hflag] at h
  · intro h
    simp [amountFault, refuse, hamount] at h

theorem setAll_fails (s : Settings) (fields : List (String × Value)) :
    FailsOnly Later (liftM (s.setAll fields) : Except Failure Settings) :=
  .lift fun m _ => later_misuse m

theorem readPhase_fails (s : Settings) : FailsOnly Later s.readPhase := by
  unfold readPhase
  split
  · exact .ok _
  · refine .explain (later_refuse (by decide) (by decide)) fun m _ => ?_
    exact .inr (.inr (later_misuse m))

theorem requireBudget_fails (s : Settings) : FailsOnly Later s.requireBudget := by
  unfold requireBudget
  split
  · exact .ok _
  · refine .bind (.lift fun m _ => later_misuse m) fun refused _ => .ite (fun _ => ?_) fun _ => .ok _
    exact .error (later_refuse (by decide) (by decide))

theorem readElementSize_fails (s : Settings) : FailsOnly Later s.readElementSize := by
  unfold readElementSize
  split
  · exact .ok _
  · refine .bind (.lift fun m _ => later_misuse m) fun extents _ => .ite (fun _ => ?_) fun _ => .ok _
    exact .error (later_refuse (by decide) (by decide))

theorem validate_fails (s : Settings) : FailsOnly Later s.validate := by
  refine .bind (readPhase_fails s) fun phase _ => .bind (requireBudget_fails s) fun _ _ => ?_
  exact .bind (readElementSize_fails s) fun elementSize _ => .ok _

/-- The checked settings with those given in their place. -/
def replaced (s : Settings) (given : List (String × Value)) : Except Failure Config := do
  (← s.setAll (given.filter fun f => !(f.2 == Value.null))).validate

theorem replaced_fails (s : Settings) (given : List (String × Value)) :
    FailsOnly Later (s.replaced given) :=
  .bind (setAll_fails s _) fun s' _ => validate_fails s'

theorem Overwritten.replaced (h : Overwritten key φ) (hgiven : Gives given key) (s : Settings) :
    (φ s).replaced given = s.replaced given := by
  unfold Settings.replaced
  rw [h.setAll hgiven.kept]

/-! ## A variable that is read although another value is given -/

/-- Two readings of a variable with the same sequel, which does not depend on what is read, give the
same exactly if both can be read, or the variable is the same. -/
theorem bind_read_iff {Spells : Option String → Prop} {read : Option String → Except Failure Value}
    {fault : String → Failure} {rest : Value → Except Failure Config}
    (hok : ∀ z, Spells z → ∃ v, read z = .ok v)
    (herror : ∀ z, ¬ Spells z → ∃ s, z = some s ∧ read z = .error (fault s))
    (hfault : ∀ s t, fault s = fault t → s = t) (hsame : ∀ v w, rest v = rest w)
    (hrest : ∀ v s, rest v ≠ .error (fault s)) :
    read x >>= rest = read y >>= rest ↔ x = y ∨ (Spells x ∧ Spells y) := by
  by_cases hx : Spells x <;> by_cases hy : Spells y
  · obtain ⟨v, hv⟩ := hok x hx
    obtain ⟨w, hw⟩ := hok y hy
    rw [hv, hw, ok_bind, ok_bind]
    exact iff_of_true (hsame v w) (.inr ⟨hx, hy⟩)
  · obtain ⟨v, hv⟩ := hok x hx
    obtain ⟨t, rfl, ht⟩ := herror y hy
    rw [hv, ht, ok_bind]
    refine iff_of_false (hrest v t) fun hor => ?_
    rcases hor with rfl | ⟨-, hspells⟩
    · exact hy hx
    · exact hy hspells
  · obtain ⟨s, rfl, hs⟩ := herror x hx
    obtain ⟨w, hw⟩ := hok y hy
    rw [hs, hw, ok_bind]
    refine iff_of_false (hrest w s).symm fun hor => ?_
    rcases hor with rfl | ⟨hspells, -⟩
    · exact hx hy
    · exact hx hspells
  · obtain ⟨s, rfl, hs⟩ := herror x hx
    obtain ⟨t, rfl, ht⟩ := herror y hy
    rw [hs, ht]
    constructor
    · intro h
      exact .inl (congrArg some (hfault s t (Except.error.inj h)))
    · rintro (h | ⟨hspells, -⟩)
      · rw [Option.some.inj h]
      · exact absurd hspells hx

theorem flagFault_inj (s t : String) (h : flagFault s = flagFault t) : s = t := by
  simpa [flagFault, refuse] using h

theorem amountFault_inj (s t : String) (h : amountFault s = amountFault t) : s = t := by
  simpa [amountFault, refuse] using h

theorem flagFault_ne_amountFault (s t : String) : flagFault s ≠ amountFault t := by
  simp [flagFault, amountFault, refuse]

end Settings

namespace Config

open Settings

variable {given : List (String × Value)}

theorem ofEnvironment_replaced (env : Environment) (given : List (String × Value)) :
    ofEnvironment env given = (do
      let accelerated ← flagSetting env.accelerated
      let gpuMemoryMb ← amountSetting env.gpuMemoryMb
      Settings.replaced { phase := phaseSetting env.phase, accelerated, gpuMemoryMb } given) := by
  unfold ofEnvironment merged Settings.replaced
  rw [Settings.ofEnvironment_eq]
  simp only [bind_assoc, pure_bind]

theorem ofEnvironment_phase (env : Environment) (h : Gives given "phase") (x : Option String) :
    ofEnvironment { env with phase := x } given = ofEnvironment env given := by
  have hgone (p : PhaseSetting) (s : Settings) :
      Settings.replaced { s with phase := p } given = s.replaced given :=
    (overwritten_phase p).replaced h s
  rw [ofEnvironment_replaced, ofEnvironment_replaced]
  refine bind_congr fun accelerated => bind_congr fun gpuMemoryMb => ?_
  exact hgone (phaseSetting x) { phase := phaseSetting env.phase, accelerated, gpuMemoryMb }

theorem ofEnvironment_accelerated_iff (env : Environment) (h : Gives given "accelerated")
    (x : Option String) :
    ofEnvironment { env with accelerated := x } given = ofEnvironment env given
      ↔ x = env.accelerated ∨ (SpellsFlag x ∧ SpellsFlag env.accelerated) := by
  have hgone (flag : Value) (s : Settings) :
      Settings.replaced { s with accelerated := flag } given = s.replaced given :=
    (overwritten_accelerated flag).replaced h s
  rw [ofEnvironment_replaced, ofEnvironment_replaced]
  apply bind_read_iff (fun z => flagSetting_ok) (fun z => flagSetting_error) flagFault_inj
  · intro v w
    refine bind_congr fun gpuMemoryMb => ?_
    exact hgone v { phase := phaseSetting env.phase, accelerated := w, gpuMemoryMb }
  · -- what is read after the flag never fails with the fault of a flag
    intro v s hfail
    by_cases hamount : SpellsAmount env.gpuMemoryMb
    · obtain ⟨w, hw⟩ := amountSetting_ok hamount
      rw [hw, ok_bind] at hfail
      exact (replaced_fails _ given _ hfail s).1 rfl
    · obtain ⟨t, -, ht⟩ := amountSetting_error hamount
      rw [ht] at hfail
      exact flagFault_ne_amountFault s t (Except.error.inj hfail).symm

theorem ofEnvironment_gpuMemoryMb_iff (env : Environment) (h : Gives given "gpu_memory_mb")
    (x : Option String) :
    ofEnvironment { env with gpuMemoryMb := x } given = ofEnvironment env given
      ↔ x = env.gpuMemoryMb ∨ ¬ SpellsFlag env.accelerated
        ∨ (SpellsAmount x ∧ SpellsAmount env.gpuMemoryMb) := by
  have hgone (amount : Value) (s : Settings) :
      Settings.replaced { s with gpuMemoryMb := amount } given = s.replaced given :=
    (overwritten_gpuMemoryMb amount).replaced h s
  rw [ofEnvironment_replaced, ofEnvironment_replaced]
  by_cases hflag : SpellsFlag env.accelerated
  · obtain ⟨flag, hv⟩ := flagSetting_ok hflag
    rw [hv, ok_bind, ok_bind, iff_false_intro (not_not_intro hflag), false_or]
    apply bind_read_iff (fun z => amountSetting_ok) (fun z => amountSetting_error) amountFault_inj
    · intro v w
      exact hgone v { phase := phaseSetting env.phase, accelerated := flag, gpuMemoryMb := w }
    · intro v s hfail
      exact (replaced_fails _ given _ hfail s).2 rfl
  · obtain ⟨t, -, ht⟩ := flagSetting_error hflag
    rw [ht]
    exact iff_of_true rfl (.inr (.inl hflag))

/-- Where a setting is given, two environments that differ in its variable alone lead to the same
settings or the same failure: always for the phase, and for the flag and the memory limit exactly if
the variable is the same or can be read in both; for the memory limit also if the flag of the
environment, which is read before it, cannot be read. -/
theorem ofEnvironment_given (env : Environment) (given : List (String × Value)) (x : Option String) :
    (Gives given "phase" → ofEnvironment { env with phase := x } given = ofEnvironment env given)
    ∧ (Gives given "accelerated" →
      (ofEnvironment { env with accelerated := x } given = ofEnvironment env given
        ↔ x = env.accelerated ∨ (SpellsFlag x ∧ SpellsFlag env.accelerated)))
    ∧ (Gives given "gpu_memory_mb" →
      (ofEnvironment { env with gpuMemoryMb := x } given = ofEnvironment env given
        ↔ x = env.gpuMemoryMb ∨ ¬ SpellsFlag env.accelerated
          ∨ (SpellsAmount x ∧ SpellsAmount env.gpuMemoryMb))) :=
  ⟨fun h => ofEnvironment_phase env h x, fun h => ofEnvironment_accelerated_iff env h x,
    fun h => ofEnvironment_gpuMemoryMb_iff env h x⟩

def bare : Environment where
  phase := none
  accelerated := none
  gpuMemoryMb := none
  verbosity := none

def chosen : List (String × Value) :=
  [("phase", .text "train"), ("accelerated", .bool true), ("gpu_memory_mb", .int 512)]

theorem not_spellsFlag_maybe : ¬ SpellsFlag (some "maybe") := by
  intro h
  exact absurd (h "maybe" rfl) (by decide +kernel)

theorem not_spellsAmount_maybe : ¬ SpellsAmount (some "maybe") := by
  intro h
  rcases h "maybe" rfl with h | h
  · exact absurd h (by decide)
  · exact absurd h (by decide +kernel)

theorem ofEnvironment_given_maybe :
    ofEnvironment { bare with phase := some "maybe" } chosen = ofEnvironment bare chosen
    ∧ ofEnvironment { bare with accelerated := some "maybe" } chosen ≠ ofEnvironment bare chosen
    ∧ ofEnvironment { bare with gpuMemoryMb := some "maybe" } chosen ≠ ofEnvironment bare chosen
    ∧ ofEnvironment { bare with gpuMemoryMb := some "" } chosen = ofEnvironment bare chosen := by
  obtain ⟨hphase, hflag, hamount⟩ := ofEnvironment_given bare chosen (some "maybe")
  have hempty := (ofEnvironment_given bare chosen (some "")).2.2
  refine ⟨hphase ⟨_, Value.noConfusion, .head _⟩, ?_, ?_, ?_⟩
  · intro h
    rcases (hflag ⟨_, Value.noConfusion, .tail _ (.head _)⟩).mp h with hsame | ⟨hspells, -⟩
    · cases hsame
    · exact not_spellsFlag_maybe hspells
  · intro h
    rcases (hamount ⟨_, Value.noConfusion, .tail _ (.tail _ (.head _))⟩).mp h with
      hsame | hflag' | ⟨hspells, -⟩
    · cases hsame
    · exact hflag' fun s hs => nomatch hs
    · exact not_spellsAmount_maybe hspells
  · refine (hempty ⟨_, Value.noConfusion, .tail _ (.tail _ (.head _))⟩).mpr (.inr (.inr ⟨?_, ?_⟩))
    · intro s hs
      exact .inl (Option.some.inj hs).symm
    · intro s hs
      cases hs

/-- A flag is given, but the one of the environment is refused. -/
theorem not_overridden_maybe :
    Gives [("accelerated", .bool true)] "accelerated"
    ∧ ofEnvironment { bare with accelerated := some "maybe" } [("accelerated", .bool true)]
      = .error (.fault (.configuration "cannot interpret accelerated flag"
          (.text "LAYERGAUGE_ACCELERATED") (.text "maybe")))
    ∧ (ofEnvironment bare [("accelerated", .bool true)]).toOption.isSome = true := by
  refine ⟨⟨_, Value.noConfusion, .head _⟩, ?_, by decide +kernel⟩
  rw [ofEnvironment_replaced]
  obtain ⟨s, hs, hfail⟩ := flagSetting_error not_spellsFlag_maybe
  obtain rfl := Option.some.inj hs
  simp only [hfail]
  rfl

end Config

end NetFootprint
