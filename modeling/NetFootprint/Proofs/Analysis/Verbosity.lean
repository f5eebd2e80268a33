import NetFootprint.Analysis
import NetFootprint.Proofs.Log.Filter
import NetFootprint.Proofs.Number.Range
import NetFootprint.Proofs.Report.Exact

/-!
# Analyses at different verbosities

The log of an analysis at a lower level is the log at a higher level without the entries beyond the
lower one, and the result is the same, up to one case: a budget that is a whole number too large for
a float cannot be laid out, so an analysis that gets as far as its summary fails where the summary
is shown, while below that level it gives its report.
-/

namespace NetFootprint

open Log

/-! ## The events of an analysis -/

namespace Request

variable {label : Value} {g : Graph} {ds : List Declaration} {e : Event}

theorem skipped_ordinary (label : Value) (phase : Phase) (d : Declaration) :
    (skipped label phase d).Ordinary :=
  plain_of_keys ["component", "network", "layer", "phase"] rfl (by decide)

theorem refused_ordinary (label : Value) (d : Declaration) (f : Fault) :
    (refused label d f).Ordinary :=
  plain_of_keys ["component", "network", "layer", "layer_type"] rfl (by decide)

theorem appended_ordinary (label : Value) (line : String) (l : Layer) :
    (appended label line l).Ordinary :=
  plain_of_keys ["component", "network", "layer"] rfl (by decide)

theorem finished_ordinary (label : Value) (g : Graph) : (finished label g).Ordinary :=
  plain_of_keys ["component", "network", "layers", "blobs", "phase"] rfl (by decide)

theorem eventsFrom_ordinary (label : Value) (g : Graph) (ds : List Declaration) :
    ∀ e ∈ eventsFrom label g ds, e.Ordinary := by
  induction ds generalizing g with
  | nil =>
    intro e he
    rw [List.mem_singleton.mp he]
    exact finished_ordinary label g
  | cons d ds ih =>
    unfold eventsFrom
    dsimp only
    split
    · cases (g.create d none).result with
      | ok l =>
        dsimp only
        split
        · next line _ =>
          exact List.forall_mem_cons.mpr ⟨appended_ordinary label line l, ih _⟩
        · simp
      | error failure =>
        cases failure with
        | fault f => simpa using refused_ordinary label d f
        | misuse m => simp
    · exact List.forall_mem_cons.mpr ⟨skipped_ordinary label g.phase d, ih g⟩

theorem events_ordinary (r : Request) : ∀ e ∈ r.build.events, e.Ordinary := by
  unfold build events
  dsimp only
  split
  · exact eventsFrom_ordinary _ _ _
  · simp

end Request

namespace Subject

variable {s : Subject} {settings : Settings} {c : Config} {n : Network}

/-- What an analysis logs after the network is built, and what it then gives. -/
inductive Closes (s : Subject) (c : Config) : Prop where
  | early (h : (s.analyzeUnder c).events = (s.request c).build.events)
  | summarized (n : Network) (r : Report) (totalMb : Float) (hn : (s.request c).network = .ok n)
    (hr : n.report c.accelerated = .ok r) (htotal : r.totalMb = .ok totalMb)
    (hevents : (s.analyzeUnder c).events
      = (s.request c).build.events ++ [.summary (figures c n totalMb)])
    (hresult : (s.analyzeUnder c).result = judge c r)

theorem closes (s : Subject) (c : Config) : s.Closes c := by
  cases hn : (s.request c).build.result with
  | error failure =>
    refine .early ?_
    unfold analyzeUnder
    simp only [hn]
  | ok n =>
    cases hr : n.report c.accelerated with
    | error m =>
      refine .early ?_
      unfold analyzeUnder
      simp only [hn, hr]
    | ok r =>
      cases htotal : r.totalMb with
      | error m =>
        refine .early ?_
        unfold analyzeUnder
        simp only [hn, hr, htotal]
      | ok totalMb =>
        have heq : s.analyzeUnder c = ⟨(s.request c).build.events ++
            [.summary (figures c n totalMb)], judge c r⟩ := by
          unfold analyzeUnder
          simp only [hn, hr, htotal]
        exact .summarized n r totalMb hn hr htotal (by rw [heq]) (by rw [heq])

theorem analyzeUnder_orderly (s : Subject) (c : Config) : Orderly (s.analyzeUnder c).events := by
  have hbuilt := Request.events_ordinary (s.request c)
  rcases closes s c with h | ⟨n, r, totalMb, hn, hr, htotal, h, hresult⟩
  · have happend := Orderly.append hbuilt .nil
    rwa [List.append_nil, ← h] at happend
  · rw [h]
    exact .append hbuilt (.summary _)

theorem analyze_orderly (s : Subject) (settings : Settings) :
    Orderly (s.analyze settings).events := by
  unfold analyze
  split
  · exact .nil
  · exact analyzeUnder_orderly s _

theorem summarized_of_mem {shown : Summary} (h : .summary shown ∈ (s.analyzeUnder c).events) :
    ∃ n r totalMb, (s.request c).network = .ok n ∧ n.report c.accelerated = .ok r ∧
      r.totalMb = .ok totalMb ∧ shown = figures c n totalMb ∧
      (s.analyzeUnder c).result = judge c r := by
  have hbuilt : .summary shown ∉ (s.request c).build.events :=
    Request.events_ordinary (s.request c) _
  rcases closes s c with hearly | ⟨n, r, totalMb, hn, hr, htotal, hevents, hresult⟩
  · rw [hearly] at h
    exact absurd h hbuilt
  · rw [hevents] at h
    have hlast := (List.mem_append.mp h).resolve_left hbuilt
    have hshown := Event.summary.inj (List.mem_singleton.mp hlast)
    exact ⟨n, r, totalMb, hn, hr, htotal, hshown, hresult⟩

/-! ## The budget of a summary -/

theorem validate_budget (h : settings.validate = .ok c) :
    c.gpuMemoryMb = settings.gpuMemoryMb ∧ settings.requireBudget = .ok () := by
  simp only [Settings.validate, bind_eq_ok, pure_eq_ok] at h
  obtain ⟨phase, -, _, hbudget, elementSize, -, rfl⟩ := h
  exact ⟨rfl, hbudget⟩

def shownBudget (v : Value) : Except Misuse String :=
  match v with
  | .null => .ok "none"
  | v => Summary.megabytes v

theorem requireBudget_eq_ok (h : settings.requireBudget = .ok ()) :
    (∃ n, settings.gpuMemoryMb = .int n ∧ 0 < n) ∨
      (∀ n, settings.gpuMemoryMb ≠ .int n) ∧ ∃ shown, shownBudget settings.gpuMemoryMb = .ok shown := by
  unfold Settings.requireBudget at h
  generalize settings.gpuMemoryMb = v at *
  cases v with
  | int n =>
    refine .inl ⟨n, rfl, ?_⟩
    by_contra hn
    have hle : n ≤ 0 := not_lt.mp hn
    have hnot : (Value.int n).notPositive = .ok true := congrArg Except.ok (decide_eq_true hle)
    simp only [hnot] at h
    cases h
  | null | bool | float => exact .inr ⟨fun _ => Value.noConfusion, _, rfl⟩
  | text | list | object => cases h

theorem budgetText_figures (n : Network) (totalMb : Float) :
    (figures c n totalMb).budgetText = shownBudget c.gpuMemoryMb := rfl

theorem text_figures_error {n : Network} {totalMb : Float} {m : Misuse} :
    (figures c n totalMb).text = .error m ↔ (figures c n totalMb).budgetText = .error m := by
  unfold Summary.text
  cases (figures c n totalMb).budgetText with
  | error m' => exact Iff.rfl
  | ok shown =>
    constructor
    · intro h
      cases h
    · intro h
      cases h

theorem megabytes_int (k : Int) :
    Summary.megabytes (.int k) = (Double.ofWhole k).map fun x => Double.fixed 1 x ++ " MB" := by
  rw [Summary.megabytes, Value.fixed]
  cases Double.ofWhole k <;> rfl

theorem megabytes_int_error {k : Int} {m : Misuse} :
    Summary.megabytes (.int k) = .error m ↔ m = .tooLarge ∧ Double.overflow ≤ k.natAbs := by
  rw [← Double.ofInt?_eq_none_iff, megabytes_int, Double.ofWhole]
  cases Double.ofInt? k with
  | none => simp [Except.map, eq_comm]
  | some x => simp [Except.map]

/-- A summary cannot be laid out exactly if its budget is a whole number out of range. -/
theorem text_figures_error_iff (h : settings.validate = .ok c) {n : Network} {totalMb : Float}
    {m : Misuse} : (figures c n totalMb).text = .error m ↔
      m = .tooLarge ∧ ∃ budget : Int, settings.gpuMemoryMb = .int budget ∧
        Double.overflow ≤ budget := by
  obtain ⟨hsame, hbudget⟩ := validate_budget h
  rw [text_figures_error, budgetText_figures, hsame]
  rcases requireBudget_eq_ok hbudget with ⟨k, hk, hpos⟩ | ⟨hnot, shown, hshown⟩
  · have habs : (k.natAbs : Int) = k := Int.natAbs_of_nonneg hpos.le
    rw [hk, show shownBudget (.int k) = Summary.megabytes (.int k) from rfl, megabytes_int_error]
    refine and_congr_right fun _ => ?_
    rw [← Int.ofNat_le, habs]
    constructor
    · exact fun hover => ⟨k, rfl, hover⟩
    · rintro ⟨_, ⟨⟩, hover⟩
      exact hover
  · rw [hshown]
    refine iff_of_false (fun herror => by cases herror) ?_
    rintro ⟨-, budget, hbudget, -⟩
    exact hnot budget hbudget

/-- A total that can be told in mebibytes is within any budget that cannot. -/
theorem judge_of_overflow {r : Report} {totalMb : Float} {budget : Int}
    (hn : (s.request c).network = .ok n) (hr : n.report c.accelerated = .ok r)
    (htotal : r.totalMb = .ok totalMb) (hbudget : c.gpuMemoryMb = .int budget)
    (hover : Double.overflow ≤ budget) : judge c r = .ok r := by
  obtain ⟨totals, -, hwhole⟩ := (Network.report_balances hn hr).rows
  generalize totals.sum = total at hwhole
  -- the total could be told in mebibytes, so it is below what has no double
  have hrange : ¬ Double.overflow * mebibyte ≤ total.natAbs := by
    rw [← Double.ofQuotient?_eq_none_iff (by decide)]
    intro hnone
    rw [Report.totalMb, hwhole, ok_bind, Amount.inMebibytes, hnone] at htotal
    cases htotal
  have hle : total ≤ budget * mebibyte := by
    have hmul : (Double.overflow : Int) * mebibyte ≤ budget * mebibyte :=
      Int.mul_le_mul_of_nonneg_right hover (Int.natCast_nonneg mebibyte)
    rw [← Int.natCast_mul] at hmul
    omega
  have hfits : r.fits (.int (budget * mebibyte)) = .ok true := by
    rw [Report.fits_of_total hwhole, decide_eq_true hle]
  have hcheck := Report.checkBudget_eq_ok.mpr hfits
  have hbytes : c.budget = .ok (some (budget * mebibyte)) := by
    rw [Config.budget, hbudget]
    rfl
  unfold judge
  rw [hbytes]
  change (r.checkBudget (.int (budget * mebibyte)) >>= fun _ => pure r) = _
  rw [hcheck, ok_bind]
  rfl

/-! ## Two levels -/

/-- The budget is a whole number out of range, and the analysis gets as far as its summary. -/
def Unsummarized (s : Subject) (settings : Settings) : Prop :=
  (∃ shown, .summary shown ∈ (s.analyze settings).events) ∧
    ∃ budget : Int, settings.gpuMemoryMb = .int budget ∧ Double.overflow ≤ budget

theorem analyze_eq (h : settings.validate = .ok c) : s.analyze settings = s.analyzeUnder c := by
  unfold analyze
  rw [h]

theorem exists_validate {e : Event} (h : e ∈ (s.analyze settings).events) :
    ∃ c, settings.validate = .ok c := by
  cases hc : settings.validate with
  | error failure =>
    unfold analyze at h
    rw [hc] at h
    cases h
  | ok c => exact ⟨c, rfl⟩

/-- What the log is stopped by: a summary that is shown but cannot be laid out. -/
theorem failure_analyze_iff {u : Verbosity} {now : String} {m : Misuse} :
    ((Logger.plain u now).publish (s.analyze settings).events).failure = some m ↔
      m = .tooLarge ∧ u.shows .info ∧ s.Unsummarized settings := by
  rw [(analyze_orderly s settings).failure_eq_some_iff]
  constructor
  · rintro ⟨hshows, shown, hmem, htext⟩
    obtain ⟨c, hc⟩ := exists_validate hmem
    have hunder := hmem
    rw [analyze_eq hc] at hunder
    obtain ⟨n, r, totalMb, -, -, -, rfl, -⟩ := summarized_of_mem hunder
    obtain ⟨rfl, hbudget⟩ := (text_figures_error_iff hc).mp htext
    exact ⟨rfl, hshows, ⟨_, hmem⟩, hbudget⟩
  · rintro ⟨rfl, hshows, ⟨shown, hmem⟩, hbudget⟩
    obtain ⟨c, hc⟩ := exists_validate hmem
    have hunder := hmem
    rw [analyze_eq hc] at hunder
    obtain ⟨n, r, totalMb, -, -, -, rfl, -⟩ := summarized_of_mem hunder
    exact ⟨hshows, _, hmem, (text_figures_error_iff hc).mpr ⟨rfl, hbudget⟩⟩

theorem result_of_unsummarized (h : s.Unsummarized settings) :
    ∃ r, (s.analyze settings).result = .ok r := by
  obtain ⟨⟨shown, hmem⟩, budget, hbudget, hover⟩ := h
  obtain ⟨c, hc⟩ := exists_validate hmem
  rw [analyze_eq hc] at hmem ⊢
  obtain ⟨n, r, totalMb, hn, hr, htotal, -, hresult⟩ := summarized_of_mem hmem
  rw [← (validate_budget hc).1] at hbudget
  exact ⟨r, hresult.trans (judge_of_overflow hn hr htotal hbudget hover)⟩

theorem published_fst (s : Subject) (settings : Settings) (u : Verbosity) (now : String) :
    ((s.analyze settings).published (Logger.plain u now)).1
      = String.join (((Logger.plain u now).pieces (s.analyze settings).events).map Prod.snd) := by
  rw [← (analyze_orderly s settings).written, Logged.published]
  split <;> rfl

theorem published_of_unsummarized {u : Verbosity} (hu : u.shows .info)
    (h : s.Unsummarized settings) (now : String) :
    ((s.analyze settings).published (Logger.plain u now)).2 = .error (.misuse .tooLarge) := by
  have hfailure : ((Logger.plain u now).publish (s.analyze settings).events).failure
      = some .tooLarge := failure_analyze_iff.mpr ⟨rfl, hu, h⟩
  rw [Logged.published]
  simp only [hfailure]

theorem published_of_not {u : Verbosity} (h : ¬ (u.shows .info ∧ s.Unsummarized settings))
    (now : String) :
    ((s.analyze settings).published (Logger.plain u now)).2 = (s.analyze settings).result := by
  have hfailure : ((Logger.plain u now).publish (s.analyze settings).events).failure = none := by
    rw [Option.eq_none_iff_forall_ne_some]
    intro m hm
    exact h (failure_analyze_iff.mp hm).2
  rw [Logged.published]
  simp only [hfailure]

/-- Of two levels, the log at the lower one holds the entries of the log at the higher one up to its
level, and the results are the same unless a whole budget out of range is laid out at the higher
level alone. There the analysis fails, where at the lower level it gives its report. -/
theorem analyze_filtered (s : Subject) (settings : Settings) (now : String) {v w : Verbosity}
    (h : w.shows v) :
    let entries u := (Logger.plain u now).pieces (s.analyze settings).events
    let outcome u := (s.analyze settings).published (Logger.plain u now)
    (∀ u, (outcome u).1 = String.join ((entries u).map Prod.snd)) ∧
    entries v = (entries w).filter (fun p => v.shows p.1) ∧
    ((outcome v).2 = (outcome w).2
      ↔ ¬ (s.Unsummarized settings ∧ w.shows .info ∧ ¬ v.shows .info)) ∧
    (s.Unsummarized settings → w.shows .info → ¬ v.shows .info →
      (∃ r, (outcome v).2 = .ok r) ∧ (outcome w).2 = .error (.misuse .tooLarge)) := by
  have hapart (hun : s.Unsummarized settings) (hw : w.shows .info) (hv : ¬ v.shows .info) :
      (∃ r, ((s.analyze settings).published (Logger.plain v now)).2 = .ok r) ∧
        ((s.analyze settings).published (Logger.plain w now)).2 = .error (.misuse .tooLarge) := by
    rw [published_of_not (fun hvu => hv hvu.1)]
    exact ⟨result_of_unsummarized hun, published_of_unsummarized hw hun now⟩
  refine ⟨fun u => published_fst s settings u now, (analyze_orderly s settings).pieces_filter h,
    ⟨?_, ?_⟩, hapart⟩
  · rintro hsame ⟨hun, hw, hv⟩
    obtain ⟨⟨r, hr⟩, herror⟩ := hapart hun hw hv
    rw [hr, herror] at hsame
    cases hsame
  · intro hnot
    by_cases hun : s.Unsummarized settings
    · by_cases hw : w.shows .info
      · have hv : v.shows .info := by
          by_contra hv
          exact hnot ⟨hun, hw, hv⟩
        rw [published_of_unsummarized hw hun, published_of_unsummarized hv hun]
      · have hv : ¬ v.shows .info := fun hv => hw (Verbosity.shows_trans h hv)
        rw [published_of_not (fun hwu => hw hwu.1), published_of_not (fun hvu => hv hvu.1)]
    · rw [published_of_not (fun hwu => hun hwu.2), published_of_not (fun hvu => hun hvu.2)]

def sample : Subject where
  layers := rectified.layers
  inputNames := rectified.inputNames
  inputShapes := rectified.inputShapes
  label := .text "rectified"

theorem analyze_filtered_sample :
    ((sample.analyze {}).published (Logger.plain .warning "now")).2
      = ((sample.analyze {}).published (Logger.plain .debug "now")).2 ∧
    (Logger.plain .warning "now").pieces (sample.analyze {}).events
      = ((Logger.plain .debug "now").pieces (sample.analyze {}).events).filter
        fun p => Verbosity.warning.shows p.1 := by
  obtain ⟨-, hentries, hresult, -⟩ :=
    analyze_filtered sample {} "now" (v := .warning) (w := .debug) rfl
  refine ⟨hresult.mpr fun hbad => ?_, hentries⟩
  obtain ⟨budget, hbudget, -⟩ := hbad.1.2
  cases hbudget

/-- A budget of more mebibytes than a float can hold. -/
def boundless : Settings := { gpuMemoryMb := .int (10 ^ 400) }

theorem unsummarized_sample : sample.Unsummarized boundless := by
  have hany : (sample.analyze boundless).events.any (fun e => e matches .summary _) = true := by
    decide +kernel
  obtain ⟨e, he, hsummary⟩ := List.any_eq_true.mp hany
  cases e with
  | entry level message context => cases hsummary
  | summary shown => exact ⟨⟨shown, he⟩, _, rfl, by decide +kernel⟩

/-- A report is given where warnings are shown, and none where further messages are. -/
theorem not_filtered_boundless :
    Verbosity.info.shows .warning = true ∧
    (∃ r, ((sample.analyze boundless).published (Logger.plain .warning "now")).2 = .ok r) ∧
    ((sample.analyze boundless).published (Logger.plain .info "now")).2
      = .error (.misuse .tooLarge) := by
  refine ⟨rfl, ?_, published_of_unsummarized rfl unsummarized_sample "now"⟩
  have hhidden : ¬ (Verbosity.warning.shows .info ∧ sample.Unsummarized boundless) :=
    fun h => absurd h.1 (by decide)
  rw [published_of_not hhidden]
  exact result_of_unsummarized unsummarized_sample

end Subject

end NetFootprint
