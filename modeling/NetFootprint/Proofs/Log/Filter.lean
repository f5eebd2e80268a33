import Mathlib.Data.List.Basic
import NetFootprint.Log.Logger
import NetFootprint.Proofs.Outcome

/-!
# What verbosity does to a log of text

The text of an event does not depend on what is shown. Where only the last event may be one that
cannot be written, the entries of a log are those of the events that are shown, so a log at a lower
level is a log at a higher level without the entries beyond the lower one.
-/

namespace NetFootprint.Log

variable {e : Event} {events rest : List Event} {level v w : Verbosity} {now : String}
  {context : List (String × Value)}

/-! ## The text of an event -/

/-- What an event adds to a log of text where it is shown. -/
def Event.text (now : String) : Event → Except Misuse String
  | .entry level message context => do
    return (← (Entry.ofContext level (.text message) (.text now) context).text) ++ "\n"
  | .summary figures => figures.text

/-- A context that uses none of the names that stand for something else, and names no amount of
memory. -/
def Plain (context : List (String × Value)) : Prop :=
  ∀ key ∈ "memory_mb" :: Logger.reserved, key ∉ context.map Prod.fst

theorem plain_of_keys (keys : List String) (h : context.map Prod.fst = keys)
    (hkeys : ∀ key ∈ "memory_mb" :: Logger.reserved, key ∉ keys) : Plain context := by
  subst h
  exact hkeys

theorem Plain.not_reserved (h : Plain context) :
    context.any (fun f => Logger.reserved.contains f.1) = false := by
  rw [List.any_eq_false]
  intro f hf hreserved
  exact h f.1 (List.mem_cons_of_mem _ (by simpa using hreserved)) (List.mem_map_of_mem hf)

theorem Plain.lookup_memory (h : Plain context) : context.lookup "memory_mb" = none := by
  rw [List.lookup_eq_none_iff]
  intro f hf
  rw [bne_iff_ne]
  rintro heq
  exact h "memory_mb" List.mem_cons_self (heq ▸ List.mem_map_of_mem hf)

theorem Plain.text (h : Plain context) (level : Verbosity) (message now : String) :
    ∃ line, (Event.entry level message context).text now = .ok line := by
  rw [Event.text, Entry.text]
  simp only [Entry.ofContext, h.lookup_memory]
  exact ⟨_, rfl⟩

/-! ## Recording -/

namespace Logger

theorem record_summary (figures : Summary) :
    (plain v now).record (.summary figures) = if v.shows .info then
      match figures.text with
      | .ok box => ⟨box, [], none⟩
      | .error m => ⟨"", [], some m⟩
    else nothing := rfl

theorem record_entry (h : Plain context) {message line : String}
    (hline : (Event.entry level message context).text now = .ok line) :
    (plain v now).record (.entry level message context)
      = if v.shows level then ⟨line, [], none⟩ else nothing := by
  obtain ⟨text, htext, hend⟩ := bind_eq_ok.mp hline
  obtain rfl := pure_eq_ok.mp hend
  have hreserved : ¬ context.any (fun f => reserved.contains f.1) = true := by
    rw [h.not_reserved]
    decide
  rw [record, log, if_neg hreserved, emit, lineOf]
  simp only [plain, Bool.false_eq_true, if_false, htext]

/-- The entries that a log holds after some events, each with the level of its event. An event that
cannot be written adds none, and ends the log. -/
def pieces (lg : Logger) : List Event → List (Verbosity × String)
  | [] => []
  | e :: rest =>
    let here := lg.record e
    match here.failure with
    | some _ => []
    | none =>
      if lg.verbosity.shows e.level then (e.level, here.written) :: lg.pieces rest
      else lg.pieces rest

theorem pieces_cons (e : Event) (rest : List Event) :
    (plain v now).pieces (e :: rest) = match ((plain v now).record e).failure with
      | some _ => []
      | none =>
        if v.shows e.level then
          (e.level, ((plain v now).record e).written) :: (plain v now).pieces rest
        else (plain v now).pieces rest := rfl

section

variable (h : Plain context) {message line : String}
  (hline : (Event.entry level message context).text now = .ok line) (rest : List Event)
include h hline

theorem pieces_entry : (plain v now).pieces (.entry level message context :: rest)
    = (if v.shows level then [(level, line)] else []) ++ (plain v now).pieces rest := by
  rw [pieces_cons, record_entry h hline, Event.level]
  cases v.shows level <;> rfl

theorem written_entry : ((plain v now).publish (.entry level message context :: rest)).written
    = (if v.shows level then line else "") ++ ((plain v now).publish rest).written := by
  rw [publish, record_entry h hline]
  cases v.shows level <;> rfl

theorem failure_entry : ((plain v now).publish (.entry level message context :: rest)).failure
    = ((plain v now).publish rest).failure := by
  rw [publish, record_entry h hline]
  cases v.shows level <;> rfl

end

end Logger

/-! ## Events that can be written -/

/-- Events of which all but a closing summary can be written. -/
inductive Orderly : List Event → Prop where
  | nil : Orderly []
  | summary (figures : Summary) : Orderly [.summary figures]
  | entry (level : Verbosity) (message : String) {used : List (String × Value)}
    {events : List Event} (h : Plain used) (hrest : Orderly events) :
    Orderly (.entry level message used :: events)

/-- An entry with a plain context. -/
def Event.Ordinary : Event → Prop
  | .entry _ _ context => Plain context
  | .summary _ => False

theorem Orderly.append (h : ∀ e ∈ events, e.Ordinary) (hrest : Orderly rest) :
    Orderly (events ++ rest) := by
  induction events with
  | nil => exact hrest
  | cons e events ih =>
    obtain ⟨he, hevents⟩ := List.forall_mem_cons.mp h
    cases e with
    | entry level message used => exact .entry level message he (ih hevents)
    | summary figures => exact he.elim

/-- The entry of a log for an event; none if the event is not shown, or cannot be written. -/
def Event.piece (v : Verbosity) (now : String) (e : Event) : Option (Verbosity × String) :=
  if v.shows e.level then (e.text now).toOption.map fun line => (e.level, line) else none

namespace Orderly

open Logger

theorem pieces (h : Orderly events) :
    (plain v now).pieces events = events.filterMap (Event.piece v now) := by
  induction h with
  | nil => rfl
  | summary figures =>
    rw [pieces_cons, record_summary, List.filterMap_cons, Event.piece, Event.text]
    cases hshows : v.shows .info with
    | false => simp [nothing, Logger.pieces, Event.level, hshows]
    | true => cases figures.text <;> simp [Logger.pieces, Event.level, hshows, Except.toOption]
  | @entry level message used events hused _ ih =>
    obtain ⟨line, hline⟩ := hused.text level message now
    rw [pieces_entry hused hline, ih, List.filterMap_cons, Event.piece, Event.level, hline]
    cases v.shows level <;> rfl

theorem written (h : Orderly events) : ((plain v now).publish events).written
    = String.join (((plain v now).pieces events).map Prod.snd) := by
  induction h with
  | nil => rfl
  | summary figures =>
    rw [publish, pieces_cons, record_summary]
    cases hshows : v.shows .info with
    | false => simp [nothing, Logger.pieces, publish, Event.level, hshows]
    | true => cases figures.text <;> simp [nothing, Logger.pieces, publish, Event.level, hshows]
  | @entry level message used events hused _ ih =>
    obtain ⟨line, hline⟩ := hused.text level message now
    rw [written_entry hused hline, pieces_entry hused hline, ih]
    cases v.shows level <;> simp

/-- At a lower level, a log holds the entries up to that level. -/
theorem pieces_filter (h : Orderly events) (hvw : w.shows v) :
    (plain v now).pieces events = ((plain w now).pieces events).filter fun p => v.shows p.1 := by
  have hpiece (e : Event) : e.piece v now = (e.piece w now).filter fun p => v.shows p.1 := by
    unfold Event.piece
    cases hshows : v.shows e.level with
    | false => cases w.shows e.level <;> cases (e.text now).toOption <;> simp [Option.filter, hshows]
    | true =>
      rw [if_pos (Verbosity.shows_trans hvw hshows)]
      cases (e.text now).toOption <;> simp [Option.filter, hshows]
  rw [h.pieces, h.pieces, List.filter_filterMap]
  exact congrArg (List.filterMap · events) (funext hpiece)

/-- Only a summary that is shown can keep the log from being written. -/
theorem failure_eq_some_iff (h : Orderly events) {m : Misuse} :
    ((plain v now).publish events).failure = some m ↔
      v.shows .info ∧ ∃ figures, .summary figures ∈ events ∧ figures.text = .error m := by
  induction h with
  | nil => simp [publish, nothing]
  | summary figures =>
    rw [publish, record_summary]
    cases hshows : v.shows .info with
    | false => simp [nothing, publish]
    | true => cases htext : figures.text <;> simp [nothing, publish, htext]
  | @entry level message used events hused _ ih =>
    obtain ⟨line, hline⟩ := hused.text level message now
    rw [failure_entry hused hline, ih]
    simp

end Orderly

end NetFootprint.Log
