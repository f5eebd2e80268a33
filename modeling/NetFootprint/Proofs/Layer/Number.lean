import NetFootprint.Axes
import NetFootprint.Proofs.Outcome
import NetFootprint.Value.Text

/-!
# Reading and writing numbers

What the reading of a parameter may fail with. A value of the wrong kind or content is one that the
caller explains; an infinite float is the only other obstacle. Writing a number down fails only if
it has too many digits.
-/

namespace NetFootprint

/-- A number with more digits than are ever written. -/
def TooLong (n : Int) : Prop := Nat.pow 10 Numeral.maxWholeDigits ≤ n.natAbs

namespace Value

/-- Some value of a kind is the given one or stands in it, however deep. -/
inductive Holds (P : Value → Prop) : Value → Prop where
  | self {v : Value} (h : P v) : Holds P v
  | member {v w : Value} {items : List Value} (hv : v.members = .ok items) (hw : w ∈ items)
      (h : Holds P w) : Holds P v

def Infinite (v : Value) : Prop :=
  ∃ x negative, v = .float x ∧ Double.parts x = .infinite negative

/-- A value that is read as a number with too many digits. -/
def Long (v : Value) : Prop := ∃ n, v.toInt = .ok n ∧ TooLong n

theorem toInt_fails (v : Value) :
    FailsOnly (fun m => m = .wrongKind ∨ m = .malformed ∨ m = .tooLarge ∧ v.Infinite) v.toInt := by
  cases v with
  | float x =>
    rw [toInt]
    split
    · exact .error (.inr (.inl rfl))
    · next negative hp => exact .error (.inr (.inr ⟨rfl, x, negative, rfl, hp⟩))
    · exact .ok _
  | text s =>
    rw [toInt]
    split
    · exact .ok _
    · exact .error (.inr (.inl rfl))
  | bool b => exact .ok _
  | int n => exact .ok _
  | null | list items | object entries => exact .error (.inl rfl)

theorem members_fails (v : Value) : FailsOnly (fun m => m = .wrongKind) v.members := by
  cases v with
  | list items => exact .ok _
  | text s => exact .ok _
  | object entries => exact .ok _
  | null | bool | int | float => exact .error rfl

theorem toInts_fails (v : Value) :
    FailsOnly (fun m => m = .wrongKind ∨ m = .malformed ∨ m = .tooLarge ∧ v.Holds Infinite)
      v.toInts := by
  refine .bind ((members_fails v).mono fun m hm => .inl hm) fun items hitems => .mapM ?_
  intro w hw
  refine (toInt_fails w).mono fun m hm => hm.imp_right (.imp_right ?_)
  rintro ⟨rfl, h⟩
  exact ⟨rfl, .member hitems hw (.self h)⟩

theorem exists_of_toInts {v : Value} {ns : List Int} (h : v.toInts = .ok ns) {n : Int}
    (hn : n ∈ ns) (hlong : TooLong n) : v.Holds Long := by
  obtain ⟨items, hitems, hmap⟩ := bind_eq_ok.mp h
  obtain ⟨w, hw, hwn⟩ := exists_of_mem_right (mapM_eq_ok.mp hmap) hn
  exact .member hitems hw (.self ⟨n, hwn, hlong⟩)

theorem holds_of_mem_oneOrMore {P : Value → Prop} {v w : Value} (hw : w ∈ v.oneOrMore)
    (h : P w) : v.Holds P := by
  cases v with
  | null => cases hw
  | list items => exact .member rfl hw (.self h)
  | bool | int | float | text | object =>
    obtain rfl := List.mem_singleton.mp hw
    exact .self h

/-! ## Writing -/

theorem wholeTexts_fails (ns : List Int) :
    FailsOnly (fun m => m = .malformed ∧ ∃ n ∈ ns, TooLong n) (wholeTexts ns) := by
  refine .mapM fun n hn => .ite (fun _ => .ok _) fun h => .error ⟨rfl, n, hn, ?_⟩
  exact Nat.le_of_not_lt h

theorem exactInts_fails (ns : List Int) :
    FailsOnly (fun m => m = .malformed ∧ ∃ n ∈ ns, TooLong n) (exactInts ns) :=
  .bind (wholeTexts_fails ns) fun _ _ => .ok _

theorem exactIntTuple_fails (ns : List Int) :
    FailsOnly (fun m => m = .malformed ∧ ∃ n ∈ ns, TooLong n) (exactIntTuple ns) :=
  .bind (wholeTexts_fails ns) fun _ _ => .ok _

end Value

/-! ## Values for each axis -/

namespace Axes

theorem declared_fails (v : Value) :
    FailsOnly
      (fun m => m = .wrongKind ∨ m = .malformed ∨ m = .tooLarge ∧ v.Holds Value.Infinite)
      (declared v) := by
  refine .mapM fun w hw => (Value.toInt_fails w).mono fun m hm => hm.imp_right (.imp_right ?_)
  rintro ⟨rfl, h⟩
  exact ⟨rfl, Value.holds_of_mem_oneOrMore hw h⟩

theorem broadcastValue_fails (v : Value) (axes : Int) (default : Option Nat) :
    FailsOnly
      (fun m => m = .wrongKind ∨ m = .malformed ∨ m = .tooLarge ∧ v.Holds Value.Infinite)
      (broadcastValue v axes (match default with | some n => .int n | none => .null)) := by
  refine .bind (declared_fails v) fun values _ => .ite (fun _ => ?_) fun _ => .ok _
  cases default with
  | none => exact .ok _
  | some n => exact .ok _

theorem length_expand (values : List Int) {axes : Int} (h : 0 ≤ axes) :
    (expand values axes).length = axes.toNat := by
  simp only [expand, limit, if_pos h, List.length_append, List.length_take, List.length_replicate]
  omega

theorem mem_of_mem_expand {values : List Int} {axes n : Int} (hne : values ≠ [])
    (h : n ∈ expand values axes) : n ∈ values := by
  rcases List.mem_append.mp h with hkept | hrepeated
  · unfold limit at hkept
    split at hkept
    · exact List.mem_of_mem_take hkept
    · exact List.mem_of_mem_take hkept
  · obtain rfl := List.eq_of_mem_replicate hrepeated
    rw [List.getLastD_eq_getLast?, List.getLast?_eq_getLast_of_ne_nil hne]
    exact List.getLast_mem hne

/-- There is a value for each axis, and each is declared or the default. -/
theorem broadcastValue_ok {v : Value} {axes : Int} (haxes : 0 ≤ axes) {default : Option Nat}
    {values : List Int}
    (h : broadcastValue v axes (match default with | some n => .int n | none => .null) =
      .ok (some values)) :
    values.length = axes.toNat ∧
      ∀ n ∈ values, (∃ k, default = some k ∧ n = k) ∨ ∃ w ∈ v.oneOrMore, w.toInt = .ok n := by
  obtain ⟨given, hgiven, hrest⟩ := bind_eq_ok.mp h
  have hread := mapM_eq_ok.mp hgiven
  by_cases hempty : given.isEmpty = true
  · rw [if_pos hempty] at hrest
    cases default with
    | none => cases hrest
    | some k =>
      obtain rfl := Option.some.inj (Except.ok.inj hrest)
      refine ⟨List.length_replicate, fun n hn => .inl ⟨k, rfl, List.eq_of_mem_replicate hn⟩⟩
  · rw [if_neg hempty] at hrest
    obtain rfl := Option.some.inj (Except.ok.inj hrest)
    refine ⟨length_expand given haxes, fun n hn => .inr ?_⟩
    have hne : given ≠ [] := by simpa using hempty
    obtain ⟨w, hw, hwn⟩ := exists_of_mem_right hread (mem_of_mem_expand hne hn)
    exact ⟨w, hw, hwn⟩

end Axes

end NetFootprint
