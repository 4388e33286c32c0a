import TaskQueue.Proofs.Settings.Composition
import TaskQueue.Proofs.Time.Arithmetic

/-!
# Waits

A task may say how long after composition it is due.  The wait goes through two conversions that can fail: it
has to be a signed distance, and the calendar has to hold the sum.  The first never matters, since no two
instants are as far apart as the longest distance, so a wait can be used if and only if the calendar does not
end before it does, and then it is kept to the nanosecond.

Principal results: `TaskOption.usable_processIn_iff` — the waits that can be used; `wait_is_exact` — what
becomes of a list of options in which a wait says when the task is due.
-/

set_option autoImplicit false

namespace TaskQueue

variable {now : Instant} {wait : Span} {opts : List TaskOption}

namespace TaskOption

theorem mem_of_last? {g : Aspect} {o : TaskOption} (h : last? g opts = some o) : o ∈ opts :=
  List.mem_reverse.mp (List.mem_of_find?_eq_some h)

/-- A wait can be used unless the calendar ends before it does. -/
theorem usable_processIn_iff (hnow : now.isLeap = false) :
    (processIn wait).Usable now ↔ now.nanos + wait.nanos ≤ Instant.last.nanos := by
  rw [← Instant.add?_isSome_iff hnow, usable_iff, fault?]
  cases now.add? wait <;> simp

/-- A wait that cannot be used is out of range. -/
theorem unusable_processIn (h : ¬ (processIn wait).Usable now) :
    (processIn wait).Unusable now (.invalidOption (.outOfRange (.processIn wait))) := by
  obtain ⟨e, he⟩ := Classical.not_forall.mp h
  cases Classical.not_not.mp he with
  | processIn hnone => exact .processIn hnone

end TaskOption

/-- A list of options is refused for the only one of them that cannot be used, however often it is there. -/
theorem Settings.compose_of_only_unusable {s : Settings} {o : TaskOption} {e : Error} (ho : o ∈ opts)
    (he : o.Unusable now e) (hothers : ∀ p ∈ opts, p ≠ o → p.Usable now) :
    compose now s opts = .error e := by
  rw [← TaskOption.fault?_eq_some_iff] at he
  have hsome : (opts.findSome? (TaskOption.fault? now)).isSome :=
    List.findSome?_isSome_iff.mpr ⟨o, ho, Option.isSome_of_eq_some he⟩
  obtain ⟨f, hf⟩ := Option.isSome_iff_exists.mp hsome
  obtain ⟨p, hp, hpf⟩ := List.exists_of_findSome?_eq_some hf
  have hpo : p = o := by
    by_cases hne : p = o
    · exact hne
    · rw [TaskOption.usable_iff.mp (hothers p hp hne)] at hpf
      cases hpf
  rw [hpo, he] at hpf
  exact compose_eq_error_iff.mpr (hpf ▸ hf)

/-- **A wait is exact, and it is refused only if the calendar ends before it does.**  In a list of options in
which a wait is the last one to say when the task is due, and in which nothing else is unusable, the task is
due just as many nanoseconds after composition as the wait is long, provided that this is not later than the
last instant.  If it is later, the list is refused as the wait is out of range; so it is if the wait is too
long for a signed distance. -/
theorem wait_is_exact (now : Instant) (hnow : now.isLeap = false) (id : String) (opts : List TaskOption)
    (wait : Span) (hlast : TaskOption.last? .due opts = some (.processIn wait))
    (hothers : ∀ o ∈ opts, o ≠ .processIn wait → o.Usable now) :
    let composed := Settings.compose now (Settings.initial now id) opts
    (now.nanos + wait.nanos ≤ Instant.last.nanos →
      ∃ s, composed = .ok s ∧ s.processAt.isLeap = false ∧ s.processAt.nanos = now.nanos + wait.nanos) ∧
    (Instant.last.nanos < now.nanos + wait.nanos ∨ wait.toOffset? = none →
      composed = .error (.invalidOption (.outOfRange (.processIn wait)))) := by
  intro composed
  constructor
  · intro hsum
    have husable : ∀ o ∈ opts, o.Usable now := by
      intro o ho
      by_cases hwait : o = .processIn wait
      · exact hwait ▸ (TaskOption.usable_processIn_iff hnow).mpr hsum
      · exact hothers o ho hwait
    have hcomposed : Settings.Composed now id opts _ := Settings.composed_foldl husable
    have hdue : now.add? wait = some _ := hcomposed.decided .due _ hlast
    obtain ⟨hexact, hleap⟩ := Instant.nanos_add? hnow hdue
    exact ⟨_, Settings.compose_of_all_usable husable _, hleap, hexact⟩
  · intro hlong
    have hnone : ¬ (TaskOption.processIn wait).Usable now := by
      rcases hlong with hlater | hoffset
      · rw [TaskOption.usable_processIn_iff hnow]
        exact Int.not_le.mpr hlater
      · rw [TaskOption.usable_iff, TaskOption.fault?, Instant.add?, hoffset]
        simp
    exact Settings.compose_of_only_unusable (TaskOption.mem_of_last? hlast)
      (TaskOption.unusable_processIn hnone) hothers

/-- From the first instant, a wait to the very last nanosecond, a wait for one nanosecond more, and the longest
wait of all. -/
theorem wait_is_exact_of_whole_calendar :
    let first : Instant := ⟨firstSecond, 0, by decide, by decide, by decide, by decide⟩
    let whole : Nat := 16544868105600 * nanosPerSecond - 1
    let opts (wait : Span) : List TaskOption :=
      [.processIn (.ofNanos 1), .processAt .epoch, .processIn wait, .queue "mail"]
    let composed (wait : Span) := Settings.compose first (Settings.initial first "1") (opts wait)
    (∃ s, composed (.ofNanos whole) = .ok s ∧ s.processAt.nanos = Instant.last.nanos) ∧
      composed (.ofNanos (whole + 1)) =
        .error (.invalidOption (.outOfRange (.processIn (.ofNanos (whole + 1))))) ∧
      composed .max = .error (.invalidOption (.outOfRange (.processIn .max))) := by
  intro first whole opts composed
  have hothers (wait : Span) : ∀ o ∈ opts wait, o ≠ .processIn wait → o.Usable first := by
    intro o ho hne
    simp only [opts, List.mem_cons, List.not_mem_nil, or_false] at ho
    rw [TaskOption.usable_iff]
    rcases ho with rfl | rfl | rfl | rfl
    · decide +kernel
    · rfl
    · exact absurd rfl hne
    · decide +kernel
  have decided (wait : Span) := wait_is_exact first rfl "1" (opts wait) wait rfl (hothers wait)
  obtain ⟨s, hs, -, hdue⟩ := (decided (.ofNanos whole)).1 (by decide +kernel)
  exact ⟨⟨s, hs, hdue.trans (by decide +kernel)⟩,
    (decided (.ofNanos (whole + 1))).2 (Or.inl (by decide +kernel)),
    (decided .max).2 (Or.inr (by decide +kernel))⟩

end TaskQueue
