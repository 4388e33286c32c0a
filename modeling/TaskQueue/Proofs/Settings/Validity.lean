import TaskQueue.Settings

/-!
# What composed options satisfy

Composition refuses unusable queue names and ids and cuts a negative count of retries to none, so
whatever list of options it accepts, and in whatever order, the settings are fit to be made a record of.

Principal results: `Settings.compose_induction` — what one usable option keeps is kept by a list;
`Settings.Fit.compose` — settings that are fit stay fit.
-/

set_option autoImplicit false

namespace TaskQueue

open Text

theorem Text.allBlank_eq_false_iff {s : String} :
    allBlank s = false ↔ ∃ c ∈ s.toList, isBlank c = false := by
  rw [allBlank, List.all_eq_false]
  simp only [Bool.not_eq_true]

namespace Settings

/-- **Composition by steps**: what holds of the settings at first and is kept by every usable option holds
of the settings that a list composes to. -/
theorem compose_induction {P : Settings → Prop} {now : Instant}
    (hstep : ∀ {s : Settings} {o : TaskOption}, o.fault? now = none → P s → P (o.apply now s))
    {opts : List TaskOption} {s a : Settings} (h : compose now s opts = .ok a) (hs : P s) : P a := by
  induction opts generalizing s with
  | nil =>
    cases h
    exact hs
  | cons o rest ih =>
    rw [compose] at h
    cases ho : o.fault? now with
    | some e =>
      rw [ho] at h
      cases h
    | none =>
      rw [ho] at h
      exact ih h (hstep ho hs)

/-- The settings can be made a record of: they name a queue and an id, and no negative count. -/
structure Fit (s : Settings) : Prop where
  queue : allBlank s.queue = false
  taskId : allBlank s.taskId = false
  maxRetry : 0 ≤ s.maxRetry

theorem fit_initial (now : Instant) {id : String} (h : allBlank id = false) :
    (initial now id).Fit where
  queue := show allBlank defaultQueue = false by decide
  taskId := h
  maxRetry := show 0 ≤ defaultMaxRetry by decide

/-- An option that can be used keeps the settings fit. -/
theorem Fit.apply {s : Settings} (h : s.Fit) {now : Instant} {o : TaskOption}
    (ho : o.fault? now = none) : (o.apply now s).Fit := by
  cases o with
  | maxRetry count =>
    refine ⟨h.queue, h.taskId, ?_⟩
    simp only [TaskOption.apply]
    split
    · decide
    · rename_i hcount
      exact Int32.not_lt.mp hcount
  | queue name =>
    refine ⟨?_, h.taskId, h.maxRetry⟩
    simpa [TaskOption.fault?, TaskOption.apply] using ho
  | taskId id =>
    refine ⟨h.queue, ?_, h.maxRetry⟩
    simpa [TaskOption.fault?, TaskOption.apply] using ho
  | timeout | deadline | unique | processAt | processIn | retention | unrecognized =>
    exact ⟨h.queue, h.taskId, h.maxRetry⟩

/-- **Whatever composition accepts is fit.** -/
theorem Fit.compose {s a : Settings} (h : s.Fit) {now : Instant} {opts : List TaskOption}
    (hc : Settings.compose now s opts = .ok a) : a.Fit :=
  compose_induction (fun ho hs => hs.apply ho) hc h

/-- Duplicates are refused for some time or not at all. -/
theorem nanos_pos_of_effectiveUniqueTtl {s : Settings} {ttl : Span}
    (h : s.effectiveUniqueTtl = some ttl) : 0 < ttl.nanos := by
  obtain ⟨-, hzero⟩ := Option.filter_eq_some_iff.mp h
  exact Span.isZero_eq_false_iff.mp (by rwa [Bool.not_eq_true'] at hzero)

end Settings

end TaskQueue
