import TaskQueue.Proofs.Store.History

/-!
# Guards and the history of a store

The store keeps one guard for a key, sets it anew when the key is used again, and drops it at some
cleanup after it has expired.  Seen from outside none of this matters: a key is guarded at a tick
exactly if some accepted call guards it then, that is, was accepted with the key and a time to live
that has not passed, or whose end the clock cannot tell.

Principal results: `Moment.guardLaw_run` — the law that links the guards of a store to the calls
accepted before, kept by every step; `duplicate_iff_guarded` — what it means for those who submit.
-/

set_option autoImplicit false

namespace TaskQueue

/-- An accepted call guards a key at a tick if it set a guard of that key, and the time to live has not
passed by then or ends where the clock has no reading. -/
def Acceptance.Guards (a : Acceptance) (key : String) (tick : Tick) : Prop :=
  ∃ ttl, a.call.route.uniqueTtl = some ttl ∧ a.call.record.uniqueKey = key ∧
    (tick < a.tick + ttl.nanos ∨ lastTick < a.tick + ttl.nanos)

theorem Acceptance.Guards.of_le {a : Acceptance} {key : String} {tick tick' : Tick}
    (h : tick ≤ tick') (hg : a.Guards key tick') : a.Guards key tick := by
  obtain ⟨ttl, hu, hk, hlt | hlast⟩ := hg
  · exact ⟨ttl, hu, hk, Or.inl (Nat.lt_of_le_of_lt h hlt)⟩
  · exact ⟨ttl, hu, hk, Or.inr hlast⟩

/-- The guard that a call sets is what its acceptance guards. -/
theorem Acceptance.guards_iff {now tick : Tick} {call : Call} {ttl : Span} {key : String}
    (h : call.route.uniqueTtl = some ttl) :
    Acceptance.Guards ⟨now, call⟩ key tick ↔
      call.record.uniqueKey = key ∧ (Guard.mk call.record.id (now.add? ttl)).isLive tick = true := by
  rw [Guard.isLive_iff]
  constructor
  · rintro ⟨ttl', hu, hk, hl⟩
    rw [show call.route.uniqueTtl = some ttl' from hu, Option.some.injEq] at h
    subst h
    exact ⟨hk, hl⟩
  · rintro ⟨hk, hl⟩
    exact ⟨ttl, h, hk, hl⟩

namespace Moment

/-- How the guards of a moment follow from the calls accepted before it. -/
structure GuardLaw (m : Moment) (log : List Acceptance) : Prop where
  /-- The calls were accepted before. -/
  past : ∀ a ∈ log, a.tick ≤ m.clock.steady
  /-- A key is guarded exactly if one of the calls guards it, now and, if nothing else happens, at any
  later tick. -/
  live : ∀ key tick, m.clock.steady ≤ tick →
    (m.store.isLive tick key = true ↔ ∃ a ∈ log, a.Guards key tick)
  /-- A call that sets a guard was accepted when no call before it guarded its key. -/
  spaced : log.Pairwise fun a b =>
    b.call.route.uniqueTtl.isSome → ¬ a.Guards b.call.record.uniqueKey b.tick

theorem guardLaw_start (c : Clock) : (start c).GuardLaw [] where
  past := by simp
  live key tick _ := by
    have h : (start c).store.isLive tick key = false := rfl
    simp [h]
  spaced := List.Pairwise.nil

/-- A call is accepted only if no call before guards the key whose guard it sets. -/
theorem GuardLaw.not_guards {m : Moment} {log : List Acceptance} (h : m.GuardLaw log) {call : Call}
    (hr : m.store.refusal? m.clock.steady call = none) (hu : call.route.uniqueTtl.isSome) :
    ∀ a ∈ log, ¬ a.Guards call.record.uniqueKey m.clock.steady := by
  intro a ha hg
  have hlive := (h.live call.record.uniqueKey m.clock.steady (Nat.le_refl _)).mpr ⟨a, ha, hg⟩
  exact (Store.refusal?_eq_none_iff.mp hr).1 ⟨hu, hlive⟩

theorem GuardLaw.live_take {m : Moment} {log : List Acceptance} (h : m.GuardLaw log) {call : Call}
    (hr : m.store.refusal? m.clock.steady call = none) (encoded : Bytes) (key : String) (tick : Tick)
    (ht : m.clock.steady ≤ tick) :
    (m.store.add m.clock.steady call encoded).isLive tick key = true ↔
      ∃ a ∈ log ++ [⟨m.clock.steady, call⟩], a.Guards key tick := by
  simp only [List.mem_append, List.mem_singleton, or_and_right, exists_or, exists_eq_left]
  cases hu : call.route.uniqueTtl with
  | none =>
    have hnew : ¬ Acceptance.Guards ⟨m.clock.steady, call⟩ key tick := by
      rintro ⟨ttl, ht, -⟩
      rw [show call.route.uniqueTtl = some ttl from ht] at hu
      cases hu
    rw [Store.isLive_add_of_none hu, h.live key tick ht]
    exact (or_iff_left hnew).symm
  | some ttl =>
    rw [Store.isLive_add_of_some hu, Acceptance.guards_iff hu]
    split
    · rename_i hk
      -- No call before guards the key any more, so only the new guard counts.
      have hold : ¬ ∃ a ∈ log, a.Guards key tick := by
        rintro ⟨a, ha, hg⟩
        exact h.not_guards hr (by simp [hu]) a ha (hk ▸ hg.of_le ht)
      rw [or_iff_right hold, and_iff_right hk]
    · rename_i hk
      rw [h.live key tick ht]
      exact (or_iff_left fun hn => hk hn.1).symm

/-- **Every step keeps the law.** -/
theorem GuardLaw.step {m m' : Moment} {log new : List Acceptance} (hs : Step m m' new)
    (h : m.GuardLaw log) : m'.GuardLaw (log ++ new) := by
  cases hs with
  | idle => rwa [List.append_nil]
  | refuse queue =>
    rw [List.append_nil]
    exact ⟨h.past, h.live, h.spaced⟩
  | close =>
    rw [List.append_nil]
    exact ⟨h.past, h.live, h.spaced⟩
  | cleanup reading hle =>
    rw [List.append_nil]
    -- What is dropped had expired by now, so no tick from now on sees a difference.
    refine ⟨h.past, fun key tick ht => ?_, h.spaced⟩
    rw [Store.isLive_cleanup_of_le _ (Nat.le_trans hle ht)]
    exact h.live key tick ht
  | advance d =>
    rw [List.append_nil]
    have hle := m.clock.steady_le_advance d
    exact ⟨fun a ha => Nat.le_trans (h.past a ha) hle,
      fun key tick ht => h.live key tick (Nat.le_trans hle ht), h.spaced⟩
  | take call hopen hr =>
    refine ⟨?_, h.live_take hr _, ?_⟩
    · intro a ha
      rcases List.mem_append.mp ha with ha | ha
      · exact h.past a ha
      · have hnew := List.mem_singleton.mp ha
        subst hnew
        exact Nat.le_refl m.clock.steady
    · rw [List.pairwise_append]
      refine ⟨h.spaced, List.pairwise_singleton _ _, ?_⟩
      intro a ha b hb hu
      rw [List.mem_singleton.mp hb] at hu ⊢
      exact h.not_guards hr hu a ha

theorem guardLaw_run (c : Clock) (es : List Event) :
    ((start c).run es).GuardLaw ((start c).accepted es) :=
  run_start_induction (guardLaw_start c) GuardLaw.step es

end Moment

/-- A submission that sets no guard leaves all guards as they are. -/
theorem Store.guards_submit_of_none (s : Store) (now : Tick) {call : Call}
    (h : call.route.uniqueTtl = none) : (s.submit now call).2.guards = s.guards := by
  cases hc : s.closed with
  | true => rw [submit_eq_of_closed hc]
  | false =>
    cases hr : s.refusal? now call with
    | some e => rw [submit_eq_of_refusal hc hr, register]
    | none =>
      rw [submit_eq_of_free hc hr]
      simp only [add, guardsAfter, h]

/-- **Duplicates are decided by the history.**  After any run, an open store refuses a call that sets a
guard as a duplicate exactly if some call accepted before guards its key, and this comes before a taken
id; a call that sets no guard is never a duplicate and touches no guard, whatever key its record has.
So of two accepted calls that set guards of one key, the later came when the earlier had expired. -/
theorem duplicate_iff_guarded (c : Clock) (es : List Event) :
    let m := (Moment.start c).run es
    let log := (Moment.start c).accepted es
    (m.store.closed = false → ∀ call : Call, call.route.uniqueTtl.isSome →
      ((m.store.submit m.clock.steady call).1 = .error .duplicateTask ↔
        ∃ a ∈ log, a.tick ≤ m.clock.steady ∧ a.Guards call.record.uniqueKey m.clock.steady) ∧
      ((m.store.submit m.clock.steady call).1 = .error .taskIdConflict ↔
        (¬ ∃ a ∈ log, a.Guards call.record.uniqueKey m.clock.steady) ∧
          Store.entryKey call.record.queue call.record.id ∈ m.store.tasks)) ∧
    (∀ call : Call, call.route.uniqueTtl = none →
      (m.store.submit m.clock.steady call).1 ≠ .error .duplicateTask ∧
        (m.store.submit m.clock.steady call).2.guards = m.store.guards) ∧
    log.Pairwise fun a b => ∀ ttl, a.call.route.uniqueTtl = some ttl →
      b.call.route.uniqueTtl.isSome → a.call.record.uniqueKey = b.call.record.uniqueKey →
        a.tick + ttl.nanos ≤ b.tick ∧ a.tick + ttl.nanos ≤ lastTick := by
  intro m log
  have law : m.GuardLaw log := Moment.guardLaw_run c es
  refine ⟨?_, ?_, ?_⟩
  · intro hopen call hu
    have hlive := law.live call.record.uniqueKey m.clock.steady (Nat.le_refl _)
    constructor
    · rw [Store.submit_eq_error_iff hopen, Store.refusal?_eq_duplicate_iff, and_iff_right hu, hlive]
      constructor
      · rintro ⟨a, ha, hg⟩
        exact ⟨a, ha, law.past a ha, hg⟩
      · rintro ⟨a, ha, -, hg⟩
        exact ⟨a, ha, hg⟩
    · rw [Store.submit_eq_error_iff hopen, Store.refusal?_eq_conflict_iff, and_iff_right hu, hlive]
  · intro call hu
    refine ⟨?_, Store.guards_submit_of_none _ _ hu⟩
    intro hd
    cases hc : m.store.closed with
    | true =>
      rw [Store.submit_eq_of_closed hc] at hd
      cases hd
    | false =>
      rw [Store.submit_eq_error_iff hc, Store.refusal?_eq_duplicate_iff, hu] at hd
      cases hd.1
  · refine law.spaced.imp ?_
    intro a b hab ttl hu hb hk
    have hfree := hab hb
    constructor
    · exact Nat.not_lt.mp fun hlt => hfree ⟨ttl, hu, hk, Or.inl hlt⟩
    · exact Nat.not_lt.mp fun hlt => hfree ⟨ttl, hu, hk, Or.inr hlt⟩

/-- A guard set for ten nanoseconds, after nine of them and after all. -/
theorem duplicate_iff_guarded_at_expiry :
    let call : Call := ⟨{ id := "1", uniqueKey := "key" }, .enqueueUnique (.ofNanos 10)⟩
    let again : Call := ⟨{ id := "2", uniqueKey := "key" }, .scheduleUnique .epoch (.ofNanos 1)⟩
    let m (d : Nat) := (Moment.start ⟨none, 0⟩).run [.submit call, .cleanup 0, .advance (.ofNanos d)]
    ((m 9).store.submit 9 again).1 = .error .duplicateTask ∧
      ((m 10).store.submit 10 again).1 ≠ .error .duplicateTask := by
  intro call again m
  have htaken : (Moment.start ⟨none, 0⟩).taken (.submit call) = [⟨0, call⟩] := by decide +kernel
  have hlog (d : Nat) : (Moment.start ⟨none, 0⟩).accepted
      [.submit call, .cleanup 0, .advance (.ofNanos d)] = [⟨0, call⟩] := by
    rw [Moment.accepted, htaken]
    rfl
  have decided (d : Nat) := duplicate_iff_guarded ⟨none, 0⟩
    [.submit call, .cleanup 0, .advance (.ofNanos d)]
  simp only [hlog, List.mem_singleton, exists_eq_left] at decided
  constructor
  · refine (((decided 9).1 (by decide +kernel) again rfl).1).mpr ⟨Nat.zero_le _, .ofNanos 10, rfl, rfl, ?_⟩
    left
    decide
  · intro hdup
    obtain ⟨-, ttl, hu, -, hlive⟩ := (((decided 10).1 (by decide +kernel) again rfl).1).mp hdup
    cases hu
    revert hlive
    decide

end TaskQueue
