import TaskQueue.Proofs.Store.Contents

/-!
# When a scheduled task is due

A store finds the time of a scheduled task by looking through the seconds of its queue for the first one
that has the id.  No id is in two of them, so it finds the second in which the task was said to be due,
whatever other tasks share it.  Accepted calls stay accepted, so the answer stays what it is.

Principal results: `Lane.secondOf?_eq_some_iff` — the second that is found;
`Moment.Contents.scheduledAt?_eq_some_iff` — the time, in terms of the calls that were accepted;
`scheduled_time_is_as_accepted` — what is answered after a run, and after anything that follows it.
-/

set_option autoImplicit false

namespace TaskQueue

open Std (ExtTreeMap)

theorem Lane.mem_toList_of_mem_bucket {l : Lane} {id : String} {second : Int}
    (h : id ∈ l.bucket second) : (second, l.bucket second) ∈ l.scheduled.toList := by
  rw [ExtTreeMap.mem_toList_iff_getElem?_eq_some]
  cases hget : l.scheduled[second]? with
  | none =>
    rw [bucket, hget] at h
    cases h
  | some ids => rw [bucket, hget, Option.getD_some]

/-- **The second of an id** is the one that has it, if no two seconds have it. -/
theorem Lane.secondOf?_eq_some_iff {l : Lane} {id : String}
    (hunique : ∀ second second' : Int, id ∈ l.bucket second → id ∈ l.bucket second' → second = second')
    {second : Int} : l.secondOf? id = some second ↔ id ∈ l.bucket second := by
  have hfound : ∀ b, l.scheduled.toList.find? (fun b => b.2.contains id) = some b →
      id ∈ l.bucket b.1 := by
    intro b hb
    have hcontains := List.find?_some hb
    rw [bucket_of_mem_toList (List.mem_of_find?_eq_some hb)]
    exact List.contains_iff_mem.mp hcontains
  rw [secondOf?, Option.map_eq_some_iff]
  constructor
  · rintro ⟨b, hb, rfl⟩
    exact hfound b hb
  · intro h
    have hsome : (l.scheduled.toList.find? fun b => b.2.contains id).isSome := by
      rw [List.find?_isSome]
      exact ⟨_, mem_toList_of_mem_bucket h, List.contains_iff_mem.mpr h⟩
    obtain ⟨b, hb⟩ := Option.isSome_iff_exists.mp hsome
    exact ⟨b, hb, hunique _ _ (hfound b hb) h⟩

theorem Acceptance.slot_eq_some_iff {a : Acceptance} {second : Int} :
    a.slot = some second ↔ ∃ due, a.call.route.due? = some due ∧ due.second = second :=
  Option.map_eq_some_iff

/-- **When a scheduled task is due**: at the beginning of the second of the time it was scheduled for. -/
theorem Moment.Contents.scheduledAt?_eq_some_iff {m : Moment} {log : List Acceptance}
    (h : m.Contents log) {queue id : String} {t : Instant} :
    m.store.scheduledAt? queue id = some t ↔
      ∃ a ∈ log, a.call.record.queue = queue ∧ a.call.record.id = id ∧
        ∃ due, a.call.route.due? = some due ∧ due.truncate = t := by
  have hbucket : ∀ second, id ∈ (m.store.lane queue).bucket second ↔
      id ∈ Acceptance.idsIn log queue (some second) := by
    intro second
    rw [← h.slots]
    rfl
  have hunique : ∀ second second' : Int, id ∈ (m.store.lane queue).bucket second →
      id ∈ (m.store.lane queue).bucket second' → second = second' := by
    intro second second' hs hs'
    exact Option.some.inj
      (Acceptance.slot_unique h.distinct ((hbucket _).mp hs) ((hbucket _).mp hs'))
  simp only [Store.scheduledAt?, Option.bind_eq_some_iff, Lane.secondOf?_eq_some_iff hunique, hbucket,
    Acceptance.mem_idsIn, Acceptance.slot_eq_some_iff]
  constructor
  · rintro ⟨second, ⟨a, ha, hq, hid, due, hdue, rfl⟩, ht⟩
    rw [Instant.ofSecond?_second, Option.some.injEq] at ht
    exact ⟨a, ha, hq, hid, due, hdue, ht⟩
  · rintro ⟨a, ha, hq, hid, due, hdue, rfl⟩
    exact ⟨due.second, ⟨a, ha, hq, hid, due, hdue, rfl⟩, due.ofSecond?_second⟩

/-! ## Times cut to whole seconds -/

/-- A time is cut to the last beginning of a second that is not after it. -/
structure Instant.CutTo (t cut : Instant) : Prop where
  whole : cut.nano = 0
  le : cut ≤ t
  last : ∀ u : Instant, u.nano = 0 → u ≤ t → u ≤ cut

theorem Instant.cutTo_truncate (t : Instant) : t.CutTo t.truncate where
  whole := rfl
  le := Or.inr ⟨rfl, Nat.zero_le _⟩
  last u hu hle := by
    rcases hle with hlt | ⟨hsecond, -⟩
    · exact Or.inl hlt
    · exact Or.inr ⟨hsecond, Nat.le_of_eq hu⟩

theorem Instant.cutTo_iff {t cut : Instant} : t.CutTo cut ↔ cut = t.truncate := by
  constructor
  · intro h
    have hcut := t.cutTo_truncate
    -- Each of the two is a whole second that is not after `t`, so neither is after the other.
    have hle : cut ≤ t.truncate := hcut.last cut h.whole h.le
    have hge : t.truncate ≤ cut := h.last t.truncate hcut.whole hcut.le
    refine Instant.ext ?_ (h.whole.trans hcut.whole.symm)
    rcases hle with hlt | ⟨heq, -⟩
    · rcases hge with hgt | ⟨heq, -⟩
      · omega
      · exact heq.symm
    · exact heq
  · rintro rfl
    exact t.cutTo_truncate

/-- A leap second is cut to the last second of its minute. -/
theorem Instant.CutTo.second_of_isLeap {t cut : Instant} (h : t.CutTo cut) (hleap : t.isLeap = true) :
    cut.second % 60 = 59 := by
  rw [cutTo_iff.mp h]
  exact t.leap (of_decide_eq_true hleap)

/-! ## The answers of a store -/

theorem Route.due?_eq_some_iff {r : Route} {due : Instant} :
    r.due? = some due ↔ r = .schedule due ∨ ∃ ttl, r = .scheduleUnique due ttl := by
  cases r <;> simp [due?]

/-- A call among the accepted ones scheduled a task for a time. -/
def Acceptance.Scheduled (log : List Acceptance) (queue id : String) (due : Instant) : Prop :=
  ∃ a ∈ log, a.call.record.queue = queue ∧ a.call.record.id = id ∧
    (a.call.route = .schedule due ∨ ∃ ttl, a.call.route = .scheduleUnique due ttl)

theorem Moment.Contents.scheduledAt?_eq_some_iff_scheduled {m : Moment} {log : List Acceptance}
    (h : m.Contents log) {queue id : String} {t : Instant} :
    m.store.scheduledAt? queue id = some t ↔
      ∃ due, Acceptance.Scheduled log queue id due ∧ due.CutTo t := by
  rw [h.scheduledAt?_eq_some_iff]
  simp only [Acceptance.Scheduled, ← Route.due?_eq_some_iff, Instant.cutTo_iff]
  constructor
  · rintro ⟨a, ha, hq, hid, due, hdue, rfl⟩
    exact ⟨due, ⟨a, ha, hq, hid, hdue⟩, rfl⟩
  · rintro ⟨due, ⟨a, ha, hq, hid, hdue⟩, rfl⟩
    exact ⟨a, ha, hq, hid, due, hdue, rfl⟩

/-- **A scheduled task is due when it was accepted for**, to the second.  After any run, the store answers with
a time for a queue and an id exactly if a call that schedules that id in that queue was accepted, and the time is
the one it was scheduled for, cut towards the past, from a leap second to the last second of its minute.
Otherwise it has no answer.  An answer stays the same, whatever happens afterwards. -/
theorem scheduled_time_is_as_accepted (c : Clock) (es : List Event) (queue id : String) :
    let s := ((Moment.start c).run es).store
    let log := (Moment.start c).accepted es
    (∀ t, s.scheduledAt? queue id = some t ↔
        ∃ due, Acceptance.Scheduled log queue id due ∧ due.CutTo t) ∧
      (s.scheduledAt? queue id = none ↔ ∀ due, ¬ Acceptance.Scheduled log queue id due) ∧
      (∀ due t, Acceptance.Scheduled log queue id due → due.isLeap = true →
        s.scheduledAt? queue id = some t → t.second % 60 = 59) ∧
      ∀ t es', s.scheduledAt? queue id = some t →
        ((Moment.start c).run (es ++ es')).store.scheduledAt? queue id = some t := by
  intro s log
  have h : Moment.Contents _ log := Moment.contents_run c es
  refine ⟨fun t => h.scheduledAt?_eq_some_iff_scheduled, ?_, ?_, ?_⟩
  · rw [Option.eq_none_iff_forall_ne_some]
    constructor
    · intro hnone due hdue
      exact hnone _ (h.scheduledAt?_eq_some_iff_scheduled.mpr ⟨due, hdue, due.cutTo_truncate⟩)
    · intro hnever t ht
      obtain ⟨due, hdue, -⟩ := h.scheduledAt?_eq_some_iff_scheduled.mp ht
      exact hnever due hdue
  · intro due t hdue hleap ht
    have hanswer := h.scheduledAt?_eq_some_iff_scheduled.mpr ⟨due, hdue, due.cutTo_truncate⟩
    rw [hanswer, Option.some.injEq] at ht
    exact (Instant.cutTo_iff.mpr ht.symm).second_of_isLeap hleap
  · intro t es' ht
    obtain ⟨due, ⟨a, ha, hcall⟩, hcut⟩ := h.scheduledAt?_eq_some_iff_scheduled.mp ht
    have hlater := Moment.contents_run c (es ++ es')
    rw [Moment.accepted_append] at hlater
    exact hlater.scheduledAt?_eq_some_iff_scheduled.mpr
      ⟨due, ⟨a, List.mem_append_left _ ha, hcall⟩, hcut⟩

/-- A task that is due in a leap second before 1970, beside another one of the same second and its namesake in
another queue, after the store is closed and all the time there is has passed. -/
theorem scheduled_time_is_as_accepted_of_leap :
    let r : Record := { id := "1", queue := "mail" }
    let second : Instant := ⟨-1, 0, by decide, by decide, by decide, by decide⟩
    let leap : Instant := ⟨-1, 1500000000, by decide, by decide, by decide, by decide⟩
    let es : List Event := [.submit ⟨r, .schedule leap⟩,
      .submit ⟨{ r with id := "2" }, .scheduleUnique second .zero⟩,
      .submit ⟨{ r with queue := "post" }, .schedule .epoch⟩]
    let later := (Moment.start ⟨none, 0⟩).run (es ++ [.cleanup 0, .close, .advance .max])
    later.store.scheduledAt? "mail" "1" = some second ∧
      later.store.scheduledAt? "post" "1" = some .epoch ∧ later.store.scheduledAt? "post" "2" = none := by
  intro r second leap es later
  have hlog : (Moment.start ⟨none, 0⟩).accepted es =
      [⟨0, ⟨r, .schedule leap⟩⟩, ⟨0, ⟨{ r with id := "2" }, .scheduleUnique second .zero⟩⟩,
        ⟨0, ⟨{ r with queue := "post" }, .schedule .epoch⟩⟩] := by
    decide +kernel
  obtain ⟨hmail, -, -, hmailLater⟩ := scheduled_time_is_as_accepted ⟨none, 0⟩ es "mail" "1"
  obtain ⟨hpost, -, -, hpostLater⟩ := scheduled_time_is_as_accepted ⟨none, 0⟩ es "post" "1"
  obtain ⟨-, hnone, -, -⟩ := scheduled_time_is_as_accepted ⟨none, 0⟩
    (es ++ [.cleanup 0, .close, .advance .max]) "post" "2"
  refine ⟨hmailLater _ _ ((hmail _).mpr ⟨leap, ?_, leap.cutTo_truncate⟩),
    hpostLater _ _ ((hpost _).mpr ⟨.epoch, ?_, Instant.epoch.cutTo_truncate⟩), hnone.mpr ?_⟩
  · rw [hlog]
    exact ⟨_, List.mem_cons_self, rfl, rfl, Or.inl rfl⟩
  · rw [hlog]
    exact ⟨_, List.mem_cons_of_mem _ (List.mem_cons_of_mem _ List.mem_cons_self), rfl, rfl, Or.inl rfl⟩
  · have hrest : ((Moment.start ⟨none, 0⟩).run es).accepted [.cleanup 0, .close, .advance .max] = [] := rfl
    have hother : ∀ a ∈ (Moment.start ⟨none, 0⟩).accepted es,
        ¬ (a.call.record.queue = "post" ∧ a.call.record.id = "2") := by
      rw [hlog]
      decide
    rw [Moment.accepted_append, hrest, List.append_nil]
    rintro due ⟨a, ha, hq, hid, -⟩
    exact hother a ha ⟨hq, hid⟩

end TaskQueue
