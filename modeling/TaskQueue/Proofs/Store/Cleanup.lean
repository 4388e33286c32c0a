import Mathlib.Data.List.Basic
import Mathlib.Data.List.Induction
import TaskQueue.Proofs.Store.Guards
import TaskQueue.Proofs.Store.Observation

/-!
# Cleanups

A cleanup drops the guards that have expired and counts them.  Which guards are there to be dropped can be
told from the history: those that were set since the last cleanup, and those that it left because they were
live.  Nobody but those who clean up can tell the difference.

Principal results: `Moment.guardsSet_run` — a guard that is kept is the one that was set last;
`Moment.mem_guards_run_iff` — the keys that have a guard, in terms of the history;
`Store.exists_expired_keys` — what a cleanup counts; `cleanup_goes_unnoticed` — what all of this means to
those who submit and to those who clean up.
-/

set_option autoImplicit false

namespace TaskQueue

open Std (ExtTreeMap)

namespace Acceptance

/-- The call in a list that set the guard of a key last. -/
def holder? (log : List Acceptance) (key : String) : Option Acceptance :=
  log.reverse.find? fun a => a.Sets key

/-- The guard of a key, as it was set last, has expired by a tick. -/
def Expired (log : List Acceptance) (key : String) (tick : Tick) : Prop :=
  ∃ a, holder? log key = some a ∧ ¬ a.Guards key tick

theorem holder?_append_singleton (log : List Acceptance) (a : Acceptance) (key : String) :
    holder? (log ++ [a]) key = if a.Sets key then some a else holder? log key := by
  simp only [holder?, List.reverse_append, List.reverse_singleton, List.singleton_append, List.find?_cons]
  split <;> simp_all

theorem sets_of_holder? {log : List Acceptance} {key : String} {a : Acceptance}
    (h : holder? log key = some a) : a.Sets key := by
  rw [holder?] at h
  simpa using List.find?_some h

/-- The guard that a call sets is live as long as its acceptance guards the key. -/
theorem isLive_guard?_iff {a : Acceptance} {key : String} {g : Guard} (hset : a.Sets key)
    (hg : a.guard? = some g) (tick : Tick) : g.isLive tick = true ↔ a.Guards key tick := by
  obtain ⟨ttl, hu, rfl⟩ := Option.map_eq_some_iff.mp hg
  rw [guards_iff hu]
  exact (and_iff_right hset.2).symm

end Acceptance

namespace Store

variable {s : Store} {now : Tick}

/-- A guard that is kept is live at every tick before one at which it is live. -/
theorem isLive_of_le {earlier : Tick} {key : String} (h : earlier ≤ now) (hlive : s.isLive now key = true) :
    s.isLive earlier key = true := by
  obtain ⟨g, hg, hl⟩ := (Option.any_eq_true _ _).mp hlive
  exact (Option.any_eq_true _ _).mpr ⟨g, hg, Guard.isLive_of_le h hl⟩

/-- A cleanup leaves the keys whose guard is live. -/
theorem mem_guards_cleanup {key : String} :
    key ∈ (s.cleanup now).guards ↔ key ∈ s.guards ∧ s.isLive now key = true := by
  rw [ExtTreeMap.mem_iff_isSome_getElem?, ExtTreeMap.mem_iff_isSome_getElem?, Store.cleanup,
    ExtTreeMap.getElem?_filter', isLive]
  cases s.guards[key]? <;> simp

/-- **A cleanup counts keys**: each key with a guard that has expired, once. -/
theorem exists_expired_keys (s : Store) (now : Tick) :
    ∃ keys : List String, keys.Nodup ∧ s.expiredCount now = keys.length ∧
      ∀ key, key ∈ keys ↔ key ∈ s.guards ∧ s.isLive now key = false := by
  refine ⟨s.guards.keys.filter fun key => !s.isLive now key, ExtTreeMap.nodup_keys.filter _, ?_, ?_⟩
  · have hperm : (s.cleanup now).guards.keys.Perm (s.guards.keys.filter (s.isLive now)) := by
      refine (List.perm_ext_iff_of_nodup ExtTreeMap.nodup_keys (ExtTreeMap.nodup_keys.filter _)).mpr ?_
      intro key
      rw [List.mem_filter, ExtTreeMap.mem_keys, ExtTreeMap.mem_keys, mem_guards_cleanup]
    have hall : s.guards.keys.length = _ := List.length_eq_length_filter_add (s.isLive now)
    rw [← hperm.length_eq, ExtTreeMap.length_keys, ExtTreeMap.length_keys] at hall
    rw [expiredCount]
    omega
  · intro key
    rw [List.mem_filter, ExtTreeMap.mem_keys, Bool.not_eq_true']

/-- A cleanup that has just been made finds nothing to drop when it is repeated. -/
theorem expiredCount_cleanup {earlier : Tick} (h : earlier ≤ now) : (s.cleanup now).expiredCount earlier = 0 := by
  obtain ⟨keys, -, hcount, hkeys⟩ := exists_expired_keys (s.cleanup now) earlier
  rw [hcount, List.length_eq_zero_iff, List.eq_nil_iff_forall_not_mem]
  intro key hkey
  obtain ⟨hmem, hdead⟩ := (hkeys key).mp hkey
  have hlive := isLive_cleanup s now key ▸ (mem_guards_cleanup.mp hmem).2
  rw [isLive_of_le h hlive] at hdead
  cases hdead

end Store

namespace Moment

/-- Every guard that is kept is the one that was set last. -/
def GuardsSet (m : Moment) (log : List Acceptance) : Prop :=
  ∀ (key : String) (g : Guard), m.store.guards[key]? = some g →
    ∃ a, Acceptance.holder? log key = some a ∧ a.guard? = some g

theorem guardsSet_start (c : Clock) : (start c).GuardsSet [] := by
  intro key g h
  simp [start, Store.empty] at h

/-- **Every step keeps this.** -/
theorem GuardsSet.step {m m' : Moment} {log new : List Acceptance} (hs : Step m m' new)
    (h : m.GuardsSet log) : m'.GuardsSet (log ++ new) := by
  cases hs with
  | take call hopen hr =>
    intro key g hg
    rw [Store.getElem?_guards_add] at hg
    rw [Acceptance.holder?_append_singleton]
    split at hg
    · rename_i hset
      rw [if_pos hset]
      exact ⟨_, rfl, hg⟩
    · rename_i hset
      rw [if_neg hset]
      exact h key g hg
  | cleanup reading hle =>
    rw [List.append_nil]
    intro key g hg
    simp only [Store.cleanup, ExtTreeMap.getElem?_filter', Option.filter_eq_some_iff] at hg
    exact h key g hg.1
  | idle | refuse | close | advance =>
    rw [List.append_nil]
    exact h

theorem guardsSet_run (c : Clock) (es : List Event) :
    ((start c).run es).GuardsSet ((start c).accepted es) :=
  run_start_induction (guardsSet_start c) GuardsSet.step es

/-- A guard that is kept is live, or it has expired, by the history as well. -/
theorem GuardsSet.isLive_eq_false_iff {m : Moment} {log : List Acceptance} (h : m.GuardsSet log)
    {key : String} (hkey : key ∈ m.store.guards) (tick : Tick) :
    m.store.isLive tick key = false ↔ Acceptance.Expired log key tick := by
  obtain ⟨g, hg⟩ := Option.isSome_iff_exists.mp (ExtTreeMap.mem_iff_isSome_getElem?.mp hkey)
  obtain ⟨a, ha, hset⟩ := h key g hg
  have hlive := Acceptance.isLive_guard?_iff (Acceptance.sets_of_holder? ha) hset tick
  rw [Store.isLive, hg, Option.any_some, Acceptance.Expired, ha, ← Bool.not_eq_true, hlive]
  simp

/-! ## Keys that have a guard -/

/-- The keys that were acquired in a run since the last cleanup, or left by it: a cleanup leaves a key whose
guard has not expired by the time that it reads. -/
inductive Tracked (c : Clock) : List Event → String → Prop where
  | acquired {es : List Event} {e : Event} {a : Acceptance} {key : String}
      (ha : a ∈ ((start c).run es).taken e) (hset : a.Sets key) : Tracked c (es ++ [e]) key
  | left {es : List Event} {e : Event} {key : String} (h : Tracked c es key)
      (hleft : ∀ age, e = .cleanup age →
        ¬ Acceptance.Expired ((start c).accepted es) key (((start c).run es).clock.steady - age)) :
      Tracked c (es ++ [e]) key

theorem not_tracked_nil (c : Clock) (key : String) : ¬ Tracked c [] key := by
  intro h
  generalize hnil : [] = es at h
  cases h <;> simp at hnil

theorem tracked_append_singleton_iff {c : Clock} {es : List Event} {e : Event} {key : String} :
    Tracked c (es ++ [e]) key ↔
      (∃ a ∈ ((start c).run es).taken e, a.Sets key) ∨
        Tracked c es key ∧ ∀ age, e = .cleanup age →
          ¬ Acceptance.Expired ((start c).accepted es) key (((start c).run es).clock.steady - age) := by
  constructor
  · intro h
    generalize hall : es ++ [e] = all at h
    cases h with
    | acquired ha hset =>
      obtain ⟨rfl, hlast⟩ := List.append_inj' hall rfl
      cases hlast
      exact Or.inl ⟨_, ha, hset⟩
    | left h hleft =>
      obtain ⟨rfl, hlast⟩ := List.append_inj' hall rfl
      cases hlast
      exact Or.inr ⟨h, hleft⟩
  · rintro (⟨a, ha, hset⟩ | ⟨h, hleft⟩)
    · exact .acquired ha hset
    · exact .left h hleft

theorem mem_guards_submit (m : Moment) (call : Call) (key : String) :
    key ∈ (m.next (.submit call)).store.guards ↔
      (∃ a ∈ m.taken (.submit call), a.Sets key) ∨ key ∈ m.store.guards := by
  cases hc : m.store.closed with
  | true => simp [next, taken, offer?, Store.submit_eq_of_closed hc]
  | false =>
    cases hr : m.store.refusal? m.clock.steady call with
    | some e => simp [next, taken, offer?, Store.submit_eq_of_refusal hc hr, Store.register]
    | none =>
      simp only [next, taken, offer?, Store.submit_eq_of_free hc hr, List.mem_singleton, exists_eq_left]
      rw [ExtTreeMap.mem_iff_isSome_getElem?, ExtTreeMap.mem_iff_isSome_getElem?, Store.getElem?_guards_add]
      split
      · rename_i hset
        refine iff_of_true ?_ (Or.inl hset)
        rw [Acceptance.guard?, Option.isSome_map]
        exact hset.1
      · rename_i hset
        exact (or_iff_right hset).symm

/-- What an event does to the keys that have a guard. -/
theorem mem_guards_next (m : Moment) (e : Event) (key : String) :
    key ∈ (m.next e).store.guards ↔
      (∃ a ∈ m.taken e, a.Sets key) ∨
        key ∈ m.store.guards ∧
          ∀ age, e = .cleanup age → ¬ m.store.isLive (m.clock.steady - age) key = false := by
  cases e with
  | enqueue x =>
    rw [next_enqueue, taken_enqueue]
    cases m.offer? (.enqueue x) with
    | none => simp
    | some call => simpa using mem_guards_submit m call key
  | submit call => simpa using mem_guards_submit m call key
  | cleanup age =>
    simp only [next, taken, offer?, List.not_mem_nil, false_and, exists_false, false_or, Event.cleanup.injEq,
      forall_eq', Bool.not_eq_false]
    exact Store.mem_guards_cleanup
  | close => simp [next, Store.close, taken, offer?]
  | advance d => simp [next, taken, offer?]

/-- **The keys that have a guard**, in terms of the history. -/
theorem mem_guards_run_iff (c : Clock) (es : List Event) (key : String) :
    key ∈ ((start c).run es).store.guards ↔ Tracked c es key := by
  induction es using List.reverseRecOn with
  | nil => exact iff_of_false (by simp [run, start, Store.empty]) (not_tracked_nil c key)
  | append_singleton es e ih =>
    rw [run_append, tracked_append_singleton_iff, ← ih]
    -- What is left of the two sides is whether a guard that is kept has expired when a cleanup reads.
    refine (mem_guards_next _ e key).trans (or_congr_right (and_congr_right fun hmem => ?_))
    refine forall_congr' fun age => imp_congr_right fun _ => not_congr ?_
    exact (guardsSet_run c es).isLive_eq_false_iff hmem _

end Moment

/-! ## What a cleanup means to others -/

/-- **Cleanups go unnoticed**, except by those who make them.  Two runs that differ in their cleanups only
are heard in the same way: every submission, every request and every query is answered alike.  A cleanup
itself is told the number of keys that were acquired since the last cleanup, or left by it, and whose guard,
as it was set last, has expired by the time that the cleanup reads; repeated at once, it is told 0. -/
theorem cleanup_goes_unnoticed (c : Clock) :
    (∀ acts acts' : List Act,
      (acts.filter fun act => !act.isCleanup) = (acts'.filter fun act => !act.isCleanup) →
        (Moment.start c).heard acts = (Moment.start c).heard acts') ∧
    ∀ (es : List Event) (age : Nat),
      let m := (Moment.start c).run es
      (∃ keys : List String, keys.Nodup ∧ m.reply (.event (.cleanup age)) = .dropped keys.length ∧
        ∀ key, key ∈ keys ↔ Moment.Tracked c es key ∧
          Acceptance.Expired ((Moment.start c).accepted es) key (m.clock.steady - age)) ∧
      ∀ age', age ≤ age' → (m.next (.cleanup age)).reply (.event (.cleanup age')) = .dropped 0 := by
  refine ⟨fun acts acts' h => ?_, fun es age => ⟨?_, fun age' hage => ?_⟩⟩
  · -- Both are heard as the one run that they are without cleanups.
    rw [Moment.heard_eq_of_tidied (.refl _), h, ← Moment.heard_eq_of_tidied (.refl _)]
  · obtain ⟨keys, hnodup, hcount, hkeys⟩ := Store.exists_expired_keys
      ((Moment.start c).run es).store (((Moment.start c).run es).clock.steady - age)
    refine ⟨keys, hnodup, congrArg Told.dropped hcount, fun key => ?_⟩
    rw [hkeys, ← Moment.mem_guards_run_iff]
    exact and_congr_right fun hmem => (Moment.guardsSet_run c es).isLive_eq_false_iff hmem _
  · exact congrArg Told.dropped (Store.expiredCount_cleanup (Nat.sub_le_sub_left hage _))

/-- A guard of ten nanoseconds, with a cleanup before it expires and one after it has.  The second counts the
key that the first has left, and the key can be had again, with cleanups or without. -/
theorem cleanup_goes_unnoticed_of_left :
    let call : Call := ⟨{ id := "1", uniqueKey := "key" }, .enqueueUnique (.ofNanos 10)⟩
    let again : Call := ⟨{ id := "2", uniqueKey := "key" }, .scheduleUnique .epoch (.ofNanos 1)⟩
    let es : List Event := [.submit call, .cleanup 0, .advance (.ofNanos 10)]
    let m := (Moment.start ⟨none, 0⟩).run es
    (Moment.start ⟨none, 0⟩).heard
        (es.map .event ++ [.event (.cleanup 0), .query (.isLive "key"), .event (.submit again)]) =
      (Moment.start ⟨none, 0⟩).heard
        [.event (.submit call), .event (.advance (.ofNanos 10)), .query (.isLive "key"), .event (.submit again)] ∧
      m.reply (.event (.cleanup 0)) = .dropped 1 ∧
      (m.next (.cleanup 0)).reply (.event (.cleanup 4)) = .dropped 0 := by
  intro call again es m
  obtain ⟨hheard, hcleanup⟩ := cleanup_goes_unnoticed ⟨none, 0⟩
  obtain ⟨-, hrepeated⟩ := hcleanup es 0
  refine ⟨hheard _ _ rfl, congrArg Told.dropped ?_, hrepeated 4 (Nat.zero_le _)⟩
  decide +kernel

end TaskQueue
