import TaskQueue.Settings

/-!
# Composition read off the list

Composition goes through a list of options from first to last and stops at the first one that cannot be used.
What comes of it can be told without going through the list: the first unusable option says why the list is
refused, and if there is none, every aspect of the task is as the last option says that decides it.  So only
these last options matter, and their order does not.

Principal results: `Settings.foldl_apply` — what a list of options leaves of the settings, aspect by aspect;
`Settings.compose_congr` — lists with the same last options compose to the same settings;
`first_fault_or_last_options` — composition, exactly, and which changes of a list leave it as it is.
-/

set_option autoImplicit false

namespace TaskQueue

open Text

/-- What can be decided about a task by an option. -/
inductive Aspect where
  | maxRetry
  | queue
  | taskId
  | timeout
  | deadline
  | uniqueness
  | due
  | retention
  deriving DecidableEq, Repr

namespace TaskOption

/-- The aspect that an option decides, if it has a meaning.  There are two ways to say when a task is due. -/
def aspect? : TaskOption → Option Aspect
  | maxRetry _ => some .maxRetry
  | queue _ => some .queue
  | taskId _ => some .taskId
  | timeout _ => some .timeout
  | deadline _ => some .deadline
  | unique _ => some .uniqueness
  | processAt _ | processIn _ => some .due
  | retention _ => some .retention
  | unrecognized _ _ => none

/-- The last option of a list that decides an aspect. -/
def last? (g : Aspect) (opts : List TaskOption) : Option TaskOption :=
  opts.reverse.find? fun o => o.aspect? = some g

/-- Which options cannot be used at `now`, and why. -/
inductive Unusable (now : Instant) : TaskOption → Error → Prop where
  | queue {name : String} (h : ∀ c ∈ name.toList, isBlank c = true) :
      Unusable now (.queue name) (.invalidQueueName name)
  | taskId {id : String} (h : ∀ c ∈ id.toList, isBlank c = true) :
      Unusable now (.taskId id) (.invalidTaskId id)
  | processIn {wait : Span} (h : ∀ due, now.add? wait ≠ some due) :
      Unusable now (.processIn wait) (.invalidOption (.outOfRange (.processIn wait)))

/-- Whether an option can be used at `now`. -/
def Usable (now : Instant) (o : TaskOption) : Prop := ∀ e, ¬ o.Unusable now e

theorem fault?_eq_some_iff {now : Instant} {o : TaskOption} {e : Error} :
    o.fault? now = some e ↔ o.Unusable now e := by
  constructor
  · intro h
    cases o with
    | queue name =>
      obtain ⟨hblank, he⟩ := Option.ite_none_right_eq_some.mp h
      cases he
      exact .queue (List.all_eq_true.mp hblank)
    | taskId id =>
      obtain ⟨hblank, he⟩ := Option.ite_none_right_eq_some.mp h
      cases he
      exact .taskId (List.all_eq_true.mp hblank)
    | processIn wait =>
      obtain ⟨hnone, he⟩ := Option.ite_none_right_eq_some.mp h
      cases he
      exact .processIn (Option.eq_none_iff_forall_ne_some.mp (Option.isNone_iff_eq_none.mp hnone))
    | maxRetry | timeout | deadline | unique | processAt | retention | unrecognized => cases h
  · intro h
    cases h with
    | queue h | taskId h => exact if_pos (List.all_eq_true.mpr h)
    | processIn h =>
      exact if_pos (Option.isNone_iff_eq_none.mpr (Option.eq_none_iff_forall_ne_some.mpr h))

theorem usable_iff {now : Instant} {o : TaskOption} : o.Usable now ↔ o.fault? now = none := by
  rw [Option.eq_none_iff_forall_ne_some]
  exact forall_congr' fun e => not_congr fault?_eq_some_iff.symm

/-! ## Last options -/

theorem last?_append (g : Aspect) (xs ys : List TaskOption) :
    last? g (xs ++ ys) = (last? g ys).or (last? g xs) := by
  rw [last?, List.reverse_append, List.find?_append]
  rfl

theorem last?_singleton_of_ne {g : Aspect} {o : TaskOption} (h : o.aspect? ≠ some g) :
    last? g [o] = none := by
  simp [last?, h]

theorem last?_singleton_self {g : Aspect} {o : TaskOption} (h : o.aspect? = some g) :
    last? g [o] = some o := by
  simp [last?, h]

theorem last?_isSome_iff {g : Aspect} {opts : List TaskOption} :
    (last? g opts).isSome ↔ ∃ o ∈ opts, o.aspect? = some g := by
  simp [last?]

theorem aspect?_of_last? {g : Aspect} {opts : List TaskOption} {o : TaskOption}
    (h : last? g opts = some o) : o.aspect? = some g := by
  simpa using List.find?_some h

/-- An option is overridden by options that come after it if one of them decides the same aspect, or if it
decides none. -/
def Overridden (o : TaskOption) (after : List TaskOption) : Prop :=
  ∀ g, o.aspect? = some g → ∃ p ∈ after, p.aspect? = some g

/-- Two options are independent if they do not decide the same aspect. -/
def Independent (o p : TaskOption) : Prop := ∀ g, ¬ (o.aspect? = some g ∧ p.aspect? = some g)

theorem last?_of_overridden {o : TaskOption} {after : List TaskOption} (h : o.Overridden after)
    (before : List TaskOption) (g : Aspect) :
    last? g (before ++ o :: after) = last? g (before ++ after) := by
  rw [← List.singleton_append, last?_append, last?_append, last?_append]
  by_cases ho : o.aspect? = some g
  · have hafter := last?_isSome_iff.mpr (h g ho)
    rw [Option.or_of_isSome hafter, Option.or_of_isSome hafter]
  · rw [last?_singleton_of_ne ho, Option.or_none]

theorem last?_swap {o p : TaskOption} (h : o.Independent p) (before after : List TaskOption) (g : Aspect) :
    last? g (before ++ o :: p :: after) = last? g (before ++ p :: o :: after) := by
  have hpair : last? g ([o] ++ [p]) = last? g ([p] ++ [o]) := by
    rw [last?_append, last?_append]
    by_cases ho : o.aspect? = some g
    · have hp : p.aspect? ≠ some g := fun hp => h g ⟨ho, hp⟩
      rw [last?_singleton_of_ne hp, Option.none_or, Option.or_none]
    · rw [last?_singleton_of_ne ho, Option.none_or, Option.or_none]
  rw [show o :: p :: after = ([o] ++ [p]) ++ after from rfl,
    show p :: o :: after = ([p] ++ [o]) ++ after from rfl, last?_append, last?_append g _ after, hpair,
    ← last?_append, ← last?_append]

end TaskOption

/-! ## Settings, aspect by aspect -/

namespace Settings

/-- Whether two settings agree on an aspect. -/
def Agree (a b : Settings) : Aspect → Prop
  | .maxRetry => a.maxRetry = b.maxRetry
  | .queue => a.queue = b.queue
  | .taskId => a.taskId = b.taskId
  | .timeout => a.timeout = b.timeout
  | .deadline => a.deadline = b.deadline
  | .uniqueness => a.uniqueTtl = b.uniqueTtl
  | .due => a.processAt = b.processAt
  | .retention => a.retention = b.retention

/-- Whether the settings are as an option says: a negative count means none, and a wait begins at `now`. -/
def Holds (now : Instant) (s : Settings) : TaskOption → Prop
  | .maxRetry count => s.maxRetry.toInt = max count.toInt 0
  | .queue name => s.queue = name
  | .taskId id => s.taskId = id
  | .timeout limit => s.timeout = some limit
  | .deadline due => s.deadline = some due
  | .unique ttl => s.uniqueTtl = some ttl
  | .processAt due => s.processAt = due
  | .processIn wait => now.add? wait = some s.processAt
  | .retention keep => s.retention = keep
  | .unrecognized _ _ => True

variable {now : Instant} {a b c s : Settings} {g : Aspect} {o : TaskOption}

theorem Agree.refl (s : Settings) (g : Aspect) : s.Agree s g := by
  cases g <;> rfl

theorem Agree.trans (hab : a.Agree b g) (hbc : b.Agree c g) : a.Agree c g := by
  cases g <;> exact Eq.trans hab hbc

theorem eq_of_agree (h : ∀ g, a.Agree b g) : a = b := by
  cases a
  cases b
  congr
  · exact h .maxRetry
  · exact h .queue
  · exact h .taskId
  · exact h .timeout
  · exact h .deadline
  · exact h .uniqueness
  · exact h .due
  · exact h .retention

/-- An option says something about its aspect only. -/
theorem Holds.of_agree (h : b.Holds now o) (ho : o.aspect? = some g) (hab : a.Agree b g) :
    a.Holds now o := by
  cases o <;> cases ho <;> simp_all [Holds, Agree]

/-- What an option says about its aspect is all that there is to say. -/
theorem Holds.agree (ha : a.Holds now o) (hb : b.Holds now o) (ho : o.aspect? = some g) :
    a.Agree b g := by
  cases o with
  | maxRetry count =>
    cases ho
    exact Int32.toInt_inj.mp (Eq.trans ha (Eq.symm hb))
  | processIn wait =>
    cases ho
    exact Option.some.inj (Eq.trans (Eq.symm ha) hb)
  | queue | taskId | timeout | deadline | unique | processAt | retention =>
    cases ho
    exact Eq.trans ha (Eq.symm hb)
  | unrecognized => cases ho

theorem holds_apply (h : o.Usable now) : (o.apply now s).Holds now o := by
  cases o with
  | maxRetry count =>
    show Int32.toInt (if count < 0 then 0 else count) = max count.toInt 0
    have hzero : (0 : Int32).toInt = 0 := rfl
    split
    · rename_i hneg
      rw [Int32.lt_iff_toInt_lt, hzero] at hneg
      omega
    · rename_i hneg
      rw [Int32.lt_iff_toInt_lt, hzero] at hneg
      omega
  | processIn wait =>
    show now.add? wait = some ((now.add? wait).getD s.processAt)
    cases hadd : now.add? wait with
    | some due => rfl
    | none => exact absurd (.processIn fun due hdue => by simp [hadd] at hdue) (h _)
  | queue | taskId | timeout | deadline | unique | processAt | retention => rfl
  | unrecognized => trivial

theorem agree_apply (h : o.aspect? ≠ some g) : (o.apply now s).Agree s g := by
  cases o <;> cases g <;> first | rfl | exact absurd rfl h

/-- **What a list of options leaves of the settings**: an aspect is as the last option says that decides it, and
as it was if none does. -/
theorem foldl_apply {opts : List TaskOption} (h : ∀ o ∈ opts, o.Usable now) :
    (∀ o, TaskOption.last? g opts = some o → (opts.foldl (TaskOption.apply now) s).Holds now o) ∧
      (TaskOption.last? g opts = none → (opts.foldl (TaskOption.apply now) s).Agree s g) := by
  induction opts generalizing s with
  | nil => exact ⟨fun o ho => (by cases ho), fun _ => .refl s g⟩
  | cons p rest ih =>
    obtain ⟨hsome, hnone⟩ := ih (s := p.apply now s) fun o ho => h o (List.mem_cons_of_mem p ho)
    rw [← List.singleton_append, TaskOption.last?_append, List.singleton_append, List.foldl_cons]
    cases hlast : TaskOption.last? g rest with
    | some q =>
      rw [Option.some_or]
      exact ⟨fun o ho => (by cases ho; exact hsome q hlast), fun hn => (by cases hn)⟩
    | none =>
      rw [Option.none_or]
      by_cases hp : p.aspect? = some g
      · rw [TaskOption.last?_singleton_self hp]
        refine ⟨fun o ho => ?_, fun hn => (by cases hn)⟩
        cases ho
        exact (holds_apply (h p List.mem_cons_self)).of_agree hp (hnone hlast)
      · rw [TaskOption.last?_singleton_of_ne hp]
        exact ⟨fun o ho => (by cases ho), fun _ => (hnone hlast).trans (agree_apply hp)⟩

/-- Settings as a list of options says, read off its last options: what none of them decides is as it is for a
task without options. -/
structure Composed (now : Instant) (id : String) (opts : List TaskOption) (s : Settings) : Prop where
  decided : ∀ g o, TaskOption.last? g opts = some o → s.Holds now o
  undecided : ∀ g, TaskOption.last? g opts = none → s.Agree (initial now id) g

theorem Composed.eq {id : String} {opts : List TaskOption} (ha : Composed now id opts a)
    (hb : Composed now id opts b) : a = b := by
  refine eq_of_agree fun g => ?_
  cases hlast : TaskOption.last? g opts with
  | some o =>
    exact (ha.decided g o hlast).agree (hb.decided g o hlast) (TaskOption.aspect?_of_last? hlast)
  | none =>
    have hinitial := hb.undecided g hlast
    exact (ha.undecided g hlast).trans (by cases g <;> exact Eq.symm hinitial)

theorem composed_foldl {id : String} {opts : List TaskOption} (h : ∀ o ∈ opts, o.Usable now) :
    Composed now id opts (opts.foldl (TaskOption.apply now) (initial now id)) where
  decided _ o ho := (foldl_apply h).1 o ho
  undecided _ hnone := (foldl_apply h).2 hnone

theorem usable_of_compose_eq_ok {opts : List TaskOption} (h : compose now a opts = .ok s) :
    ∀ o ∈ opts, o.Usable now := by
  have hnone : opts.findSome? (TaskOption.fault? now) = none := by
    refine Option.eq_none_iff_forall_ne_some.mpr fun e he => ?_
    rw [compose_eq_error_iff.mpr he] at h
    cases h
  exact fun o ho => TaskOption.usable_iff.mpr (List.findSome?_eq_none_iff.mp hnone o ho)

theorem compose_of_all_usable {opts : List TaskOption} (h : ∀ o ∈ opts, o.Usable now) (s : Settings) :
    compose now s opts = .ok (opts.foldl (TaskOption.apply now) s) :=
  compose_of_usable fun o ho => TaskOption.usable_iff.mp (h o ho)

theorem compose_eq_ok_iff {id : String} {opts : List TaskOption} :
    compose now (initial now id) opts = .ok s ↔
      (∀ o ∈ opts, o.Usable now) ∧ Composed now id opts s := by
  constructor
  · intro h
    have husable := usable_of_compose_eq_ok h
    rw [compose_of_all_usable husable, Except.ok.injEq] at h
    exact ⟨husable, h ▸ composed_foldl husable⟩
  · rintro ⟨husable, hs⟩
    rw [compose_of_all_usable husable, (composed_foldl husable).eq hs]

theorem compose_eq_error_iff_first {opts : List TaskOption} {e : Error} :
    compose now s opts = .error e ↔
      ∃ before o after, opts = before ++ o :: after ∧ (∀ p ∈ before, p.Usable now) ∧ o.Unusable now e := by
  rw [compose_eq_error_iff, List.findSome?_eq_some_iff]
  constructor
  · rintro ⟨before, o, after, hopts, ho, hbefore⟩
    exact ⟨before, o, after, hopts, fun p hp => TaskOption.usable_iff.mpr (hbefore p hp),
      TaskOption.fault?_eq_some_iff.mp ho⟩
  · rintro ⟨before, o, after, hopts, hbefore, ho⟩
    exact ⟨before, o, after, hopts, TaskOption.fault?_eq_some_iff.mpr ho,
      fun p hp => TaskOption.usable_iff.mp (hbefore p hp)⟩

/-- **Only the last options matter**: a list of options that can be used composes to what any such list does
with the same last options. -/
theorem compose_congr {id : String} {opts opts' : List TaskOption}
    (h : compose now (initial now id) opts = .ok s) (husable : ∀ o ∈ opts', o.Usable now)
    (hlast : ∀ g, TaskOption.last? g opts = TaskOption.last? g opts') :
    compose now (initial now id) opts' = .ok s := by
  obtain ⟨-, hs⟩ := compose_eq_ok_iff.mp h
  exact compose_eq_ok_iff.mpr ⟨husable, fun g o ho => hs.decided g o (hlast g ▸ ho),
    fun g hnone => hs.undecided g (hlast g ▸ hnone)⟩

end Settings

/-- **Composition stops at the first unusable option, and otherwise takes the last option of each kind.**  A list
is refused if and only if it has an option that cannot be used, for the reason of the first of these, even if
later options decide the same aspect.  Otherwise every aspect is as the last option says that decides it, or as
it is for a task without options.  So a list that is not refused composes to the same settings without an
option that is overridden or has no meaning, and with two neighbours swapped that are independent. -/
theorem first_fault_or_last_options (now : Instant) (id : String) (opts : List TaskOption) :
    let composed := Settings.compose now (Settings.initial now id)
    ((∃ e, composed opts = .error e) ↔ ∃ o ∈ opts, ∃ e, o.Unusable now e) ∧
      (∀ e, composed opts = .error e ↔ ∃ before o after, opts = before ++ o :: after ∧
        (∀ p ∈ before, p.Usable now) ∧ o.Unusable now e) ∧
      (∀ s, composed opts = .ok s ↔ (∀ o ∈ opts, o.Usable now) ∧ Settings.Composed now id opts s) ∧
      (∀ before o after s, opts = before ++ o :: after → composed opts = .ok s → o.Overridden after →
        composed (before ++ after) = .ok s) ∧
      ∀ before o p after s, opts = before ++ o :: p :: after → composed opts = .ok s → o.Independent p →
        composed (before ++ p :: o :: after) = .ok s := by
  intro composed
  refine ⟨?_, fun e => Settings.compose_eq_error_iff_first, fun s => Settings.compose_eq_ok_iff, ?_, ?_⟩
  · simp only [composed, Settings.compose_eq_error_iff, ← Option.isSome_iff_exists,
      List.findSome?_isSome_iff, ← TaskOption.fault?_eq_some_iff]
  · rintro before o after s rfl h hover
    have husable := Settings.usable_of_compose_eq_ok h
    refine Settings.compose_congr h (fun p hp => husable p ?_) (TaskOption.last?_of_overridden hover before)
    rcases List.mem_append.mp hp with hp | hp
    · exact List.mem_append_left _ hp
    · exact List.mem_append_right _ (List.mem_cons_of_mem o hp)
  · rintro before o p after s rfl h hind
    have husable := Settings.usable_of_compose_eq_ok h
    have hperm : (before ++ p :: o :: after).Perm (before ++ o :: p :: after) :=
      (List.Perm.swap o p after).append_left before
    exact Settings.compose_congr h (fun q hq => husable q (hperm.mem_iff.mp hq))
      (TaskOption.last?_swap hind before after)

/-- A blank name refuses a list in which another queue is named later; a wait of a second and no retries are what
is left of a list that also says other times. -/
theorem first_fault_or_last_options_of_hidden :
    let composed := Settings.compose .epoch (Settings.initial .epoch "1")
    let due : Instant := ⟨60, 0, by decide, by decide, by decide, by decide⟩
    let wait : Span := ⟨nanosPerSecond, by decide⟩
    composed [.queue " ", .queue "mail"] = .error (.invalidQueueName " ") ∧
      ∃ s, composed [.processAt due, .maxRetry (-7), .processIn wait] = .ok s ∧
        s.maxRetry = 0 ∧ s.processAt.second = 1 ∧
        composed [.maxRetry (-7), .processIn wait] = .ok s ∧
        composed [.processAt due, .processIn wait, .maxRetry (-7)] = .ok s := by
  intro composed due wait
  obtain ⟨-, hfault, -⟩ := first_fault_or_last_options .epoch "1" [.queue " ", .queue "mail"]
  obtain ⟨-, -, -, hdrop, hswap⟩ :=
    first_fault_or_last_options .epoch "1" [.processAt due, .maxRetry (-7), .processIn wait]
  have hs : composed [.processAt due, .maxRetry (-7), .processIn wait] = .ok _ :=
    Settings.compose_of_usable (by decide +kernel)
  have hover : (TaskOption.processAt due).Overridden [.maxRetry (-7), .processIn wait] := by
    intro g hg
    cases hg
    exact ⟨.processIn wait, by simp, rfl⟩
  have hind : (TaskOption.maxRetry (-7)).Independent (.processIn wait) := by
    rintro g ⟨ho, hp⟩
    cases ho
    cases hp
  have hblank : (TaskOption.queue " ").Unusable .epoch (.invalidQueueName " ") :=
    .queue (List.all_eq_true.mp (by decide))
  refine ⟨(hfault _).mpr ⟨[], .queue " ", [.queue "mail"], rfl, by simp, hblank⟩, _, hs,
    by decide +kernel, by decide +kernel, hdrop [] _ _ _ rfl hs hover,
    hswap [.processAt due] _ _ [] _ rfl hs hind⟩

end TaskQueue
