import TaskQueue.Proofs.Remote.Exchange
import TaskQueue.Remote.Session

/-!
# The digests of a session

A session begins by loading the four scripts.  Whatever their order and whatever texts the peer answers
with, each script is known afterwards by the text that answered the loading of that script and of no other.

Principal results: `Shelf.digest?_of_load` — what loading leaves on the shelf;
`Session.opened_of_connect` — a session that is connected has loaded every script once.
-/

set_option autoImplicit false

namespace TaskQueue

namespace Shelf

theorem digest?_cons_self (shelf : Shelf) (script : Script) (digest : String) :
    digest? ((script, digest) :: shelf) script = some digest :=
  List.lookup_cons_self

theorem digest?_cons_of_ne (shelf : Shelf) {script other : Script} (digest : String)
    (h : script ≠ other) : digest? ((other, digest) :: shelf) script = digest? shelf script := by
  rw [digest?, List.lookup_cons, beq_false_of_ne h, digest?]

/-- Loading sends the scripts one by one and reads every answer as a text. -/
theorem trace_load_cons {shelf shelf' : Shelf} {script : Script} {rest : List Script}
    {log : List Exchange} (h : (load shelf (script :: rest)).Trace log (.ok shelf')) :
    ∃ reply digest log', log = ⟨.loadScript script, reply⟩ :: log' ∧ reply.toText = .ok digest ∧
      (load ((script, digest) :: shelf) rest).Trace log' (.ok shelf') := by
  obtain ⟨reply, log', rfl, hnext⟩ := Dialogue.trace_send_iff.mp h
  cases hr : reply.toText with
  | error fault =>
    rw [hr] at hnext
    cases (Dialogue.trace_done_iff.mp hnext).2
  | ok digest =>
    rw [hr] at hnext
    exact ⟨reply, digest, log', rfl, hr, hnext⟩

theorem commands_of_load {order : List Script} {shelf shelf' : Shelf} {log : List Exchange}
    (h : (load shelf order).Trace log (.ok shelf')) :
    log.map (·.command) = order.map Command.loadScript := by
  induction order generalizing shelf log with
  | nil =>
    obtain ⟨rfl, -⟩ := Dialogue.trace_done_iff.mp h
    rfl
  | cons script rest ih =>
    obtain ⟨reply, digest, log', rfl, -, hrest⟩ := trace_load_cons h
    rw [List.map_cons, List.map_cons, ih hrest]

/-- A script that is not loaded again keeps its digest. -/
theorem digest?_of_load_of_not_mem {order : List Script} {shelf shelf' : Shelf} {log : List Exchange}
    (h : (load shelf order).Trace log (.ok shelf')) {script : Script} (hs : script ∉ order) :
    shelf'.digest? script = shelf.digest? script := by
  induction order generalizing shelf log with
  | nil =>
    obtain ⟨-, hshelf⟩ := Dialogue.trace_done_iff.mp h
    cases hshelf
    rfl
  | cons other rest ih =>
    rw [List.mem_cons, not_or] at hs
    obtain ⟨reply, digest, log', rfl, -, hrest⟩ := trace_load_cons h
    rw [ih hrest hs.2, digest?_cons_of_ne shelf digest hs.1]

/-- **What loading leaves on the shelf**: for every script the text that answered its own loading. -/
theorem digest?_of_load {order : List Script} (hnodup : order.Nodup) {shelf shelf' : Shelf}
    {log : List Exchange} (h : (load shelf order).Trace log (.ok shelf')) {script : Script}
    {reply : Reply} (hmem : ⟨.loadScript script, reply⟩ ∈ log) :
    ∃ digest, reply.toText = .ok digest ∧ shelf'.digest? script = some digest := by
  induction order generalizing shelf log with
  | nil =>
    obtain ⟨rfl, -⟩ := Dialogue.trace_done_iff.mp h
    cases hmem
  | cons other rest ih =>
    obtain ⟨hother, hnodup⟩ := List.nodup_cons.mp hnodup
    obtain ⟨reply', digest, log', rfl, htext, hrest⟩ := trace_load_cons h
    rcases List.mem_cons.mp hmem with heq | hmem
    · cases heq
      -- The script does not come again, so the digest that is put down stays.
      refine ⟨digest, htext, ?_⟩
      rw [digest?_of_load_of_not_mem hrest hother, digest?_cons_self]
    · exact ih hnodup hrest hmem

end Shelf

namespace Session

/-- A connected session that began by loading every script once, in some order, and by these exchanges. -/
def Opened (s : Session) (loads : List Exchange) : Prop :=
  s.held = true ∧ ∃ order : List Script, order.Perm Script.all ∧
    (Shelf.load [] order).Trace loads (.ok s.shelf)

/-- **Every session that is connected has loaded the scripts.** -/
theorem opened_of_connect {config : Config} {loads : List Exchange} {s : Session}
    (h : (connect config).Trace loads (.ok s)) : s.Opened loads := by
  unfold connect at h
  cases hc : config.validate with
  | error e =>
    rw [hc] at h
    cases (Dialogue.trace_done_iff.mp h).2
  | ok u =>
    rw [hc] at h
    obtain ⟨outcome, first, rest, rfl, hload, hrest⟩ := Dialogue.trace_bind_iff.mp h
    cases outcome with
    | error fault => cases (Dialogue.trace_done_iff.mp hrest).2
    | ok shelf =>
      obtain ⟨rfl, hs⟩ := Dialogue.trace_done_iff.mp hrest
      cases hs
      rw [List.append_nil]
      exact ⟨rfl, Script.loadOrder, by decide, hload⟩

/-- An open session knows every script by the one text that answered its loading. -/
theorem Opened.exists_digest {s : Session} {loads : List Exchange} (h : s.Opened loads)
    (script : Script) : ∃ digest, s.shelf.digest? script = some digest ∧
      (∃ reply, ⟨.loadScript script, reply⟩ ∈ loads) ∧
        ∀ reply, ⟨.loadScript script, reply⟩ ∈ loads → reply.toText = .ok digest := by
  obtain ⟨-, order, hperm, hload⟩ := h
  have hnodup : order.Nodup := hperm.nodup_iff.mpr (by decide)
  have hscript : script ∈ order := hperm.mem_iff.mpr (by cases script <;> decide)
  have hsent : Command.loadScript script ∈ loads.map (·.command) := by
    rw [Shelf.commands_of_load hload]
    exact List.mem_map_of_mem hscript
  obtain ⟨⟨command, reply⟩, hmem, rfl⟩ := List.mem_map.mp hsent
  obtain ⟨digest, -, hdigest⟩ := Shelf.digest?_of_load hnodup hload hmem
  refine ⟨digest, hdigest, ⟨reply, hmem⟩, ?_⟩
  intro reply' hmem'
  obtain ⟨digest', htext, hdigest'⟩ := Shelf.digest?_of_load hnodup hload hmem'
  rw [hdigest, Option.some.injEq] at hdigest'
  rw [htext, hdigest']

end Session

end TaskQueue
