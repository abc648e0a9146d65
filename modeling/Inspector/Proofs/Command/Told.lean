import Inspector.Proofs.Command.Runs
import Inspector.Proofs.Generation.Routine

/-!
# What jobs tell

A property of events that a script reports is a property of the script, whatever it finds
among the files (`Script.Tells`). So it is seen at once that no job tells anything graver than
a warning, and that delivering source is all routine.

What is left are the reports of the request: of an accepted target its notices, and of a
refused one its refusal.
-/

namespace Inspector.Command

open Diagnostics Files

/-! ## Events of scripts -/

namespace Script

variable {α β : Type} {p : Event → Prop}

/-- Every event that a script may report has a property. -/
def Tells (p : Event → Prop) : Script α → Prop
  | done _ => True
  | giveUp _ => True
  | print _ rest => rest.Tells p
  | report events rest => (∀ e ∈ events, p e) ∧ rest.Tells p
  | read _ next => ∀ content, (next content).Tells p
  | ask _ next => ∀ answer, (next answer).Tells p
  | change _ next => ∀ result, (next result).Tells p

theorem Tells.run {s : Script α} (h : s.Tells p) (t : FileTree) :
    ∀ e ∈ (s.run t).events, p e := by
  induction s generalizing t with
  | done a => exact List.forall_mem_nil _
  | giveUp complaint => exact List.forall_mem_nil _
  | print text rest ih => exact ih h t
  | report events rest ih => exact List.forall_mem_append.mpr ⟨h.1, ih h.2 t⟩
  | read path next ih => exact ih _ (h _) t
  | ask question next ih => exact ih _ (h _) t
  | change c next ih =>
    rw [Script.run]
    split
    · exact ih _ (h _) _
    · exact ih _ (h _) t

theorem Tells.bind {s : Script α} {next : α → Script β} (h : s.Tells p)
    (rest : ∀ a, (next a).Tells p) : (s >>= next).Tells p := by
  change (s.andThen next).Tells p
  induction s with
  | done a => exact rest a
  | giveUp complaint => trivial
  | print text s ih => exact ih h
  | report events s ih => exact ⟨h.1, ih h.2⟩
  | read path follow ih => exact fun content => ih content (h content)
  | ask question follow ih => exact fun answer => ih answer (h answer)
  | change c follow ih => exact fun result => ih result (h result)

theorem Tells.mono {q : Event → Prop} (weaker : ∀ e, p e → q e) {s : Script α} (h : s.Tells p) :
    s.Tells q := by
  induction s with
  | done a => trivial
  | giveUp complaint => trivial
  | print text s ih => exact ih h
  | report events s ih => exact ⟨fun e mem => weaker e (h.1 e mem), ih h.2⟩
  | read path follow ih => exact fun content => ih content (h content)
  | ask question follow ih => exact fun answer => ih answer (h answer)
  | change c follow ih => exact fun result => ih result (h result)

theorem tells_say {e : Event} (h : p e) : (say e).Tells p :=
  ⟨List.forall_mem_singleton.mpr h, trivial⟩

theorem tells_orGiveUp {ε : Type} (complain : ε → Complaint) (result : Except ε α) :
    (orGiveUp complain result).Tells p := by
  cases result <;> trivial

end Script

/-! ## Saving -/

section Saving

variable {p : Event → Prop}

theorem tells_load (path : String) : (load path).Tells p := by
  intro content
  cases content with
  | error fault => trivial
  | ok content =>
    dsimp only
    split
    · trivial
    · exact Script.tells_orGiveUp _ _

theorem tells_makeDirectories (paths : List String) : (makeDirectories paths).Tells p := by
  induction paths with
  | nil => trivial
  | cons path above ih =>
    have settles (result : Except FileFault Unit) :
        (makeDirectories.settle path result).Tells p := by
      cases result with
      | ok => trivial
      | error fault => exact fun _ => trivial
    intro result
    beta_reduce
    split
    · trivial
    · refine ih.bind fun made => ?_
      split
      · trivial
      · exact settles
    · exact settles _

theorem tells_prepare (path : String) : (prepare path).Tells p := by
  unfold prepare
  split
  · trivial
  · exact (tells_makeDirectories _).bind fun _ => Script.tells_orGiveUp _ _

/-- While source is saved, nothing is told but of a file that gives way. -/
theorem tells_save (stale : ∀ path, p (staleEvent path)) (source : Source) :
    (save source).Tells p := by
  refine .bind ?_ fun _ => (tells_prepare _).bind fun _ _ => Script.tells_orGiveUp _ _
  intro there
  cases there with
  | false => trivial
  | true =>
    exact (Script.tells_say (stale _)).bind fun _ _ => Script.tells_orGiveUp _ _

theorem tells_deliver (stale : ∀ path, p (staleEvent path)) (toOutput : Bool) (source : Source) :
    (deliver toOutput source).Tells p := by
  cases toOutput with
  | true => trivial
  | false => exact (tells_save stale source).bind fun _ => trivial

end Saving

theorem routine_staleEvent (path : String) : (staleEvent path).Routine :=
  Event.routine_of (by decide) (by decide)

/-! ## Requests -/

theorem routine_startEvent (t : Target) : (startEvent t).Routine :=
  Event.routine_of (by decide) (by decide)

theorem routine_reminderEvent (t : Target) (source : Source) : (reminderEvent t source).Routine :=
  Event.routine_of (by decide) (by decide)

theorem tells_remind (t : Target) (source : Source) : (remind t source).Tells Event.Routine := by
  unfold remind
  split
  · trivial
  · exact Script.tells_say (routine_reminderEvent t source)

section Filter

variable {p : Event → Bool} {t : Target}

/-- While an accepted target is generated, its notices are told. -/
theorem filter_requestEvents_of_accept (telling : Telling p) (h : t.Acceptable)
    (destination : Destination) :
    (requestEvents t destination).filter p = t.unsupported.map noticeEvent := by
  rw [requestEvents, List.filter_cons_of_neg (telling.routine _ (routine_startEvent t)),
    events_generateEditor_of_accept telling h]

/-- While a target is refused, its refusal is told. -/
theorem filter_requestEvents_of_refuse (telling : Telling p) {refusal : Refusal}
    (refuse : Target.accept (some t) = .error refusal) (destination : Destination) :
    (requestEvents t destination).filter p = [Generation.refusalEvent refusal].filter p := by
  rw [requestEvents, List.filter_cons_of_neg (telling.routine _ (routine_startEvent t)),
    generateEditor_of_refuse refuse, events_refusedReports telling]

/-- Nothing is told of what is routine. -/
theorem filter_routine (telling : Telling p) {events : List Event}
    (h : ∀ e ∈ events, e.Routine) : events.filter p = [] :=
  List.filter_eq_nil_iff.mpr fun e mem => telling.routine e (h e mem)

theorem filter_reminderEvents (telling : Telling p) (source : Source) :
    (reminderEvents t source).filter p = [] := by
  refine filter_routine telling fun e mem => ?_
  unfold reminderEvents at mem
  split at mem
  · cases mem
  · exact List.eq_of_mem_singleton mem ▸ routine_reminderEvent t source

end Filter

end Inspector.Command
