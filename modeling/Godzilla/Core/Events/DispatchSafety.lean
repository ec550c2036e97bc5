import Godzilla.Core.Events.Dispatch
import Mathlib.Data.List.Nodup

/-!
# Safety of interleaved journals

What one step of an instance preserves about its own history, the frame for the
other instances, and from them what holds in every reachable system: dispatch
after commit, at most one dispatch per event id, a latch that never opens, and
at most one committed event whose dispatch did not finish.
-/

namespace Godzilla.Events
open Godzilla Misc

variable {Event State Id ι : Type}

/-- The calls an instance committed, in order. -/
def committedCalls (history : List (Obs Event State)) : List (PublishCall Event State) :=
  history.filterMap fun o => match o with
    | .committed call => some call
    | _ => none

/-- The calls whose `emit` returned normally. -/
def finishedCalls (history : List (Obs Event State)) : List (PublishCall Event State) :=
  history.filterMap fun o => match o with
    | .emitReturned call => some call
    | _ => none

section

variable [DecidableEq Event] [DecidableEq State]

/-- The committed calls with a callback whose `emit` has not returned normally. -/
def unfinished (history : List (Obs Event State)) : List (PublishCall Event State) :=
  (committedCalls history).filter fun call =>
    call.emits && decide (call ∉ finishedCalls history)

end

section History

variable {history : List (Obs Event State)} {call : PublishCall Event State}
  {o : Obs Event State}

theorem mem_committedCalls : call ∈ committedCalls history ↔ .committed call ∈ history := by
  simp only [committedCalls, List.mem_filterMap]
  constructor
  · rintro ⟨o, ho, hc⟩
    cases o <;> simp at hc
    exact hc ▸ ho
  · intro h
    exact ⟨_, h, rfl⟩

theorem mem_finishedCalls : call ∈ finishedCalls history ↔ .emitReturned call ∈ history := by
  simp only [finishedCalls, List.mem_filterMap]
  constructor
  · rintro ⟨o, ho, hc⟩
    cases o <;> simp at hc
    exact hc ▸ ho
  · intro h
    exact ⟨_, h, rfl⟩

@[simp] theorem committedCalls_concat_committed :
    committedCalls (history ++ [.committed call]) = committedCalls history ++ [call] := by
  simp [committedCalls]

theorem committedCalls_concat (h : ∀ call, o ≠ .committed call) :
    committedCalls (history ++ [o]) = committedCalls history := by
  cases o <;> simp_all [committedCalls]

theorem finishedCalls_concat (h : ∀ call, o ≠ .emitReturned call) :
    finishedCalls (history ++ [o]) = finishedCalls history := by
  cases o <;> simp_all [finishedCalls]

/-- Neither a commit nor the end of a dispatch. -/
def Obs.Quiet (o : Obs Event State) : Prop :=
  (∀ call, o ≠ .committed call) ∧ ∀ call, o ≠ .emitReturned call

variable [DecidableEq Event] [DecidableEq State]

theorem unfinished_concat (h : o.Quiet) : unfinished (history ++ [o]) = unfinished history := by
  rw [unfinished, committedCalls_concat h.1, finishedCalls_concat h.2, unfinished]

theorem unfinished_concat_committed (h : .emitReturned call ∉ history) :
    unfinished (history ++ [.committed call]) =
      unfinished history ++ if call.emits then [call] else [] := by
  have hfinished : call ∉ finishedCalls history := fun hm => h (mem_finishedCalls.mp hm)
  rw [unfinished, committedCalls_concat_committed, finishedCalls_concat (by simp), unfinished,
    List.filter_append]
  cases hemits : call.emits <;> simp [hemits, hfinished]

theorem unfinished_concat_emitReturned :
    unfinished (history ++ [.emitReturned call]) = (unfinished history).filter (· ≠ call) := by
  have hfinished : finishedCalls (history ++ [.emitReturned call]) =
      finishedCalls history ++ [call] := by simp [finishedCalls]
  rw [unfinished, committedCalls_concat (by simp), hfinished, unfinished, List.filter_filter]
  apply List.filter_congr
  intro other _
  by_cases h : other = call
  · subst h; simp
  · simp [h]

end History

section Local

variable [DecidableEq Event] [DecidableEq State]

/-- The one committed call that is not finished, which is the newest. -/
def Hanging (history : List (Obs Event State)) (call : PublishCall Event State) : Prop :=
  unfinished history = [call] ∧ (committedCalls history).getLast? = some call

/-- What the phase of an instance says about its history. -/
def PhaseInv (history : List (Obs Event State)) (blocked : Bool) : Phase Event State → Prop
  | .idle => blocked = false → unfinished history = []
  | .appending _ | .saving => blocked = false ∧ unfinished history = []
  | .appended call outcome =>
    blocked = false ∧
      if outcome.commits then
        .committed call ∈ history ∧ .emitCalled call ∉ history ∧
          if call.emits then Hanging history call else unfinished history = []
      else unfinished history = []
  | .emitting call => blocked = false ∧ Hanging history call

/-- What holds between the log, an instance and its history. -/
structure Instance.Inv (log : List Event) (instance' : Instance Event State)
    (history : List (Obs Event State)) : Prop where
  logged : ∀ call, .committed call ∈ history → call.event ∈ log
  finished : ∀ call, .emitReturned call ∈ history → .committed call ∈ history
  emitted : ∀ call, .emitCalled call ∈ history → .committed call ∈ history
  dispatched : ∀ before call after, history = before ++ .emitCalled call :: after →
    .committed call ∈ before
  latched : ∀ e, .raised e ∈ history → instance'.journal.blocked = true
  silent : ∀ before e after, history = before ++ .raised e :: after →
    ∀ o ∈ after, ∃ e', o = .raised e'
  hanging : unfinished history = [] ∨ ∃ call, Hanging history call
  phase : PhaseInv history instance'.journal.blocked instance'.phase

theorem inv_fresh (log : List Event) : Instance.Inv log ({} : Instance Event State) [] := by
  refine ⟨?_, ?_, ?_, ?_, ?_, ?_, Or.inl rfl, fun _ => rfl⟩ <;> simp

/-- Steps of other instances only extend the log. -/
theorem Instance.Inv.mono {log log' : List Event} {inst : Instance Event State}
    {history : List (Obs Event State)} (h : Instance.Inv log inst history) (hsub : log ⊆ log') :
    Instance.Inv log' inst history :=
  { h with logged := fun call hc => hsub (h.logged call hc) }

/-- What the observation of a step keeps, given what it says about the new instance. -/
theorem Instance.Inv.concat {log log' : List Event} {inst inst' : Instance Event State}
    {history : List (Obs Event State)} {o : Obs Event State} (h : Instance.Inv log inst history)
    (hsub : log ⊆ log')
    (hlogged : ∀ call, o = .committed call → call.event ∈ log')
    (hfinished : ∀ call, o = .emitReturned call → .committed call ∈ history)
    (hemitted : ∀ call, o = .emitCalled call → .committed call ∈ history)
    (hblocked : inst.journal.blocked = true → inst'.journal.blocked = true ∧ ∃ e, o = .raised e)
    (hraised : ∀ e, o = .raised e → inst'.journal.blocked = true)
    (hhanging : unfinished (history ++ [o]) = [] ∨ ∃ call, Hanging (history ++ [o]) call)
    (hphase : PhaseInv (history ++ [o]) inst'.journal.blocked inst'.phase) :
    Instance.Inv log' inst' (history ++ [o]) where
  logged call hc := by
    rcases List.mem_append.mp hc with hc | hc
    · exact hsub (h.logged call hc)
    · exact hlogged call (List.mem_singleton.mp hc).symm
  finished call hc := by
    rcases List.mem_append.mp hc with hc | hc
    · exact List.mem_append_left _ (h.finished call hc)
    · exact List.mem_append_left _ (hfinished call (List.mem_singleton.mp hc).symm)
  emitted call hc := by
    rcases List.mem_append.mp hc with hc | hc
    · exact List.mem_append_left _ (h.emitted call hc)
    · exact List.mem_append_left _ (hemitted call (List.mem_singleton.mp hc).symm)
  dispatched before call after hsplit := by
    rcases concat_split hsplit with ⟨-, rfl, ho⟩ | ⟨after', -, hsplit'⟩
    · exact hemitted call ho.symm
    · exact h.dispatched before call after' hsplit'
  latched e he := by
    rcases List.mem_append.mp he with he | he
    · exact (hblocked (h.latched e he)).1
    · exact hraised e (List.mem_singleton.mp he).symm
  silent before e after hsplit := by
    rcases concat_split hsplit with ⟨rfl, -, -⟩ | ⟨after', rfl, hsplit'⟩
    · simp
    · -- the call raised earlier, so the instance was latched and this step raises too
      intro x hx
      rcases List.mem_append.mp hx with hx | hx
      · exact h.silent before e after' hsplit' x hx
      · obtain rfl := List.mem_singleton.mp hx
        exact (hblocked (h.latched e (by rw [hsplit']; simp))).2
  hanging := hhanging
  phase := hphase

theorem Hanging.concat {history : List (Obs Event State)} {call : PublishCall Event State}
    {o : Obs Event State} (h : Hanging history call) (ho : o.Quiet) :
    Hanging (history ++ [o]) call :=
  ⟨(unfinished_concat ho).trans h.1, by rw [committedCalls_concat ho.1]; exact h.2⟩

theorem hanging_concat {history : List (Obs Event State)} {o : Obs Event State} (ho : o.Quiet)
    (h : unfinished history = [] ∨ ∃ call, Hanging history call) :
    unfinished (history ++ [o]) = [] ∨ ∃ call, Hanging (history ++ [o]) call := by
  rcases h with h | ⟨call, h⟩
  · exact Or.inl ((unfinished_concat ho).trans h)
  · exact Or.inr ⟨call, h.concat ho⟩

omit [DecidableEq Event] [DecidableEq State] in
theorem quiet_ended {α : Type} (result : Except PyError α) :
    (Obs.ended Event State result).Quiet := by
  cases result <;> simp [Obs.ended, Obs.Quiet]

theorem Hanging.committed {history : List (Obs Event State)} {call : PublishCall Event State}
    (h : Hanging history call) : .committed call ∈ history :=
  mem_committedCalls.mp (List.mem_of_getLast? h.2)

variable {ident : Event → Id} {log log' : List Event} {inst inst' : Instance Event State}
  {history : List (Obs Event State)} {o : Obs Event State}

/-- A call that may be committed was neither committed nor dispatched before. -/
theorem Instance.Inv.fresh {call : PublishCall Event State} (h : Instance.Inv log inst history)
    (hfresh : ∀ e ∈ log, ident e ≠ ident call.event) :
    .committed call ∉ history ∧ .emitCalled call ∉ history ∧ .emitReturned call ∉ history := by
  have hnot : .committed call ∉ history := fun hc => hfresh _ (h.logged call hc) rfl
  exact ⟨hnot, fun he => hnot (h.emitted call he), fun he => hnot (h.finished call he)⟩

section Cases

variable {journal journal' : EventJournal} {call : PublishCall Event State}

/-- A call that raises leaves the instance latched. -/
theorem Instance.Inv.raise (h : Instance.Inv log inst history) (e : PyError)
    (hblocked : journal'.blocked = true) :
    Instance.Inv log ⟨journal', .idle⟩ (history ++ [.raised e]) := by
  have hq : (Obs.raised e : Obs Event State).Quiet := by simp [Obs.Quiet]
  refine h.concat (List.Subset.refl _) (by simp) (by simp) (by simp)
    (fun _ => ⟨hblocked, e, rfl⟩) (fun _ _ => hblocked) (hanging_concat hq h.hanging) ?_
  intro hfalse
  rw [hblocked] at hfalse
  cases hfalse

/-- A step that commits, dispatches and raises nothing while nothing is unfinished. -/
theorem Instance.Inv.pass (h : Instance.Inv log inst history)
    (hopen : inst.journal.blocked = false) (hnone : unfinished history = []) (hq : o.Quiet)
    (hemit : ∀ call, o ≠ .emitCalled call) (hraise : ∀ e, o ≠ .raised e)
    (hphase : unfinished (history ++ [o]) = [] →
      PhaseInv (history ++ [o]) inst'.journal.blocked inst'.phase) :
    Instance.Inv log inst' (history ++ [o]) := by
  have hnone' := (unfinished_concat hq).trans hnone
  exact h.concat (List.Subset.refl _) (fun call ho => absurd ho (hq.1 call))
    (fun call ho => absurd ho (hq.2 call)) (fun call ho => absurd ho (hemit call))
    (by simp [hopen]) (fun e ho => absurd ho (hraise e)) (Or.inl hnone') (hphase hnone')

theorem Instance.Inv.commit {outcome : AppendOutcome}
    (h : Instance.Inv log (⟨journal, .appending call⟩ : Instance Event State) history)
    (hcommits : outcome.commits = true) (hfresh : ∀ e ∈ log, ident e ≠ ident call.event) :
    Instance.Inv (log ++ [call.event]) ⟨journal, .appended call outcome⟩
      (history ++ [.committed call]) := by
  obtain ⟨(hb : journal.blocked = false), hnone⟩ := h.phase
  obtain ⟨-, hnotEmitted, hnotReturned⟩ := h.fresh hfresh
  have hunfinished : unfinished (history ++ [.committed call]) =
      unfinished history ++ if call.emits then [call] else [] :=
    unfinished_concat_committed hnotReturned
  rw [hnone, List.nil_append] at hunfinished
  have hlast : (committedCalls (history ++ [.committed call])).getLast? = some call := by simp
  refine h.concat (List.subset_append_left _ _) ?_ (by simp) (by simp) (by simp [hb]) (by simp)
    ?_ ⟨hb, ?_⟩
  · rintro other ⟨⟩
    simp
  · cases hemits : call.emits with
    | true => exact Or.inr ⟨call, by rw [hunfinished, hemits]; rfl, hlast⟩
    | false => exact Or.inl (by rw [hunfinished, hemits]; rfl)
  · rw [if_pos hcommits]
    refine ⟨by simp, by simpa using hnotEmitted, ?_⟩
    cases hemits : call.emits with
    | true => exact ⟨by rw [hunfinished, hemits]; rfl, hlast⟩
    | false => exact by rw [if_neg (by simp), hunfinished, hemits]; rfl

theorem Instance.Inv.stop {outcome : AppendOutcome} {result : Except PyError Bool}
    (h : Instance.Inv log (⟨journal, .appended call outcome⟩ : Instance Event State) history)
    (hnext : journal.afterAppend outcome.answer call.emits = (journal', .stop result)) :
    Instance.Inv log ⟨journal', .idle⟩ (history ++ [.ended _ _ result]) := by
  obtain ⟨(hb : journal.blocked = false), hcase⟩ := h.phase
  rcases EventJournal.afterAppend_stop hnext with
    ⟨failure, message, -, rfl, hb'⟩ | ⟨accepted, hanswer, rfl, hno, hb'⟩
  · -- the append failed: the instance latches, whatever was committed
    exact h.raise _ hb'
  · have hnone : unfinished history = [] := by
      cases outcome <;> simp_all [AppendOutcome.answer, AppendOutcome.commits]
    exact h.pass hb hnone (quiet_ended _) (by simp [Obs.ended]) (by simp [Obs.ended])
      fun hnone' _ => hnone'

theorem Instance.Inv.dispatch {outcome : AppendOutcome}
    (h : Instance.Inv log (⟨journal, .appended call outcome⟩ : Instance Event State) history)
    (hnext : journal.afterAppend outcome.answer call.emits = (journal', .dispatch)) :
    Instance.Inv log ⟨journal', .emitting call⟩ (history ++ [.emitCalled call]) := by
  obtain ⟨(hb : journal.blocked = false), hcase⟩ := h.phase
  obtain ⟨hanswer, hemits, hb'⟩ := EventJournal.afterAppend_dispatch hnext
  rw [if_pos (AppendOutcome.commits_of_answer hanswer), if_pos hemits] at hcase
  obtain ⟨hcommitted, -, hhanging⟩ := hcase
  have hq : (Obs.emitCalled call).Quiet := by simp [Obs.Quiet]
  refine h.concat (List.Subset.refl _) (by simp) (by simp) ?_ (by simp [hb]) (by simp)
    (hanging_concat hq h.hanging) ⟨hb'.trans hb, hhanging.concat hq⟩
  rintro other ⟨⟩
  exact hcommitted

theorem Instance.Inv.emitReturned
    (h : Instance.Inv log (⟨journal, .emitting call⟩ : Instance Event State) history) :
    Instance.Inv log ⟨(journal.afterEmit (.ok ())).1, .idle⟩
      (history ++ [.emitReturned call]) := by
  obtain ⟨(hb : journal.blocked = false), hhanging⟩ := h.phase
  have hnone : unfinished (history ++ [.emitReturned call]) = [] := by
    rw [unfinished_concat_emitReturned, hhanging.1]
    simp
  refine h.concat (List.Subset.refl _) (by simp) ?_ (by simp) (by simp [hb]) (by simp)
    (Or.inl hnone) fun _ => hnone
  rintro other ⟨⟩
  exact hhanging.committed

end Cases

/-- One step of an instance keeps its invariant. -/
theorem Instance.Inv.step (h : Instance.Inv log inst history)
    (hstep : Instance.Step ident log inst o log' inst') :
    Instance.Inv log' inst' (history ++ [o]) := by
  have hphase := h.phase
  cases hstep with
  | @refuse journal e hguard =>
    refine h.raise e ?_
    cases hj : journal.blocked with
    | true => rfl
    | false => rw [EventJournal.guard_eq_ok.mpr hj] at hguard; cases hguard
  | publish call hguard =>
    have hb := EventJournal.guard_eq_ok.mp hguard
    exact h.pass hb (hphase hb) (by simp [Obs.Quiet]) (by simp) (by simp) fun hnone => ⟨hb, hnone⟩
  | commit outcome hcommits hfresh => exact h.commit hcommits hfresh
  | @decline journal call outcome hcommits =>
    obtain ⟨(hb : journal.blocked = false), hnone⟩ := hphase
    refine h.pass hb hnone (by simp [Obs.Quiet]) (by simp) (by simp) fun hnone' => ⟨hb, ?_⟩
    rw [if_neg (by simp [hcommits])]
    exact hnone'
  | stop hnext => exact h.stop hnext
  | dispatch hnext => exact h.dispatch hnext
  | emitReturned => exact h.emitReturned
  | emitRaised failure hend =>
    obtain ⟨rfl, -⟩ := Prod.mk.inj hend
    exact h.raise _ rfl
  | save hguard =>
    have hb := EventJournal.guard_eq_ok.mp hguard
    exact h.pass hb (hphase hb) (by simp [Obs.Quiet]) (by simp) (by simp) fun hnone => ⟨hb, hnone⟩
  | @saved journal answer =>
    obtain ⟨(hb : journal.blocked = false), hnone⟩ := hphase
    cases answer with
    | error failure => exact h.raise _ rfl
    | ok u =>
      exact h.pass hb hnone (quiet_ended _) (by simp [EventJournal.afterSave, Obs.ended])
        (by simp [EventJournal.afterSave, Obs.ended]) fun hnone' _ => hnone'

/-- A dispatched call was not dispatched before. -/
theorem Instance.Inv.dispatch_fresh (h : Instance.Inv log inst history)
    {call : PublishCall Event State}
    (hstep : Instance.Step ident log inst (.emitCalled call) log' inst') :
    .committed call ∈ history ∧ .emitCalled call ∉ history := by
  have hphase := h.phase
  generalize ho : (Obs.emitCalled call : Obs Event State) = o at hstep
  cases hstep with
  | dispatch hnext =>
    obtain ⟨hanswer, -, -⟩ := EventJournal.afterAppend_dispatch hnext
    obtain ⟨-, hcase⟩ := hphase
    rw [if_pos (AppendOutcome.commits_of_answer hanswer)] at hcase
    cases ho
    exact ⟨hcase.1, hcase.2.1⟩
  | stop => rename_i result _; cases result <;> cases ho
  | saved answer => cases answer <;> cases ho
  | _ => cases ho

end Local

theorem Instance.Step.log_subset {ident : Event → Id} {log log' : List Event}
    {inst inst' : Instance Event State} {o : Obs Event State}
    (h : Instance.Step ident log inst o log' inst') : log ⊆ log' := by
  cases h <;> simp

theorem Instance.Step.commit_fresh {ident : Event → Id} {log log' : List Event}
    {inst inst' : Instance Event State} {call : PublishCall Event State}
    (h : Instance.Step ident log inst (.committed call) log' inst') :
    ∀ e ∈ log, ident e ≠ ident call.event := by
  generalize ho : (Obs.committed call : Obs Event State) = o at h
  cases h with
  | commit outcome hcommits hfresh => cases ho; exact hfresh
  | stop => rename_i result _; cases result <;> cases ho
  | saved answer => cases answer <;> cases ho
  | _ => cases ho

section Global

variable [DecidableEq ι]

/-- The observations of instance `i`. -/
def historyOf (trace : List (ι × Obs Event State)) (i : ι) : List (Obs Event State) :=
  trace.filterMap fun p => if p.1 = i then some p.2 else none

/-- The commits of all instances. -/
def commits (trace : List (ι × Obs Event State)) : List (ι × PublishCall Event State) :=
  trace.filterMap fun p => match p.2 with
    | .committed call => some (p.1, call)
    | _ => none

/-- The dispatches of all instances. -/
def dispatches (trace : List (ι × Obs Event State)) : List (ι × PublishCall Event State) :=
  trace.filterMap fun p => match p.2 with
    | .emitCalled call => some (p.1, call)
    | _ => none

variable {trace before after : List (ι × Obs Event State)} {i j : ι} {o : Obs Event State}
  {call : PublishCall Event State}

theorem mem_historyOf : o ∈ historyOf trace i ↔ (i, o) ∈ trace := by
  simp only [historyOf, List.mem_filterMap]
  constructor
  · rintro ⟨⟨k, x⟩, hm, hx⟩
    by_cases hk : k = i
    · subst hk
      simp only [if_true, Option.some.injEq] at hx
      exact hx ▸ hm
    · simp [hk] at hx
  · intro h
    exact ⟨(i, o), h, by simp⟩

theorem historyOf_concat : historyOf (trace ++ [(i, o)]) j =
    if i = j then historyOf trace j ++ [o] else historyOf trace j := by
  by_cases h : i = j <;> simp [historyOf, List.filterMap_append, h]

theorem historyOf_split : historyOf (before ++ (i, o) :: after) i =
    historyOf before i ++ o :: historyOf after i := by
  simp [historyOf, List.filterMap_append]

omit [DecidableEq ι] in
theorem mem_commits : (i, call) ∈ commits trace ↔ (i, .committed call) ∈ trace := by
  simp only [commits, List.mem_filterMap]
  constructor
  · rintro ⟨⟨k, x⟩, hm, hx⟩
    cases x <;> simp at hx
    obtain ⟨rfl, rfl⟩ := hx
    exact hm
  · intro h
    exact ⟨_, h, rfl⟩

omit [DecidableEq ι] in
theorem mem_dispatches : (i, call) ∈ dispatches trace ↔ (i, .emitCalled call) ∈ trace := by
  simp only [dispatches, List.mem_filterMap]
  constructor
  · rintro ⟨⟨k, x⟩, hm, hx⟩
    cases x <;> simp at hx
    obtain ⟨rfl, rfl⟩ := hx
    exact hm
  · intro h
    exact ⟨_, h, rfl⟩

omit [DecidableEq ι] in
/-- A list of tagged calls stays free of repeated ids when a fresh id is added. -/
theorem nodup_concat_ident {calls : List (ι × PublishCall Event State)} {ident : Event → Id}
    (h : (calls.map fun p => ident p.2.event).Nodup)
    (hfresh : ∀ p ∈ calls, ident p.2.event ≠ ident call.event) :
    ((calls ++ [(i, call)]).map fun p => ident p.2.event).Nodup := by
  rw [List.map_append, List.nodup_append]
  refine ⟨h, List.nodup_singleton _, ?_⟩
  intro x hx y hy
  obtain ⟨p, hp, rfl⟩ := List.mem_map.mp hx
  obtain rfl := List.mem_singleton.mp hy
  exact hfresh p hp

variable [DecidableEq Event] [DecidableEq State]

/-- What holds of a reachable system. -/
structure System.Inv (ident : Event → Id) (s : System ι Event State) : Prop where
  instances : ∀ i, Instance.Inv s.log (s.instances i) (historyOf s.trace i)
  commits_nodup : ((commits s.trace).map fun p => ident p.2.event).Nodup
  dispatches_nodup : ((dispatches s.trace).map fun p => ident p.2.event).Nodup

variable {ident : Event → Id} {s s' : System ι Event State}

theorem System.Inv.logged (h : s.Inv ident) (hc : (i, .committed call) ∈ s.trace) :
    call.event ∈ s.log :=
  (h.instances i).logged call (mem_historyOf.mpr hc)

theorem inv_start (h : s.Start) : s.Inv ident := by
  obtain ⟨htrace, hfresh⟩ := h
  constructor
  · intro i
    rw [htrace, hfresh i]
    exact inv_fresh s.log
  · simp [htrace, commits]
  · simp [htrace, dispatches]

/-- An id about to be dispatched was not dispatched by any instance. -/
theorem System.Inv.dispatch_fresh (h : s.Inv ident) {log' : List Event}
    {inst' : Instance Event State}
    (hstep : Instance.Step ident s.log (s.instances i) (.emitCalled call) log' inst') :
    ∀ p ∈ dispatches s.trace, ident p.2.event ≠ ident call.event := by
  rintro ⟨j, other⟩ hp hsame
  obtain ⟨hcommitted, hnot⟩ := (h.instances i).dispatch_fresh hstep
  have hother : (j, other) ∈ commits s.trace :=
    mem_commits.mpr (mem_historyOf.mp
      ((h.instances j).emitted other (mem_historyOf.mpr (mem_dispatches.mp hp))))
  have hcall : (i, call) ∈ commits s.trace := mem_commits.mpr (mem_historyOf.mp hcommitted)
  obtain ⟨rfl, rfl⟩ := Prod.mk.inj (List.inj_on_of_nodup_map h.commits_nodup hother hcall hsame)
  exact hnot (mem_historyOf.mpr (mem_dispatches.mp hp))

/-- Every step keeps the invariant: the stepping instance by its own step lemma, the
    others by their frame. -/
theorem System.Inv.step (h : s.Inv ident) (hstep : System.Step ident s s') : s'.Inv ident := by
  cases hstep with
  | @step i seen log' inst' hi =>
    constructor
    · intro k
      show Instance.Inv log' (Function.update s.instances i inst' k)
        (historyOf (s.trace ++ [(i, seen)]) k)
      by_cases hk : k = i
      · subst hk
        rw [Function.update_self, historyOf_concat, if_pos rfl]
        exact (h.instances k).step hi
      · rw [Function.update_of_ne hk, historyOf_concat, if_neg (Ne.symm hk)]
        exact (h.instances k).mono hi.log_subset
    · cases seen with
      | committed call =>
        have hcommits : commits (s.trace ++ [(i, .committed call)]) =
            commits s.trace ++ [(i, call)] := by simp [commits]
        rw [hcommits]
        apply nodup_concat_ident h.commits_nodup
        rintro ⟨j, other⟩ hp
        exact hi.commit_fresh _ (h.logged (mem_commits.mp hp))
      | _ => simpa [commits] using h.commits_nodup
    · cases seen with
      | emitCalled call =>
        have hdispatches : dispatches (s.trace ++ [(i, .emitCalled call)]) =
            dispatches s.trace ++ [(i, call)] := by simp [dispatches]
        rw [hdispatches]
        exact nodup_concat_ident h.dispatches_nodup (h.dispatch_fresh hi)
      | _ => simpa [dispatches] using h.dispatches_nodup

/-- Interleaved journals over one repository, from any reachable system: an event is
    dispatched only once it is in the log, committed by the dispatching instance; no id is
    dispatched twice; an instance that raised only ever raises again and stays
    unhealthy; and an instance has at most one committed event with a callback whose
    dispatch did not finish, the newest it committed. -/
theorem journal_safety (ident : Event → Id) {s : System ι Event State}
    (h : Reachable System.Start (System.Step ident) s) :
    ((∀ s' i call, System.Step ident s s' → s'.trace = s.trace ++ [(i, .emitCalled call)] →
        call.event ∈ s.log) ∧
      ∀ before i call after, s.trace = before ++ (i, .emitCalled call) :: after →
        (i, .committed call) ∈ before ∧ call.event ∈ s.log) ∧
    ((dispatches s.trace).map fun p => ident p.2.event).Nodup ∧
    (∀ before i e after, s.trace = before ++ (i, .raised e) :: after →
      (∀ o, (i, o) ∈ after → ∃ e', o = .raised e') ∧
        ∀ now, ((s.instances i).journal.health now).status = .unhealthy) ∧
    ∀ i, unfinished (historyOf s.trace i) = [] ∨
      ∃ call, unfinished (historyOf s.trace i) = [call] ∧
        (committedCalls (historyOf s.trace i)).getLast? = some call := by
  have hinv : s.Inv ident := h.invariant (fun _ => inv_start) fun _ _ => System.Inv.step
  refine ⟨⟨?_, ?_⟩, hinv.dispatches_nodup, ?_, fun i => (hinv.instances i).hanging⟩
  · intro s' i call hstep htrace
    cases hstep with
    | @step k seen log' inst' hi =>
      obtain ⟨rfl, rfl⟩ := Prod.mk.inj (List.singleton_inj.mp (List.append_cancel_left htrace))
      exact (hinv.instances k).logged call ((hinv.instances k).dispatch_fresh hi).1
  · intro before i call after htrace
    have hsplit := congrArg (historyOf · i) htrace
    simp only [historyOf_split] at hsplit
    have hbefore := (hinv.instances i).dispatched _ _ _ hsplit
    refine ⟨mem_historyOf.mp hbefore, (hinv.instances i).logged call ?_⟩
    rw [hsplit]
    exact List.mem_append_left _ hbefore
  · intro before i e after htrace
    have hsplit := congrArg (historyOf · i) htrace
    simp only [historyOf_split] at hsplit
    refine ⟨fun o ho => (hinv.instances i).silent _ e _ hsplit o (mem_historyOf.mpr ho), ?_⟩
    intro now
    have hblocked := (hinv.instances i).latched e (by rw [hsplit]; simp)
    simp [EventJournal.health, hblocked]

end Global

end Godzilla.Events

namespace Godzilla.Events.Sample
open Misc

/-- A publish call with a callback. -/
def call : PublishCall Nat Unit := { event := 7, key := "event:7", emits := true }

/-- Two instances that share an empty log. -/
def start : System (Fin 2) Nat Unit := { log := [], instances := fun _ => {}, trace := [] }

/-- A callback fails after the commit: the instance is unhealthy, and the one unfinished
    call is the newest committed one. -/
theorem journal_safety_failed_callback :
    ∃ s : System (Fin 2) Nat Unit, Reachable System.Start (System.Step id) s ∧ s.log = [7] ∧
      (∀ now, ((s.instances 0).journal.health now).status = .unhealthy) ∧
      ((dispatches s.trace).map fun p => p.2.event) = [7] := by
  have hcalled : Relation.ReflTransGen (System.Step id) start _ :=
    Relation.ReflTransGen.single (.step 0 (.publish call rfl))
  have hcommitted := hcalled.tail (.step 0 (.commit .accepted rfl (by simp [start])))
  have hdispatched := hcommitted.tail (.step 0 (.dispatch rfl))
  have hraised := hdispatched.tail (.step 0 (.emitRaised (.runtimeError "consumer failed") rfl))
  have hreach : Reachable System.Start (System.Step id) _ :=
    ⟨start, ⟨rfl, fun _ => rfl⟩, hraised⟩
  obtain ⟨-, -, hlatch, -⟩ := journal_safety id hreach
  exact ⟨_, hreach, rfl, (hlatch _ 0 _ [] rfl).2, rfl⟩

end Godzilla.Events.Sample
