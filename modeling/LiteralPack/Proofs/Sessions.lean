import Mathlib.Logic.Function.Basic
import LiteralPack.Proofs.Runs

/-!
Sessions: runs under any number of guards on one disk, between which the disk may change. A guard
lets only its first run begin, however that ends, so the later ones can be left out of a session.
-/

namespace LiteralPack

/-- What happens in a session: a run is asked for under a guard, or something else changes the
disk, as `Disk.remove` does. -/
inductive Event (Name : Type)
  | run (guard : Name) (options : Options)
  | change (f : Disk → Disk)

/-- Guards under their names, all of which work on one disk. -/
structure Session (Name : Type) where
  guards : Name → Guard := fun _ => {}
  disk : Disk

/-- What a run answers. -/
abbrev Answer := Except RunError Outcome

namespace Session

variable {Name : Type} [DecidableEq Name]

/-- Only a run has an answer. -/
def step (s : Session Name) : Event Name → Option Answer × Session Name
  | .change f => (none, { s with disk := f s.disk })
  | .run name options =>
    let ran := ((s.guards name).run options : StateM Disk _).run s.disk
    (some ran.1.1, ⟨Function.update s.guards name ran.1.2, ran.2⟩)

def after (s : Session Name) (events : List (Event Name)) : Session Name :=
  events.foldl (fun s e => (s.step e).2) s

/-- The events of a session with their answers. -/
def record (s : Session Name) : List (Event Name) → List (Event Name × Option Answer)
  | [] => []
  | e :: events => (e, (s.step e).1) :: (s.step e).2.record events

/-- Whether a run was asked for under a guard. -/
def Called (name : Name) (events : List (Event Name)) : Prop :=
  ∃ options, Event.run name options ∈ events

/-- Leaves out the runs under guards that were called before, which those of `called` were. -/
def firstCalls (called : List Name) : List (Event Name) → List (Event Name)
  | [] => []
  | .change f :: events => .change f :: firstCalls called events
  | .run name options :: events =>
    if name ∈ called then firstCalls called events
    else .run name options :: firstCalls (name :: called) events

variable {s : Session Name} {name : Name} {called : List Name}

/-! ### One event -/

theorem step_run_of_used (h : (s.guards name).hasRun = true) (options : Options) :
    s.step (.run name options) = (some (.ok .skipped), s) := by
  rw [step, Guard.run_skips h]
  simp only [Function.update_eq_self]

theorem step_run_of_fresh (h : (s.guards name).hasRun = false) (options : Options) :
    s.step (.run name options) =
      (some ((s.disk.perform options.run).1.map .completed),
        ⟨Function.update s.guards name ⟨true⟩, (s.disk.perform options.run).2⟩) := by
  rw [step, Guard.run_of_fresh h]

/-- A guard is used from the run that it is called for. -/
theorem hasRun_step (s : Session Name) (e : Event Name) (name : Name) :
    ((s.step e).2.guards name).hasRun = true ↔
      (s.guards name).hasRun = true ∨ ∃ options, e = .run name options := by
  cases e with
  | change f => simp [step]
  | run other options =>
      cases hother : (s.guards other).hasRun with
      | true =>
          rw [step_run_of_used hother]
          constructor
          · exact .inl
          · rintro (h | ⟨_, h⟩)
            · exact h
            · cases h
              exact hother
      | false =>
          rw [step_run_of_fresh hother]
          by_cases hname : name = other
          · subst hname
            simp
          · simp [Function.update_of_ne hname, Ne.symm hname]

/-! ### Whole sessions -/

theorem hasRun_after (s : Session Name) (events : List (Event Name)) (name : Name) :
    ((s.after events).guards name).hasRun = true ↔
      (s.guards name).hasRun = true ∨ Called name events := by
  induction events generalizing s with
  | nil => simp [after, Called]
  | cons e events ih =>
      have hcalled : Called name (e :: events) ↔
          (∃ options, e = .run name options) ∨ Called name events := by
        simp only [Called, List.mem_cons, exists_or, eq_comm]
      rw [after, List.foldl_cons]
      exact (ih (s.step e).2).trans (by rw [hasRun_step, hcalled, or_assoc])

/-- Runs under guards that are used already make no difference to anything else. -/
theorem record_firstCalls (hcalled : ∀ name, name ∈ called ↔ (s.guards name).hasRun = true)
    (events : List (Event Name)) :
    s.after (firstCalls called events) = s.after events ∧
      s.record (firstCalls called events) =
        (s.record events).filter (·.2 ≠ some (.ok .skipped)) := by
  induction events generalizing s called with
  | nil => exact ⟨rfl, rfl⟩
  | cons e events ih =>
      cases e with
      | change f =>
          obtain ⟨hafter, hrecord⟩ := ih (s := (s.step (.change f)).2) hcalled
          refine ⟨hafter, ?_⟩
          rw [firstCalls, record, record, hrecord, List.filter_cons_of_pos (by simp [step])]
      | run name options =>
          by_cases hname : name ∈ called
          · have hstep := step_run_of_used ((hcalled name).1 hname) options
            obtain ⟨hafter, hrecord⟩ := ih hcalled
            rw [firstCalls, if_pos hname, hafter, hrecord, record, hstep,
              List.filter_cons_of_neg (by simp), after, after, List.foldl_cons, hstep]
            exact ⟨rfl, rfl⟩
          · have hfresh : (s.guards name).hasRun = false :=
              Bool.eq_false_iff.2 (mt (hcalled name).2 hname)
            have hcalled' : ∀ other, other ∈ name :: called ↔
                ((s.step (.run name options)).2.guards other).hasRun = true := by
              intro other
              rw [hasRun_step, ← hcalled, List.mem_cons]
              simp only [Event.run.injEq, exists_and_left, exists_eq', and_true]
              rw [or_comm, eq_comm]
            have hanswer : (s.step (.run name options)).1 ≠ some (.ok .skipped) := by
              rw [step_run_of_fresh hfresh]
              exact fun h => map_completed_ne_skipped (Option.some_inj.1 h)
            obtain ⟨hafter, hrecord⟩ := ih hcalled'
            rw [firstCalls, if_neg hname, record, record, hrecord,
              List.filter_cons_of_pos (by simpa using hanswer)]
            exact ⟨hafter, rfl⟩

/-- A guard lets only its first run begin. A later one is skipped, does nothing on any store and
leaves the session as it is; the first one is a run on the disk as it is then. A guard is used
exactly from its first run on, however that ends, and without the later runs all other answers,
the guards and the disk are the same. -/
theorem runs_once (d : Disk) (events : List (Event Name)) :
    let s : Session Name := { disk := d }
    let t := s.after events
    (∀ name options, Called name events →
      t.step (.run name options) = (some (.ok .skipped), t) ∧
        ∀ {m : Type → Type} [Monad m] [FileStore m],
          ((t.guards name).run options : m _) = pure (.ok .skipped, t.guards name)) ∧
    (∀ name options, ¬ Called name events →
      (t.step (.run name options)).1 = some ((t.disk.perform options.run).1.map .completed) ∧
        (t.step (.run name options)).1 ≠ some (.ok .skipped) ∧
        (t.step (.run name options)).2.disk = (t.disk.perform options.run).2) ∧
    (∀ name, (t.guards name).hasRun = true ↔ Called name events) ∧
    (∀ name more, (t.guards name).hasRun = true → ((t.after more).guards name).hasRun = true) ∧
    s.after (firstCalls [] events) = t ∧
    s.record (firstCalls [] events) = (s.record events).filter (·.2 ≠ some (.ok .skipped)) := by
  intro s t
  have hused : ∀ name, (t.guards name).hasRun = true ↔ Called name events := by
    intro name
    rw [hasRun_after]
    simp [s]
  refine ⟨?later, ?first, hused, ?stays, ?without⟩
  case later =>
    intro name options hcalled
    have hguard := (hused name).2 hcalled
    exact ⟨step_run_of_used hguard options, Guard.run_of_used hguard options⟩
  case first =>
    intro name options hcalled
    have hguard : (t.guards name).hasRun = false := Bool.eq_false_iff.2 (mt (hused name).1 hcalled)
    rw [step_run_of_fresh hguard]
    exact ⟨rfl, fun h => map_completed_ne_skipped (Option.some_inj.1 h), rfl⟩
  case stays =>
    intro name more hguard
    exact (hasRun_after t more name).2 (.inl hguard)
  case without =>
    have hnone : ∀ name, name ∈ ([] : List Name) ↔ (s.guards name).hasRun = true := by simp [s]
    exact record_firstCalls hnone events

/-- The manifest is written too late for the first run. -/
def lateEvents : List (Event Nat) := [.run 0 noteOptions, .change fun _ => noteDisk]

theorem runs_once_late :
    let s : Session Nat := { disk := {} }
    let t := s.after lateEvents
    (s.step (.run 0 noteOptions)).1 =
        some (.error (.readManifest noteOptions.manifest StoreFault.notFound.message)) ∧
      Called 0 lateEvents ∧ t.step (.run 0 noteOptions) = (some (.ok .skipped), t) ∧
      ¬ Called 1 lateEvents ∧
      (t.step (.run 1 noteOptions)).1 = some (.ok (.completed noteReport)) ∧
      (t.guards 0).hasRun = true ∧
      ((t.after [.run 0 noteOptions]).guards 0).hasRun = true ∧
      s.after (firstCalls [] (lateEvents ++ [.run 0 noteOptions])) =
        s.after (lateEvents ++ [.run 0 noteOptions]) := by
  have hcalled : Called 0 lateEvents := ⟨noteOptions, List.mem_cons_self⟩
  have hnew : ¬ Called 1 lateEvents := by
    rintro ⟨options, h⟩
    simp [lateEvents] at h
  obtain ⟨hlater, hfirst, hused, hstays, -, -⟩ := runs_once {} lateEvents
  obtain ⟨-, -, -, -, hwithout, -⟩ := runs_once {} (lateEvents ++ [.run 0 noteOptions])
  obtain ⟨hanswer, -, -⟩ := hfirst 1 noteOptions hnew
  have hguard := (hused 0).2 hcalled
  refine ⟨by decide +kernel, hcalled, (hlater 0 noteOptions hcalled).1, hnew, ?_, hguard,
    hstays 0 [.run 0 noteOptions] hguard, hwithout⟩
  have hdisk : (Session.after { disk := {} } lateEvents).disk = noteDisk := rfl
  rw [hanswer, hdisk, perform_run_notes]
  rfl

end Session

end LiteralPack
