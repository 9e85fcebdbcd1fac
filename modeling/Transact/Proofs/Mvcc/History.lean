/-
# Histories of runs

A history lists the steps that a run performed, each with its answer and with
the buffer that its transaction had before. Steps that name no open transaction
are not performed and leave no trace. What a run has to answer for is read off
its history: who began and with which version, who committed which writes and
in which order, who finished, and who read what outside its own buffer.

A beginning divides a history in two: what happened before it, and what has
happened since. The part before a beginning never changes.
-/

import Transact.Mvcc.Run

namespace Transact.Mvcc

/-- A performed step, with its answer and the buffer that its transaction had before it. -/
structure Event where
  step : Run.Step
  answer : Except Error Run.Answer
  buffer : Writes

/-- What happened in a run, in the order in which it happened. -/
abbrev History := List Event

namespace Run

/-- The transaction that a step belongs to; a beginning belongs to none. -/
def Step.actor? : Step → Option Nat
  | .begin => none
  | .get number _ | .scanPrefix number _ | .set number _ _ | .delete number _
  | .checkpoint number | .restore number _ | .commit number | .rollback number
  | .drop number => some number

/-- What a step adds to the history. -/
def event? (run : Run) (step : Step) : Option Event :=
  match step.actor? with
  | none => some ⟨step, (run.step step).1, .empty⟩
  | some number =>
    (run.transactions.get? number).map fun txn => ⟨step, (run.step step).1, txn.writes⟩

/-- The run that a script of steps leads to. -/
def after (run : Run) (script : List Step) : Run := (run.steps script).2

/-- What happens while a script of steps is performed. -/
def history (run : Run) : List Step → History
  | [] => []
  | step :: rest => (run.event? step).toList ++ (run.step step).2.history rest

/-- The run that a script leads to from an empty store. -/
def reached (script : List Step) : Run := initial.after script

/-- What happens while a script is performed from an empty store. -/
def past (script : List Step) : History := initial.history script

/-- The counter of versions does not overflow: it names one more than the last version given, and
beyond 64 bits there is none to give. -/
def CounterFits (script : List Step) : Prop := script.count .begin + 1 < UInt64.size

instance (script : List Step) : Decidable (CounterFits script) :=
  inferInstanceAs (Decidable (script.count .begin + 1 < UInt64.size))

/-- The value that a step sets. -/
def Step.value? : Step → Option Bytes
  | .set _ _ value => some value
  | _ => none

/-- Every value that is set has a length of 64 bits, as every byte string in memory has. -/
def ValuesFit (script : List Step) : Prop :=
  ∀ value ∈ script.filterMap Step.value?, value.length < UInt64.size

instance (script : List Step) : Decidable (ValuesFit script) :=
  inferInstanceAs (Decidable (∀ value ∈ script.filterMap Step.value?, value.length < UInt64.size))

end Run

/-- The version of the transaction with a number: versions are given from 1. -/
def versionOf (number : Nat) : UInt64 := UInt64.ofNat (number + 1)

namespace Event

/-- The transaction that began, with its version. -/
def beginning? (event : Event) : Option (Nat × UInt64) :=
  match event.step, event.answer with
  | .begin, .ok (.begun number version) => some (number, version)
  | _, _ => none

/-- Whether it is a transaction with this number that began. -/
def begins (event : Event) (number : Nat) : Bool :=
  event.beginning?.map Prod.fst == some number

/-- The transaction whose commit went through, with the writes that it applied. -/
def commit? (event : Event) : Option (Nat × Writes) :=
  match event.step, event.answer with
  | .commit number, .ok _ => some (number, event.buffer)
  | _, _ => none

/-- The transaction that committed, successfully or not, or rolled back. -/
def finish? (event : Event) : Option Nat :=
  match event.step with
  | .commit number | .rollback number => some number
  | _ => none

/-- The transaction that got a key which its buffer did not hold, with the key. -/
def read? (event : Event) : Option (Nat × Bytes) :=
  match event.step with
  | .get number key => if event.buffer.contains key then none else some (number, key)
  | _ => none

/-- The transaction that scanned a prefix, with the prefix. -/
def scan? (event : Event) : Option (Nat × Bytes) :=
  match event.step with
  | .scanPrefix number start => some (number, start)
  | _ => none

theorem beginning?_of_actor? {event : Event} {number : Nat}
    (h : event.step.actor? = some number) : event.beginning? = none := by
  unfold beginning?
  split
  · rename_i hstep _
    simp [Run.Step.actor?, hstep] at h
  · rfl

theorem finish?_of_commit? {event : Event} {commit : Nat × Writes}
    (h : event.commit? = some commit) : event.finish? = some commit.1 := by
  unfold commit? at h
  split at h
  · rename_i hstep _
    cases h
    simp [finish?, hstep]
  · cases h

theorem commit?_of_finish? {event : Event} (h : event.finish? = none) : event.commit? = none := by
  cases hcommit : event.commit? with
  | none => rfl
  | some commit => simp [finish?_of_commit? hcommit] at h

theorem actor?_of_finish? {event : Event} {number : Nat} (h : event.finish? = some number) :
    event.step.actor? = some number := by
  unfold finish? at h
  split at h <;> simp_all [Run.Step.actor?]

theorem commit?_eq_some_iff {event : Event} {commit : Nat × Writes} :
    event.commit? = some commit ↔
      event.step = .commit commit.1 ∧ (∃ answer, event.answer = .ok answer) ∧
        event.buffer = commit.2 := by
  obtain ⟨step, answer, buffer⟩ := event
  obtain ⟨number, writes⟩ := commit
  cases step <;> cases answer <;> simp [commit?]

theorem actor?_of_read? {event : Event} {read : Nat × Bytes} (h : event.read? = some read) :
    event.step.actor? = some read.1 := by
  unfold read? at h
  split at h
  · rename_i hstep
    split at h <;> cases h
    simp [Run.Step.actor?, hstep]
  · cases h

theorem actor?_of_scan? {event : Event} {scan : Nat × Bytes} (h : event.scan? = some scan) :
    event.step.actor? = some scan.1 := by
  unfold scan? at h
  split at h <;> cases h
  rename_i hstep
  simp [Run.Step.actor?, hstep]

end Event

namespace History

/-- The transactions that began, with their versions. -/
def beginnings (past : History) : List (Nat × UInt64) := past.filterMap Event.beginning?

/-- The transactions whose commit went through, with what they wrote, in this order. -/
def commits (past : History) : List (Nat × Writes) := past.filterMap Event.commit?

/-- The transactions that finished a commit or rolled back. -/
def finished (past : History) : List Nat := past.filterMap Event.finish?

/-- Who got which key outside its own buffer. -/
def reads (past : History) : List (Nat × Bytes) := past.filterMap Event.read?

/-- Who scanned which prefix. -/
def scans (past : History) : List (Nat × Bytes) := past.filterMap Event.scan?

/-- A transaction that has begun and not finished: its marker is in the store. -/
def Active (past : History) (number : Nat) : Prop :=
  number ∈ past.beginnings.map Prod.fst ∧ number ∉ past.finished

/-- What happened before a transaction began. -/
def before (past : History) (number : Nat) : History :=
  past.takeWhile fun event => !event.begins number

/-- What has happened since a transaction began. -/
def since (past : History) (number : Nat) : History :=
  past.dropWhile fun event => !event.begins number

/-- The value that the last commit of a write to a key left there, if there is one. -/
def value (past : History) (key : Bytes) : Option Bytes :=
  (past.commits.filterMap fun commit => commit.2.get? key).getLast?.join

/-- What a transaction with a buffer finds under a key: its own write, or else what the last commit
before its beginning left there. -/
def found (past : History) (number : Nat) (writes : Writes) (key : Bytes) : Option Bytes :=
  (writes.get? key).getD ((past.before number).value key)

/-- A transaction got a key outside its buffer, or it scanned a prefix that the key begins with. -/
def DependsOn (past : History) (number : Nat) (key : Bytes) : Prop :=
  (number, key) ∈ past.reads ∨ ∃ start, (number, start) ∈ past.scans ∧ start <+: key

/-- Somebody else's commit since a transaction began wrote a key that the transaction depends on
or is about to write. -/
def Conflict (past : History) (number : Nat) (writes : Writes) : Prop :=
  ∃ commit ∈ (past.since number).commits, commit.1 ≠ number ∧
    ∃ key, commit.2.contains key = true ∧
      (past.DependsOn number key ∨ writes.contains key = true)

/-! ## Longer histories -/

variable {past : History} {number : Nat}

@[simp] theorem beginnings_append (past more : History) :
    beginnings (past ++ more) = past.beginnings ++ more.beginnings := List.filterMap_append

@[simp] theorem commits_append (past more : History) :
    commits (past ++ more) = past.commits ++ more.commits := List.filterMap_append

@[simp] theorem finished_append (past more : History) :
    finished (past ++ more) = past.finished ++ more.finished := List.filterMap_append

@[simp] theorem reads_append (past more : History) :
    reads (past ++ more) = past.reads ++ more.reads := List.filterMap_append

@[simp] theorem scans_append (past more : History) :
    scans (past ++ more) = past.scans ++ more.scans := List.filterMap_append

@[simp] theorem beginnings_singleton (event : Event) :
    beginnings [event] = event.beginning?.toList := by
  cases h : event.beginning? <;> simp [beginnings, h]

@[simp] theorem commits_singleton (event : Event) : commits [event] = event.commit?.toList := by
  cases h : event.commit? <;> simp [commits, h]

@[simp] theorem finished_singleton (event : Event) : finished [event] = event.finish?.toList := by
  cases h : event.finish? <;> simp [finished, h]

@[simp] theorem reads_singleton (event : Event) : reads [event] = event.read?.toList := by
  cases h : event.read? <;> simp [reads, h]

@[simp] theorem scans_singleton (event : Event) : scans [event] = event.scan?.toList := by
  cases h : event.scan? <;> simp [scans, h]

theorem mem_beginnings_iff :
    number ∈ past.beginnings.map Prod.fst ↔ ∃ event ∈ past, event.begins number = true := by
  simp only [beginnings, List.map_filterMap, List.mem_filterMap, Event.begins, beq_iff_eq]

theorem active_concat_iff {event : Event} :
    Active (past ++ [event]) number ↔
      (number ∈ past.beginnings.map Prod.fst ∨ event.begins number = true) ∧
        number ∉ past.finished ∧ event.finish? ≠ some number := by
  rw [Active, mem_beginnings_iff, mem_beginnings_iff, finished_append, finished_singleton]
  simp only [List.mem_append, List.mem_singleton, Option.mem_toList, not_or, or_and_right,
    exists_or, exists_eq_left]

theorem mem_commits_concat_iff {event : Event} {commit : Nat × Writes} :
    commit ∈ commits (past ++ [event]) ↔ commit ∈ past.commits ∨ event.commit? = some commit := by
  rw [commits_append, commits_singleton, List.mem_append, Option.mem_toList]

theorem dependsOn_concat_iff {event : Event} {key : Bytes} :
    DependsOn (past ++ [event]) number key ↔
      past.DependsOn number key ∨ event.read? = some (number, key) ∨
        ∃ start, event.scan? = some (number, start) ∧ start <+: key := by
  simp only [DependsOn, reads_append, reads_singleton, scans_append, scans_singleton,
    List.mem_append, Option.mem_toList]
  grind

/-- Only its own steps add to what a transaction depends on. -/
theorem dependsOn_concat_iff_of_ne {event : Event} (h : event.step.actor? ≠ some number)
    {key : Bytes} : DependsOn (past ++ [event]) number key ↔ past.DependsOn number key := by
  rw [dependsOn_concat_iff]
  refine ⟨fun hdepends => ?_, .inl⟩
  rcases hdepends with hdepends | hread | ⟨start, hscan, _⟩
  · exact hdepends
  · exact absurd (Event.actor?_of_read? hread) h
  · exact absurd (Event.actor?_of_scan? hscan) h

theorem finished_of_mem_commits {commit : Nat × Writes} (h : commit ∈ past.commits) :
    commit.1 ∈ past.finished := by
  obtain ⟨event, hevent, hcommit⟩ := List.mem_filterMap.mp h
  exact List.mem_filterMap.mpr ⟨event, hevent, Event.finish?_of_commit? hcommit⟩

/-! ## Before and after a beginning -/

/-- A beginning divides the commits into those before it and those since. -/
theorem commits_eq_before_append_since (past : History) (number : Nat) :
    past.commits = (past.before number).commits ++ (past.since number).commits := by
  rw [← commits_append, before, since, List.takeWhile_append_dropWhile]

theorem mem_commits_of_mem_since {commit : Nat × Writes}
    (h : commit ∈ (past.since number).commits) : commit ∈ past.commits := by
  rw [commits_eq_before_append_since past number]
  exact List.mem_append_right _ h

/-- What happened before a beginning is settled once the transaction has begun. -/
theorem before_append (h : number ∈ past.beginnings.map Prod.fst) (more : History) :
    before (past ++ more) number = past.before number := by
  rw [mem_beginnings_iff] at h
  induction past with
  | nil => simp at h
  | cons event past ih =>
      by_cases hevent : event.begins number = true
      · simp [before, hevent]
      · have ih := ih (by simpa [hevent] using h)
        simpa [before, List.takeWhile_cons, hevent] using ih

/-- What happens later is added to what has happened since a beginning. -/
theorem since_append (h : number ∈ past.beginnings.map Prod.fst) (more : History) :
    since (past ++ more) number = past.since number ++ more := by
  rw [mem_beginnings_iff] at h
  induction past with
  | nil => simp at h
  | cons event past ih =>
      by_cases hevent : event.begins number = true
      · simp [since, hevent]
      · have ih := ih (by simpa [hevent] using h)
        simpa [since, List.dropWhile_cons, hevent] using ih

/-- Everything that has happened comes before a beginning that follows now. -/
theorem before_concat (h : number ∉ past.beginnings.map Prod.fst) {event : Event}
    (hevent : event.begins number = true) : before (past ++ [event]) number = past := by
  rw [mem_beginnings_iff] at h
  have hall : ∀ other ∈ past, (!other.begins number) = true := by
    intro other hother
    simpa using fun hbegins => h ⟨other, hother, hbegins⟩
  rw [before, List.takeWhile_append_of_pos hall]
  simp [hevent]

theorem since_concat (h : number ∉ past.beginnings.map Prod.fst) {event : Event}
    (hevent : event.begins number = true) : since (past ++ [event]) number = [event] := by
  rw [mem_beginnings_iff] at h
  have hall : ∀ other ∈ past, (!other.begins number) = true := by
    intro other hother
    simpa using fun hbegins => h ⟨other, hother, hbegins⟩
  rw [since, List.dropWhile_append_of_pos hall]
  simp [hevent]

end History

namespace Run

/-! ## Longer scripts -/

theorem after_append (run : Run) (script more : List Step) :
    run.after (script ++ more) = (run.after script).after more := by
  induction script generalizing run with
  | nil => rfl
  | cons step script ih => exact ih (run.step step).2

theorem history_append (run : Run) (script more : List Step) :
    run.history (script ++ more) = run.history script ++ (run.after script).history more := by
  induction script generalizing run with
  | nil => rfl
  | cons step script ih =>
      rw [List.cons_append, history, history, ih, List.append_assoc]
      rfl

theorem reached_append (script more : List Step) :
    reached (script ++ more) = (reached script).after more :=
  after_append initial script more

theorem past_append (script more : List Step) :
    past (script ++ more) = past script ++ (reached script).history more :=
  history_append initial script more

end Run

end Transact.Mvcc
