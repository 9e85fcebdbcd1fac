/-
# Traces of interactions

The trace of an interaction lists the calls that it makes, each with the state
that the call found; what the call answered and left behind follows from the
two. A property of states and of the calls before them is kept along a whole
trace when every single call keeps it. Facts about handlers and about clients
are proved this way, from one fact about each of their calls.
-/

import Transact.Interaction

namespace Transact.Interaction

variable {Call : Type} {Answer : Call → Type} {α σ : Type}

/-- The calls of an interaction in order, each with the state that it found. -/
def trace (perform : (request : Call) → σ → Answer request × σ) :
    Interaction Call Answer α → σ → List (σ × Call)
  | .done _, _ => []
  | .call request next, state =>
    (state, request) :: (next (perform request state).1).trace perform (perform request state).2

/-- A single call finds the state that it is made in. -/
theorem mem_trace_ask (perform : (request : Call) → σ → Answer request × σ) (request : Call)
    (state : σ) : (state, request) ∈ (ask request).trace perform state :=
  List.mem_cons_self

theorem All.of_forall {kind : Call → Prop} (hkind : ∀ request, kind request)
    (client : Interaction Call Answer α) : client.All kind := by
  induction client with
  | done result => trivial
  | call request next ih => exact ⟨hkind request, ih⟩

theorem All.bind {β : Type} {kind : Call → Prop} {first : Interaction Call Answer α}
    {next : α → Interaction Call Answer β} (hfirst : first.All kind)
    (hnext : ∀ result, (next result).All kind) : (first.bind next).All kind := by
  induction first with
  | done result => exact hnext result
  | call request rest ih => exact ⟨hfirst.1, fun answer => ih answer (hfirst.2 answer)⟩

variable {perform : (request : Call) → σ → Answer request × σ} {kind : Call → Prop}

/-- What holds at first and is kept by every call holds of the whole trace and the last state. -/
theorem run_induction {motive : List (σ × Call) → σ → Prop} {client : Interaction Call Answer α}
    {state : σ} (hclient : client.All kind) (hinitial : motive [] state)
    (hstep : ∀ past found request, kind request → motive past found →
      motive (past ++ [(found, request)]) (perform request found).2) :
    motive (client.trace perform state) (client.run perform state).2 := by
  induction client generalizing motive state with
  | done result => exact hinitial
  | call request next ih =>
      apply @ih _ (fun past => motive ((state, request) :: past)) _ (hclient.2 _)
      · exact hstep [] state request hclient.1 hinitial
      · intro past found later
        exact hstep ((state, request) :: past) found later

/-- What holds at first and is kept by every call holds where any call is made, of the calls
before it. -/
theorem trace_induction {motive : List (σ × Call) → σ → Prop} {client : Interaction Call Answer α}
    {state found : σ} {front back : List (σ × Call)} {request : Call}
    (htrace : client.trace perform state = front ++ (found, request) :: back)
    (hclient : client.All kind) (hinitial : motive [] state)
    (hstep : ∀ past found request, kind request → motive past found →
      motive (past ++ [(found, request)]) (perform request found).2) :
    motive front found ∧ kind request := by
  induction client generalizing motive state front with
  | done result => simp [trace] at htrace
  | call first next ih =>
      cases front with
      | nil =>
          cases htrace
          exact ⟨hinitial, hclient.1⟩
      | cons event front =>
          obtain ⟨rfl, htail⟩ := List.cons.inj htrace
          apply @ih _ (fun past => motive ((state, first) :: past)) _ _ htail (hclient.2 _)
          · exact hstep [] state first hclient.1 hinitial
          · intro past found later
            exact hstep ((state, first) :: past) found later

/-- What holds at first and is kept by every call that is made holds in the end, of all calls. -/
theorem trace_run_induction {motive : List (σ × Call) → σ → Prop}
    {client : Interaction Call Answer α} {state : σ} (hinitial : motive [] state)
    (hstep : ∀ past found request rest,
      client.trace perform state = past ++ (found, request) :: rest → motive past found →
        motive (past ++ [(found, request)]) (perform request found).2) :
    motive (client.trace perform state) (client.run perform state).2 := by
  induction client generalizing motive state with
  | done result => exact hinitial
  | call request next ih =>
      apply @ih _ (fun past => motive ((state, request) :: past)) _
      · exact hstep [] state request _ rfl hinitial
      · intro past found later rest htrace
        exact hstep ((state, request) :: past) found later rest
          (congrArg (List.cons (state, request)) htrace)

/-- Every call that is made is of the kind of all that can be made. -/
theorem All.of_mem_trace {client : Interaction Call Answer α} (hclient : client.All kind)
    {state found : σ} {request : Call} (hcall : (found, request) ∈ client.trace perform state) :
    kind request := by
  obtain ⟨front, back, htrace⟩ := List.append_of_mem hcall
  exact (trace_induction (motive := fun _ _ => True) htrace hclient trivial
    fun _ _ _ _ _ => trivial).2

theorem trace_bind {β : Type} (first : Interaction Call Answer α)
    (next : α → Interaction Call Answer β) (state : σ) :
    (first.bind next).trace perform state =
      first.trace perform state ++
        (next (first.run perform state).1).trace perform (first.run perform state).2 := by
  induction first generalizing state with
  | done result => rfl
  | call request rest ih => exact congrArg (List.cons (state, request)) (ih _ _)

/-! ## The states of a run -/

/-- The states of a run in order: those that its calls find, and the one that is left. -/
def states (perform : (request : Call) → σ → Answer request × σ) :
    Interaction Call Answer α → σ → List σ
  | .done _, state => [state]
  | .call request next, state =>
    state :: (next (perform request state).1).states perform (perform request state).2

/-- A state that a call finds is one of the run. -/
theorem mem_states_of_mem_trace {client : Interaction Call Answer α} {state found : σ}
    {request : Call} (hcall : (found, request) ∈ client.trace perform state) :
    found ∈ client.states perform state := by
  induction client generalizing state with
  | done result => cases hcall
  | call first next ih =>
      rcases List.mem_cons.mp hcall with hfirst | hlater
      · obtain ⟨rfl, -⟩ := Prod.mk.inj hfirst
        exact List.mem_cons_self
      · exact List.mem_cons_of_mem _ (ih _ hlater)

/-- The state that a run leaves is one of its states. -/
theorem run_mem_states (client : Interaction Call Answer α) (state : σ) :
    (client.run perform state).2 ∈ client.states perform state := by
  induction client generalizing state with
  | done result => exact List.mem_singleton_self state
  | call request next ih => exact List.mem_cons_of_mem _ (ih _ _)

/-- What holds at first and is kept by every call holds of every state of a run, and of the
calls that have led to it. -/
theorem states_induction {motive : List (σ × Call) → σ → Prop} {client : Interaction Call Answer α}
    {state found : σ} (hfound : found ∈ client.states perform state) (hclient : client.All kind)
    (hinitial : motive [] state)
    (hstep : ∀ past found request, kind request → motive past found →
      motive (past ++ [(found, request)]) (perform request found).2) :
    ∃ past rest, client.trace perform state = past ++ rest ∧ motive past found := by
  induction client generalizing motive state with
  | done result =>
      obtain rfl := List.mem_singleton.mp hfound
      exact ⟨[], [], rfl, hinitial⟩
  | call request next ih =>
      rcases List.mem_cons.mp hfound with rfl | hlater
      · exact ⟨[], _, rfl, hinitial⟩
      · obtain ⟨past, rest, htrace, hpast⟩ :=
          @ih _ (fun past => motive ((state, request) :: past)) _ hlater (hclient.2 _)
            (hstep [] state request hclient.1 hinitial)
            fun past found later => hstep ((state, request) :: past) found later
        exact ⟨(state, request) :: past, rest, congrArg (List.cons (state, request)) htrace, hpast⟩

/-- A transitive relation between each state and the one that the next call leaves is one between
any two states of a run. -/
theorem pairwise_states {related : σ → σ → Prop} {good : σ → Prop}
    (htrans : ∀ first second third, related first second → related second third →
      related first third)
    (hstep : ∀ found request, kind request → good found →
      good (perform request found).2 ∧ related found (perform request found).2)
    {client : Interaction Call Answer α} {state : σ} (hclient : client.All kind)
    (hinitial : good state) : (client.states perform state).Pairwise related := by
  induction client generalizing state with
  | done result => exact List.pairwise_singleton _ _
  | call request next ih =>
      obtain ⟨hgood, hrelated⟩ := hstep state request hclient.1 hinitial
      have hrest := ih (perform request state).1 (hclient.2 _) hgood
      refine List.pairwise_cons.mpr ⟨fun later hlater => ?_, hrest⟩
      -- The next state comes first among the later ones.
      cases hnext : next (perform request state).1 with
      | done result =>
          rw [hnext] at hlater
          obtain rfl := List.mem_singleton.mp hlater
          exact hrelated
      | call following rest =>
          rw [hnext] at hlater hrest
          rcases List.mem_cons.mp hlater with rfl | hlater
          · exact hrelated
          · exact htrans _ _ _ hrelated ((List.pairwise_cons.mp hrest).1 later hlater)

/-! ## Scripts -/

/-- The interaction that makes given calls, whatever they are answered. -/
def ofList : List Call → Interaction Call Answer Unit
  | [] => .done ()
  | request :: rest => .call request fun _ => ofList rest

theorem all_ofList {requests : List Call} (h : ∀ request ∈ requests, kind request) :
    (ofList requests : Interaction Call Answer Unit).All kind := by
  induction requests with
  | nil => trivial
  | cons request rest ih =>
      exact ⟨h request List.mem_cons_self,
        fun _ => ih fun other hother => h other (List.mem_cons_of_mem _ hother)⟩

/-- A call of a script finds the state that those before it leave. -/
theorem trace_ofList_append (front : List Call) (request : Call) (back : List Call) (state : σ) :
    (ofList (front ++ request :: back)).trace perform state =
      (ofList front).trace perform state ++
        (((ofList front).run perform state).2, request) ::
          (ofList back).trace perform (perform request ((ofList front).run perform state).2).2 := by
  induction front generalizing state with
  | nil => rfl
  | cons first front ih => exact congrArg (List.cons (state, first)) (ih _)

end Transact.Interaction
