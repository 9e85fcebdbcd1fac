/-
# What running a transaction again comes to

`Client.runTransactionWith` makes attempts, one after the other. Each of them
finds the world that the one before has left, runs the body once in a new active
transaction, and has an outcome. All but the last lose a conflict; the last one's
outcome stands, or it is the last that the policy admits, or the context has been
cancelled. The transactions of all attempts are over in the end, and of their
writes the database has those that the last one has committed, if it has.

The proof is by induction on how many more attempts are admitted. What an attempt
has left under its number stays as it is because the number is spent. There are no
other attempts that a run could come to: each is determined by the world it finds.
-/

import Mathlib.Logic.ExistsUnique
import Transact.Proofs.Session.Attempt

namespace Transact

open World (History Tracked Spent)

namespace Client

variable {ν α : Type} {config : SessionConfig} {context : Context} {past : History}
  {world : MemoryWorld}

namespace Try

/-- The world that attempts leave, one after the other. -/
def worldAfter (world : MemoryWorld) : List (Try ν α) → MemoryWorld
  | [] => world
  | attempt :: rest => worldAfter attempt.left rest

/-- What is left of an attempt in a world: nothing but what is stored under its number. -/
structure IsOver (attempt : Try ν α) (world : MemoryWorld) (stored : Bytes → Option Bytes) :
    Prop where
  gone : world.transaction? attempt.txn = none
  unmarked : world.store.contains (Mvcc.Key.active attempt.scope.version).encode = false
  stored : ∀ key,
    world.store.get? (Mvcc.Key.version key attempt.scope.version).encode = stored key

end Try

/-- A run of attempts, from a world and after some notes: each attempt is one of the body with the
notes so far and finds what the one before has left, and every attempt but the last loses a
conflict. The answer is the last outcome, which is no conflict or belongs to the last attempt that
is admitted; or the context has been cancelled before that. In the end all attempts are over, and
nothing is stored for them but what the last one has committed. -/
structure Retried (config : SessionConfig) (context : Context)
    (body : TxnId → List ν → Client Memory (ν × Except Error α)) (limit : Nat) (notes : List ν)
    (world : MemoryWorld) (tries : List (Try ν α))
    (run : (List ν × Except Error α) × MemoryWorld) : Prop where
  notes_eq : run.1.1 = notes ++ tries.map Try.note
  world_eq : run.2 = Try.worldAfter world tries
  length_le : tries.length ≤ limit
  fits : ∀ front attempt back, tries = front ++ attempt :: back →
    attempt.Fits config context fun txn => body txn (notes ++ front.map Try.note)
  found_eq : ∀ front attempt back, tries = front ++ attempt :: back →
    attempt.found = Try.worldAfter world front
  conflict : ∀ front attempt back, tries = front ++ attempt :: back → back ≠ [] →
    attempt.outcome = .error .conflictAborted
  answer :
    (∃ attempt, tries.getLast? = some attempt ∧ run.1.2 = attempt.outcome ∧
      (attempt.outcome ≠ .error .conflictAborted ∨ tries.length = limit)) ∨
    run.1.2 = .error .cancelled ∧
      run.2.environment.signals.check context = .error .cancelled ∧ tries.length < limit ∧
      ∀ attempt ∈ tries, attempt.outcome = .error .conflictAborted
  ended : ∀ front attempt back, tries = front ++ attempt :: back →
    attempt.IsOver run.2
      (if back = [] then attempt.stored context (body attempt.txn (notes ++ front.map Try.note))
        else fun _ => none)

namespace Retried

variable {body : TxnId → List ν → Client Memory (ν × Except Error α)} {limit : Nat}
  {notes : List ν} {tries : List (Try ν α)} {run : (List ν × Except Error α) × MemoryWorld}

/-- A cancelled context admits no attempt. -/
theorem nil (hcheck : world.environment.signals.check context = .error .cancelled) :
    Retried config context body (limit + 1) notes world [] ((notes, .error .cancelled), world) := by
  refine ⟨?_, rfl, Nat.zero_le _, ?_, ?_, ?_,
    .inr ⟨rfl, hcheck, Nat.succ_pos _, List.forall_mem_nil _⟩, ?_⟩
  · exact (List.append_nil notes).symm
  all_goals
    intro front attempt back htries
    cases front <;> cases htries

/-- The only attempt, if its outcome stands or no more are admitted. -/
theorem single {attempt : Try ν α} (hfound : attempt.found = world)
    (hfits : attempt.Fits config context fun txn => body txn notes)
    (hstands : attempt.outcome ≠ .error .conflictAborted ∨ limit = 0)
    (hover : attempt.IsOver attempt.left (attempt.stored context (body attempt.txn notes))) :
    Retried config context body (limit + 1) notes world [attempt]
      ((notes ++ [attempt.note], attempt.outcome), attempt.left) := by
  have hsplit {front back : List (Try ν α)} {other : Try ν α}
      (htries : [attempt] = front ++ other :: back) : front = [] ∧ other = attempt ∧ back = [] := by
    cases front with
    | nil =>
        cases htries
        exact ⟨rfl, rfl, rfl⟩
    | cons first front => simp at htries
  refine ⟨rfl, rfl, Nat.succ_pos _, ?fits, ?found, ?conflict, .inl ⟨attempt, rfl, rfl, ?_⟩, ?ended⟩
  case fits =>
    intro front other back htries
    obtain ⟨rfl, rfl, rfl⟩ := hsplit htries
    simpa using hfits
  case found =>
    intro front other back htries
    obtain ⟨rfl, rfl, rfl⟩ := hsplit htries
    exact hfound
  case conflict =>
    intro front other back htries hback
    exact absurd (hsplit htries).2.2 hback
  case ended =>
    intro front other back htries
    obtain ⟨rfl, rfl, rfl⟩ := hsplit htries
    simpa using hover
  · rcases hstands with houtcome | rfl
    · exact .inl houtcome
    · exact .inr rfl

/-- One more attempt before others, lost to a conflict. -/
theorem cons {attempt : Try ν α}
    (hrest : Retried config context body limit (notes ++ [attempt.note]) attempt.left tries run)
    (hfound : attempt.found = world)
    (hfits : attempt.Fits config context fun txn => body txn notes)
    (hconflict : attempt.outcome = .error .conflictAborted)
    (hover : attempt.IsOver run.2 fun _ => none) :
    Retried config context body (limit + 1) notes world (attempt :: tries) run := by
  have hsplit {front back : List (Try ν α)} {other : Try ν α}
      (htries : attempt :: tries = front ++ other :: back) :
      front = [] ∧ other = attempt ∧ back = tries ∨
        ∃ rest, front = attempt :: rest ∧ tries = rest ++ other :: back := by
    cases front with
    | nil =>
        obtain ⟨rfl, rfl⟩ := List.cons.inj htries
        exact .inl ⟨rfl, rfl, rfl⟩
    | cons first front =>
        obtain ⟨hfirst, hlater⟩ := List.cons.inj htries
        exact .inr ⟨front, by rw [hfirst], hlater⟩
  refine ⟨?notes, hrest.world_eq, Nat.succ_le_succ hrest.length_le, ?fits, ?found, ?conflict,
    ?answer, ?ended⟩
  case notes => rw [hrest.notes_eq, List.append_assoc]; rfl
  case fits =>
    intro front other back htries
    rcases hsplit htries with ⟨rfl, rfl, rfl⟩ | ⟨rest, rfl, hlater⟩
    · simpa using hfits
    · simpa using hrest.fits rest other back hlater
  case found =>
    intro front other back htries
    rcases hsplit htries with ⟨rfl, rfl, rfl⟩ | ⟨rest, rfl, hlater⟩
    · exact hfound
    · exact hrest.found_eq rest other back hlater
  case conflict =>
    intro front other back htries hback
    rcases hsplit htries with ⟨rfl, rfl, rfl⟩ | ⟨rest, rfl, hlater⟩
    · exact hconflict
    · exact hrest.conflict rest other back hlater hback
  case answer =>
    rcases hrest.answer with ⟨last, hlast, hanswer, hstands⟩ | ⟨hanswer, hcheck, hlt, hall⟩
    · refine .inl ⟨last, ?_, hanswer, hstands.imp id (congrArg (· + 1))⟩
      rw [List.getLast?_cons, hlast]
      rfl
    · exact .inr ⟨hanswer, hcheck, Nat.succ_lt_succ hlt,
        List.forall_mem_cons.mpr ⟨hconflict, hall⟩⟩
  case ended =>
    intro front other back htries
    rcases hsplit htries with ⟨rfl, rfl, rfl⟩ | ⟨rest, rfl, hlater⟩
    · have hstored := hfits.stored_of_conflict hconflict
      simpa [hstored] using hover
    · simpa using hrest.ended rest other back hlater

/-- What a run comes to determines its attempts. -/
theorem unique {others : List (Try ν α)}
    (h : Retried config context body limit notes world tries run)
    (hothers : Retried config context body limit notes world others run) : tries = others := by
  have hlength : tries.length = others.length := by
    have hnotes := congrArg List.length (h.notes_eq.symm.trans hothers.notes_eq)
    simpa using hnotes
  -- By induction on what is left of the attempts behind those that are known to agree.
  have hback (front back left : List (Try ν α)) (htries : tries = front ++ back)
      (hleft : others = front ++ left) : back = left := by
    rw [htries, hleft, List.length_append, List.length_append, Nat.add_left_cancel_iff] at hlength
    induction back generalizing front left with
    | nil => exact (List.length_eq_zero_iff.mp hlength.symm).symm
    | cons attempt back ih =>
        cases left with
        | nil => cases hlength
        | cons other left =>
            obtain rfl : attempt = other := by
              apply (h.fits front attempt back htries).eq (hothers.fits front other left hleft)
              rw [h.found_eq front attempt back htries, hothers.found_eq front other left hleft]
            rw [ih (front ++ [attempt]) left (Nat.succ.inj hlength) (by simpa using htries)
              (by simpa using hleft)]
  exact hback [] tries others rfl rfl

end Retried

section Loop

variable {policy : RetryPolicy} {body : TxnId → List ν → Client Memory (ν × Except Error α)}
  {left : Nat} {notes : List ν} {last : MemoryWorld} {txn : TxnId} {note : ν}
  {outcome : Except Error α}

theorem run_attemptsFrom_refused {error : Error}
    (hrun : (attempt config context fun txn => body txn notes).run world =
      (.refused error, world)) :
    (attemptsFrom config policy context body left notes).run world =
      ((notes, .error error), world) := by
  rw [Client.run] at hrun ⊢
  cases left <;> rw [attemptsFrom, Interaction.run_bind, hrun] <;> rfl

/-- An outcome that is no conflict stands, and so does that of the last attempt. -/
theorem run_attemptsFrom_stands
    (hrun : (attempt config context fun txn => body txn notes).run world =
      (.finished txn note outcome, last))
    (hstands : outcome ≠ .error .conflictAborted ∨ left = 0) :
    (attemptsFrom config policy context body left notes).run world =
      ((notes ++ [note], outcome), (last.perform (.drop txn)).2) := by
  rw [Client.run] at hrun ⊢
  cases left with
  | zero =>
      rw [attemptsFrom, Interaction.run_bind, hrun]
      rfl
  | succ left =>
      rw [attemptsFrom, Interaction.run_bind, hrun]
      simp only
      split
      case h_1 => simp at hstands
      case h_2 => rfl

/-- After a conflict the context is checked once more, and the next attempt is made. -/
theorem run_attemptsFrom_conflict (policy : RetryPolicy) (left : Nat)
    (hrun : (attempt config context fun txn => body txn notes).run world =
      (.finished txn note (.error .conflictAborted), last)) :
    (∀ error, last.environment.signals.check context = .error error →
      (attemptsFrom config policy context body (left + 1) notes).run world =
        ((notes ++ [note], .error error), (last.perform (.drop txn)).2)) ∧
    (last.environment.signals.check context = .ok () →
      (attemptsFrom config policy context body (left + 1) notes).run world =
          (attemptsFrom config policy context body left (notes ++ [note])).run
            (last.perform (.drop txn)).2 ∧
        (attemptsFrom config policy context body (left + 1) notes).trace World.perform world =
          (attempt config context fun txn => body txn notes).trace World.perform world ++
            (last, .sleep context (policy.backoff (notes ++ [note]).length)) ::
              (last, .drop txn) ::
                (attemptsFrom config policy context body left (notes ++ [note])).trace World.perform
                  (last.perform (.drop txn)).2) := by
  simp only [Client.run] at hrun ⊢
  rw [attemptsFrom, Interaction.run_bind, Interaction.trace_bind, hrun]
  constructor
  · intro error hcheck
    have hsleep : last.perform (.sleep context (policy.backoff (notes ++ [note]).length)) =
        (.error error, last) := by rw [World.perform, hcheck]
    simp only [ask, Interaction.ask, Interaction.bind, Interaction.run, hsleep]
  · intro hcheck
    have hsleep : last.perform (.sleep context (policy.backoff (notes ++ [note]).length)) =
        (.ok (), last) := by rw [World.perform, hcheck]
    simp only [ask, Interaction.ask, Interaction.bind, Interaction.run, Interaction.trace, hsleep]
    exact ⟨trivial, trivial⟩

theorem trace_attemptsFrom (config : SessionConfig) (policy : RetryPolicy) (context : Context)
    (body : TxnId → List ν → Client Memory (ν × Except Error α)) (left : Nat) (notes : List ν)
    (world : MemoryWorld) :
    ∃ rest, (attemptsFrom config policy context body left notes).trace World.perform world =
      (attempt config context fun txn => body txn notes).trace World.perform world ++ rest := by
  cases left <;> rw [attemptsFrom, Interaction.trace_bind] <;> exact ⟨_, rfl⟩

/-- An attempt is over when its transaction has been dropped and its number is spent. -/
theorem isOver_of_spent {attempt : Try ν α} {stored : Bytes → Option Bytes}
    (htracked : Tracked past world) (hfits : past.Fits)
    (hgone : world.transaction? attempt.txn = none)
    (hspent : Spent world attempt.scope.version stored) : attempt.IsOver world stored :=
  ⟨hgone, hspent.unmarked (htracked.numbers hfits).1, hspent.stored⟩

/-- Along the rest of a run, an attempt that is over stays so. -/
theorem isOver_run {β : Type} {client : Client Memory β} {attempt : Try ν α}
    {stored : Bytes → Option Bytes} (htracked : Tracked past world)
    (hclient : client.All Request.KeepsBackend)
    (hfits : History.Fits (past ++ client.trace World.perform world))
    (hgone : world.transaction? attempt.txn = none) (hopened : attempt.txn < world.opened)
    (hspent : Spent world attempt.scope.version stored) :
    attempt.IsOver (client.run world).2 stored := by
  have hscope : world.scope? attempt.txn = none := by
    rw [World.scope?, hgone]
    rfl
  have hkept := (settled_run htracked.accounts.wellFormed hclient).kept _ hopened hscope
  rw [hgone, or_self] at hkept
  exact isOver_of_spent (tracked_run htracked hclient) hfits hkept
    (spent_run htracked hclient hfits hspent)

/-- Dropping the transaction of an attempt leaves the attempt over, and its number spent. -/
theorem drop_spent {version : UInt64} {stored : Bytes → Option Bytes}
    (htracked : Tracked past last) (hfits : past.Fits) (hopened : txn < last.opened)
    (hspent : Spent last version stored) :
    Spent (last.perform (.drop txn)).2 version stored ∧
      txn < (last.perform (.drop txn)).2.opened := by
  have hnext : History.Fits (past ++ [(last, .drop txn)]) := hfits.concat rfl
  obtain ⟨-, next, hcounts, -⟩ := htracked.counts hnext
  have heffect := World.perform_effect htracked.accounts.wellFormed (.drop txn) trivial
  exact ⟨hspent.perform heffect hcounts nofun, Nat.lt_of_lt_of_le hopened heffect.opened_le⟩

/-- An attempt that the loop has made and whose transaction is not dropped yet: it is one of the
body, it has ended in a tracked world, and its number is spent there. -/
structure Made (config : SessionConfig) (context : Context)
    (body : TxnId → Client Memory (ν × Except Error α)) (world : MemoryWorld) (tried : Try ν α)
    (past : History) : Prop where
  found : tried.found = world
  fits : tried.Fits config context body
  run : (attempt config context body).run world =
    (.finished tried.txn tried.note tried.outcome, tried.finished context)
  tracked : Tracked past (tried.finished context)
  counter : past.Fits
  opened : tried.txn < (tried.finished context).opened
  spent : Spent (tried.finished context) tried.scope.version
    (tried.stored context (body tried.txn))

/-- The first attempt of the loop is refused, and then it is the end; or it is made. -/
theorem first_attempt (htracked : Tracked past world)
    (hbody : ∀ txn notes, (body txn notes).All Request.KeepsBackend)
    (hown : ∀ txn notes, (body txn notes).LeavesCommit txn)
    (hfits : History.Fits (past ++
      (attemptsFrom config policy context body left notes).trace World.perform world)) :
    Retried config context body (left + 1) notes world []
        ((attemptsFrom config policy context body left notes).run world) ∨
      ∃ tried : Try ν α, Made config context (fun txn => body txn notes) world tried
        (past ++ (attempt config context fun txn => body txn notes).trace World.perform world) := by
  obtain ⟨rest, htrace⟩ := trace_attemptsFrom config policy context body left notes world
  rw [htrace, ← List.append_assoc] at hfits
  rcases attempt_cases htracked (fun txn => hbody txn notes) (fun txn => hown txn notes)
    hfits.of_append with
    ⟨hcheck, hrefused⟩ | ⟨tried, hfound, htried, hrun, hopened, hspent⟩
  · left
    rw [run_attemptsFrom_refused hrefused]
    exact .nil hcheck
  · have hall : (attempt config context fun txn => body txn notes).All Request.KeepsBackend :=
      all_attempt fun txn => hbody txn notes
    have hlast := tracked_run htracked hall
    rw [hrun] at hlast
    exact .inr ⟨tried, hfound, htried, hrun, hlast, hfits.of_append, hopened, hspent⟩

/-- An attempt is over once its transaction has been dropped. -/
theorem Made.isOver {body : TxnId → Client Memory (ν × Except Error α)} {tried : Try ν α}
    (h : Made config context body world tried past) :
    tried.IsOver tried.left (tried.stored context (body tried.txn)) := by
  rw [h.fits.left]
  exact isOver_of_spent (h.tracked.concat (.drop tried.txn) trivial) (h.counter.concat rfl)
    (World.dropped _ _).gone (drop_spent h.tracked h.counter h.opened h.spent).1

/-- The loop ends with an attempt whose outcome stands. -/
theorem retried_single {tried : Try ν α}
    (h : Made config context (fun txn => body txn notes) world tried past)
    (hstands : tried.outcome ≠ .error .conflictAborted ∨ left = 0) :
    Retried config context body (left + 1) notes world [tried]
      ((attemptsFrom config policy context body left notes).run world) := by
  rw [run_attemptsFrom_stands h.run hstands, ← h.fits.left]
  exact .single h.found h.fits hstands h.isOver

/-- The loop makes attempts, as many as are admitted at most. -/
theorem exists_retried (htracked : Tracked past world)
    (hbody : ∀ txn notes, (body txn notes).All Request.KeepsBackend)
    (hown : ∀ txn notes, (body txn notes).LeavesCommit txn)
    (hfits : History.Fits (past ++
      (attemptsFrom config policy context body left notes).trace World.perform world)) :
    ∃ tries, Retried config context body (left + 1) notes world tries
      ((attemptsFrom config policy context body left notes).run world) := by
  induction left generalizing past world notes with
  | zero =>
      rcases first_attempt htracked hbody hown hfits with hrefused | ⟨tried, hmade⟩
      · exact ⟨[], hrefused⟩
      · exact ⟨[tried], retried_single hmade (.inr rfl)⟩
  | succ left ih =>
      rcases first_attempt htracked hbody hown hfits with hrefused | ⟨tried, hmade⟩
      · exact ⟨[], hrefused⟩
      by_cases hconflict : tried.outcome = .error .conflictAborted
      case neg => exact ⟨[tried], retried_single hmade (.inl hconflict)⟩
      case pos =>
        have hrun := hmade.run
        have hover := hmade.isOver
        have hspent := hmade.spent
        rw [hconflict] at hrun
        rw [hmade.fits.stored_of_conflict hconflict] at hover hspent
        obtain ⟨hoverslept, hagain⟩ := run_attemptsFrom_conflict policy left hrun
        rcases (tried.finished context).environment.signals.check_cases context with
          hcheck | hcheck
        case inr =>
          rw [hoverslept _ hcheck, ← hmade.fits.left]
          refine ⟨[tried], .cons (.nil ?_) hmade.found hmade.fits hconflict hover⟩
          rw [hmade.fits.left, World.signals_drop, hcheck]
        case inl =>
          obtain ⟨hrest, htrace⟩ := hagain hcheck
          let sleep : Request Memory :=
            .sleep context (policy.backoff (notes ++ [tried.note]).length)
          have hslept : Tracked (past ++ _ ++ [(tried.finished context, sleep)])
              (tried.finished context) := hmade.tracked.concat sleep trivial
          obtain ⟨hspent', hopened'⟩ :=
            drop_spent hslept (hmade.counter.concat rfl) hmade.opened hspent
          have hdropped := hslept.concat (.drop tried.txn) trivial
          rw [htrace, ← List.append_assoc, List.append_cons, List.append_cons] at hfits
          obtain ⟨tries, htries⟩ := ih hdropped hfits
          rw [hrest]
          refine ⟨tried :: tries,
            .cons (hmade.fits.left ▸ htries) hmade.found hmade.fits hconflict ?_⟩
          exact isOver_run hdropped (all_attemptsFrom hbody left _) hfits
            (World.dropped _ _).gone hopened' hspent'

end Loop

/-- What running a transaction again comes to, for every session and policy, in every world that
clients have led an empty database to, and for every closure that does not commit its own
transaction: attempts that are at most as many as the policy admits, one at least. These attempts
are determined by what the run comes to. The counter of versions must not overflow. -/
theorem runTransactionWith_retried {γ : Type} {earlier : Client Memory γ} {signals : Signals}
    {memory : Memory} {config : SessionConfig} {policy : RetryPolicy}
    {body : TxnId → List ν → Client Memory (ν × Except Error α)} (hempty : memory.store = .empty)
    (hearlier : earlier.All Request.KeepsBackend)
    (hworld : (earlier.run (.ofBackend signals memory)).2 = world)
    (hbody : ∀ txn notes, (body txn notes).All Request.KeepsBackend)
    (hown : ∀ txn notes, (body txn notes).LeavesCommit txn)
    (hfits : (earlier.history signals memory).openings + 1 +
      History.openings ((runTransactionWith config policy context body).trace World.perform world) <
        UInt64.size) :
    ∃! tries, Retried config context body (max policy.maxAttempts.toNat 1) [] world tries
      ((runTransactionWith config policy context body).run world) := by
  have htracked : Tracked (earlier.history signals memory) world := by
    have hrun := tracked_run (World.tracked_ofBackend signals hempty) hearlier
    rwa [hworld] at hrun
  have hlimit : policy.attempts - 1 + 1 = max policy.maxAttempts.toNat 1 :=
    Nat.sub_add_cancel (Nat.le_max_right _ _)
  rw [← hlimit]
  have hwhole : History.Fits (earlier.history signals memory ++
      (attemptsFrom config policy context body (policy.attempts - 1) []).trace World.perform
        world) := by
    rw [History.Fits, World.History.openings_append]
    rw [runTransactionWith] at hfits
    omega
  obtain ⟨tries, htries⟩ := exists_retried htracked hbody hown hwhole
  exact ⟨tries, htries, fun others hothers => hothers.unique htries⟩

/-- A closure that loses a conflict at first and stores a row the second time is run twice. -/
theorem runTransactionWith_retried_once :
    let context : Context := ⟨0, []⟩
    let put : Table.Handler Int := do
      Table.Handler.put "t" [] [.null (.scalar .bool)]
      pure 1
    let memory := Memory.empty.withUpdate "put" fun _ => put
    let body : TxnId → List Unit → Client Memory (Unit × Except Error Nat) := fun txn notes =>
      if notes.isEmpty then .done ((), .error .conflictAborted)
      else .call (.newBatch txn) fun _ => .call (.append txn ⟨"put", .empty⟩) fun _ =>
        .call (.submit txn context) fun _ => .done ((), .ok 7)
    let world : MemoryWorld := (run (Interaction.ofList [.openTransaction .default context])
      (.ofBackend .initial memory)).2
    let client := runTransactionWith .default .default context body
    (client.run world).1.2 = .ok 7 ∧
      ∃ tries, Retried .default context body 5 [] world tries (client.run world) ∧
        tries.length = 2 := by
  intro context put memory body world client
  have hall (kind : Request Memory → Prop) (txn : TxnId) (notes : List Unit)
      (h : kind (.newBatch txn) ∧ kind (.append txn ⟨"put", .empty⟩) ∧ kind (.submit txn context)) :
      (body txn notes).All kind := by
    show (if notes.isEmpty then _ else _ : Client Memory _).All kind
    split
    · trivial
    · exact ⟨h.1, fun _ => ⟨h.2.1, fun _ => ⟨h.2.2, fun _ => trivial⟩⟩⟩
  have hnocommit (txn : TxnId) (notes : List Unit) : (body txn notes).All fun request =>
      ∀ context, request ≠ .commit txn context := hall _ txn notes (by simp)
  have hnotes : (client.run world).1.1 = [(), ()] := by decide +kernel
  have hanswer : (client.run world).1.2.toOption = some 7 := by decide +kernel
  have hempty : memory.store = .empty := rfl
  have hearlier : (Interaction.ofList [.openTransaction .default context] :
      Client Memory Unit).All Request.KeepsBackend :=
    Interaction.all_ofList (by simp [Request.KeepsBackend])
  have hworld : (run (Interaction.ofList [.openTransaction .default context])
      (.ofBackend .initial memory)).2 = world := rfl
  have hfits : (history (Interaction.ofList [.openTransaction .default context] :
      Client Memory Unit) .initial memory).openings + 1 +
        World.History.openings (client.trace World.perform world) < UInt64.size := by
    decide +kernel
  have hretried : ∃! tries, Retried .default context body 5 [] world tries (client.run world) :=
    runTransactionWith_retried hempty hearlier hworld
      (fun txn notes => hall Request.KeepsBackend txn notes ⟨trivial, trivial, trivial⟩)
      (fun txn notes => .of_all (hnocommit txn notes)) hfits
  -- From here on it does not matter how the run was computed.
  generalize client.run world = ran at hnotes hanswer hretried ⊢
  obtain ⟨⟨notes, answer⟩, final⟩ := ran
  obtain ⟨tries, htries, -⟩ := hretried
  have hlength : notes.length = tries.length :=
    (congrArg List.length htries.notes_eq).trans (by simp)
  have htwo : notes.length = 2 := congrArg List.length hnotes
  refine ⟨?_, tries, htries, hlength.symm.trans htwo⟩
  cases answer with
  | error error => cases hanswer
  | ok value => exact congrArg Except.ok (Option.some.inj hanswer)

end Client

end Transact
