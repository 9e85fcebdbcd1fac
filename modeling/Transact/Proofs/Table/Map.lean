/-
# Tables are a map for each transaction

What an open transaction finds in a run on tables is what some rows show: those
that the transactions before its beginning have committed, and its own. From
there on all of its answers are the answers of these rows, as its requests
change them. What others do in the meantime shows in none of them.

The rows are known at every moment, so the induction over the moves needs no
more than the rows that are found now. It uses that a beginning settles what is
found outside the buffer, and that a request moves buffer and rows alike.
-/

import Transact.Proofs.Mvcc.Snapshot
import Transact.Proofs.Table.Moves

namespace Transact.Table

open Mvcc (Run)

variable {run : Run} {number : Nat} {txn : Mvcc.Transaction} {signals : Signals}
  {move : Move} {earlier later : List Move} {contents : Contents}

/-- With any buffer, a transaction finds in the store what its history says. -/
theorem found_eq_past {past : Mvcc.History} (h : Mvcc.Consistent run past)
    (hreadable : Mvcc.HoldsReadable run past) (hopen : run.transactions.get? number = some txn)
    {left : Mvcc.Transaction} (hsnapshot : left.snapshot = txn.snapshot) :
    left.found run.store = past.found number left.writes := by
  funext key
  rw [Mvcc.Transaction.found, Mvcc.History.found, hsnapshot, h.snapshot_value hreadable hopen]

/-- No move changes what an open transaction would find with a buffer. -/
theorem found_concat (h : MovesFit earlier)
    (hopen : (RunSite.reached signals earlier).1.transactions.get? number = some txn) (move : Move)
    (writes : Mvcc.Writes) :
    (RunSite.past signals (earlier ++ [move])).found number writes =
      (RunSite.past signals earlier).found number writes := by
  have hbegun := ((h.consistent signals).follows number txn hopen).begun
  rw [RunSite.past] at hbegun
  funext key
  rw [Mvcc.History.found, Mvcc.History.found, RunSite.past, RunSite.past, RunSite.script_append,
    Run.past_append, Mvcc.History.before_append hbegun]

theorem reached_concat (signals : Signals) (earlier : List Move) (move : Move) :
    RunSite.reached signals (earlier ++ [move]) = move.make (RunSite.reached signals earlier) :=
  RunSite.after_append _ earlier [move]

/-- A move of others leaves an open transaction as it is. -/
theorem open_concat (h : MovesFit (earlier ++ [move]))
    (hopen : (RunSite.reached signals earlier).1.transactions.get? number = some txn)
    (hother : move.actor? ≠ some number) :
    (RunSite.reached signals (earlier ++ [move])).1.transactions.get? number = some txn := by
  rw [reached_concat, make_fst]
  refine (h.of_append.consistent signals).open_after_others hopen ?_ fun step hstep => ?_
  · rw [h.of_append.begun_eq, count_steps, ← List.countP_append]
    exact h.counter
  · rw [(steps_cases hstep).1]
    exact hother

/-- An open transaction answers a request as the rows do that it finds, and finds then what the
request leaves of them. -/
theorem ask_concat {request : Request} (h : MovesFit (earlier ++ [.ask number request]))
    (hopen : (RunSite.reached signals earlier).1.transactions.get? number = some txn)
    (hshows : contents.Shows ((RunSite.past signals earlier).found number txn.writes)) :
    ∃ answer left,
      (Move.ask number request).answered? (RunSite.reached signals earlier) number =
        some ⟨request, answer⟩ ∧ contents.Answers request answer ∧
      (RunSite.reached signals (earlier ++ [.ask number request])).1.transactions.get? number =
        some left ∧
      (contents.after request).Shows
        ((RunSite.past signals (earlier ++ [.ask number request])).found number left.writes) := by
  have hearlier := h.of_append
  have hrequest : request.Storable := h.fits (.ask number request) (by simp)
  have hconsistent := hearlier.consistent signals
  have hreadable := hearlier.holdsReadable signals
  have hfound (left : Mvcc.Transaction) (hsnapshot : left.snapshot = txn.snapshot) :=
    found_eq_past hconsistent hreadable hopen hsnapshot
  rw [← hfound txn rfl] at hshows
  obtain ⟨hanswer, hleft⟩ := perform_answers hconsistent.holds.versionsKeyed
    (hreadable.versionsReadable hconsistent.holds) hshows hrequest
    (RunSite.reached signals earlier).2
  have hsnapshot := (perform_adds (RunSite.reached signals earlier).1.store request
    (txn, (RunSite.reached signals earlier).2)).2
  have hask := RunSite.ask_eq hopen request
  generalize perform (RunSite.reached signals earlier).1.store request
    (txn, (RunSite.reached signals earlier).2) = performed at hanswer hleft hsnapshot hask
  obtain ⟨answer, left, changed⟩ := performed
  rw [hfound left hsnapshot] at hleft
  refine ⟨answer, left, ?_, hanswer, ?_, ?_⟩
  · rw [Move.answered?, if_pos rfl, hask]
    rfl
  · rw [reached_concat, Move.make, hask]
    exact (Run.get?_update ..).trans (if_pos rfl)
  · rw [found_concat hearlier hopen]
    exact hleft

/-- An open transaction answers each of its requests, and it answers what the rows answer that it
finds. -/
theorem explains_asked (hfits : MovesFit (earlier ++ later))
    (hopen : (RunSite.reached signals earlier).1.transactions.get? number = some txn)
    (hshows : contents.Shows ((RunSite.past signals earlier).found number txn.writes))
    (hown : ∀ step, .other step ∈ later → step.actor? ≠ some number) :
    ((RunSite.reached signals earlier).asked number later).map Sigma.fst =
        later.filterMap (Move.request? number) ∧
      contents.Explains ((RunSite.reached signals earlier).asked number later) := by
  induction later generalizing earlier contents txn with
  | nil => exact ⟨rfl, trivial⟩
  | cons move later ih =>
      rw [List.append_cons] at hfits
      have hrest : ∀ step, .other step ∈ later → step.actor? ≠ some number :=
        fun step hstep => hown step (List.mem_cons_of_mem _ hstep)
      by_cases hactor : move.actor? = some number
      case neg =>
        have hnone : move.request? number = none ∧
            move.answered? (RunSite.reached signals earlier) number = none := by
          cases move with
          | other step => exact ⟨rfl, rfl⟩
          | ask other request =>
              have hne : other ≠ number := fun heq => hactor (congrArg some heq)
              exact ⟨if_neg hne, if_neg hne⟩
        have hstill := open_concat hfits.of_append hopen hactor
        rw [← found_concat hfits.of_append.of_append hopen move] at hshows
        rw [RunSite.asked, hnone.2, ← reached_concat, List.filterMap_cons_none hnone.1]
        exact ih hfits hstill hshows hrest
      case pos =>
        cases move with
        | other step => exact absurd hactor (hown step List.mem_cons_self)
        | ask other request =>
            obtain rfl := Option.some.inj hactor
            obtain ⟨answer, left, hanswered, hanswer, hstill, hleft⟩ :=
              ask_concat hfits.of_append hopen hshows
            have hrequest : (Move.ask other request).request? other = some request := if_pos rfl
            obtain ⟨hasked, hexplained⟩ := ih hfits hstill hleft hrest
            rw [RunSite.asked, hanswered, ← reached_concat, List.filterMap_cons_some hrequest,
              ← hasked]
            exact ⟨rfl, hanswer, hexplained⟩

/-- Tables are a map for each transaction. In every run on tables, what an open transaction finds
are finitely many rows: its own, and for the rest those that the commits before its beginning have
left. Whatever it asks for from there on is answered as these rows answer, one request after the
other, whatever others do in the meantime. The counter of versions must not overflow, lengths must
fit 64 bits, and decimals, dates and moments must be read from the texts that spell them. -/
theorem exists_contents_explains (hfits : MovesFit earlier)
    (hopen : (RunSite.reached signals earlier).1.transactions.get? number = some txn) :
    ∃ contents : Contents, contents.Finite ∧
      contents.Shows ((RunSite.past signals earlier).found number txn.writes) ∧
        ∀ later, MovesFit (earlier ++ later) →
          (∀ step, .other step ∈ later → step.actor? ≠ some number) →
            ((RunSite.reached signals earlier).asked number later).map Sigma.fst =
                later.filterMap (Move.request? number) ∧
              contents.Explains ((RunSite.reached signals earlier).asked number later) := by
  obtain ⟨contents, hshows⟩ := exists_shows fun _ _ => (hfits.holdsRows signals).found hopen
  obtain ⟨keys, hkeys⟩ := hfits.exists_keys hopen
  exact ⟨contents, hshows.finite hkeys, hshows,
    fun later hlater hown => explains_asked hlater hopen hshows hown⟩

/-- Rows of two tables are found by the next transaction, even if the name of one begins the other's
name: inserting in the place of the first row is refused, and removing the second is not. -/
theorem exists_contents_explains_two_tables :
    let one : List Value := [.scalar ⟨.int64, 1⟩]
    let price : Row := [.scalar ⟨.numeric, ⟨false, 150, 2, by decide, by decide⟩⟩]
    let blank : Row := [.null (.scalar .bool)]
    let earlier : List Move := [.other .begin, .ask 0 (.put "t" one price),
      .ask 0 (.put "tt" one blank), .other (.commit 0), .other .begin]
    let later : List Move := [.ask 1 (.insert "t" one blank), .ask 1 (.delete "tt" one)]
    (RunSite.reached .initial earlier).asked 1 later =
      [⟨.insert "t" one blank, .error (.execution (.rowExists one "t"))⟩,
        ⟨.delete "tt" one, .ok true⟩] := by
  intro one price blank earlier later
  have hone : ∀ value ∈ one, Record.Spelled value := by
    intro value hvalue
    rw [List.mem_singleton.mp hvalue]
    trivial
  have hshort : Addressable "t" one := ⟨hone, by decide +kernel⟩
  have hlong : Addressable "tt" one := ⟨hone, by decide +kernel⟩
  have hprice : Record.Storable price := by
    refine ⟨fun value hvalue => ?_, by decide +kernel⟩
    rw [List.mem_singleton.mp hvalue]
    show Decimal.ofText? _ = some _
    decide +kernel
  have hblank : Record.Storable blank := by
    refine ⟨fun value hvalue => ?_, by decide +kernel⟩
    rw [List.mem_singleton.mp hvalue]
    trivial
  have hfits : MovesFit (earlier ++ later) := by
    refine ⟨fun move hmove => ?_, by decide⟩
    simp only [earlier, later, List.cons_append, List.nil_append, List.mem_cons,
      List.not_mem_nil, or_false] at hmove
    rcases hmove with rfl | rfl | rfl | rfl | rfl | rfl | rfl
    · rfl
    · exact ⟨hshort, hprice⟩
    · exact ⟨hlong, hblank⟩
    · rfl
    · rfl
    · exact ⟨hshort, hblank⟩
    · exact hlong
  let txn := ((RunSite.reached .initial earlier).1.transactions.get? 1).getD
    ⟨⟨0, .empty⟩, .empty, .empty, .empty⟩
  have hopen : (RunSite.reached .initial earlier).1.transactions.get? 1 = some txn := by
    decide +kernel
  obtain ⟨contents, -, hshows, hlater⟩ := exists_contents_explains hfits.of_append hopen
  have hanswers := hlater later hfits (by simp [later])
  have htaken : contents "t" one = some price :=
    (hshows.eq_some_iff hshort hprice).mpr (by decide +kernel)
  have hthere : contents "tt" one = some blank :=
    (hshows.eq_some_iff hlong hblank).mpr (by decide +kernel)
  -- From here on it does not matter how the answers were computed.
  generalize (RunSite.reached .initial earlier).asked 1 later = answers at hanswers ⊢
  obtain ⟨hasked, hexplained⟩ := hanswers
  obtain ⟨⟨_, inserted⟩, others, rfl, rfl, hothers⟩ := List.map_eq_cons_iff.mp hasked
  obtain ⟨⟨_, deleted⟩, rest, rfl, rfl, hrest⟩ := List.map_eq_cons_iff.mp hothers
  obtain rfl := List.map_eq_nil_iff.mp hrest
  obtain ⟨hinserted, hdeleted, -⟩ := hexplained
  simp only [Contents.Answers, htaken, Option.isSome_some, if_true] at hinserted
  simp only [Contents.Answers, Contents.after, htaken, hthere, Option.isSome_some, if_true]
    at hdeleted
  rw [hinserted, hdeleted]

end Transact.Table
