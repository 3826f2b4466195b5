import Debuggee.Proofs.SendQueue.History

/-!
Windows of a queue. Within a window nothing is lost, doubled or reordered, and nothing passes from
one window to another. The invariant of a window is kept by every call that neither opens nor closes
one.
-/

namespace Debuggee.SendQueue

variable {α : Type}

/-- All that a call can do. Refused and idle calls `pass`, and so does one that tells of the end. -/
inductive Step (queue : SendQueue α) : Call α → SendQueue α × Answer α → Prop where
  | activate : Step queue .activate (queue.activate, .nothing)
  | deactivate : Step queue .deactivate (queue.deactivate.2, .dropped queue.deactivate.1)
  | take (message : α) (active : queue.active = true) :
    Step queue (.push message)
      ({ queue with pending := queue.pending ++ [message] }, .taken true)
  | hand (cancelled : Bool) (message : α) (pending : List α)
    (first : queue.pending = message :: pending) :
    Step queue (.next cancelled)
      ({ queue with inFlight := true, pending := pending }, .found (.message message))
  | acknowledge : Step queue .messageWritten (queue.messageWritten, .nothing)
  | pass (call : Call α) (closing : Bool) (answer : Answer α) (inside : call.isBoundary = false)
    (untaken : accepted? (call, answer) = none) (unhanded : handed? (call, answer) = none)
    (unwritten : ∀ writer : Writer α, writer.follow (call, answer) = writer) :
    Step queue call ({ queue with closing := closing }, answer)

theorem push_taken (queue : SendQueue α) (message : α) :
    (queue.push message).1 = queue.active := by
  cases active : queue.active <;> simp [push, active]

theorem pending_of_closed {queue : SendQueue α} {cancelled : Bool}
    (closed : (queue.next cancelled).1 = .closed) : queue.pending = [] := by
  cases cancelled with
  | true => contradiction
  | false =>
      cases waiting : queue.pending with
      | nil => rfl
      | cons message pending => simp [next, waiting] at closed

theorem step_next (queue : SendQueue α) (cancelled : Bool) :
    Step queue (.next cancelled) (queue.perform (.next cancelled)) := by
  have idle (found : Next α) (none : ∀ message, found ≠ .message message) :
      Step queue (.next cancelled) (queue, .found found) := by
    cases found with
    | message message => exact absurd rfl (none message)
    | closed => exact .pass (.next cancelled) queue.closing _ rfl rfl rfl fun _ => rfl
    | cancelled => exact .pass (.next cancelled) queue.closing _ rfl rfl rfl fun _ => rfl
    | waiting => exact .pass (.next cancelled) queue.closing _ rfl rfl rfl fun _ => rfl
  simp only [perform, next]
  cases cancelled with
  | true => exact idle .cancelled (by simp)
  | false =>
      cases first : queue.pending with
      | nil =>
          simp only [Bool.false_eq_true, if_false]
          split
          · exact idle .closed (by simp)
          · exact idle .waiting (by simp)
      | cons message pending => exact .hand false message pending first

theorem step_perform (queue : SendQueue α) (call : Call α) :
    Step queue call (queue.perform call) := by
  cases call with
  | activate => exact .activate
  | deactivate => exact .deactivate
  | push message =>
      by_cases active : queue.active = true
      · have taken : queue.push message =
            (true, { queue with pending := queue.pending ++ [message] }) := if_pos active
        simp only [perform, taken]
        exact .take message active
      · have refused : queue.push message = (false, queue) := if_neg active
        simp only [perform, refused]
        exact .pass (.push message) queue.closing _ rfl rfl rfl fun _ => rfl
  | close => exact .pass .close true _ rfl rfl rfl fun _ => rfl
  | next cancelled => exact step_next queue cancelled
  | messageWritten => exact .acknowledge

section Balanced

variable {queue : SendQueue α} {call : Call α} {calls : List (Call α)}
variable {window : List (Exchange α)}

structure Balanced (window : List (Exchange α)) (queue : SendQueue α) : Prop where
  active : queue.active = true
  conserved : handed window ++ queue.pending = accepted window
  inFlight : queue.inFlight = (Writer.after window).held.isSome

theorem balanced_activate (queue : SendQueue α) : Balanced [] queue.activate := by
  constructor
  · rfl
  · rfl
  · rfl

theorem Balanced.perform (balanced : Balanced window queue) (inside : call.isBoundary = false) :
    Balanced (window ++ [(call, (queue.perform call).2)]) (queue.perform call).1 := by
  have step := step_perform queue call
  have conserved := balanced.conserved
  generalize queue.perform call = outcome at step ⊢
  cases step with
  | activate => contradiction
  | deactivate => contradiction
  | take message active =>
      refine ⟨active, ?_, ?_⟩
      · rw [handed_concat, accepted_concat, ← conserved]
        simp [handed?, accepted?]
      · rw [Writer.after_concat]
        exact balanced.inFlight
  | hand cancelled message pending first =>
      refine ⟨balanced.active, ?_, ?_⟩
      · rw [handed_concat, accepted_concat, ← conserved, first]
        simp [handed?, accepted?]
      · rw [Writer.after_concat]
        rfl
  | acknowledge =>
      refine ⟨balanced.active, ?_, ?_⟩
      · rw [handed_concat, accepted_concat, ← conserved]
        simp [handed?, accepted?, messageWritten]
      · rw [Writer.after_concat]
        rfl
  | pass _ closing answer _ untaken unhanded unwritten =>
      refine ⟨balanced.active, ?_, ?_⟩
      · rw [handed_concat, accepted_concat, untaken, unhanded]
        simpa using conserved
      · rw [Writer.after_concat, unwritten]
        exact balanced.inFlight

theorem balanced_trace (queue : SendQueue α) (stays : ∀ call ∈ calls, call.isBoundary = false) :
    Balanced (queue.activate.trace calls) (queue.activate.run calls) := by
  induction calls using List.reverseRecOn with
  | nil => exact balanced_activate queue
  | append_singleton calls call ih =>
      have earlier := ih fun other member => stays other (List.mem_append_left _ member)
      rw [trace_append, run_append]
      exact earlier.perform (stays call (by simp))

end Balanced

section Acknowledged

variable {before inside : List (Call α)}

/-- An orderly writer has acknowledged all that it was handed, but for the message that it holds. -/
theorem handed_of_orderly (stays : ∀ call ∈ inside, call.isBoundary = false)
    (orderly : Orderly (before ++ .activate :: inside)) :
    let window := ((run {} before).activate).trace inside
    (Writer.after window).acknowledged ++ (Writer.after window).held.toList = handed window := by
  induction inside using List.reverseRecOn with
  | nil => rfl
  | append_singleton inside call ih =>
      rw [← List.cons_append, ← List.append_assoc] at orderly
      have earlier := ih (fun other member => stays other (List.mem_append_left _ member))
        orderly.of_append
      have whole : trace {} (before ++ .activate :: inside) = trace {} before ++
          [(.activate, .nothing)] ++ (run {} before).activate.trace inside := by
        rw [trace_append, List.append_assoc]
        rfl
      simp only [trace_append, trace]
      generalize (run {} before).activate = opened at earlier whole ⊢
      have step := step_perform (opened.run inside) call
      generalize (opened.run inside).perform call = outcome at step ⊢
      rw [handed_concat, Writer.after_concat, ← earlier]
      cases step with
      | activate => exact absurd (stays .activate (by simp)) (by simp [Call.isBoundary])
      | deactivate => exact absurd (stays .deactivate (by simp)) (by simp [Call.isBoundary])
      | take message active => simp [Writer.follow, handed?]
      | hand cancelled message pending first =>
          -- The writer holds nothing, or it would not ask; so this comes after all acknowledged.
          have held := orderly.held_of_next
          rw [whole] at held
          simp [Writer.follow, handed?, Writer.held_of_append held]
      | acknowledge => simp [Writer.follow, handed?]
      | pass _ closing answer _ untaken unhanded unwritten =>
          rw [unwritten, unhanded, Option.toList_none, List.append_nil]

theorem isDrained_iff (stays : ∀ call ∈ inside, call.isBoundary = false)
    (orderly : Orderly (before ++ .activate :: inside)) :
    let opened := (run {} before).activate
    (opened.run inside).isDrained = true ↔
      (Writer.after (opened.trace inside)).acknowledged = accepted (opened.trace inside) := by
  intro opened
  have balanced : Balanced (opened.trace inside) (opened.run inside) :=
    balanced_trace (run {} before) stays
  have written : (Writer.after (opened.trace inside)).acknowledged ++
      (Writer.after (opened.trace inside)).held.toList = handed (opened.trace inside) :=
    handed_of_orderly stays orderly
  have conserved := balanced.conserved
  rw [← written] at conserved
  have drained : (opened.run inside).isDrained = true ↔
      (Writer.after (opened.trace inside)).held = none ∧ (opened.run inside).pending = [] := by
    simp only [isDrained, balanced.active, balanced.inFlight, Bool.true_and,
      Bool.not_eq_true', Bool.or_eq_false_iff, Bool.not_eq_false', List.isEmpty_iff,
      Option.isSome_eq_false_iff, Option.isNone_iff_eq_none]
  rw [drained]
  constructor
  · rintro ⟨free, nothing⟩
    simpa [free, nothing] using conserved
  · intro all
    have lengths := congrArg List.length conserved
    rw [← all, List.length_append, List.length_append] at lengths
    constructor
    · exact Option.toList_eq_nil_iff.mp (List.length_eq_zero_iff.mp (by omega))
    · exact List.length_eq_zero_iff.mp (by omega)

end Acknowledged

section Outside

theorem idle_run (calls : List (Call α)) (inactive : (run {} calls).active = false) :
    (run {} calls).pending = [] ∧ (run {} calls).inFlight = false := by
  induction calls using List.reverseRecOn with
  | nil => exact ⟨rfl, rfl⟩
  | append_singleton calls call ih =>
      have step := step_perform (run {} calls) call
      rw [run_append] at inactive ⊢
      change ((run {} calls).perform call).1.active = false at inactive
      change ((run {} calls).perform call).1.pending = [] ∧
        ((run {} calls).perform call).1.inFlight = false
      generalize run {} calls = queue at ih step inactive ⊢
      generalize queue.perform call = outcome at step inactive ⊢
      cases step with
      | activate => contradiction
      | deactivate => exact ⟨rfl, rfl⟩
      | take message active =>
          rw [active] at inactive
          contradiction
      | hand cancelled message pending first =>
          rw [(ih inactive).1] at first
          contradiction
      | acknowledge => exact ⟨(ih inactive).1, rfl⟩
      | pass => exact ih inactive

theorem active_run_iff (calls : List (Call α)) :
    (run {} calls).active = true ↔ ∃ before inside, calls = before ++ .activate :: inside ∧
      ∀ call ∈ inside, call.isBoundary = false := by
  constructor
  · intro active
    induction calls using List.reverseRecOn with
    | nil => contradiction
    | append_singleton calls call ih =>
        have step := step_perform (run {} calls) call
        have longer (earlier : (run {} calls).active = true) (last : call.isBoundary = false) :
            ∃ before inside, calls ++ [call] = before ++ .activate :: inside ∧
              ∀ call ∈ inside, call.isBoundary = false := by
          obtain ⟨before, inside, same, stays⟩ := ih earlier
          refine ⟨before, inside ++ [call], by rw [same, List.append_assoc, List.cons_append], ?_⟩
          intro other member
          rcases List.mem_append.mp member with old | new
          · exact stays other old
          · rwa [List.mem_singleton.mp new]
        rw [run_append] at active
        change ((run {} calls).perform call).1.active = true at active
        generalize (run {} calls).perform call = outcome at step active
        cases step with
        | activate => exact ⟨calls, [], rfl, by simp⟩
        | deactivate => contradiction
        | take message earlier => exact longer earlier rfl
        | hand cancelled message pending first => exact longer active rfl
        | acknowledge => exact longer active rfl
        | pass _ closing answer last => exact longer active last
  · rintro ⟨before, inside, same, stays⟩
    rw [same, run_append]
    exact (balanced_trace (run {} before) stays).active

theorem handed_sublist (queue : SendQueue α) (calls : List (Call α)) :
    (handed (queue.trace calls)).Sublist (queue.pending ++ accepted (queue.trace calls)) := by
  induction calls generalizing queue with
  | nil => exact List.nil_sublist _
  | cons call calls ih =>
      have later := ih (queue.perform call).1
      have step := step_perform queue call
      rw [trace, handed_cons, accepted_cons]
      generalize queue.perform call = outcome at step later ⊢
      cases step with
      | activate => exact later.trans (List.sublist_append_right _ _)
      | deactivate => exact later.trans (List.sublist_append_right _ _)
      | take message active => simpa [handed?, accepted?] using later
      | hand cancelled message pending first =>
          rw [first]
          exact later.cons_cons message
      | acknowledge => exact later
      | pass _ closing answer _ untaken unhanded =>
          rw [untaken, unhanded]
          exact later

theorem handed_sublist_of_boundary (queue : SendQueue α) {calls : List (Call α)}
    (ends : ∀ call ∈ calls.head?, call.isBoundary = true) :
    (handed (queue.trace calls)).Sublist (accepted (queue.trace calls)) := by
  cases calls with
  | nil => exact List.nil_sublist _
  | cons call calls =>
      have boundary := ends call rfl
      cases call with
      | activate => exact handed_sublist queue.activate calls
      | deactivate => exact handed_sublist queue.deactivate.2 calls
      | _ => contradiction

end Outside

/--
Messages are taken exactly while a window is open; outside of windows nothing is pending or in
flight. What a window took is what it handed out, in the order of the pushes, and what is pending;
on its end the rest is counted. While the writer is orderly, the window is drained exactly when all
that it took is acknowledged. No message is handed out twice or outside the window that took it.
-/
theorem conservation (calls : List (Call α)) :
    let queue := run {} calls
    (∀ message, (queue.push message).1 = queue.active) ∧
    (queue.active = true ↔ ∃ before inside, calls = before ++ .activate :: inside ∧
      ∀ call ∈ inside, call.isBoundary = false) ∧
    (queue.active = false → queue.pending = [] ∧ queue.inFlight = false) ∧
    (∀ cancelled, (queue.next cancelled).1 = .closed → queue.pending = []) ∧
    ∀ before inside, calls = before ++ .activate :: inside →
      (∀ call ∈ inside, call.isBoundary = false) →
      let window := (run {} before).activate.trace inside
      handed window ++ queue.pending = accepted window ∧
      queue.deactivate.1 + (handed window).length = (accepted window).length ∧
      (Orderly calls →
        (queue.isDrained = true ↔ (Writer.after window).acknowledged = accepted window)) ∧
      ∀ later, (∀ call ∈ later.head?, call.isBoundary = true) →
        (accepted (trace {} (calls ++ later))).Nodup →
        (handed window).Nodup ∧ ∀ message ∈ accepted window,
          message ∉ handed (trace {} before) ∧ message ∉ handed (queue.trace later) := by
  intro queue
  refine ⟨push_taken queue, active_run_iff calls, idle_run calls, ?_, ?_⟩
  · intro cancelled closed
    exact pending_of_closed closed
  · intro before inside same stays window
    have ended : queue = (run {} before).activate.run inside := by
      simp only [queue, same, run_append]
      rfl
    have balanced : Balanced window queue := ended ▸ balanced_trace (run {} before) stays
    have conserved := balanced.conserved
    refine ⟨conserved, ?_, ?_, ?_⟩
    · rw [← conserved, List.length_append, Nat.add_comm]
      rfl
    · intro orderly
      rw [ended]
      exact isDrained_iff stays (same ▸ orderly)
    · intro later ends distinct
      have opened : trace {} calls = trace {} before ++ ((.activate, .nothing) :: window) := by
        rw [same, trace_append]
        rfl
      rw [trace_append, opened, accepted_append, accepted_append, accepted_cons] at distinct
      obtain ⟨known, _, outsideLater⟩ := List.nodup_append.mp distinct
      obtain ⟨_, own, outsideBefore⟩ := List.nodup_append.mp known
      have fromBefore : (handed (trace {} before)).Sublist (accepted (trace {} before)) :=
        handed_sublist {} before
      have fromLater := handed_sublist_of_boundary queue ends
      have fromWindow : (handed window).Sublist (accepted window) := by
        rw [← conserved]
        exact List.sublist_append_left _ _
      refine ⟨fromWindow.nodup own, ?_⟩
      intro message member
      constructor
      · intro given
        exact outsideBefore message (fromBefore.subset given) message member rfl
      · intro given
        exact outsideLater message (List.mem_append_right _ member) message
          (fromLater.subset given) rfl

theorem conservation_reopened :
    let before : List (Call Nat) := [.activate, .push 1, .next false]
    let inside : List (Call Nat) := [.push 2, .messageWritten, .push 3, .next false]
    handed ((run {} before).activate.trace inside) ++ [3] =
      accepted ((run {} before).activate.trace inside) :=
  ((conservation _).2.2.2.2 [.activate, .push 1, .next false]
    [.push 2, .messageWritten, .push 3, .next false] rfl (by decide)).1

end Debuggee.SendQueue
