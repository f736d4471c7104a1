import Cwdaemon.Verified.InStep

/-! # What raises PTT

PTT is raised for a character, for a tuning and on request, unless it is in automatic mode
already or not in use.  A text that has asked for it keeps it: libcw's thread puts PTT off
only when the request queue is empty, and a caret behind a character leaves that character
in the queue.
-/

namespace Cwdaemon

open CString

/-- The command asks for PTT. -/
def Command.asksPtt : Command → Bool
  | .ptt => true
  | _ => false

/-- A reply that the command prepares has a character in it. -/
def Command.Behind (command : Command) : Prop := ∀ index, command = .reply index → 0 < index

namespace State

/-- The text loop asks for PTT. -/
def asksPtt (state : State) (text : Bytes) : Bool := (state.programOf text).any Command.asksPtt

instance (state : State) : Decidable state.Held := inferInstanceAs (Decidable (_ → _))

/-! ## Texts -/

theorem reply_program (opened lookAhead : Bool) (index : Nat) (gap speed : Int) (text : Bytes) {caret : Nat}
    (reply : .reply caret ∈ program opened lookAhead index gap speed text) : index ≤ caret := by
  have back (lookAhead : Bool) : .reply caret ∉ (if lookAhead then [Command.gap 0] else []) := by
    cases lookAhead <;> simp
  induction text generalizing lookAhead index gap speed with
  | nil => exact absurd reply (by simpa only [program] using back lookAhead)
  | cons char rest inductionHypothesis =>
    simp only [program] at reply
    split at reply
    · exact Nat.le_of_succ_le (inductionHypothesis _ _ _ _ reply)
    · have reply := (List.mem_append.mp reply).resolve_left (back lookAhead)
      split at reply
      · split at reply
        · exact Nat.le_of_succ_le (inductionHypothesis _ _ _ _ reply)
        · have reply := (List.mem_cons.mp reply).resolve_left (by simp)
          exact Nat.le_of_succ_le (inductionHypothesis _ _ _ _ reply)
      · split at reply
        · have reply := (List.mem_cons.mp reply).resolve_left (by simp)
          exact Nat.le_of_succ_le (inductionHypothesis _ _ _ _ reply)
        · split at reply
          · obtain rfl : caret = index := by simpa using reply
            exact Nat.le_refl caret
          · have reply := (List.mem_append.mp reply).resolve_left (by simp [characterCommands])
            exact Nat.le_of_succ_le (inductionHypothesis _ _ _ _ reply)

/-- A text that asks for PTT does not begin with a caret. -/
theorem behind_of_asksPtt {state : State} {text : Bytes} (asks : state.asksPtt text = true) :
    ∀ command ∈ state.programOf text, command.Behind := by
  rintro command member index rfl
  unfold asksPtt programOf at *
  cases text with
  | nil => cases member
  | cons char rest =>
    by_contra first
    obtain rfl : index = 0 := by omega
    by_cases caret : char = byte '^'
    · subst caret
      have alone : program state.libcw.generator.isSome false 0 state.gap state.current.morseSpeed (byte '^' :: rest) =
          [.reply 0] := rfl
      rw [alone] at asks
      cases asks
    · simp only [program, Bool.false_and, Bool.false_eq_true, if_false, List.nil_append, if_neg caret] at member
      have later (gap speed : Int) (lookAhead : Bool) :
          .reply 0 ∉ program state.libcw.generator.isSome lookAhead (0 + 1) gap speed rest :=
        fun member => absurd (reply_program _ _ _ _ _ _ member) (by omega)
      split at member
      · split at member
        · exact later _ _ _ member
        · exact later _ _ _ ((List.mem_cons.mp member).resolve_left (by simp))
      · split at member
        · exact later _ _ _ ((List.mem_cons.mp member).resolve_left (by simp))
        · exact later _ _ _ ((List.mem_append.mp member).resolve_left (by simp [characterCommands]))

/-! ## PTT that is held -/

variable {state : State}

theorem prepareReply_requestQueue (reply : Bytes) (state : State) :
    (state.prepareReply reply).requestQueue = state.requestQueue := by
  unfold prepareReply
  split <;> rfl

theorem Held.prepareReply (held : state.Held) (reply : Bytes) : (state.prepareReply reply).Held := by
  have kept : (state.pttFlag.set .echo).has .auto = state.pttFlag.has .auto := by simp
  have echoed : state.current.pttDelayMs ≠ 0 → (state.pttFlag.set .echo).has .auto = true := by
    rw [kept]
    exact held
  unfold State.prepareReply
  split <;> exact echoed

theorem Held.serve (held : state.Held) (world : World) (busy : state.requestQueue.bytes ≠ []) :
    (state.serve world).Held := by
  obtain ⟨-, -, kept⟩ := reads_dequeues world [] (world.during state.log.length) state busy fun positive => ⟨_, positive⟩
  exact kept held

/-- A call of the text loop that is not about PTT or the request queue. -/
theorem Held.served (held : state.Held) (world : World) (call : State → State) (busy : state.requestQueue.bytes ≠ [])
    (keeps : ∀ state, (call state).requestQueue = state.requestQueue)
    (called : ∀ state : State, state.Held → (call state).Held) : (state.served world call).Held := by
  have queue : (call (state.serve world)).requestQueue = state.requestQueue :=
    (keeps _).trans (served_serve world state).requestQueue
  exact (called _ (held.serve world busy)).serve world (by rw [queue]; exact busy)

theorem busy_exec (world : World) {command : Command} (busy : state.requestQueue.bytes ≠ []) (behind : command.Behind) :
    (state.exec world command).requestQueue.bytes ≠ [] := by
  by_cases silent : ∀ index, command ≠ .reply index
  · exact mt (exec_idle world silent state).mp busy
  · obtain ⟨index, reply⟩ := not_forall_not.mp silent
    have positive : index ≠ 0 := Nat.ne_of_gt (behind index reply)
    simp [reply, exec, prepareReply_requestQueue, List.take_eq_nil_iff, busy, positive]

/-- While there is something in the request queue PTT is held, once a command has asked
for it. -/
theorem held_exec (world : World) {command : Command} (busy : state.requestQueue.bytes ≠ [])
    (held : command.asksPtt = true ∨ state.Held) : (state.exec world command).Held := by
  by_cases ptt : command = .ptt
  · rw [ptt]
    exact setPttOn_held state
  replace held : state.Held := held.resolve_left (by cases command <;> simp_all [Command.asksPtt])
  cases command with
  | ptt => exact absurd rfl ptt
  | speed wpm =>
    have set : (state.setMorseSpeed wpm).Held := held
    exact set.served world (·.cwSetSendSpeed wpm) busy (fun _ => rfl) fun _ => id
  | gap dots => exact held.served world (·.cwSetGap dots) busy (fun _ => rfl) fun _ => id
  | readGap => exact held.served world cwGetGap busy (fun _ => rfl) fun _ => id
  | send char => exact held.served world (·.cwSendCharacter world char) busy (fun _ => rfl) fun _ => id
  | replace => exact held
  | reply index =>
    have cut : Held { state with requestQueue := state.requestQueue.cut index } := held
    exact cut.prepareReply _

theorem held_execAll (world : World) {commands : List Command} (busy : state.requestQueue.bytes ≠ [])
    (behind : ∀ command ∈ commands, command.Behind) (held : commands.any Command.asksPtt = true ∨ state.Held) :
    (execAll world commands state).Held := by
  induction commands generalizing state with
  | nil => exact held.resolve_left (by simp)
  | cons command commands inductionHypothesis =>
    obtain ⟨first, rest⟩ := List.forall_mem_cons.mp behind
    refine inductionHypothesis (busy_exec world busy first) rest ?_
    by_cases now : command.asksPtt = true ∨ state.Held
    · exact .inr (held_exec world busy now)
    · obtain ⟨unasked, lost⟩ := not_or.mp now
      exact .inl (by simpa [unasked] using held.resolve_right lost)

end State

/-- The action raises PTT, if it is not up already. -/
def Action.Raises (action : Action) (state : State) : Prop :=
  ¬ state.Held ∧
    match action with
    | .text bytes => state.asksPtt (state.requestQueue.append bytes).bytes = true
    | .request .tune payload => (paramsTune payload).any (0 < ·) = true
    | .request .pttState payload => (getLong payload).any (· ≠ 0) = true
    | _ => False

end Cwdaemon
