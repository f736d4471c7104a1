import Cwdaemon.Verified.Frames
import Mathlib.Logic.Relation

/-! # What playing a text does

The loop of `cwdaemon_play_request()` is a sequence of a few kinds of steps, which
`TextStep` lists.  An invariant of a text is proved by cases on them.  As long as
libcw's thread may run, the request queue is not empty: this is the lock by which
the low callback knows that a text is being read.
-/

namespace Cwdaemon

/-- libcw's thread takes no tone while a request is handled. -/
def Quiet (world : World) : Prop := ∀ calls, world.during calls = 0

theorem Quiet.uninterrupted {world : World} (quiet : Quiet world) : ¬ ∃ calls, 0 < world.during calls := by
  rintro ⟨calls, positive⟩
  rw [quiet calls] at positive
  exact Nat.lt_irrefl 0 positive

namespace State

/-- The character that is played for a character of a request. -/
def played (char : UInt8) : UInt8 := if char = byte '*' then byte '+' else char

theorem played_ne_zero {char : UInt8} (nonzero : char ≠ 0) : played char ≠ 0 := by
  unfold played
  split
  · decide
  · exact nonzero

theorem played_nul_free {front rest request : Bytes} {char : UInt8} (nulFree : 0 ∉ request)
    (split : request = front ++ char :: rest) : 0 ∉ front.map played := by
  intro member
  obtain ⟨char, mem, zero⟩ := List.mem_map.mp member
  refine played_ne_zero (fun equal => ?_) zero
  subst equal
  exact nulFree (split ▸ List.mem_append_left _ mem)

/-- What is played before a caret is shorter than a request can be. -/
theorem played_length {front rest request : Bytes} {char : UInt8}
    (length : request.length ≤ CWDAEMON_REQUEST_SIZE_MAX) (split : request = front ++ char :: rest) :
    (front.map played).length ≤ 255 := by
  have total := congrArg List.length split
  simp only [List.length_append, List.length_cons] at total
  simp only [CWDAEMON_REQUEST_SIZE_MAX] at length
  rw [List.length_map]
  omega

/-- PTT is in automatic mode, unless it is not used at all. -/
def Held (state : State) : Prop := state.current.pttDelayMs ≠ 0 → state.pttFlag.has .auto = true

/-- A step of playing the text `request`. -/
inductive TextStep (world : World) (request : Bytes) : State → State → Prop
  | drain (state : State) (busy : state.requestQueue.bytes ≠ [])
      (interrupted : ∃ calls, 0 < world.during calls) :
      TextStep world request state state.dequeue
  | speed (speed : Int) (state : State) : TextStep world request state (state.setMorseSpeed speed)
  | sendSpeed (wpm : Int) (state : State) : TextStep world request state (state.cwSetSendSpeed wpm)
  | setGap (gap : Int) (state : State) : TextStep world request state (state.cwSetGap gap)
  | getGap (state : State) : TextStep world request state state.cwGetGap
  | replace (index : Nat) (state : State) :
      TextStep world request state
        { state with requestQueue := state.requestQueue.poke index (byte '+') (by decide) }
  | raise (state : State) : TextStep world request state state.setPttOn
  | send (char : UInt8) (state : State) (held : state.Held) :
      TextStep world request state (state.cwSendCharacter world char)
  | caret (state : State) (front rest : Bytes) (split : request = front ++ byte '^' :: rest)
      (queue : state.requestQueue.bytes = front.map played ++ byte '^' :: rest) :
      TextStep world request state
        (({ state with requestQueue := state.requestQueue.cut front.length } : State).prepareReply
          (front.map played))

/-- Playing a part of a text. -/
abbrev Reads (world : World) (request : Bytes) : State → State → Prop :=
  Relation.ReflTransGen (TextStep world request)

/-- What each step of a text preserves, the text preserves. -/
theorem Reads.preserves {world : World} {request : Bytes} {invariant : State → Prop} {before after : State}
    (preserved : ∀ before after, TextStep world request before after → invariant before → invariant after)
    (reads : Reads world request before after) (initial : invariant before) : invariant after := by
  induction reads with
  | refl => exact initial
  | tail _ step inductionHypothesis => exact preserved _ _ step inductionHypothesis

/-- A relation that composes, and that holds across each step of a text, holds across the
text. -/
theorem Reads.relates {world : World} {request : Bytes} {invariant : State → Prop}
    {relation : State → State → Prop} {before after : State} (refl : ∀ state, relation state state)
    (trans : ∀ first second third, relation first second → relation second third → relation first third)
    (step : ∀ before after, TextStep world request before after → invariant before →
      invariant after ∧ relation before after)
    (reads : Reads world request before after) (initial : invariant before) :
    invariant after ∧ relation before after := by
  induction reads with
  | refl => exact ⟨initial, refl before⟩
  | tail _ last inductionHypothesis =>
    obtain ⟨kept, related⟩ := inductionHypothesis
    obtain ⟨kept', related'⟩ := step _ _ last kept
    exact ⟨kept', trans _ _ _ related related'⟩

section Loop

variable (world : World) (request : Bytes)

/-- What libcw's thread does around a libcw call of the loop, while the queue is busy. -/
theorem reads_dequeues (count : Nat) (state : State) (busy : state.requestQueue.bytes ≠ [])
    (interrupted : 0 < count → ∃ calls, 0 < world.during calls) :
    Reads world request state (state.dequeues count) ∧
      (state.dequeues count).requestQueue = state.requestQueue ∧
      (state.Held → (state.dequeues count).Held) := by
  induction count generalizing state with
  | zero => exact ⟨.refl, rfl, id⟩
  | succ count inductionHypothesis =>
    have kept := (served_dequeue state).requestQueue
    have held : state.Held → state.dequeue.Held := by
      intro held delayed
      rw [dequeue_auto busy]
      exact held ((served_dequeue state).current ▸ delayed)
    obtain ⟨reads, same, held'⟩ := inductionHypothesis state.dequeue (kept ▸ busy)
      fun _ => interrupted (Nat.succ_pos count)
    exact ⟨.head (.drain state busy (interrupted (Nat.succ_pos count))) reads, same.trans kept, held' ∘ held⟩

/-- A libcw call of the loop, with what libcw's thread does around it. -/
theorem reads_served (call : State → State) (state : State) (busy : state.requestQueue.bytes ≠ [])
    (keeps : ∀ state, (call state).requestQueue = state.requestQueue)
    (step : ∀ served, (state.Held → served.Held) → TextStep world request served (call served)) :
    Reads world request state (state.served world call) ∧
      (state.served world call).requestQueue = state.requestQueue := by
  -- Tones may be taken before the call and after it, but not while the call holds the queue.
  obtain ⟨before, same, held⟩ := reads_dequeues world request (world.during state.log.length) state busy
    fun positive => ⟨_, positive⟩
  have kept := (keeps (state.serve world)).trans same
  obtain ⟨after, same', -⟩ := reads_dequeues world request _ (call (state.serve world)) (kept ▸ busy)
    fun positive => ⟨_, positive⟩
  exact ⟨(before.tail (step _ held)).trans after, same'.trans kept⟩

theorem setPttOn_requestQueue (state : State) : state.setPttOn.requestQueue = state.requestQueue := by
  obtain ⟨flag, devices, log, raised⟩ := setPttOn_eq state
  rw [raised]
  rfl

theorem setPttOn_held (state : State) : state.setPttOn.Held := by
  intro delayed
  unfold setPttOn at delayed ⊢
  split
  case isTrue raises => simp
  case isFalse blocked =>
    rw [if_neg blocked] at delayed
    simpa [delayed] using blocked

theorem reads_playSpeed (state : State) (busy : state.requestQueue.bytes ≠ []) :
    Reads world request state (state.playSpeed world) ∧
      (state.playSpeed world).requestQueue = state.requestQueue := by
  obtain ⟨reads, same⟩ := reads_served world request
    (·.cwSetSendSpeed (clampSpeed state.current.morseSpeed))
    (state.setMorseSpeed (clampSpeed state.current.morseSpeed)) busy (fun _ => rfl) fun _ _ => .sendSpeed _ _
  exact ⟨.head (.speed _ state) reads, same⟩

/-- A sign only changes the speed when another sign follows; the last one tells libcw. -/
theorem reads_speedSign (speed : Int) (more : Bool) (state : State) (busy : state.requestQueue.bytes ≠ []) :
    ∃ spoken : State,
      (if more = true then state.setMorseSpeed speed else (state.setMorseSpeed speed).playSpeed world) = spoken ∧
      Reads world request state spoken ∧ spoken.requestQueue = state.requestQueue := by
  split
  · exact ⟨_, rfl, .single (.speed speed state), rfl⟩
  · obtain ⟨reads, kept⟩ := reads_playSpeed world request (state.setMorseSpeed speed) busy
    exact ⟨_, rfl, .head (.speed speed state) reads, kept⟩

/-- The gap that a `~` set is taken back behind the character that it was set for. -/
theorem reads_lookAhead (lookAhead : Bool) (state : State) (busy : state.requestQueue.bytes ≠ []) :
    ∃ after : State, (if lookAhead then state.served world (·.cwSetGap 0) else state) = after ∧
      Reads world request state after ∧ after.requestQueue = state.requestQueue := by
  cases lookAhead with
  | false => exact ⟨_, rfl, .refl, rfl⟩
  | true =>
    obtain ⟨reads, kept⟩ := reads_served world request (·.cwSetGap 0) state busy (fun _ => rfl)
      fun _ _ => .setGap 0 _
    exact ⟨_, rfl, reads, kept⟩

theorem reads_playCharacter {front rest : Bytes} {char : UInt8} (state : State)
    (queue : state.requestQueue.bytes = front.map played ++ char :: rest) :
    Reads world request state (state.playCharacter world front.length char) ∧
      (state.playCharacter world front.length char).requestQueue.bytes =
        front.map played ++ played char :: rest := by
  have replaced : ∃ after : State, (if char = byte '*' then
        { state with requestQueue := state.requestQueue.poke front.length (byte '+') (by decide) }
      else state) = after ∧ Reads world request state after ∧
        after.requestQueue.bytes = front.map played ++ played char :: rest := by
    by_cases star : char = byte '*'
    · refine ⟨_, if_pos star, .single (.replace _ state), ?_⟩
      simp [queue, played, star]
    · refine ⟨_, if_neg star, .refl, ?_⟩
      simp [queue, played, star]
  obtain ⟨after, equal, reads, bytes⟩ := replaced
  have raised : after.setPttOn.requestQueue.bytes = front.map played ++ played char :: rest := by
    rw [setPttOn_requestQueue, bytes]
  have sent : ∃ sent : State, (if played char ≠ 0xff then
        after.setPttOn.served world (·.cwSendCharacter world (played char))
      else after.setPttOn) = sent ∧ Reads world request after.setPttOn sent ∧
        sent.requestQueue.bytes = front.map played ++ played char :: rest := by
    by_cases silent : played char = 0xff
    · exact ⟨_, if_neg (not_not.mpr silent), .refl, raised⟩
    · obtain ⟨reads, same⟩ := reads_served world request
        (·.cwSendCharacter world (played char)) after.setPttOn (by simp [raised]) (fun _ => rfl)
        fun sent held => .send _ sent (held (setPttOn_held after))
      exact ⟨_, if_pos silent, reads, same ▸ raised⟩
  obtain ⟨sentState, equal', reads', bytes'⟩ := sent
  obtain ⟨reads'', same''⟩ := reads_served world request cwGetGap sentState (by simp [bytes'])
    (fun _ => rfl) fun _ _ => .getGap _
  have whole : state.playCharacter world front.length char = sentState.served world cwGetGap := by
    rw [playCharacter, equal]
    exact congrArg (served world cwGetGap) equal'
  rw [whole]
  exact ⟨((reads.tail (.raise after)).trans reads').trans reads'', same'' ▸ bytes'⟩

/-- The loop, entered with `front` of the request already read, plays the rest of it
in steps of `TextStep`. -/
theorem reads_playLoop (text : Bytes) (lookAhead : Bool) (front : Bytes) (state : State)
    (split : request = front ++ text) (queue : state.requestQueue.bytes = front.map played ++ text)
    (read : lookAhead = true → front ≠ []) :
    Reads world request state (playLoop world lookAhead front.length text state) := by
  induction text generalizing lookAhead front state with
  | nil =>
    cases lookAhead with
    | false => exact .refl
    | true => exact (reads_served world request (·.cwSetGap 0) state (by simp [queue, read rfl]) (fun _ => rfl)
        fun _ _ => .setGap 0 _).1
  | cons char rest inductionHypothesis =>
    have busy : state.requestQueue.bytes ≠ [] := by simp [queue]
    -- Every branch but the caret goes on with the character in `front`, as it is played.
    have next (lookAhead : Bool) (after : State)
        (queue : after.requestQueue.bytes = front.map played ++ played char :: rest) :
        Reads world request after (playLoop world lookAhead (front.length + 1) rest after) := by
      have shifted := inductionHypothesis lookAhead (front ++ [char]) after (by simp [split])
        (by simp [queue]) (by simp)
      rwa [List.length_append, List.length_singleton] at shifted
    have same (unequal : char ≠ byte '*') : played char = char := if_neg unequal
    unfold playLoop
    by_cases skipped : (lookAhead && decide (char = byte '^')) = true
    · rw [if_pos skipped]
      -- Behind a character that was played with the gap of a `~`, a caret only keeps the gap.
      have caret : char = byte '^' := by simpa using (Bool.and_eq_true_iff.mp skipped).2
      exact next false state (by rw [same (by rw [caret]; decide), queue])
    · rw [if_neg skipped]
      obtain ⟨after, equal, reads, kept⟩ := reads_lookAhead world request lookAhead state busy
      have queue' : after.requestQueue.bytes = front.map played ++ char :: rest := kept ▸ queue
      have busy' : after.requestQueue.bytes ≠ [] := kept ▸ busy
      simp only [equal]
      refine reads.trans ?_
      split
      case isTrue sign =>
        have unequal : char ≠ byte '*' := by
          rintro rfl
          exact absurd sign (by decide)
        obtain ⟨spoken, equal', reads', kept'⟩ := reads_speedSign world request
          (after.current.morseSpeed + if char = byte '+' then 2 else -2) (rest.head?.any isSpeedSign) after busy'
        simp only [equal']
        exact reads'.trans (next false spoken (by rw [same unequal, kept', queue']))
      case isFalse =>
        split
        case isTrue tilde =>
          have unequal : char ≠ byte '*' := by
            rw [tilde]
            decide
          obtain ⟨reads', kept'⟩ := reads_served world request (·.cwSetGap 2) after busy' (fun _ => rfl)
            fun _ _ => .setGap 2 _
          exact reads'.trans (next false _ (by rw [same unequal, kept', queue']))
        case isFalse =>
          split
          case isTrue caret =>
            -- The loop ends here: the rest of the request is dropped.
            have cut : (after.requestQueue.cut front.length).bytes = front.map played := by
              simp [queue']
            simp only [cut]
            exact .single (.caret after front rest (caret ▸ split) (caret ▸ queue'))
          case isFalse =>
            obtain ⟨reads', bytes⟩ := reads_playCharacter world request after queue'
            exact reads'.trans (next _ _ bytes)

/-- Handling a text request that finds the request queue empty. -/
theorem receiveText_eq {state : State} (idle : state.requestQueue.bytes = []) (nulFree : 0 ∉ request)
    (fits : request.length < CWDAEMON_REQUEST_QUEUE_SIZE_MAX) :
    (state.requestQueue.append request).bytes = request ∧
      state.receiveText world request = (playLoop world false 0 request
        { state with requestQueue := state.requestQueue.append request }).clearRequestQueue := by
  have appended : (state.requestQueue.append request).bytes = request := by
    have := state.requestQueue.append_bytes_of_fits nulFree (by rw [idle]; simpa using fits)
    rwa [idle, List.nil_append] at this
  have room : request.length + state.requestQueue.bytes.length ≤ CWDAEMON_REQUEST_QUEUE_SIZE_MAX - 1 := by
    rw [idle]
    exact Nat.le_pred_of_lt fits
  refine ⟨appended, ?_⟩
  rw [receiveText, if_pos room, playRequest]
  simp only [appended]
  rfl

theorem reads_receiveText {state : State} (idle : state.requestQueue.bytes = []) (nulFree : 0 ∉ request)
    (fits : request.length < CWDAEMON_REQUEST_QUEUE_SIZE_MAX) :
    ∃ after : State,
      Reads world request { state with requestQueue := state.requestQueue.append request } after ∧
      (state.requestQueue.append request).bytes = request ∧
      state.receiveText world request = after.clearRequestQueue := by
  obtain ⟨appended, received⟩ := receiveText_eq world request idle nulFree fits
  exact ⟨_, reads_playLoop world request request false [] _ rfl (by simpa using appended) nofun,
    appended, received⟩

end Loop

end State

end Cwdaemon
