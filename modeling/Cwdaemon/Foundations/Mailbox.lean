import Mathlib.Data.List.Basic

/-! # A server that owes one answer at a time

A server hears requests, prepares an answer for the client it has heard last, and sends
the answer that it has prepared.  It can keep only one: an answer that is prepared takes
the place of the one before, and an answer that is sent is gone.  What may be prepared
for a request, and how an answer is completed when it is sent, are parameters.

`Trace.sent` is what follows for the clients from these rules alone.
-/

namespace Mailbox

/-- What passes between the server and its clients. -/
inductive Mail (Client Request Text : Type) where
  | received (client : Client) (request : Request)
  | prepared (client : Client) (text : Text)
  | sent (client : Client) (reply : Text)
  deriving DecidableEq, Repr

variable {Client Request Text : Type}

def Mail.isReceived : Mail Client Request Text → Bool
  | .received _ _ => true
  | .prepared _ _ | .sent _ _ => false

/-- The request heard last and the answer that is owed. -/
structure Office (Client Request Text : Type) where
  latest : Option (Client × Request)
  pending : Option (Client × Text)

def Office.empty : Office Client Request Text := ⟨none, none⟩

variable (prepares : Request → Text → Prop) (completes : Text → Text → Prop)

inductive Step : Office Client Request Text → Mail Client Request Text → Office Client Request Text → Prop
  | receive {client : Client} {request : Request} {office : Office Client Request Text} :
      Step office (.received client request) { office with latest := some (client, request) }
  | prepare {client : Client} {request : Request} {text : Text} {office : Office Client Request Text}
      (asked : office.latest = some (client, request)) (prepared : prepares request text) :
      Step office (.prepared client text) { office with pending := some (client, text) }
  | send {client : Client} {text reply : Text} {office : Office Client Request Text}
      (owed : office.pending = some (client, text)) (completed : completes text reply) :
      Step office (.sent client reply) { office with pending := none }

inductive Trace : Office Client Request Text → List (Mail Client Request Text) → Office Client Request Text → Prop
  | nil (office : Office Client Request Text) : Trace office [] office
  | cons {first second last : Office Client Request Text} {mail : Mail Client Request Text}
      {mails : List (Mail Client Request Text)} (step : Step prepares completes first mail second)
      (rest : Trace second mails last) : Trace first (mail :: mails) last

namespace Trace

variable {prepares completes} {first second last : Office Client Request Text}
  {mails later : List (Mail Client Request Text)}

theorem single {mail : Mail Client Request Text} (step : Step prepares completes first mail last) :
    Trace prepares completes first [mail] last := .cons step (.nil last)

theorem append (earlier : Trace prepares completes first mails second)
    (rest : Trace prepares completes second later last) :
    Trace prepares completes first (mails ++ later) last := by
  induction earlier with
  | nil => exact rest
  | cons step _ inductionHypothesis => exact .cons step (inductionHypothesis rest)

/-- A trace can be cut in two anywhere. -/
theorem split (trace : Trace prepares completes first (mails ++ later) last) :
    ∃ middle, Trace prepares completes first mails middle ∧ Trace prepares completes middle later last := by
  induction mails generalizing first with
  | nil => exact ⟨first, .nil first, trace⟩
  | cons mail mails inductionHypothesis =>
    cases trace with
    | cons step rest =>
      obtain ⟨middle, earlier, later⟩ := inductionHypothesis rest
      exact ⟨middle, .cons step earlier, later⟩

/-- The request that was heard last is there from the start, or it is in the trace with
no other request behind it. -/
theorem latest {client : Client} {request : Request} (trace : Trace prepares completes first mails last)
    (asked : last.latest = some (client, request)) :
    (first.latest = some (client, request) ∧ ∀ mail ∈ mails, mail.isReceived = false) ∨
      ∃ before after, mails = before ++ .received client request :: after ∧
        ∀ mail ∈ after, mail.isReceived = false := by
  induction trace with
  | nil => exact .inl ⟨asked, by simp⟩
  | cons step _ inductionHypothesis =>
    rcases inductionHypothesis asked with ⟨asked, none⟩ | ⟨before, after, equal, none⟩
    · cases step with
      | receive =>
        -- The first mail is the request, as nothing behind it is one.
        cases asked
        exact .inr ⟨[], _, rfl, none⟩
      | prepare | send => exact .inl ⟨asked, by simpa [Mail.isReceived] using none⟩
    · exact .inr ⟨_ :: before, after, by rw [equal, List.cons_append], none⟩

/-- The answer that is owed is there from the start, or it was prepared in the trace, for
the request heard last at that time, and since then only requests have come. -/
theorem pending {client : Client} {text : Text} (trace : Trace prepares completes first mails last)
    (owed : last.pending = some (client, text)) :
    (first.pending = some (client, text) ∧ ∀ mail ∈ mails, mail.isReceived = true) ∨
      ∃ before after office request, mails = before ++ .prepared client text :: after ∧
        Trace prepares completes first before office ∧ office.latest = some (client, request) ∧
        prepares request text ∧ ∀ mail ∈ after, mail.isReceived = true := by
  induction trace with
  | nil => exact .inl ⟨owed, by simp⟩
  | cons step _ inductionHypothesis =>
    rcases inductionHypothesis owed with ⟨owed, only⟩ | ⟨before, after, office, request, equal, trace, rest⟩
    · cases step with
      | receive => exact .inl ⟨owed, by simpa [Mail.isReceived] using only⟩
      | prepare asked prepared =>
        cases owed
        exact .inr ⟨[], _, _, _, rfl, .nil _, asked, prepared, only⟩
      | send => cases owed
    · exact .inr ⟨_ :: before, after, office, request, by rw [equal, List.cons_append], .cons step trace, rest⟩

/-- Where nothing is prepared, no other answer comes to be owed. -/
theorem pending_of_unprepared (trace : Trace prepares completes first mails last)
    (unprepared : ∀ client text, .prepared client text ∉ mails) {client : Client} {text : Text}
    (owed : last.pending = some (client, text)) : first.pending = some (client, text) := by
  rcases trace.pending owed with ⟨owed, -⟩ | ⟨before, after, -, -, rfl, -⟩
  · exact owed
  · exact absurd (List.mem_append_right before List.mem_cons_self) (unprepared client text)

/-- Whatever is sent completes the text that was prepared last, is sent to the client it
was prepared for, on a request of this client, and is sent once: since the text was
prepared only requests have come. -/
theorem sent {client : Client} {reply : Text}
    (trace : Trace prepares completes .empty (mails ++ .sent client reply :: later) last) :
    ∃ earlier request middle text between,
      mails = earlier ++ .received client request :: middle ++ .prepared client text :: between ∧
      (∀ mail ∈ middle, mail.isReceived = false) ∧ (∀ mail ∈ between, mail.isReceived = true) ∧
      prepares request text ∧ completes text reply := by
  obtain ⟨office, before, rest⟩ := trace.split
  cases rest with
  | cons step _ =>
    cases step with
    | send owed completed =>
      rcases before.pending owed with ⟨nothing, -⟩ | ⟨earlier, between, office, request, equal, armed, asked, prepared, only⟩
      · cases nothing
      · rcases armed.latest asked with ⟨nobody, -⟩ | ⟨first, middle, equal', none⟩
        · cases nobody
        · exact ⟨first, request, middle, _, between, by rw [equal, equal'], none, only, prepared, completed⟩

end Trace

end Mailbox
