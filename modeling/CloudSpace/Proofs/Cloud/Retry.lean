import CloudSpace.Proofs.Cloud.Exchange
import Mathlib.Order.Bounds.Basic

/-!
# Requests that are sent again

How often a request is sent is up to the replies to it. A server that replies out of a sequence
that never ends, whatever it is asked, has every reply ready that a client could get. On it a
request is sent until a reply is no reason to send it again, three times at most, and the last
reply is what comes of it.
-/
namespace CloudSpace.Cloud

/-! ### What a reply means -/

namespace Reply

/-- There was no response, or too many requests were sent: the same request may succeed later. -/
def IsTransient : Reply → Prop
  | .response status _ _ _ => status = 429
  | .failure _ => True

instance : DecidablePred IsTransient
  | .response status _ _ _ => inferInstanceAs (Decidable (status = 429))
  | .failure _ => inferInstanceAs (Decidable True)

/-- The platform turned a request down for a reason of its own. -/
structure IsFault (status : Nat) : Prop where
  notLimited : status ≠ 429
  notRefused : ¬ (status = 401 ∨ status = 403)
  notFine : ¬ (200 ≤ status ∧ status < 300)

/-- The errors that a text lists, if it is a document with errors and there is one at least. -/
def Explains (body : String) (errors : List ApiError) : Prop :=
  ∃ content, Json.read? errorsReader.wanted body = some content ∧ errorsOf? content = some errors ∧
    errors ≠ []

/-- What comes of a request on its last reply. -/
inductive Means : Reply → Except Error Answer → Prop
  | success {status : Nat} {retryAfter location : Option String} {body : String}
      (fine : 200 ≤ status ∧ status < 300) :
      Means (.response status retryAfter location body) (.ok { body, location })
  | refused {status : Nat} {retryAfter location : Option String} {body : String}
      (refused : status = 401 ∨ status = 403) :
      Means (.response status retryAfter location body)
        (.error (.platform (.authentication "Invalid or expired access token")))
  | limited {retryAfter location : Option String} {body : String} :
      Means (.response 429 retryAfter location body)
        (.error (.platform (.rateLimited (secondsOf retryAfter))))
  | explained {status : Nat} {retryAfter location : Option String} {body : String}
      {errors : List ApiError} (fault : IsFault status) (explains : Explains body errors) :
      Means (.response status retryAfter location body) (.error (.platform (.request status
        ("; ".intercalate (errors.map fun error => s!"{error.title}: {error.detail}")))))
  | unexplained {status : Nat} {retryAfter location : Option String} {body : String}
      (fault : IsFault status) (unexplained : ∀ errors, ¬ Explains body errors) :
      Means (.response status retryAfter location body)
        (.error (.platform (.request status body)))
  | failure {reason : String} :
      Means (.failure reason) (.error (.platform (.network s!"Request failed: {reason}")))

theorem errorMessage_of_explains {body : String} {errors : List ApiError}
    (explains : Explains body errors) : errorMessage body =
      "; ".intercalate (errors.map fun error => s!"{error.title}: {error.detail}") := by
  obtain ⟨content, parsed, listed, any⟩ := explains
  obtain ⟨first, rest, rfl⟩ := List.exists_cons_of_ne_nil any
  have read : errorsReader.parse? body = some (first :: rest) :=
    Option.bind_eq_some_iff.mpr ⟨content, parsed, listed⟩
  rw [errorMessage, read]

theorem errorMessage_of_not_explains {body : String}
    (unexplained : ∀ errors, ¬ Explains body errors) : errorMessage body = body := by
  rw [errorMessage]
  split
  next first rest listed =>
    obtain ⟨content, parsed, listed⟩ := Option.bind_eq_some_iff.mp listed
    exact absurd ⟨content, parsed, listed, List.cons_ne_nil first rest⟩ (unexplained _)
  next => rfl

/-- What a reply means is what the client makes of it. -/
theorem means_iff {reply : Reply} {result : Except Error Answer} :
    reply.Means result ↔ reply.outcome = result := by
  constructor
  · -- The statuses exclude each other, so that the earlier branches are passed by.
    intro means
    cases means with
    | @success status _ _ _ fine =>
      have notRefused : ¬ (status = 401 ∨ status = 403) := by omega
      rw [outcome, if_neg (by omega), if_neg notRefused, if_pos fine]
    | refused refused => rw [outcome, if_neg (by omega), if_pos refused]
    | limited => rfl
    | explained fault explains =>
      rw [outcome, if_neg fault.notLimited, if_neg fault.notRefused, if_neg fault.notFine,
        errorMessage_of_explains explains]
    | unexplained fault unexplained =>
      rw [outcome, if_neg fault.notLimited, if_neg fault.notRefused, if_neg fault.notFine,
        errorMessage_of_not_explains unexplained]
    | failure => rfl
  · rintro rfl
    -- The other way round, a status that is none of the earlier ones falls through to the next.
    cases reply with
    | failure reason => exact .failure
    | response status retryAfter location body =>
      rw [outcome]
      split
      next limited =>
        subst limited
        exact .limited
      next notLimited =>
        split
        next refused => exact .refused refused
        next notRefused =>
          split
          next fine => exact .success fine
          next notFine =>
            have fault : IsFault status := ⟨notLimited, notRefused, notFine⟩
            by_cases explained : ∃ errors, Explains body errors
            · obtain ⟨errors, explains⟩ := explained
              rw [errorMessage_of_explains explains]
              exact .explained fault explains
            · have unexplained : ∀ errors, ¬ Explains body errors := not_exists.mp explained
              rw [errorMessage_of_not_explains unexplained]
              exact .unexplained fault unexplained

/-- The client sends a request again after the replies that are transient. -/
theorem isTransient_iff {reply : Reply} : reply.IsTransient ↔
    ∃ error, reply.outcome = .error error ∧ error.isRetryable = true := by
  -- Of all meanings only a limit and a failure are errors that may pass.
  have means : reply.Means reply.outcome := means_iff.mpr rfl
  generalize reply.outcome = result at means ⊢
  cases means with
  | success fine =>
    refine iff_of_false (fun limited : _ = 429 => by omega) ?_
    rintro ⟨_, ⟨⟩, _⟩
  | refused refused =>
    refine iff_of_false (fun limited : _ = 429 => by omega) ?_
    rintro ⟨_, ⟨⟩, ⟨⟩⟩
  | limited => exact iff_of_true rfl ⟨_, rfl, rfl⟩
  | explained fault _ | unexplained fault _ =>
    refine iff_of_false fault.notLimited ?_
    rintro ⟨_, ⟨⟩, ⟨⟩⟩
  | failure => exact iff_of_true trivial ⟨_, rfl, rfl⟩

end Reply

/-! ### Replies out of a sequence -/

/-- A server that gives one reply of a sequence after the other, whatever it is asked. -/
def Server.ofReplies (replies : Nat → Reply) : Server Nat where
  reply _ given := (replies given, given + 1)
  pass _ given := given

/-- The recording after so many more replies of a sequence to one request. -/
def Recording.sent (before : Recording Nat) (request : Request) (replies : Nat → Reply)
    (times : Nat) : Recording Nat where
  state := before.state + times
  exchanges := before.exchanges ++
    (List.range times).map fun i => ⟨request, replies (before.state + i)⟩

theorem Recording.sent_sent (before : Recording Nat) (request : Request) (replies : Nat → Reply)
    (first more : Nat) :
    (before.sent request replies first).sent request replies more =
      before.sent request replies (first + more) := by
  simp [sent, List.range_add, Nat.add_assoc, Function.comp_def]

namespace Client

variable {replies : Nat → Reply} {client : Client (StateM (Recording Nat))}

theorem leads_send_ofReplies (reaches : client.transport = (Server.ofReplies replies).recorder)
    (request : Request) (before : Recording Nat) :
    Task.Leads (Task.act (client.transport.send request)) before fun result after =>
      result = .ok (replies before.state) ∧ after = before.sent request replies 1 := by
  rw [reaches]
  exact Task.leads_act ⟨rfl, rfl⟩

theorem leads_wait_ofReplies (reaches : client.transport = (Server.ofReplies replies).recorder)
    (milliseconds : Nat) (before : Recording Nat) :
    Task.Leads (Task.act (client.transport.wait milliseconds)) before fun result after =>
      result = .ok () ∧ after = before := by
  rw [reaches]
  exact Task.leads_act ⟨rfl, rfl⟩

/-- A request is sent again after transient replies only, and after all of them while it may be. -/
theorem leads_sendUpTo_ofReplies (reaches : client.transport = (Server.ofReplies replies).recorder)
    (request : Request) (left : Nat) (before : Recording Nat) :
    ∃ again ≤ left, (∀ i < again, (replies (before.state + i)).IsTransient) ∧
      (again = left ∨ ¬ (replies (before.state + again)).IsTransient) ∧
      (client.sendUpTo request left).Leads before fun result after =>
        result = (replies (before.state + again)).outcome ∧
        after = before.sent request replies (again + 1) := by
  -- By induction on how often it may be sent again; each attempt takes one reply of the sequence.
  induction left generalizing before with
  | zero =>
    refine ⟨0, le_rfl, fun _ none => absurd none (Nat.not_lt_zero _), .inl rfl, ?_⟩
    refine (leads_send_ofReplies reaches request before).bind_ok ?_
    rintro _ rfl
    rw [Nat.add_zero]
    cases (replies before.state).outcome with
    | ok answer => exact Task.leads_pure ⟨rfl, rfl⟩
    | error error => exact Task.leads_throw ⟨rfl, rfl⟩
  | succ left ih =>
    -- A reply that may pass is followed by what the induction gives, one place further on.
    by_cases transient : (replies before.state).IsTransient
    · obtain ⟨error, failed, retryable⟩ := Reply.isTransient_iff.mp transient
      obtain ⟨again, within, passed, last, later⟩ := ih (before.sent request replies 1)
      have shift (i : Nat) :
          (before.sent request replies 1).state + i = before.state + (i + 1) := by
        simp only [Recording.sent]
        omega
      simp only [shift] at passed last later
      refine ⟨again + 1, Nat.succ_le_succ within, ?_, last.imp_left (congrArg Nat.succ), ?_⟩
      · intro i before
        cases i with
        | zero => exact transient
        | succ i => exact passed i (Nat.lt_of_succ_lt_succ before)
      · refine (leads_send_ofReplies reaches request before).bind_ok ?_
        rintro _ rfl
        rw [failed]
        simp only [retryable, ↓reduceIte]
        refine (leads_wait_ofReplies reaches _ _).bind_ok ?_
        rintro _ rfl
        rw [Recording.sent_sent, Nat.add_comm 1] at later
        exact later
    -- A reply that settles it is the last, however often it might be sent again.
    · refine ⟨0, Nat.zero_le _, fun _ none => absurd none (Nat.not_lt_zero _), .inr transient, ?_⟩
      refine (leads_send_ofReplies reaches request before).bind_ok ?_
      rintro _ rfl
      rw [Nat.add_zero]
      cases outcome : (replies before.state).outcome with
      | ok answer => exact Task.leads_pure ⟨rfl, rfl⟩
      | error error =>
        have final : ¬ error.isRetryable = true := fun retryable =>
          transient (Reply.isTransient_iff.mpr ⟨error, outcome, retryable⟩)
        simp only [final]
        exact Task.leads_throw ⟨rfl, rfl⟩

/-- Whatever the replies are, a request is sent as often as there are replies up to the first that
is not transient, and three times if that comes later; what the last reply means is the result. -/
theorem execute_exact (reaches : client.transport = (Server.ofReplies replies).recorder)
    (method : Method) (url : Url) (body : Option Body) (before : Recording Nat) :
    let next (i : Nat) : Reply := replies (before.state + i)
    ∃ times result, IsLeast (insert 3 {n | ∃ i, n = i + 1 ∧ ¬ (next i).IsTransient}) times ∧
      (∀ i, i + 1 < times → (next i).IsTransient) ∧
      (next (times - 1)).Means result ∧
      (client.execute method url body).runOn before =
        (result, before.sent { method, url, token := client.token, body } replies times) := by
  intro next
  obtain ⟨again, within, passed, last, leads⟩ := leads_sendUpTo_ofReplies reaches
    { method, url, token := client.token, body } (greatestAttempts - 1) before
  have within : again ≤ 2 := within
  have last : again = 2 ∨ ¬ (next again).IsTransient := last
  refine ⟨again + 1, _, ⟨?_, ?_⟩, ?_, Reply.means_iff.mpr rfl, ?_⟩
  -- As many replies are used as the request was sent again, and the first one.
  · exact last.imp (congrArg Nat.succ) fun settled => ⟨again, rfl, settled⟩
  · rintro n (rfl | ⟨i, rfl, settled⟩)
    · omega
    · have reached : ¬ i < again := fun earlier => settled (passed i earlier)
      omega
  · intro i earlier
    exact passed i (Nat.lt_of_succ_lt_succ earlier)
  · exact Prod.ext_iff.mpr leads.runOn

/-- A client of a server at hand. -/
def ofServer {σ : Type} (server : Server σ) : Client (StateM (Recording σ)) where
  transport := server.recorder
  base := { scheme := "http", host := some "localhost", place := .names [] }
  token := "token"
  environment := ∅

/-- A limit and a lost connection are got over, and the third reply counts. -/
theorem execute_third_reply :
    let replies : Nat → Reply
      | 0 => .response 429 (some "1") none ""
      | 1 => .failure "connection reset"
      | _ => .response 200 none none "done"
    let client := ofServer (Server.ofReplies replies)
    let request : Request := { method := .get, url := client.base, token := "token" }
    let before : Recording Nat := { state := 0 }
    client.transport = (Server.ofReplies replies).recorder ∧
      (client.execute .get client.base).runOn before =
        (.ok { body := "done", location := none }, before.sent request replies 3) := by
  intro replies client request before
  have reaches : client.transport = (Server.ofReplies replies).recorder := rfl
  refine ⟨reaches, ?_⟩
  obtain ⟨times, result, ⟨reached, least⟩, -, means, ran⟩ :=
    execute_exact reaches .get client.base none before
  have within : times ≤ 3 := least (Set.mem_insert _ _)
  -- Neither of the first two replies could have been the last.
  have third : times = 3 := by
    obtain rfl | ⟨i, rfl, settled⟩ := reached
    · rfl
    · match i with
      | 0 => exact absurd rfl settled
      | 1 => exact absurd trivial settled
      | i + 2 => omega
  subst third
  cases Reply.means_iff.mp means
  exact ran

end Client

end CloudSpace.Cloud
