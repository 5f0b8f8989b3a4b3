import CloudSpace.Proofs.Cloud.Mutation
import CloudSpace.Proofs.Cloud.Retry
import Mathlib.Algebra.Order.BigOperators.Group.List
import Mathlib.Algebra.Order.Group.Nat

/-!
# Waiting for work

A change may be answered with the address of the work that it started. Poll by poll the client
asks there, until a poll decides what became of the work or there were so many that it gives up.
Whatever the server replies, there is no success but for work that is complete, and no more than a
fixed number of requests.
-/
namespace CloudSpace.Cloud

/-! ### Polls -/

/-- One poll for the state of work: the exchanges that there were, and what came of them. -/
structure Poll where
  exchanges : List Exchange
  outcome : Except Error Answer

/-- The work that a text tells of, if it does. -/
def Tells (body : String) (job : Job) : Prop :=
  ∃ content, Json.read? Job.reader.wanted body = some content ∧ Job.ofValue? content = some job

namespace Poll

/-- What became of the work, where a poll leaves nothing open. -/
inductive Decides : Poll → Except Error Unit → Prop
  | failed {exchanges : List Exchange} {error : Error} :
      Decides ⟨exchanges, .error error⟩ (.error error)
  | unreadable {exchanges : List Exchange} {answer : Answer}
      (noJob : ∀ job, ¬ Tells answer.body job) :
      Decides ⟨exchanges, .ok answer⟩
        (.error (.platform (.invalidResponse "Failed to parse job: unexpected content")))
  | complete {exchanges : List Exchange} {answer : Answer} {job : Job}
      (tells : Tells answer.body job) (complete : job.state = "COMPLETE") :
      Decides ⟨exchanges, .ok answer⟩ (.ok ())
  | unsuccessful {exchanges : List Exchange} {answer : Answer} {job : Job}
      (tells : Tells answer.body job) (failed : job.state = "FAILED") :
      Decides ⟨exchanges, .ok answer⟩ (.error (.platform (.request 422
        ("Job failed: " ++ "; ".intercalate (job.errors.map ApiError.detail)))))

/-- The work goes on, in whatever state that is neither of the last ones. -/
inductive IsUndecided : Poll → Prop
  | goesOn {exchanges : List Exchange} {answer : Answer} {job : Job}
      (tells : Tells answer.body job) (running : job.state ≠ "COMPLETE")
      (unfailed : job.state ≠ "FAILED") : IsUndecided ⟨exchanges, .ok answer⟩

end Poll

theorem Tells.unique {body : String} {job other : Job} (tells : Tells body job)
    (same : Tells body other) : job = other := by
  obtain ⟨content, parsed, read⟩ := tells
  obtain ⟨_, parsedAgain, readAgain⟩ := same
  cases parsed.symm.trans parsedAgain
  exact Option.some.inj (read.symm.trans readAgain)

theorem tells_iff {body : String} {job : Job} :
    Tells body job ↔ Job.reader.parse? body = some job :=
  Option.bind_eq_some_iff.symm

namespace Poll

variable {poll : Poll} {result : Except Error Unit}

theorem Decides.unique {other : Except Error Unit} (decides : poll.Decides result)
    (also : poll.Decides other) : result = other := by
  cases decides with
  | failed =>
    cases also
    rfl
  | unreadable noJob =>
    cases also with
    | unreadable => rfl
    | complete tells _ | unsuccessful tells _ => exact absurd tells (noJob _)
  | complete tells complete =>
    cases also with
    | unreadable noJob => exact absurd tells (noJob _)
    | complete => rfl
    -- The work would have to be complete and failed at once.
    | unsuccessful same failed =>
      cases tells.unique same
      exact absurd (complete.symm.trans failed) (by decide)
  | unsuccessful tells failed =>
    cases also with
    | unreadable noJob => exact absurd tells (noJob _)
    | complete same complete =>
      cases tells.unique same
      exact absurd (complete.symm.trans failed) (by decide)
    | unsuccessful same _ => rw [tells.unique same]

theorem IsUndecided.not_decides (undecided : poll.IsUndecided) : ¬ poll.Decides result := by
  intro decides
  cases undecided with
  | goesOn tells running unfailed =>
    cases decides with
    | unreadable noJob => exact noJob _ tells
    | complete same complete =>
      cases tells.unique same
      exact running complete
    | unsuccessful same failed =>
      cases tells.unique same
      exact unfailed failed

/-- An answer with an end decides, and an answer without one leaves the work undecided. -/
theorem jobResult?_spec (exchanges : List Exchange) (answer : Answer) :
    match Client.jobResult? answer.body with
    | some result => Decides ⟨exchanges, .ok answer⟩ result
    | none => IsUndecided ⟨exchanges, .ok answer⟩ := by
  rw [Client.jobResult?]
  cases read : Job.reader.parse? answer.body with
  | none =>
    refine .unreadable fun job tells => ?_
    cases read.symm.trans (tells_iff.mp tells)
  | some job =>
    -- The two last states are told apart by name; any other, known or not, means that work goes on.
    have tells : Tells answer.body job := tells_iff.mpr read
    dsimp only
    by_cases complete : job.state = "COMPLETE"
    · rw [if_pos complete]
      exact .complete tells complete
    · rw [if_neg complete]
      by_cases failed : job.state = "FAILED"
      · rw [if_pos failed]
        exact .unsuccessful tells failed
      · rw [if_neg failed]
        exact .goesOn tells complete failed

end Poll

/-! ### Polling -/

namespace Client

variable {m : Type → Type}

/-- Polls of an address up to the first that decides, or up to a limit without any that does. -/
structure Settles (client : Client m) (location : String) (url : Url) (limit : Nat)
    (polls : List Poll) (result : Except Error Unit) : Prop where
  asks : ∀ poll ∈ polls,
    Attempts (client.question url) (greatestAttempts - 1) poll.exchanges poll.outcome
  within : polls.length ≤ limit
  earlier : ∀ poll ∈ polls.dropLast, poll.IsUndecided
  ends : (∃ last, polls.getLast? = some last ∧ last.Decides result) ∨
    polls.length = limit ∧ (∀ poll ∈ polls, poll.IsUndecided) ∧
      result = .error (.platform (.network s!"Job {location} did not finish in time"))

namespace Settles

variable {client : Client m} {location : String} {url : Url} {limit : Nat} {polls : List Poll}
  {result : Except Error Unit}

/-- The first poll decides. -/
theorem single {poll : Poll} (asks : Attempts (client.question url) (greatestAttempts - 1)
    poll.exchanges poll.outcome) (decides : poll.Decides result) :
    client.Settles location url (limit + 1) [poll] result where
  asks := List.forall_mem_singleton.mpr asks
  within := Nat.succ_le_succ (Nat.zero_le limit)
  earlier := List.forall_mem_nil _
  ends := .inl ⟨poll, rfl, decides⟩

/-- The first poll does not decide, and there is one less to come. -/
theorem cons {poll : Poll} (asks : Attempts (client.question url) (greatestAttempts - 1)
    poll.exchanges poll.outcome) (undecided : poll.IsUndecided)
    (settles : client.Settles location url limit polls result) :
    client.Settles location url (limit + 1) (poll :: polls) result where
  asks := List.forall_mem_cons.mpr ⟨asks, settles.asks⟩
  within := Nat.succ_le_succ settles.within
  earlier := by
    cases polls with
    | nil => exact List.forall_mem_nil _
    | cons next rest => exact List.forall_mem_cons.mpr ⟨undecided, settles.earlier⟩
  ends := by
    obtain ⟨last, isLast, decides⟩ | ⟨all, others, late⟩ := settles.ends
    · refine .inl ⟨last, ?_, decides⟩
      rw [List.getLast?_cons, isLast, Option.getD_some]
    · exact .inr ⟨congrArg Nat.succ all, List.forall_mem_cons.mpr ⟨undecided, others⟩, late⟩

/-- There is success just where a poll says that the work is complete. -/
theorem ok_iff (settles : client.Settles location url limit polls result) :
    result = .ok () ↔ ∃ poll ∈ polls, poll.Decides (.ok ()) := by
  constructor
  · rintro rfl
    obtain ⟨last, isLast, decides⟩ | ⟨_, _, late⟩ := settles.ends
    · exact ⟨last, List.mem_of_getLast? isLast, decides⟩
    · exact nomatch late
  · -- A poll that decides is the last one, since the earlier ones leave the work undecided.
    rintro ⟨poll, member, decides⟩
    obtain ⟨last, isLast, decided⟩ | ⟨_, undecided, _⟩ := settles.ends
    · obtain ⟨earlier, rfl⟩ := List.getLast?_eq_some_iff.mp isLast
      obtain isEarlier | isLast := List.mem_append.mp member
      · have undecided := settles.earlier poll (by rwa [List.dropLast_concat])
        exact absurd decides undecided.not_decides
      · cases List.mem_singleton.mp isLast
        exact decided.unique decides
    · exact absurd decides (undecided poll member).not_decides

theorem length_le (settles : client.Settles location url limit polls result) :
    (polls.flatMap Poll.exchanges).length ≤ 3 * limit := by
  have each : ∀ asked ∈ polls.map fun poll => poll.exchanges.length, asked ≤ 3 := by
    refine List.forall_mem_map.mpr fun poll member => ?_
    exact (settles.asks poll member).length.2
  calc (polls.flatMap Poll.exchanges).length
      = (polls.map fun poll => poll.exchanges.length).sum := List.length_flatMap
    _ ≤ (polls.map fun poll => poll.exchanges.length).length • 3 :=
        List.sum_le_card_nsmul _ _ each
    _ = 3 * polls.length := by rw [List.length_map, Nat.nsmul_eq_mul, Nat.mul_comm]
    _ ≤ 3 * limit := Nat.mul_le_mul_left 3 settles.within

end Settles

variable {client : Client m} {location : String} {url : Url} {result : Except Error Unit}

theorem Polls.settles {limit : Nat} {asked : List Exchange}
    (polled : client.Polls location url limit asked result) :
    ∃ polls, asked = polls.flatMap Poll.exchanges ∧
      client.Settles location url limit polls result := by
  -- By induction on the polls, of which each but the last adds itself to those of the rest.
  induction polled with
  | late => exact ⟨[], rfl, List.forall_mem_nil _, le_rfl, List.forall_mem_nil _,
      .inr ⟨rfl, List.forall_mem_nil _, rfl⟩⟩
  | failed attempts =>
    exact ⟨[⟨_, _⟩], (List.append_nil _).symm, .single attempts .failed⟩
  | @ended _ asked answer _ attempts ends =>
    have decides := Poll.jobResult?_spec asked answer
    rw [ends] at decides
    exact ⟨[⟨_, _⟩], (List.append_nil _).symm, .single attempts decides⟩
  | @again _ asked _ answer _ attempts goesOn _ ih =>
    obtain ⟨polls, rfl, settles⟩ := ih
    have undecided := Poll.jobResult?_spec asked answer
    rw [goesOn] at undecided
    exact ⟨⟨_, _⟩ :: polls, rfl, .cons attempts undecided settles⟩

/-! ### Changes -/

/-- A location that leads to the state of work. -/
def LeadsToJob (location : String) : Prop := "/v3/jobs/".toList <:+: location.toList

theorem isJob_iff {location : String} : isJob location = true ↔ LeadsToJob location :=
  String.contains_string_iff

/-- How the work is waited for that a change has started, if it has started any. -/
structure Follows (client : Client m) (outcome : Except Error Answer) (polls : List Poll)
    (result : Except Error Unit) : Prop where
  failed : ∀ error, outcome = .error error → polls = [] ∧ result = .error error
  polled : ∀ answer location url, outcome = .ok answer → answer.location = some location →
    LeadsToJob location → Url.parse? location = some url →
    client.Settles location url 120 polls result ∧
      (result = .ok () ↔ ∃ poll ∈ polls, poll.Decides (.ok ()))
  /-- The work has no address, and nothing is known of it. -/
  lost : ∀ answer location, outcome = .ok answer → answer.location = some location →
    LeadsToJob location → Url.parse? location = none →
    polls = [] ∧ result = .error (.platform (.invalidResponse
      s!"Invalid job location {location}: not an address"))
  finished : ∀ answer, outcome = .ok answer →
    (∀ location, answer.location = some location → ¬ LeadsToJob location) →
    polls = [] ∧ result = .ok ()

theorem Submits.length_le {method : Method} {path : String} {body : Option Body}
    {attempts : List Exchange} {outcome : Except Error Answer}
    (submits : client.Submits method path body attempts outcome) : attempts.length ≤ 3 := by
  cases submits with
  | sent _ sent => exact sent.length.2
  | nowhere => exact Nat.zero_le 3

theorem Awaits.follows {outcome : Except Error Answer} {asked : List Exchange}
    (awaits : client.Awaits outcome asked result) :
    ∃ polls, asked = polls.flatMap Poll.exchanges ∧ client.Follows outcome polls result ∧
      asked.length ≤ 3 * 120 := by
  cases awaits with
  | failed =>
    refine ⟨[], rfl, ⟨?_, nofun, nofun, nofun⟩, Nat.zero_le _⟩
    rintro _ ⟨⟩
    exact ⟨rfl, rfl⟩
  -- Of the four ways to go on, the answer leaves this one: there is no work, and so no poll.
  | @done answer noJob =>
    have none (location : String) (located : answer.location = some location) :
        ¬ LeadsToJob location := fun leads =>
      Bool.eq_false_iff.mp (noJob location located) (isJob_iff.mpr leads)
    refine ⟨[], rfl, ⟨nofun, ?_, ?_, fun _ _ _ => ⟨rfl, rfl⟩⟩, Nat.zero_le _⟩
    · rintro _ location _ ⟨⟩ located leads
      exact absurd leads (none location located)
    · rintro _ location ⟨⟩ located leads
      exact absurd leads (none location located)
  -- Two locations of one answer are the same, so that this one has no address either.
  | lost located job nowhere =>
    refine ⟨[], rfl, ⟨nofun, ?_, ?_, ?_⟩, Nat.zero_le _⟩
    · rintro _ other url ⟨⟩ same _ address
      cases located.symm.trans same
      exact nomatch nowhere.symm.trans address
    · rintro _ other ⟨⟩ same _ _
      cases located.symm.trans same
      exact ⟨rfl, rfl⟩
    · rintro _ ⟨⟩ none
      exact absurd (isJob_iff.mp job) (none _ located)
  -- The work has an address, and what was polled there settles it.
  | polled located job address polled =>
    obtain ⟨polls, rfl, settles⟩ := polled.settles
    refine ⟨polls, rfl, ⟨nofun, ?_, ?_, ?_⟩, settles.length_le⟩
    · rintro _ other url ⟨⟩ same _ given
      cases located.symm.trans same
      cases address.symm.trans given
      exact ⟨settles, settles.ok_iff⟩
    · rintro _ other ⟨⟩ same _ nowhere
      cases located.symm.trans same
      exact nomatch address.symm.trans nowhere
    · rintro _ ⟨⟩ none
      exact absurd (isJob_iff.mp job) (none _ located)

variable {σ : Type} {server : Server σ}

/-- Whatever a server replies, a change is one request, which is sent up to three times, and no
more than a hundred and twenty polls for the work that it started. The first poll that decides is
the result, and an answer without the address of work is success. -/
theorem change_settles {client : Client (StateM (Recording σ))}
    (reaches : client.transport = server.recorder) (method : Method) (path : String)
    (body : Option Body) (before : Recording σ) :
    ∃ attempts outcome polls result after,
      (client.change method path body).runOn before = (result, after) ∧
      after.exchanges = before.exchanges ++ attempts ++ polls.flatMap Poll.exchanges ∧
      client.Submits method path body attempts outcome ∧ client.Follows outcome polls result ∧
      attempts.length + (polls.flatMap Poll.exchanges).length ≤ 3 + 3 * 120 := by
  cases ran : (client.change method path body).runOn before with
  | mk result after =>
    obtain ⟨_, added, attempts, outcome, asked, rfl, submits, awaits⟩ :=
      (converses_submission reaches method path body).of_runOn ran
    obtain ⟨polls, rfl, follows, few⟩ := awaits.follows
    refine ⟨attempts, outcome, polls, result, after, rfl, ?_, submits, follows, ?_⟩
    · rw [added, List.append_assoc]
    · exact Nat.add_le_add submits.length_le few

/-- Work that is accepted at once is waited for. -/
theorem leads_change_of_accepted {replies : Nat → Reply} {client : Client (StateM (Recording Nat))}
    (reaches : client.transport = (Server.ofReplies replies).recorder) {method : Method}
    {path : String} {body : Option Body} {url : Url} (address : client.urlOf path [] = .ok url)
    {answer : Answer} {before : Recording Nat}
    (accepted : (replies before.state).outcome = .ok answer) {location : String}
    (located : answer.location = some location) (job : LeadsToJob location)
    {post : Except Error Unit → Recording Nat → Prop}
    (waits : (client.waitFor location).Leads
      (before.sent { method, url, token := client.token, body } replies 1) post) :
    (client.change method path body).Leads before post := by
  have addressed : Task.Leads (liftM (client.urlOf path [])) before fun result after =>
      result = .ok url ∧ after = before := Task.leads_lift ⟨address, rfl⟩
  refine addressed.bind_ok fun after same => ?_
  rw [same]
  obtain ⟨again, -, passed, -, sends⟩ := leads_sendUpTo_ofReplies reaches
    { method, url, token := client.token, body } (greatestAttempts - 1) before
  -- The first reply is an answer, and nothing is sent again after that.
  have first : again = 0 := by
    refine Nat.eq_zero_of_not_pos fun later => ?_
    obtain ⟨error, failed, _⟩ := Reply.isTransient_iff.mp (passed 0 later)
    exact nomatch accepted.symm.trans failed
  subst first
  rw [Nat.add_zero, accepted] at sends
  refine sends.bind_ok ?_
  rintro _ rfl
  -- The answer leads to the work, and what is left is to wait for it.
  rw [located]
  simp only [isJob_iff.mpr job, ↓reduceIte]
  exact waits

/-- The work has an address at which there is no server, and the first poll decides. -/
theorem change_settles_unreached :
    let server := Server.ofReplies fun
      | 0 => .response 202 none (some "cf:/v3/jobs/1") ""
      | _ => .failure "URL scheme is not allowed"
    let client := ofServer server
    let lost : Error := .platform (.network "Request failed: URL scheme is not allowed")
    client.transport = server.recorder ∧ ∃ attempts outcome polls after,
      (client.change .delete "/v3/apps/1").runOn { state := 0 } = (.error lost, after) ∧
      after.exchanges = attempts ++ polls.flatMap Poll.exchanges ∧
      client.Submits .delete "/v3/apps/1" none attempts outcome ∧
      client.Follows outcome polls (.error lost) ∧
      attempts.length + (polls.flatMap Poll.exchanges).length ≤ 3 + 3 * 120 := by
  intro server client lost
  have reaches : client.transport = server.recorder := rfl
  let url : Url := { scheme := "cf", place := .names ["v3", "jobs", "1"] }
  have job : LeadsToJob "cf:/v3/jobs/1" := ⟨"cf:".toList, "1".toList, by decide⟩
  have parsed : Url.parse? "cf:/v3/jobs/1" = some url := by decide +kernel
  have waits (sent : Recording Nat) (sentOne : sent.state = 1) :
      (client.waitFor "cf:/v3/jobs/1").Leads sent fun result _ => result = .error lost := by
    obtain ⟨again, -, -, -, asks⟩ :=
      leads_sendUpTo_ofReplies reaches (client.question url) (greatestAttempts - 1) sent
    -- One poll is enough here, so the loop is opened once.
    have onePoll : greatestPolls = 119 + 1 := rfl
    rw [sentOne, Nat.add_comm] at asks
    rw [waitFor, parsed]
    dsimp only
    rw [onePoll, poll]
    refine asks.bind ?_ ?_
    · rintro _ _ ⟨⟨⟩, _⟩
      rfl
    · rintro _ _ ⟨⟨⟩, _⟩
  have fails : (client.change .delete "/v3/apps/1").Leads { state := 0 } fun result _ =>
      result = .error lost := leads_change_of_accepted reaches rfl rfl rfl job (waits _ rfl)
  -- The general theorem says how the change settles; that it fails has just been computed.
  obtain ⟨attempts, outcome, polls, result, after, ran, settles⟩ :=
    change_settles reaches .delete "/v3/apps/1" none { state := 0 }
  have same : result = .error lost := by
    rw [← fails.runOn, ran]
  subst same
  exact ⟨reaches, attempts, outcome, polls, after, ran, settles⟩

/-- A request that is taken fails nevertheless if the location of the work is no address. -/
theorem change_fails_without_address :
    let reply : Reply := .response 202 none (some "/v3/jobs/1") ""
    let client := ofServer (Server.ofReplies fun _ => reply)
    reply.Means (.ok { body := "", location := some "/v3/jobs/1" }) ∧
      LeadsToJob "/v3/jobs/1" ∧ Url.parse? "/v3/jobs/1" = none ∧
      ((client.change .delete "/v3/apps/1").runOn { state := 0 }).1 = .error (.platform
        (.invalidResponse "Invalid job location /v3/jobs/1: not an address")) ∧
      ((client.change .delete "/v3/apps/1").runOn { state := 0 }).1 ≠ .ok () := by
  intro reply client
  have reaches : client.transport = (Server.ofReplies fun _ => reply).recorder := rfl
  -- The location has a job's path, but without a host there is nowhere to ask.
  have job : LeadsToJob "/v3/jobs/1" := ⟨[], "1".toList, by decide⟩
  have nowhere : Url.parse? "/v3/jobs/1" = none := by decide +kernel
  have waits (sent : Recording Nat) : (client.waitFor "/v3/jobs/1").Leads sent fun result _ =>
      result = .error (.platform
        (.invalidResponse "Invalid job location /v3/jobs/1: not an address")) := by
    rw [waitFor, nowhere]
    exact Task.leads_throw rfl
  have fails : (client.change .delete "/v3/apps/1").Leads { state := 0 } fun result _ =>
      result = .error (.platform
        (.invalidResponse "Invalid job location /v3/jobs/1: not an address")) :=
    -- The change was accepted, so that its outcome is that of waiting.
    leads_change_of_accepted reaches rfl rfl rfl job (waits _)
  refine ⟨.success (by decide), job, nowhere, fails.runOn, ?_⟩
  rw [fails.runOn]
  intro same
  cases same

end Client

end CloudSpace.Cloud
