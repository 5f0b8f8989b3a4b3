import CloudSpace.Proofs.Cloud.Server

/-!
# Conversations with a server

What a client can know of a server are the replies to its requests. A recording keeps both, and
with it a task is held to the conversation it has: what a request comes to that is sent again while
that may help, and how the work that it started is waited for.
-/
namespace CloudSpace.Cloud

/-- A request with the reply to it. -/
structure Exchange where
  request : Request
  reply : Reply

/-- The state of a server, and the exchanges there were with it, the first one first. -/
structure Recording (σ : Type) where
  state : σ
  exchanges : List Exchange := []

variable {σ α β : Type}

/-- A way to send requests to a server that keeps every exchange. -/
def Server.recorder (server : Server σ) : Transport (StateM (Recording σ)) where
  send request := fun recording =>
    let (reply, state) := server.reply request recording.state
    (reply, { state, exchanges := recording.exchanges ++ [⟨request, reply⟩] })
  wait milliseconds := fun recording =>
    ((), { recording with state := server.pass milliseconds recording.state })

/-- Whatever the state of the server, something holds of the exchanges that a task has with it and
of the result. -/
def Converses (task : Task (StateM (Recording σ)) α)
    (post : List Exchange → Except Error α → Prop) : Prop :=
  ∀ before, task.Leads before fun result after =>
    ∃ exchanges, after.exchanges = before.exchanges ++ exchanges ∧ post exchanges result

namespace Converses

variable {post : List Exchange → Except Error α → Prop}

/-- What a conversation comes to may be told in weaker terms. -/
theorem imp {weaker : List Exchange → Except Error α → Prop}
    {task : Task (StateM (Recording σ)) α} (converses : Converses task post)
    (implies : ∀ exchanges result, post exchanges result → weaker exchanges result) :
    Converses task weaker := by
  intro before
  refine (converses before).imp ?_
  rintro result after ⟨exchanges, added, holds⟩
  exact ⟨exchanges, added, implies exchanges result holds⟩

theorem of_runOn {task : Task (StateM (Recording σ)) α} (converses : Converses task post)
    {before after : Recording σ} {result : Except Error α}
    (ran : task.runOn before = (result, after)) :
    ∃ exchanges, after.exchanges = before.exchanges ++ exchanges ∧ post exchanges result := by
  have holds := (converses before).runOn
  rw [ran] at holds
  exact holds

theorem pure {value : α} (holds : post [] (.ok value)) :
    Converses (Pure.pure value : Task (StateM (Recording σ)) α) post :=
  fun _ => Task.leads_pure ⟨[], (List.append_nil _).symm, holds⟩

theorem throw {error : Error} (holds : post [] (.error error)) :
    Converses (MonadExcept.throw error : Task (StateM (Recording σ)) α) post :=
  fun _ => Task.leads_throw ⟨[], (List.append_nil _).symm, holds⟩

theorem lift {computed : Except Error α} (holds : post [] computed) :
    Converses (liftM computed : Task (StateM (Recording σ)) α) post :=
  fun _ => Task.leads_lift ⟨[], (List.append_nil _).symm, holds⟩

/-- A conversation goes on with what was found, and its exchanges follow those that were before. -/
theorem bind {first : Task (StateM (Recording σ)) α}
    {next : α → Task (StateM (Recording σ)) β} {goal : List Exchange → Except Error β → Prop}
    (converses : Converses first post)
    (fails : ∀ exchanges error, post exchanges (.error error) → goal exchanges (.error error))
    (rest : ∀ exchanges value, post exchanges (.ok value) →
      Converses (next value) fun more result => goal (exchanges ++ more) result) :
    Converses (first >>= next) goal := by
  intro before
  -- The second conversation begins when the first has a value, and its exchanges come after.
  refine (converses before).bind ?_ ?_
  · rintro error after ⟨exchanges, added, holds⟩
    exact ⟨exchanges, added, fails exchanges error holds⟩
  · rintro value middle ⟨exchanges, added, holds⟩
    refine ((rest exchanges value holds) middle).imp ?_
    rintro result after ⟨more, addedMore, reached⟩
    exact ⟨exchanges ++ more, by rw [addedMore, added, List.append_assoc], reached⟩

/-- A conversation that always ends with a value goes on with what is known of it. -/
theorem bind_found {first : Task (StateM (Recording σ)) α}
    {next : α → Task (StateM (Recording σ)) β} {middle : List Exchange → α → Prop}
    {goal : List Exchange → Except Error β → Prop}
    (converses : Converses first fun exchanges result =>
      ∃ value, result = .ok value ∧ middle exchanges value)
    (rest : ∀ exchanges value, middle exchanges value →
      Converses (next value) fun more result => goal (exchanges ++ more) result) :
    Converses (first >>= next) goal := by
  refine converses.bind ?_ ?_
  · rintro exchanges error ⟨_, ⟨⟩, _⟩
  · rintro exchanges value ⟨_, ⟨⟩, holds⟩
    exact rest exchanges value holds

/-- An attempt always ends with something, and asks for it in the same way. -/
theorem attempt {task : Task (StateM (Recording σ)) α} (converses : Converses task post) :
    Converses task.attempt fun exchanges result =>
      ∃ found, result = .ok found ∧ post exchanges found := by
  intro before
  refine (converses before).attempt.imp ?_
  rintro _ after ⟨found, rfl, exchanges, added, holds⟩
  exact ⟨exchanges, added, found, rfl, holds⟩

/-- An error that is wrapped comes of the same exchanges. -/
theorem wrapError {task : Task (StateM (Recording σ)) α} (wrap : Error → Error)
    (converses : Converses task post) :
    Converses (task.wrapError wrap) fun exchanges result =>
      ∃ found, post exchanges found ∧ result = found.mapError wrap := by
  refine converses.attempt.bind_found fun exchanges found holds => ?_
  rw [← List.append_nil exchanges] at holds
  cases found with
  | ok value => exact .pure ⟨_, holds, rfl⟩
  | error error => exact .throw ⟨_, holds, rfl⟩

theorem warn {post : List Exchange → Except Error Unit → Prop} {messages : List String}
    (holds : post [] (.ok ())) :
    Converses (Task.warn messages : Task (StateM (Recording σ)) Unit) post :=
  fun _ => Task.leads_warn ⟨[], (List.append_nil _).symm, holds⟩

/-- What is computed without a question is gone on with. -/
theorem bind_lift {computed : Except Error α} {value : α}
    {next : α → Task (StateM (Recording σ)) β} {goal : List Exchange → Except Error β → Prop}
    (same : computed = .ok value) (rest : Converses (next value) goal) :
    Converses (liftM computed >>= next) goal := by
  have known : Converses (liftM computed : Task (StateM (Recording σ)) α) fun exchanges result =>
      exchanges = [] ∧ result = .ok value := .lift ⟨rfl, same⟩
  refine known.bind (fun _ _ ⟨_, same⟩ => nomatch same) ?_
  rintro _ _ ⟨rfl, ⟨⟩⟩
  exact rest

/-- What fails without a question is not gone on with. -/
theorem bind_thrown {computed : Except Error α} {error : Error}
    {next : α → Task (StateM (Recording σ)) β} {goal : List Exchange → Except Error β → Prop}
    (same : computed = .error error) (holds : goal [] (.error error)) :
    Converses (liftM computed >>= next) goal := by
  have known : Converses (liftM computed : Task (StateM (Recording σ)) α) fun exchanges result =>
      exchanges = [] ∧ result = .error error := .lift ⟨rfl, same⟩
  refine known.bind ?_ fun _ _ ⟨_, same⟩ => nomatch same
  rintro _ _ ⟨rfl, ⟨⟩⟩
  exact holds

end Converses

/-! ### Attempts -/

/-- What comes of a request that is sent again up to a number of times: each reply but the last is
an error that may pass, and the last counts. -/
inductive Attempts (request : Request) : Nat → List Exchange → Except Error Answer → Prop
  | last {left : Nat} {reply : Reply}
      (final : ∀ error, reply.outcome = .error error → error.isRetryable = true → left = 0) :
      Attempts request left [⟨request, reply⟩] reply.outcome
  | again {left : Nat} {reply : Reply} {error : Error} {rest : List Exchange}
      {outcome : Except Error Answer} (failed : reply.outcome = .error error)
      (retryable : error.isRetryable = true) (later : Attempts request left rest outcome) :
      Attempts request (left + 1) (⟨request, reply⟩ :: rest) outcome

namespace Attempts

variable {request : Request} {left : Nat} {exchanges : List Exchange}
  {outcome : Except Error Answer}

theorem requests (attempts : Attempts request left exchanges outcome) :
    ∀ exchange ∈ exchanges, exchange.request = request := by
  induction attempts with
  | last => exact List.forall_mem_singleton.mpr rfl
  | again _ _ _ ih => exact List.forall_mem_cons.mpr ⟨rfl, ih⟩

theorem length (attempts : Attempts request left exchanges outcome) :
    0 < exchanges.length ∧ exchanges.length ≤ left + 1 := by
  induction attempts with
  | last => simp
  | again _ _ _ ih => simpa using ih.2

end Attempts

namespace Client

variable {server : Server σ} {client : Client (StateM (Recording σ))}

theorem converses_send (reaches : client.transport = server.recorder) (request : Request) :
    Converses (Task.act (client.transport.send request)) fun exchanges result =>
      ∃ reply, result = .ok reply ∧ exchanges = [⟨request, reply⟩] := by
  intro before
  rw [reaches]
  exact Task.leads_act ⟨[_], rfl, _, rfl, rfl⟩

theorem converses_wait (reaches : client.transport = server.recorder) (milliseconds : Nat) :
    Converses (Task.act (client.transport.wait milliseconds)) fun exchanges result =>
      result = .ok () ∧ exchanges = [] := by
  intro before
  rw [reaches]
  exact Task.leads_act ⟨[], (List.append_nil _).symm, rfl, rfl⟩

/-- Whatever a server replies, a request is sent again only after an error that may pass. -/
theorem converses_sendUpTo (reaches : client.transport = server.recorder) (request : Request)
    (times : Nat) : Converses (client.sendUpTo request times) (Attempts request times) := by
  -- By induction on the attempts that are left after this one.
  induction times with
  | zero =>
    refine (converses_send reaches request).bind_found ?_
    rintro _ reply rfl
    have attempts : Attempts request 0 [⟨request, reply⟩] reply.outcome := .last fun _ _ _ => rfl
    cases outcome : reply.outcome with
    | ok answer => exact .pure (outcome ▸ attempts)
    | error error => exact .throw (outcome ▸ attempts)
  | succ left again =>
    refine (converses_send reaches request).bind_found ?_
    rintro _ reply rfl
    cases outcome : reply.outcome with
    | ok answer =>
      have attempts : Attempts request (left + 1) [⟨request, reply⟩] reply.outcome :=
        .last fun error failed => nomatch outcome.symm.trans failed
      exact .pure (outcome ▸ attempts)
    | error error =>
      dsimp only
      split
      -- Only an error that may pass is followed by another attempt, after a pause.
      next retryable =>
        refine (converses_wait reaches _).bind (fun _ _ ⟨same, _⟩ => nomatch same) ?_
        rintro _ _ ⟨-, rfl⟩
        exact again.imp fun exchanges result later => .again outcome retryable later
      next final =>
        have attempts : Attempts request (left + 1) [⟨request, reply⟩] reply.outcome :=
          .last fun other failed retryable => by
            cases outcome.symm.trans failed
            exact absurd retryable final
        exact .throw (outcome ▸ attempts)

end Client

end CloudSpace.Cloud
