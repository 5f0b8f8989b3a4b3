import CloudSpace.Cloud.Space
import CloudSpace.Proofs.Task

/-!
# Clients of a server

What a client does depends on the server at the other end, of which nothing is known but that it
has a state: each request gets a reply and may change the state, and so may the time that passes
between requests. A session keeps the state together with the requests that were sent, so that a
task can be held to the requests it is allowed to send.
-/
namespace CloudSpace.Cloud

/-- A server, which is any way to reply. -/
structure Server (σ : Type) where
  reply : Request → σ → Reply × σ
  /-- What a number of milliseconds without requests change. -/
  pass : Nat → σ → σ

/-- The state of a server, and the requests that were sent to it, the first one first. -/
structure Session (σ : Type) where
  state : σ
  sent : List Request := []

variable {σ α β : Type}

namespace Server

def asked (server : Server σ) (request : Request) (session : Session σ) : Session σ :=
  { state := (server.reply request session.state).2, sent := session.sent ++ [request] }

def transport (server : Server σ) : Transport (StateM (Session σ)) where
  send request := fun session =>
    ((server.reply request session.state).1, server.asked request session)
  wait milliseconds := fun session =>
    ((), { session with state := server.pass milliseconds session.state })

end Server

/-! ### Requests that are allowed -/

/-- Some requests were sent since an earlier session, and all of them are allowed. -/
def Session.Grows (allowed : Request → Prop) (before after : Session σ) : Prop :=
  ∃ more, after.sent = before.sent ++ more ∧ ∀ request ∈ more, allowed request

namespace Session.Grows

variable {allowed : Request → Prop} {before middle after : Session σ}

theorem of_sent_eq (same : after.sent = before.sent) : Grows allowed before after :=
  ⟨[], by rw [same, List.append_nil], List.forall_mem_nil _⟩

/-- Where nothing is allowed, nothing was sent. -/
theorem sent_eq (grows : Grows (fun _ => False) before after) : after.sent = before.sent := by
  obtain ⟨more, sent, none⟩ := grows
  rw [sent, List.eq_nil_iff_forall_not_mem.mpr none, List.append_nil]

theorem refl (session : Session σ) : Grows allowed session session := of_sent_eq rfl

/-- What grows twice grows by all that was sent, first and later. -/
theorem trans (first : Grows allowed before middle) (second : Grows allowed middle after) :
    Grows allowed before after := by
  obtain ⟨early, sentEarly, allowedEarly⟩ := first
  obtain ⟨late, sentLate, allowedLate⟩ := second
  refine ⟨early ++ late, by rw [sentLate, sentEarly, List.append_assoc], ?_⟩
  exact List.forall_mem_append.mpr ⟨allowedEarly, allowedLate⟩

end Session.Grows

/-- An action after which the requests are the same as before. -/
def Silent (action : StateM (Session σ) α) : Prop :=
  ∀ session, (action.run session).2.sent = session.sent

namespace Silent

theorem pure (value : α) : Silent (Pure.pure value : StateM (Session σ) α) := fun _ => rfl

/-- Nothing is sent by two actions of which neither sends anything. -/
theorem bind {first : StateM (Session σ) α} {next : α → StateM (Session σ) β}
    (silent : Silent first) (rest : ∀ value, Silent (next value)) : Silent (first >>= next) := by
  intro before
  rw [StateT.run_bind]
  exact (rest _ _).trans (silent before)

theorem findM? {test : α → StateM (Session σ) Bool} (silent : ∀ item, Silent (test item))
    (items : List α) : Silent (items.findM? test) := by
  induction items with
  | nil => exact .pure none
  | cons item rest ih =>
    refine (silent item).bind fun found => ?_
    cases found with
    | true => exact .pure (some item)
    | false => exact ih

theorem forM {work : α → StateM (Session σ) PUnit} (silent : ∀ item, Silent (work item))
    (items : List α) : Silent (items.forM work) := by
  induction items with
  | nil => exact .pure _
  | cons item rest ih => exact (silent item).bind fun _ => ih

end Silent

/-- Whatever the state of the server, a task sends allowed requests only. -/
def Sends (allowed : Request → Prop) (task : Task (StateM (Session σ)) α) : Prop :=
  ∀ before, task.Leads before fun _ after => before.Grows allowed after

namespace Sends

variable {allowed : Request → Prop}

/-- Allowed requests only are sent by a task and what follows it, whatever the task comes to. -/
theorem bind {first : Task (StateM (Session σ)) α} {next : α → Task (StateM (Session σ)) β}
    (sends : Sends allowed first) (rest : ∀ value, Sends allowed (next value)) :
    Sends allowed (first >>= next) := by
  intro before
  refine (sends before).bind (fun _ _ grows => grows) fun value after grows => ?_
  exact (rest value after).imp fun _ _ further => grows.trans further

theorem pure (value : α) : Sends allowed (Pure.pure value : Task (StateM (Session σ)) α) :=
  fun before => Task.leads_pure (.refl before)

theorem throw (error : Error) :
    Sends allowed (MonadExcept.throw error : Task (StateM (Session σ)) α) :=
  fun before => Task.leads_throw (.refl before)

theorem warn (messages : List String) :
    Sends allowed (Task.warn messages : Task (StateM (Session σ)) Unit) :=
  fun before => Task.leads_warn (.refl before)

theorem lift (computed : Except Error α) :
    Sends allowed (liftM computed : Task (StateM (Session σ)) α) :=
  fun before => Task.leads_lift (.refl before)

/-- An action that is silent sends nothing at all, and so nothing that is not allowed. -/
theorem act {action : StateM (Session σ) α} (silent : Silent action) :
    Sends allowed (Task.act action) :=
  fun before => Task.leads_act (.of_sent_eq (silent before))

/-- What is attempted sends the same as without the attempt. -/
theorem attempt {task : Task (StateM (Session σ)) α} (sends : Sends allowed task) :
    Sends allowed task.attempt := by
  intro before
  refine (sends before).attempt.imp ?_
  rintro _ after ⟨_, _, grows⟩
  exact grows

theorem wrapError {task : Task (StateM (Session σ)) α} (wrap : Error → Error)
    (sends : Sends allowed task) : Sends allowed (task.wrapError wrap) := by
  refine sends.attempt.bind fun found => ?_
  cases found with
  | ok value => exact .pure value
  | error error => exact .throw _

theorem map {task : Task (StateM (Session σ)) α} (f : α → β) (sends : Sends allowed task) :
    Sends allowed (f <$> task) := by
  rw [map_eq_pure_bind]
  exact sends.bind fun value => .pure (f value)

/-- Working through some items sends what working on each of them sends. -/
theorem mapM {items : List α} {work : α → Task (StateM (Session σ)) β}
    (sends : ∀ item ∈ items, Sends allowed (work item)) : Sends allowed (items.mapM work) := by
  induction items with
  -- By induction on the items, since what one sends is followed by what the others send.
  | nil => exact .pure []
  | cons item rest ih =>
    rw [List.mapM_cons]
    refine (sends item List.mem_cons_self).bind fun first => ?_
    have later := ih fun other member => sends other (List.mem_cons_of_mem _ member)
    refine later.bind fun others => ?_
    exact .pure _

end Sends

/-! ### Clients -/

namespace Client

variable {server : Server σ} {client : Client (StateM (Session σ))} {allowed : Request → Prop}

/-- Sending an allowed request is sending nothing else. -/
theorem sends_send (reaches : client.transport = server.transport) {request : Request}
    (isAllowed : allowed request) :
    Sends allowed (Task.act (client.transport.send request)) := by
  intro before
  rw [reaches]
  exact Task.leads_act ⟨[request], rfl, List.forall_mem_singleton.mpr isAllowed⟩

theorem sends_wait (reaches : client.transport = server.transport) (milliseconds : Nat) :
    Sends allowed (Task.act (client.transport.wait milliseconds)) := by
  rw [reaches]
  exact .act fun _ => rfl

/-- However often a request is sent, it is the same request. -/
theorem sends_sendUpTo (reaches : client.transport = server.transport) {request : Request}
    (isAllowed : allowed request) (times : Nat) :
    Sends allowed (client.sendUpTo request times) := by
  induction times with
  | zero =>
    refine (sends_send reaches isAllowed).bind fun reply => ?_
    cases reply.outcome with
    | ok answer => exact .pure answer
    | error error => exact .throw error
  | succ left again =>
    refine (sends_send reaches isAllowed).bind fun reply => ?_
    cases reply.outcome with
    | ok answer => exact .pure answer
    | error error =>
      -- Waiting for the next attempt sends nothing.
      dsimp only
      split
      · exact (sends_wait reaches _).bind fun _ => again
      · exact .throw error

end Client

end CloudSpace.Cloud
