import CloudSpace.Proofs.Cloud.Exchange

/-!
# Work at the same time

A client asks for two things at once if neither needs the other. A script is work that can be left
after any of its actions and taken up again later, so that two scripts can take turns in every
order there is, and the two end when both have a value or as soon as one of them fails. What each
of them does is then the beginning of what it would do alone, for some server.
-/
namespace CloudSpace.Cloud

variable {m : Type → Type} {σ α β : Type}

/-- Work with a way to send requests that is still to be chosen. -/
inductive Script (α : Type) : Type
  | done (value : α)
  | send (request : Request) (next : Reply → Script α)
  | wait (milliseconds : Nat) (next : Script α)

/-- A server that gives the replies it is told to give. -/
def Server.replaying : Server (List Reply) where
  reply _
    | reply :: rest => (reply, rest)
    | [] => (.failure "", [])
  pass _ replies := replies

namespace Script

def bind : Script α → (α → Script β) → Script β
  | done value, next => next value
  | send request rest, next => .send request fun reply => (rest reply).bind next
  | wait milliseconds rest, next => .wait milliseconds (rest.bind next)

instance : Monad Script where
  pure := .done
  bind := bind

/-- Requests that are written down. -/
def transport : Transport Script where
  send request := .send request .done
  wait milliseconds := .wait milliseconds (.done ())

/-- Do what a script says. -/
def follow [Monad m] (transport : Transport m) : Script α → m α
  | done value => pure value
  | send request next => do (next (← transport.send request)).follow transport
  | wait milliseconds next => do
    transport.wait milliseconds
    next.follow transport

theorem follow_bind [Monad m] [LawfulMonad m] (transport : Transport m) (script : Script α)
    (next : α → Script β) :
    (script >>= next).follow transport =
      script.follow transport >>= fun value => (next value).follow transport := by
  induction script with
  | done value => exact (pure_bind value fun value => (next value).follow transport).symm
  | send request rest ih =>
    refine Eq.trans ?_ (bind_assoc ..).symm
    exact congrArg _ (funext ih)
  | wait milliseconds rest ih =>
    refine Eq.trans ?_ (bind_assoc ..).symm
    exact congrArg _ (funext fun _ => ih)

/-! ### Parts of a script -/

/-- What is left of a script after some exchanges, whatever the replies in them are. -/
inductive Goes : Script α → List Exchange → Script α → Prop
  | nil (script : Script α) : Goes script [] script
  | send {request : Request} {next : Reply → Script α} {reply : Reply}
      {exchanges : List Exchange} {final : Script α} (later : Goes (next reply) exchanges final) :
      Goes (.send request next) (⟨request, reply⟩ :: exchanges) final
  | wait {milliseconds : Nat} {next : Script α} {exchanges : List Exchange} {final : Script α}
      (later : Goes next exchanges final) : Goes (.wait milliseconds next) exchanges final

theorem Goes.trans {script middle final : Script α} {early late : List Exchange}
    (first : script.Goes early middle) (second : middle.Goes late final) :
    script.Goes (early ++ late) final := by
  induction first with
  | nil => exact second
  | send _ ih => exact .send (ih second)
  | wait _ ih => exact .wait (ih second)

/-- Every script comes to an end. -/
theorem exists_goes_done (script : Script α) :
    ∃ exchanges value, script.Goes exchanges (.done value) := by
  induction script with
  | done value => exact ⟨[], value, .nil _⟩
  | send request next ih =>
    obtain ⟨exchanges, value, goes⟩ := ih (.failure "")
    exact ⟨_, value, .send goes⟩
  | wait _ next ih =>
    obtain ⟨exchanges, value, goes⟩ := ih
    exact ⟨exchanges, value, .wait goes⟩

/-- Whatever a script goes through, some server brings it about. -/
theorem Goes.follow_replaying {script : Script α} {exchanges : List Exchange} {value : α}
    (goes : script.Goes exchanges (.done value)) (earlier : List Exchange) :
    (script.follow Server.replaying.recorder).run ⟨exchanges.map (·.reply), earlier⟩ =
      (value, ⟨[], earlier ++ exchanges⟩) := by
  generalize isDone : Script.done value = final at goes
  -- The replies that are left to give are those of the exchanges that are still to come.
  induction goes generalizing earlier with
  | nil =>
    subst isDone
    rw [List.append_nil]
    rfl
  | @send request next reply exchanges _ _ ih =>
    have later := ih (earlier ++ [⟨request, reply⟩]) isDone
    rw [List.append_assoc] at later
    exact later
  | wait _ ih => exact ih earlier isDone

/-! ### Two scripts -/

/-- The first action of a script, after which another script may have its turn. -/
def step? (transport : Transport (StateM σ)) : Script α → σ → Option (Script α × σ)
  | done _, _ => none
  | send request next, before =>
    let (reply, after) := (transport.send request).run before
    some (next reply, after)
  | wait milliseconds next, before => some (next, ((transport.wait milliseconds).run before).2)

/-- Two scripts take turns, in any order. They end with both values, or with the error of one of
them, and then nothing more of the other is done. -/
inductive Joins (transport : Transport (StateM σ)) : Script (Except Error α) →
    Script (Except Error β) → σ → Except Error (α × β) → σ → Prop
  | both {left : α} {right : β} {state : σ} :
      Joins transport (.done (.ok left)) (.done (.ok right)) state (.ok (left, right)) state
  | failsLeft {error : Error} {right : Script (Except Error β)} {state : σ} :
      Joins transport (.done (.error error)) right state (.error error) state
  | failsRight {left : Script (Except Error α)} {error : Error} {state : σ} :
      Joins transport left (.done (.error error)) state (.error error) state
  | left {left next : Script (Except Error α)} {right : Script (Except Error β)}
      {before middle after : σ} {result : Except Error (α × β)}
      (steps : left.step? transport before = some (next, middle))
      (later : Joins transport next right middle result after) :
      Joins transport left right before result after
  | right {left : Script (Except Error α)} {right next : Script (Except Error β)}
      {before middle after : σ} {result : Except Error (α × β)}
      (steps : right.step? transport before = some (next, middle))
      (later : Joins transport left next middle result after) :
      Joins transport left right before result after

section

variable {transport : Transport (StateM σ)} {left : Script (Except Error α)}
  {right : Script (Except Error β)} {before middle after : σ} {result : Except Error (α × β)}

/-- The first script may be followed to its end before the second has a turn. -/
theorem Joins.follow_left {found : Except Error α}
    (follows : (left.follow transport).run before = (found, middle))
    (later : Joins transport (.done found) right middle result after) :
    Joins transport left right before result after := by
  induction left generalizing before with
  | done value =>
    cases follows
    exact later
  | send request next ih => exact .left rfl (ih _ follows)
  | wait milliseconds next ih => exact .left rfl (ih follows)

theorem Joins.follow_right {found : Except Error β}
    (follows : (right.follow transport).run before = (found, middle))
    (later : Joins transport left (.done found) middle result after) :
    Joins transport left right before result after := by
  induction right generalizing before with
  | done value =>
    cases follows
    exact later
  | send request next ih => exact .right rfl (ih _ follows)
  | wait milliseconds next ih => exact .right rfl (ih follows)

end

end Script

/-- Two lists are mixed, each in its order. -/
inductive Mixes {ι : Type} : List ι → List ι → List ι → Prop
  | nil : Mixes [] [] []
  | left {item : ι} {left right mixed : List ι} (rest : Mixes left right mixed) :
      Mixes (item :: left) right (item :: mixed)
  | right {item : ι} {left right mixed : List ι} (rest : Mixes left right mixed) :
      Mixes left (item :: right) (item :: mixed)

namespace Mixes

variable {ι : Type} {left right mixed : List ι}

theorem append_left (mixes : Mixes left right mixed) (more : List ι) :
    Mixes (more ++ left) right (more ++ mixed) := by
  induction more with
  | nil => exact mixes
  | cons item rest ih => exact .left ih

theorem append_right (mixes : Mixes left right mixed) (more : List ι) :
    Mixes left (more ++ right) (more ++ mixed) := by
  induction more with
  | nil => exact mixes
  | cons item rest ih => exact .right ih

/-- What holds of two parts holds of whatever they are mixed to. -/
theorem forall_mem {holds : ι → Prop} (mixes : Mixes left right mixed)
    (ofLeft : ∀ item ∈ left, holds item) (ofRight : ∀ item ∈ right, holds item) :
    ∀ item ∈ mixed, holds item := by
  induction mixes with
  | nil => exact List.forall_mem_nil _
  | left _ ih =>
    rw [List.forall_mem_cons] at ofLeft ⊢
    exact ⟨ofLeft.1, ih ofLeft.2 ofRight⟩
  | right _ ih =>
    rw [List.forall_mem_cons] at ofRight ⊢
    exact ⟨ofRight.1, ih ofLeft ofRight.2⟩

end Mixes

namespace Script

/-- A step of a script is what its next question asks, or a pause without a question. -/
theorem goes_of_step? {server : Server σ} {script next : Script α} {before after : Recording σ}
    (steps : script.step? server.recorder before = some (next, after)) :
    ∃ exchanges, after.exchanges = before.exchanges ++ exchanges ∧
      ∀ later final, next.Goes later final → script.Goes (exchanges ++ later) final := by
  cases script with
  | done value => exact nomatch steps
  | send request rest =>
    cases steps
    exact ⟨[_], rfl, fun _ _ => .send⟩
  | wait milliseconds rest =>
    cases steps
    exact ⟨[], (List.append_nil _).symm, fun _ _ => .wait⟩

/-- What two scripts have come to, by what is left of each. -/
def Settle (left : Script (Except Error α)) (right : Script (Except Error β)) :
    Except Error (α × β) → Prop
  | .ok (foundLeft, foundRight) => left = .done (.ok foundLeft) ∧ right = .done (.ok foundRight)
  | .error error => left = .done (.error error) ∨ right = .done (.error error)

/-- The exchanges of two scripts are mixed of what each of them goes through. -/
theorem Joins.mixes {server : Server σ} {left : Script (Except Error α)}
    {right : Script (Except Error β)} {before after : Recording σ}
    {result : Except Error (α × β)}
    (joins : Joins server.recorder left right before result after) :
    ∃ mixed ofLeft ofRight lastLeft lastRight, after.exchanges = before.exchanges ++ mixed ∧
      Mixes ofLeft ofRight mixed ∧ left.Goes ofLeft lastLeft ∧ right.Goes ofRight lastRight ∧
      Settle lastLeft lastRight result := by
  -- A turn adds its exchange in front of what its own script goes through later.
  induction joins with
  | both => exact ⟨[], [], [], _, _, (List.append_nil _).symm, .nil, .nil _, .nil _, rfl, rfl⟩
  | failsLeft =>
    exact ⟨[], [], [], _, _, (List.append_nil _).symm, .nil, .nil _, .nil _, .inl rfl⟩
  | failsRight =>
    exact ⟨[], [], [], _, _, (List.append_nil _).symm, .nil, .nil _, .nil _, .inr rfl⟩
  | left steps _ ih =>
    obtain ⟨more, addedMore, goes⟩ := goes_of_step? steps
    obtain ⟨mixed, ofLeft, ofRight, _, _, added, mixes, goesLeft, goesRight, settle⟩ := ih
    refine ⟨more ++ mixed, more ++ ofLeft, ofRight, _, _, ?_, mixes.append_left more,
      goes _ _ goesLeft, goesRight, settle⟩
    rw [added, addedMore, List.append_assoc]
  | right steps _ ih =>
    obtain ⟨more, addedMore, goes⟩ := goes_of_step? steps
    obtain ⟨mixed, ofLeft, ofRight, _, _, added, mixes, goesLeft, goesRight, settle⟩ := ih
    refine ⟨more ++ mixed, ofLeft, more ++ ofRight, _, _, ?_, mixes.append_right more, goesLeft,
      goes _ _ goesRight, settle⟩
    rw [added, addedMore, List.append_assoc]

/-! ### Tasks -/

/-- The script of what becomes of a task. -/
def ofTask (task : Task Script α) : Script (Except Error α) := do
  return (← task.start).1

/-- A task whose requests are sent instead of being written down. -/
def followed [Monad m] (transport : Transport m) (task : Task Script α) : Task m α :=
  fun warnings => (task warnings).follow transport

theorem follow_ofTask (transport : Transport (StateM σ)) (task : Task Script α) (before : σ) :
    ((ofTask task).follow transport).run before = (followed transport task).runOn before := by
  rw [ofTask, follow_bind]
  rfl

/-- What a script goes through is what its task does with a server that replies like that. -/
theorem post_of_goes {task : Task Script α} {post : List Exchange → Except Error α → Prop}
    (converses : Converses (followed Server.replaying.recorder task) post)
    {exchanges : List Exchange} {result : Except Error α}
    (goes : (ofTask task).Goes exchanges (.done result)) : post exchanges result := by
  have ran : (followed Server.replaying.recorder task).runOn ⟨exchanges.map (·.reply), []⟩ =
      (result, ⟨[], exchanges⟩) := by
    rw [← follow_ofTask]
    exact goes.follow_replaying []
  obtain ⟨asked, added, holds⟩ := converses.of_runOn ran
  obtain rfl : exchanges = asked := added
  exact holds

section

variable [Monad m] [LawfulMonad m] {transport : Transport m}

theorem followed_bind (first : Task Script α) (next : α → Task Script β) :
    followed transport (first >>= next) =
      followed transport first >>= fun value => followed transport (next value) := by
  funext warnings
  refine (follow_bind transport (first warnings) _).trans (congrArg _ (funext fun ended => ?_))
  -- After an error nothing follows, and both sides stop.
  obtain ⟨_ | _, _⟩ := ended <;> rfl

theorem act_eq (action : m α) (warnings : List String) :
    Task.act action warnings = do return (.ok (← action), warnings) := by
  change (do
    let value ← action
    return (value, warnings)) >>= _ = _
  rw [bind_assoc]
  exact congrArg _ (funext fun value => pure_bind _ _)

theorem followed_attempt (task : Task Script α) :
    followed transport task.attempt = (followed transport task).attempt :=
  funext fun warnings => follow_bind transport (task warnings) _

theorem followed_send (request : Request) :
    followed transport (Task.act (Script.transport.send request)) =
      Task.act (transport.send request) :=
  funext fun warnings => (act_eq (transport.send request) warnings).symm

theorem followed_wait (milliseconds : Nat) :
    followed transport (Task.act (Script.transport.wait milliseconds)) =
      Task.act (transport.wait milliseconds) :=
  funext fun warnings => (act_eq (transport.wait milliseconds) warnings).symm

end

end Script

/-! ### Clients -/

/-- A client that only writes its requests down. -/
def Client.scripted (client : Client m) : Client Script where
  transport := Script.transport
  base := client.base
  token := client.token
  environment := client.environment

variable [Monad m] [LawfulMonad m]

/-- A client sends the requests that are written down. -/
theorem Client.followed_sendUpTo (client : Client m) (request : Request) (times : Nat) :
    Script.followed client.transport (client.scripted.sendUpTo request times) =
      client.sendUpTo request times := by
  -- By induction on how often the request may be sent again.
  induction times with
  | zero =>
    rw [sendUpTo, Script.followed_bind]
    refine congr (congrArg _ (Script.followed_send request)) (funext fun reply => ?_)
    cases reply.outcome <;> rfl
  | succ left ih =>
    rw [sendUpTo, Script.followed_bind]
    refine congr (congrArg _ (Script.followed_send request)) (funext fun reply => ?_)
    cases reply.outcome with
    | ok answer => rfl
    | error error =>
      dsimp only
      split
      -- Only here is there anything more to follow, a pause and the attempts that are left.
      next =>
        rw [Script.followed_bind]
        exact congr (congrArg _ (Script.followed_wait _)) (funext fun _ => ih)
      next => rfl

end CloudSpace.Cloud
