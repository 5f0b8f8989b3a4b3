import CloudSpace.Program
import CloudSpace.Proofs.Cloud.Reading

/-!
# What a run sends

A world is everything around a run: files, somebody who types, and a platform that replies, all of
which may change with every action. Whatever the world is like, a run sends no request before its
document is loaded, free of problems, and complete with a target and a token. From there on a
command that only looks, or whose plan is declined, sends requests that read and no others.
-/
namespace CloudSpace

open Cloud

variable {σ α : Type}

/-- What a run finds around it. -/
structure World (σ : Type) extends Server σ where
  environment : Environment
  terminal : Bool
  entryAt? : String → σ → Option Entry × σ
  now : σ → Report.Moment × σ
  newName : σ → String × σ
  print : String → σ → σ
  tell : String → σ → σ
  log : String → σ → σ
  /-- The line that is typed when there is a question, unless it is no text. -/
  line : Option String

namespace World

/-- An action without requests. -/
def silently (action : σ → α × σ) : StateM (Session σ) α := fun session =>
  ((action session.state).1, { session with state := (action session.state).2 })

/-- The host that a world is, which keeps the requests. -/
def host (world : World σ) : Host (StateM (Session σ)) where
  environment := world.environment
  terminal := world.terminal
  entryAt? path := silently (world.entryAt? path)
  transport := world.transport
  now := silently world.now
  newName := silently world.newName
  print text := silently fun state => ((), world.print text state)
  tell text := silently fun state => ((), world.tell text state)
  log warning := silently fun state => ((), world.log warning state)
  ask := silently fun state => (world.line, state)

/-- What is typed does not approve of anything. -/
def Declines (world : World σ) : Prop :=
  ∀ line, world.line = some line → Text.trim line ≠ "y" ∧ Text.trim line ≠ "Y"

end World

/-- A document that a platform can be reached for. -/
structure Loaded.Ready (loaded : Loaded) : Prop where
  valid : ∃ cautions, loaded.document.validate = .ok cautions
  targeted : ∃ target, loaded.document.target = some target
  authorized : ∃ token, loaded.environment.accessToken = .ok token

/-! ### Actions without requests -/

namespace World

theorem silent_silently (action : σ → α × σ) : Silent (silently action) := fun _ => rfl

variable {world : World σ}

theorem silent_entryAt? (path : String) : Silent (world.host.entryAt? path) :=
  silent_silently _

theorem silent_print (text : String) : Silent (world.host.print text) := silent_silently _

theorem silent_tell (text : String) : Silent (world.host.tell text) := silent_silently _

theorem silent_log (warning : String) : Silent (world.host.log warning) := silent_silently _

end World

open World

namespace Host

variable {world : World σ} {allowed : Cloud.Request → Prop}

/-! ### Loading -/

theorem sends_locate (config : Option String) : Sends allowed (world.host.locate config) := by
  cases config with
  | some path => exact .pure path
  | none =>
    refine (Sends.act (.findM? (fun path => ?_) _)).bind fun found => .lift _
    exact (silent_entryAt? path).bind fun entry => .pure _

theorem sends_load (config : Option String) : Sends allowed (world.host.load config) := by
  refine (sends_locate config).bind fun path => ?_
  refine (Sends.act (silent_entryAt? _)).bind fun settings => ?_
  dsimp only
  split
  · exact .throw _
  · refine (Sends.act (silent_entryAt? _)).bind fun entry => ?_
    exact (Sends.lift _).bind fun document => .pure _

/-! ### Reaching a platform -/

/-- What a document lacks is missed before anything is sent. -/
theorem leads_reach_of_not_ready {loaded : Loaded} (unready : ¬ loaded.Ready)
    (before : Session σ) :
    (world.host.reach loaded).Leads before fun result after =>
      (∃ error, result = .error error) ∧ after = before := by
  -- The document is validated, then it names a target, then the token is looked for.
  have validated : Task.Leads (liftM loaded.document.validate) before fun result after =>
      loaded.document.validate = result ∧ after = before := Task.leads_lift ⟨rfl, rfl⟩
  refine validated.bind (fun error after failed => ⟨⟨error, rfl⟩, failed.2⟩) ?_
  rintro cautions after ⟨passed, rfl⟩
  cases targeted : loaded.document.target with
  | none => exact Task.leads_throw ⟨⟨_, rfl⟩, rfl⟩
  | some target =>
    have authorized : Task.Leads (liftM loaded.environment.accessToken) after fun result last =>
        loaded.environment.accessToken = result ∧ last = after := Task.leads_lift ⟨rfl, rfl⟩
    refine authorized.bind (fun error last failed => ⟨⟨error, rfl⟩, failed.2⟩) ?_
    rintro token last ⟨found, -⟩
    -- Having passed all three is what being ready means.
    exact absurd ⟨⟨cautions, passed⟩, ⟨target, targeted⟩, ⟨token, found⟩⟩ unready

/-- Reaching a platform only reads, and so does fetching from the platform that is reached. -/
theorem leads_reach (loaded : Loaded) (before : Session σ) :
    (world.host.reach loaded).Leads before fun result after =>
      before.Grows Cloud.Request.Reads after ∧
        ∀ platform, result = .ok platform → platform.Fetches Cloud.Request.Reads := by
  refine ((Sends.lift loaded.document.validate) before).bind
    (fun error after grows => ⟨grows, fun _ same => nomatch same⟩) fun cautions first grows => ?_
  cases loaded.document.target with
  | none => exact Task.leads_throw ⟨grows, fun _ same => nomatch same⟩
  | some target =>
    refine ((Sends.lift loaded.environment.accessToken) first).bind
      (fun error after more => ⟨grows.trans more, fun _ same => nomatch same⟩)
      fun token second more => ?_
    -- Nothing has been sent up to here; the client then looks up the organization and the space.
    have early := grows.trans more
    refine (leads_connect world.toServer loaded.environment target token second).bind
      (fun error after ⟨late, _⟩ => ⟨early.trans late, fun _ same => nomatch same⟩)
      fun client after ⟨late, reaches⟩ => ?_
    refine Task.leads_pure ⟨early.trans late, ?_⟩
    rintro platform ⟨⟩
    exact Platform.fetches_of_reaches (reaches client rfl)

/-- What is done with a platform that is reached may fetch from it. -/
theorem sends_of_reach {loaded : Loaded} {next : Platform (StateM (Session σ)) →
    Task (StateM (Session σ)) α}
    (rest : ∀ platform, platform.Fetches Cloud.Request.Reads →
      Sends Cloud.Request.Reads (next platform)) :
    Sends Cloud.Request.Reads (world.host.reach loaded >>= next) := by
  intro before
  refine (leads_reach loaded before).bind (fun _ _ reached => reached.1) ?_
  rintro platform middle ⟨grows, fetches⟩
  exact ((rest platform (fetches platform rfl)) middle).imp fun _ _ more => grows.trans more

/-! ### Commands -/

theorem sends_report (text : String) : Sends allowed (world.host.report text) :=
  .act (silent_print _)

theorem sends_validate (writer : Writer) (document : Document) (showCautions : Bool) :
    Sends allowed (world.host.validate writer document showCautions) :=
  (sends_report _).bind fun _ => (Sends.lift _).bind fun _ => .pure _

section

variable {platform : Platform (StateM (Session σ))} (fetches : platform.Fetches allowed)
  (writer : Writer) (spec : Spec) (kinds : List EntityKind)

include fetches

theorem sends_diff : Sends allowed (world.host.diff writer platform spec kinds) := by
  have each : ∀ kind, Sends allowed
      (do return (← platform.diff spec kind).map (kind, ·)) := fun kind =>
    (fetches.diff spec kind).bind fun changes => .pure _
  exact (Sends.mapM fun kind _ => each kind).bind fun _ => sends_report _

theorem sends_plan : Sends allowed (world.host.plan writer platform spec kinds) :=
  (fetches.planEach spec kinds).bind fun _ => sends_report _

theorem sends_get (target : Option Target) :
    Sends allowed (world.host.get writer platform target) :=
  fetches.fetchLive.bind fun _ => sends_report _

end

/-- A question that is declined sends nothing, and the answer is no. -/
theorem leads_approve_of_declines (declines : world.Declines) (writer : Writer)
    (plans : List PlanReport) (before : Session σ) :
    (world.host.approve writer plans).Leads before fun result after =>
      before.Grows allowed after ∧ result ≠ .ok true := by
  -- What is told before the question is asked sends nothing either.
  have told (text : String) : Sends allowed (Task.act (world.host.tell text)) :=
    .act (silent_tell text)
  rw [approve]
  split
  · refine (told _ before).bind (fun _ _ grows => ⟨grows, nofun⟩) fun _ after grows => ?_
    exact Task.leads_pure ⟨grows, nofun⟩
  · refine (told _ before).bind (fun _ _ grows => ⟨grows, nofun⟩) fun _ first early => ?_
    refine (told _ first).bind (fun _ _ grows => ⟨early.trans grows, nofun⟩) fun _ second more => ?_
    -- The line typed is the world's own.
    have typed : Task.Leads (Task.act world.host.ask) second fun result after =>
        result = .ok world.line ∧ after = second := Task.leads_act ⟨rfl, rfl⟩
    refine typed.bind_ok ?_
    rintro _ rfl
    have asked := early.trans more
    cases answered : world.line with
    | none => exact Task.leads_throw ⟨asked, nofun⟩
    | some line =>
      -- Whatever was typed is neither of the two words for yes.
      have no : isYes line = false := by
        obtain ⟨lower, upper⟩ := declines line answered
        simp [isYes, lower, upper]
      simp only [no]
      refine (told _ _).bind (fun _ _ grows => ⟨asked.trans grows, nofun⟩) fun _ after grows => ?_
      exact Task.leads_pure ⟨asked.trans grows, nofun⟩

theorem sends_apply_of_declines (declines : world.Declines)
    {platform : Platform (StateM (Session σ))} (fetches : platform.Fetches allowed)
    (writer : Writer) (spec : Spec) (kinds : List EntityKind) :
    Sends allowed (world.host.apply writer platform spec kinds false) := by
  simp only [apply, Bool.false_eq_true, ↓reduceIte]
  refine (fetches.planEach spec kinds).bind fun plans before => ?_
  refine (leads_approve_of_declines declines writer plans before).bind
    (fun _ _ asked => asked.1) ?_
  rintro approved after ⟨grows, no⟩
  cases approved with
  | true => exact absurd rfl no
  | false => exact Task.leads_pure grows

/-! ### Runs -/

/-- A command without anything to carry out only reads. -/
theorem sends_perform {invocation : Invocation}
    (harmless : ∀ kind approved, invocation.command = .apply kind approved →
      approved = false ∧ world.Declines) :
    Sends Cloud.Request.Reads (world.host.perform invocation) := by
  refine (sends_load _).bind fun loaded => ?_
  dsimp only
  cases asked : invocation.command with
  | validate showCautions => exact sends_validate _ _ _
  | diff kind => exact sends_of_reach fun platform fetches => sends_diff fetches _ _ _
  | plan kind => exact sends_of_reach fun platform fetches => sends_plan fetches _ _ _
  | get => exact sends_of_reach fun platform fetches => sends_get fetches _ _
  | apply kind approved =>
    obtain ⟨rfl, declines⟩ := harmless kind approved asked
    exact sends_of_reach fun platform fetches => sends_apply_of_declines declines fetches _ _ _

/-- Without a document that a platform can be reached for, nothing is sent. -/
theorem leads_perform_of_not_ready {invocation : Invocation} {before : Session σ}
    (unready : ∀ loaded, ((world.host.load invocation.config).runOn before).1 = .ok loaded →
      ¬ loaded.Ready) :
    (world.host.perform invocation).Leads before fun _ after => after.sent = before.sent := by
  have loads : (world.host.load invocation.config).Leads before fun result after =>
      (∀ loaded, result = .ok loaded → ¬ loaded.Ready) ∧ after.sent = before.sent := by
    have silent : Sends (fun _ => False) (world.host.load invocation.config) := sends_load _
    refine (silent before).exactly.imp ?_
    rintro result after ⟨traced, grows⟩
    rw [traced] at unready
    exact ⟨unready, grows.sent_eq⟩
  refine loads.bind (fun _ _ failed => failed.2) fun loaded middle ⟨lacks, sent⟩ => ?_
  -- All commands but one start by reaching a platform, which fails on the spot.
  have stops {next : Platform (StateM (Session σ)) → Task (StateM (Session σ)) Unit} :
      (world.host.reach loaded >>= next).Leads middle fun _ after => after.sent = before.sent := by
    refine (leads_reach_of_not_ready (lacks loaded rfl) middle).bind
      (fun _ _ failed => failed.2 ▸ sent) fun _ _ reached => ?_
    obtain ⟨error, failed⟩ := reached.1
    exact nomatch failed
  dsimp only
  cases invocation.command with
  | validate showCautions =>
    have silent : Sends (fun _ => False) (world.host.validate _ loaded.document showCautions) :=
      sends_validate (world.host.writer invocation.format loaded) _ _
    exact (silent middle).imp fun _ _ grows => grows.sent_eq.trans sent
  | diff kind => exact stops
  | plan kind => exact stops
  | apply kind approved => exact stops
  | get => exact stops

/-- What is written at the end of a run sends nothing. -/
theorem sent_run {words : List String} {invocation : Invocation}
    (asked : CommandLine.read world.environment words = .ok invocation) (before : Session σ) :
    ((world.host.run words).run before).2.sent =
      ((world.host.perform invocation).runOn before).2.sent := by
  have asked : CommandLine.read world.host.environment words = .ok invocation := asked
  rw [run, asked]
  dsimp only
  rw [StateT.run_bind]
  refine Silent.bind (Silent.forM silent_log _) (fun _ => ?_) _
  split
  · exact .pure 0
  · exact (silent_tell _).bind fun _ => .pure 1

/-- Only a plan that is approved changes anything, and without a usable document not even that is
asked for. -/
theorem run_only_reads (world : World σ) (words : List String) (invocation : Invocation)
    (asked : CommandLine.read world.environment words = .ok invocation) (start : σ) :
    let before : Session σ := { state := start }
    let sent := ((world.host.run words).run before).2.sent
    ((∀ kind approved, invocation.command = .apply kind approved →
        approved = false ∧ world.Declines) →
      ∀ request ∈ sent, request.method = .get) ∧
    ((∀ loaded, ((world.host.load invocation.config).runOn before).1 = .ok loaded →
        ¬ loaded.Ready) →
      sent = []) := by
  intro before sent
  -- The command line has been read, so that the run is the command's.
  have ends : sent = ((world.host.perform invocation).runOn before).2.sent := sent_run asked before
  constructor
  · intro harmless request member
    obtain ⟨more, added, reads⟩ := (sends_perform harmless before).runOn
    rw [ends, added] at member
    exact reads request member
  · intro unready
    rw [ends]
    exact (leads_perform_of_not_ready unready).runOn

end Host

/-- A world with one document that asks for a developer, a platform that finds whatever it is asked
for and knows of no developers, and somebody who says no. The world keeps what it is told. -/
def World.reluctant (environment : Environment) : World (List String) where
  reply _ told := (.response 200 none none
    "\x7b\"resources\": [\x7b\"guid\": \"1\", \"name\": \"n\"\x7d]\x7d", told)
  pass _ told := told
  environment
  terminal := false
  entryAt? path told :=
    let content := "target: \x7bapi: http://localhost, organization: o, space: s\x7d\n" ++
      "spec: \x7bspaceDevelopers: [ann]\x7d\n"
    (if path = "space.yaml" then some (.file content.toUTF8.toList) else none, told)
  now told := (⟨0⟩, told)
  newName told := ("run", told)
  print _ told := told
  tell text told := told ++ [text]
  log _ told := told
  line := some "n\n"

namespace Host

/-- A plan to grant a role is shown and declined after three questions, for the organization, the
space and the roles. Who has no token does not get to ask them. -/
theorem run_only_reads_reluctant :
    let trusted := World.reluctant (NameMap.ofList [(Environment.accessTokenVariable, "token")])
    let stranger := World.reluctant ∅
    let words := ["apply", "--config", "space.yaml"]
    let ran := (trusted.host.run words).run { state := [] }
    (∀ request ∈ ran.2.sent, request.method = .get) ∧
      (ran.1 = 0 ∧ ran.2.sent.length = 3 ∧ ran.2.state.drop 1 =
        ["Do you want to apply this plan? [y/N]: ", "Apply cancelled.\n"]) ∧
      ((stranger.host.run words).run { state := [] }).2.sent = [] := by
  intro trusted stranger words ran
  let invocation : Invocation :=
    { command := .apply none false, config := some "space.yaml", verbose := false, format := .text }
  refine ⟨?_, by decide +kernel, ?_⟩
  · refine (run_only_reads trusted words invocation rfl []).1 ?_
    rintro kind approved ⟨⟩
    refine ⟨rfl, ?_⟩
    rintro line ⟨⟩
    decide
  · refine (run_only_reads stranger words invocation rfl []).2 ?_
    intro loaded load ready
    obtain ⟨token, found⟩ := ready.authorized
    -- The document loads, but the variables around it have no token.
    have missing : ((stranger.host.load invocation.config).runOn { state := [] }).1.toOption.bind
        (fun loaded => loaded.environment.accessToken.toOption) = none := by decide +kernel
    rw [load] at missing
    change loaded.environment.accessToken.toOption = none at missing
    rw [found] at missing
    exact nomatch missing

end Host

end CloudSpace
