import CloudSpace.Proofs.Cloud.Catalog
import CloudSpace.Proofs.Cloud.Retry
import CloudSpace.Proofs.Plan.Provenance
import CloudSpace.Proofs.Reconcile.Preparation

/-!
# Developers by the roles they hold

The platform tells of developers in two parts: roles with the guids of their users, and users with
names. A role without a user, a role whose user is not told of and a user without a name are passed
over. The developers that are fetched and the role that is taken from one of them are found in such
an answer at different times, and from the same answer they are found alike.
-/
namespace CloudSpace

variable {α β : Type}

/-- The last of the items that something is made of, where it is made of some of them only. -/
theorem isLast_filterMap {holds : β → Prop} {make : α → Option β} {items : List α} {made : β} :
    IsLast holds (items.filterMap make) made ↔
      ∃ item, IsLast (fun item => ∃ made, make item = some made ∧ holds made) items item ∧
        make item = some made := by
  classical
  have any (item : α) : (make item).any (holds ·) =
      decide (∃ made, make item = some made ∧ holds made) := by
    cases make item <;> simp
  rw [isLast_iff, ← List.filterMap_reverse, List.find?_filterMap, Option.bind_eq_some_iff]
  simp only [isLast_iff, any]

namespace Cloud

/-! ### Roles and who holds them -/

namespace Listing

variable {roles : Listing Role} {role : Role} {name other : String}

/-- A role is held by a user with a name: of all users with its guid that have one, the last. -/
def HeldBy (roles : Listing Role) (role : Role) (name : String) : Prop :=
  ∃ user, IsLast (fun user => role.user = some user.guid ∧ user.username ≠ none) roles.users user ∧
    user.username = some name

/-- The first role that is held by a user with a name. -/
def FirstHeld (roles : Listing Role) (name : String) (role : Role) : Prop :=
  ∃ earlier later, roles.resources = earlier ++ role :: later ∧ roles.HeldBy role name ∧
    ∀ other ∈ earlier, ¬ roles.HeldBy other name

/-- The names of those who hold some roles, in the order of the roles. A role that nobody with a
name holds is passed over. -/
inductive NamesHolders (roles : Listing Role) : List Role → List String → Prop
  | nil : NamesHolders roles [] []
  | held {role : Role} {rest : List Role} {name : String} {names : List String}
      (held : roles.HeldBy role name) (later : NamesHolders roles rest names) :
      NamesHolders roles (role :: rest) (name :: names)
  | passed {role : Role} {rest : List Role} {names : List String}
      (free : ∀ name, ¬ roles.HeldBy role name) (later : NamesHolders roles rest names) :
      NamesHolders roles (role :: rest) names

theorem HeldBy.unique (held : roles.HeldBy role name) (also : roles.HeldBy role other) :
    name = other := by
  obtain ⟨user, isLast, named⟩ := held
  obtain ⟨found, alsoLast, alsoNamed⟩ := also
  cases isLast.unique alsoLast
  exact Option.some.inj (named.symm.trans alsoNamed)

/-- The name that the guid of a role leads to. -/
def holder? (roles : Listing Role) (role : Role) : Option String :=
  role.user.bind (NameMap.ofList (roles.users.filterMap fun user =>
    user.username.map fun name => (user.guid, name))).get?

theorem holder?_eq_some_iff : roles.holder? role = some name ↔ roles.HeldBy role name := by
  rw [holder?, HeldBy]
  cases owner : role.user with
  | none => simp [IsLast]
  | some guid =>
    -- A user without a name has no binding in the table of names.
    have named (user : User) :
        (∃ binding : String × String,
            user.username.map (fun name => (user.guid, name)) = some binding ∧ binding.1 = guid) ↔
          some guid = some user.guid ∧ user.username ≠ none := by
      cases user.username <;> simp [eq_comm]
    rw [Option.bind_some, NameMap.get?_ofList_eq_some_iff]
    simp only [isLast_filterMap, named]
    constructor
    · rintro ⟨_, ⟨user, isLast, bound⟩, rfl⟩
      obtain ⟨name, given, rfl⟩ := Option.map_eq_some_iff.mp bound
      exact ⟨user, isLast, given⟩
    · rintro ⟨user, isLast, given⟩
      exact ⟨(user.guid, name), ⟨user, isLast, by rw [given]; rfl⟩, rfl⟩

theorem developerRoles_eq (roles : Listing Role) : developerRoles roles =
    roles.resources.filterMap fun role => (roles.holder? role).map fun name => (role.guid, name) :=
  rfl

theorem namesHolders_developerRoles (roles : Listing Role) :
    roles.NamesHolders roles.resources ((developerRoles roles).map (·.2)) := by
  rw [developerRoles_eq]
  -- By induction on the roles: a role either has a holder, whose name comes next, or is passed by.
  induction roles.resources with
  | nil => exact .nil
  | cons role rest ih =>
    cases known : roles.holder? role with
    | none =>
      rw [List.filterMap_cons_none (by rw [known]; rfl)]
      refine .passed (fun name held => ?_) ih
      cases known.symm.trans (holder?_eq_some_iff.mpr held)
    | some name =>
      rw [List.filterMap_cons_some (by rw [known]; rfl)]
      exact .held (holder?_eq_some_iff.mp known) ih

theorem NamesHolders.mem_iff {items : List Role} {names : List String}
    (holders : roles.NamesHolders items names) :
    name ∈ names ↔ ∃ role ∈ items, roles.HeldBy role name := by
  induction holders with
  | nil => simp
  | held held _ ih =>
    simp only [List.mem_cons, exists_eq_or_imp, ih]
    exact or_congr_left ⟨fun same => same ▸ held, fun also => also.unique held⟩
  | passed free _ ih =>
    simp only [List.mem_cons, exists_eq_or_imp, ih]
    exact ⟨.inr, fun held => held.resolve_left (free _)⟩

/-- A place has one list of names for some roles. -/
theorem NamesHolders.unique {items : List Role} {names others : List String}
    (holders : roles.NamesHolders items names) (also : roles.NamesHolders items others) :
    names = others := by
  -- By induction on the first list: whether a role has a holder does not depend on the list.
  induction holders generalizing others with
  | nil =>
    cases also
    rfl
  | held held _ ih =>
    cases also with
    | held alsoHeld later => rw [held.unique alsoHeld, ih later]
    | passed free _ => exact absurd held (free _)
  | passed free _ ih =>
    cases also with
    | held held _ => exact absurd held (free _)
    | passed _ later => exact ih later

theorem find?_developerRoles_eq_some_iff {found : String × String} :
    (developerRoles roles).find? (fun role => role.2 = name) = some found ↔
      ∃ role, roles.FirstHeld name role ∧ (role.guid, name) = found := by
  -- Going by the pairs is going by the roles, since a pair has the name that its role has.
  have holds (role : Role) :
      ((roles.holder? role).map fun name => (role.guid, name)).any (fun role => role.2 = name) =
        decide (roles.holder? role = some name) := by
    cases roles.holder? role <;> simp
  rw [developerRoles_eq, List.find?_filterMap, Option.bind_eq_some_iff]
  simp only [holds, List.find?_eq_some_iff_append, decide_eq_true_eq, Bool.not_eq_true',
    decide_eq_false_iff_not, holder?_eq_some_iff, FirstHeld]
  constructor
  · rintro ⟨role, ⟨held, earlier, later, split, first⟩, made⟩
    rw [holder?_eq_some_iff.mpr held] at made
    exact ⟨role, ⟨earlier, later, split, held, first⟩, Option.some.inj made⟩
  · rintro ⟨role, ⟨earlier, later, split, held, first⟩, rfl⟩
    refine ⟨role, ⟨held, earlier, later, split, first⟩, ?_⟩
    rw [holder?_eq_some_iff.mpr held]
    rfl

theorem find?_developerRoles_eq_none_iff {names : List String}
    (holders : roles.NamesHolders roles.resources names) :
    (developerRoles roles).find? (fun role => role.2 = name) = none ↔ name ∉ names := by
  rw [holders.unique (namesHolders_developerRoles roles)]
  simp only [List.find?_eq_none, decide_eq_true_eq, List.mem_map, not_exists, not_and]

/-- The users that are listed are those that hold a role, and with it a first one. -/
theorem NamesHolders.mem_iff_firstHeld {names : List String}
    (holders : roles.NamesHolders roles.resources names) :
    name ∈ names ↔ ∃ role, roles.FirstHeld name role := by
  constructor
  · intro member
    have known := mt (find?_developerRoles_eq_none_iff holders).mp (not_not.mpr member)
    obtain ⟨found, same⟩ := Option.ne_none_iff_exists'.mp known
    obtain ⟨role, first, _⟩ := find?_developerRoles_eq_some_iff.mp same
    exact ⟨role, first⟩
  · rintro ⟨role, earlier, later, split, held, _⟩
    exact holders.mem_iff.mpr ⟨role, by simp [split], held⟩

end Listing

/-! ### What is sent -/

/-- The exchanges that were to change something. -/
def mutations (exchanges : List Exchange) : List Exchange :=
  exchanges.filter (·.request.method ≠ .get)

theorem mutations_append (exchanges more : List Exchange) :
    mutations (exchanges ++ more) = mutations exchanges ++ mutations more :=
  List.filter_append ..

theorem mutations_of_asks {asked : List Exchange}
    (asks : ∀ exchange ∈ asked, exchange.request.method = .get) : mutations asked = [] :=
  List.filter_eq_nil_iff.mpr fun exchange member => by simp [asks exchange member]

theorem Attempts.length_of_settled {request : Request} {left : Nat} {exchanges : List Exchange}
    {outcome : Except Error Answer} (attempts : Attempts request left exchanges outcome)
    (settled : ∀ exchange ∈ exchanges, ¬ exchange.reply.IsTransient) : exchanges.length = 1 := by
  cases attempts with
  | last _ => rfl
  | again failed retryable _ =>
    have transient := Reply.isTransient_iff.mpr ⟨_, failed, retryable⟩
    exact absurd transient (settled _ List.mem_cons_self)

namespace Client

variable {m : Type → Type} {client : Client m}

/-- Whatever comes of a question, nothing was sent but the question. -/
theorem Gets.asks {α : Type} {reader : Reader α} {path : String}
    {fields : List (String × String)} {asked : List Exchange} {result : Except Error α}
    (gets : client.Gets reader path fields asked result) :
    ∀ exchange ∈ asked, exchange.request.method = .get := by
  obtain ⟨_, _, rfl, _⟩ | ⟨url, _, _, attempts, _⟩ := gets
  · exact List.forall_mem_nil _
  · intro exchange member
    rw [attempts.requests exchange member]
    rfl

theorem Mutates.mutations {mutation : Mutation} {attempts polls : List Exchange}
    {result : Except Error Unit} (mutates : client.Mutates mutation attempts polls result) :
    mutations (attempts ++ polls) = attempts := by
  obtain ⟨url, _, _, requests, _⟩ := mutates.demands
  rw [mutations_append, mutations_of_asks mutates.asks, List.append_nil]
  refine List.filter_eq_self.mpr fun attempt member => ?_
  rw [requests attempt member]
  exact decide_eq_true mutation.mutates

end Client

namespace SpaceClient

variable {m : Type → Type} {α : Type}

/-- What comes of asking for the roles of developers. -/
def ListsRoles (client : SpaceClient m) :
    List Exchange → Except Error (Listing Role) → Prop :=
  client.Gets (Listing.reader Role.reader) "/v3/roles"
    [("types", developerRole), ("space_guids", client.space), ("include", "user"),
      ("per_page", "5000")]

/-- What begins with asking for the roles, which changes nothing: it ends there if they cannot be
listed, and the rest goes by the roles that are. -/
inductive GoesBy (client : SpaceClient m)
    (post : Listing Role → List Exchange → Except Error α → Prop) :
    List Exchange → Except Error α → Prop
  | unlisted {asked : List Exchange} {error : Error}
      (lists : client.ListsRoles asked (.error error)) (changesNothing : mutations asked = []) :
      GoesBy client post asked (.error error)
  | listed {asked rest : List Exchange} {roles : Listing Role} {result : Except Error α}
      (lists : client.ListsRoles asked (.ok roles)) (changesNothing : mutations asked = [])
      (goesOn : post roles rest result) : GoesBy client post (asked ++ rest) result

/-- What fetching developers comes to where the roles are listed. -/
def NamesDevelopers (roles : Listing Role) (rest : List Exchange)
    (result : Except Error (List String)) : Prop :=
  rest = [] ∧ ∃ names, roles.NamesHolders roles.resources names ∧ result = .ok names

/-- What taking the role from a developer comes to where the roles are listed. -/
inductive Revokes (client : SpaceClient m) (username : String) (roles : Listing Role) :
    List Exchange → Except Error Unit → Prop
  | missing (missing : ∀ role, ¬ roles.FirstHeld username role) :
      Revokes client username roles [] (.error (.platform (.notFound "space developer" username)))
  | deleted {role : Role} {attempts polls : List Exchange} {result : Except Error Unit}
      (first : roles.FirstHeld username role)
      (mutates : client.Mutates { method := .delete, path := s!"/v3/roles/{role.guid}" }
        attempts polls result) :
      Revokes client username roles (attempts ++ polls) result

/-- What the answer about the roles is read as, and the names that are read out of it. -/
structure Fetched (client : SpaceClient m) (exchanges : List Exchange) (roles : Listing Role)
    (names : List String) : Prop where
  lists : client.ListsRoles exchanges (.ok roles)
  holders : roles.NamesHolders roles.resources names

/-- All that is changed is that one role is deleted, by one request that is sent again after
transient replies only. The role is the first that is held by a user with the name, and it is held
by nobody else. -/
structure Deletes (client : SpaceClient m) (username : String) (roles : Listing Role)
    (exchanges : List Exchange) (result : Except Error Unit) (role : Role) : Prop where
  first : roles.FirstHeld username role
  mutates : ∃ polls, exchanges = mutations exchanges ++ polls ∧
    client.Mutates { method := .delete, path := s!"/v3/roles/{role.guid}" } (mutations exchanges)
      polls result
  demands : ∃ url, client.urlOf s!"/v3/roles/{role.guid}" [] = .ok url ∧
    ∀ exchange ∈ mutations exchanges,
      exchange.request = { method := .delete, url, token := client.token }
  sent : 0 < (mutations exchanges).length ∧ (mutations exchanges).length ≤ greatestAttempts
  once : (∀ exchange ∈ mutations exchanges, ¬ exchange.reply.IsTransient) →
    (mutations exchanges).length = 1
  own : ∀ name, roles.HeldBy role name → name = username
  sole : (roles.resources.map Role.guid).Nodup → ∀ other ∈ roles.resources,
    other.guid = role.guid → ∀ name, roles.HeldBy other name → name = username

theorem GoesBy.imp {client : SpaceClient m}
    {post weaker : Listing Role → List Exchange → Except Error α → Prop}
    {exchanges : List Exchange} {result : Except Error α}
    (goesBy : client.GoesBy post exchanges result)
    (implies : ∀ roles rest, post roles rest result → weaker roles rest result) :
    client.GoesBy weaker exchanges result := by
  cases goesBy with
  | unlisted lists changesNothing => exact .unlisted lists changesNothing
  | listed lists changesNothing goesOn => exact .listed lists changesNothing (implies _ _ goesOn)

section

variable {client : SpaceClient m} {username : String} {roles : Listing Role} {names : List String}
  {exchanges : List Exchange} {result : Except Error Unit}

/-- Whoever is a developer loses the first role, and of anyone else nothing is changed. -/
theorem Revokes.deletes_or_missing (revokes : client.Revokes username roles exchanges result)
    (holders : roles.NamesHolders roles.resources names) :
    (username ∈ names ∧ ∃ role, client.Deletes username roles exchanges result role) ∨
      username ∉ names ∧ exchanges = [] ∧
        result = .error (.platform (.notFound "space developer" username)) := by
  cases revokes with
  | missing missing =>
    exact .inr ⟨mt holders.mem_iff_firstHeld.mp (not_exists.mpr missing), rfl, rfl⟩
  | @deleted role attempts polls _ first mutates =>
    refine .inl ⟨holders.mem_iff_firstHeld.mpr ⟨role, first⟩, role, ?_⟩
    obtain ⟨url, _, address, requests, sent, _⟩ := mutates.demands
    have isAttempts := mutates.mutations
    obtain ⟨earlier, later, split, held, _⟩ := id first
    -- The role has one holder at most, so that nobody else loses it.
    have own (name : String) (also : roles.HeldBy role name) : name = username := also.unique held
    refine ⟨first, ⟨polls, ?_⟩, ⟨url, address, ?_⟩, ?_, ?_, own, ?_⟩
    · rw [isAttempts]
      exact ⟨rfl, mutates⟩
    · rw [isAttempts]
      exact requests
    · rw [isAttempts]
      exact mutates.once
    · rw [isAttempts]
      exact sent.length_of_settled
    · intro distinct other member same name also
      have member' : role ∈ roles.resources := by simp [split]
      cases List.inj_on_of_nodup_map distinct member member' same
      exact own name also

end

/-- Where developers are compared with others, the role is taken from names that were fetched. -/
theorem mem_of_revokes {names : List String} {desired : Spec} {groups : ChangeGroups}
    (built : ChangeGroups.build (Space.diff { developers := names }
      (desired.toSpace.restrict .developers)) = .ok groups) {username : String}
    (member : .revokeDeveloper username ∈ (Batch.of .developers groups).calls) :
    username ∈ names := by
  let live : Space := { developers := names }
  have own : live = live.restrict .developers := rfl
  change ChangeGroups.build (live.diff _) = _ at built
  rw [own] at built
  rw [(Batch.of_build built).1] at member
  cases Plan.planned_of_mem_calls member with
  | revokeDeveloper listed _ => exact listed

variable {σ : Type} {server : Server σ} {client : SpaceClient (StateM (Recording σ))}

section

variable (reaches : client.transport = server.recorder)

include reaches

/-- What goes on with the roles of developers goes by the answer that they are read from. -/
theorem goesBy_roles {next : List (String × String) → Task (StateM (Recording σ)) α}
    {post : Listing Role → List Exchange → Except Error α → Prop}
    (rest : ∀ asked roles, client.ListsRoles asked (.ok roles) →
      Converses (next (developerRoles roles)) (post roles)) :
    Converses (client.roles >>= next) (client.GoesBy post) := by
  rw [roles, map_eq_pure_bind, bind_assoc]
  refine (Client.converses_gets reaches _ _ _).bind ?_ ?_
  · intro asked error lists
    exact .unlisted lists (mutations_of_asks lists.asks)
  · intro asked roles lists
    rw [pure_bind]
    exact (rest asked roles lists).imp fun _ _ => .listed lists (mutations_of_asks lists.asks)

theorem converses_developers :
    Converses client.developers (client.GoesBy NamesDevelopers) :=
  goesBy_roles reaches fun _ roles _ =>
    .pure ⟨rfl, _, roles.namesHolders_developerRoles, rfl⟩

theorem converses_revokeDeveloper (username : String) :
    Converses (client.revokeDeveloper username) (client.GoesBy (client.Revokes username)) := by
  refine goesBy_roles reaches fun _ roles lists => ?_
  cases found : (developerRoles roles).find? fun role => role.2 = username with
  | none =>
    refine .throw (.missing fun role first => ?_)
    cases found.symm.trans (Listing.find?_developerRoles_eq_some_iff.mpr ⟨role, first, rfl⟩)
  | some pair =>
    obtain ⟨role, first, rfl⟩ := Listing.find?_developerRoles_eq_some_iff.mp found
    refine (Client.converses_change reaches lists.addresses
      { method := .delete, path := s!"/v3/roles/{role.guid}" }).imp ?_
    rintro _ result ⟨attempts, polls, rfl, mutates⟩
    exact .deleted first mutates

/-- The developers of a space that is fetched are the names of those who hold the roles. -/
theorem converses_fetch_developers :
    Converses (client.platform.fetch .developers) fun exchanges result =>
      ∀ space, result = .ok space →
        ∃ roles names, client.Fetched exchanges roles names ∧ space = { developers := names } := by
  -- Fetching is collecting the names, with the errors wrapped at the end.
  have fetches : Converses (client.developers >>= fun developers =>
      pure ({ developers } : Space)) fun exchanges result => ∀ space, result = .ok space →
        ∃ roles names, client.Fetched exchanges roles names ∧ space = { developers := names } := by
    refine (converses_developers reaches).bind (fun _ _ _ _ same => nomatch same) ?_
    intro exchanges names goesBy
    cases goesBy with
    | listed lists _ names =>
      obtain ⟨rfl, found, holders, ⟨⟩⟩ := names
      refine .pure ?_
      rintro _ ⟨⟩
      rw [List.append_nil, List.append_nil]
      exact ⟨_, _, ⟨lists, holders⟩, rfl⟩
  refine (fetches.wrapError _).imp ?_
  -- An error is none of the client's spaces, whatever it is wrapped as.
  rintro exchanges _ ⟨found, holds, rfl⟩ space same
  cases found with
  | error _ => cases same
  | ok found =>
    cases same
    exact holds _ rfl

/-- A plan that is prepared takes roles only from developers that were fetched for it. -/
theorem converses_prepare_developers (spec : Spec) :
    Converses (client.platform.prepare spec .developers) fun exchanges result =>
      ∀ preparation, result = .ok (some preparation) →
        ∃ roles names, client.Fetched exchanges roles names ∧
          ∀ username, .revokeDeveloper username ∈ preparation.batch.calls →
            username ∈ names := by
  rw [Platform.prepare]
  cases present : spec.restrict? .developers with
  -- Without a section there is nothing to prepare.
  | none =>
    refine .pure ?_
    rintro _ ⟨⟩
  | some desired =>
    obtain rfl : desired = spec.toSpace.restrict .developers := Spec.eq_of_restrict? present
    have grouped : Converses (client.platform.groups .developers
        (spec.toSpace.restrict .developers)) fun exchanges result => ∀ groups,
          result = .ok groups → ∃ roles names, client.Fetched exchanges roles names ∧
            ∀ username, .revokeDeveloper username ∈ (Batch.of .developers groups).calls →
              username ∈ names := by
      -- The difference is taken from the names that were fetched.
      refine (converses_fetch_developers reaches).bind (by rintro _ _ _ _ ⟨⟩) ?_
      intro exchanges live fetched
      obtain ⟨roles, names, told, rfl⟩ := fetched live rfl
      cases built : ChangeGroups.build (Space.diff { developers := names }
          (spec.toSpace.restrict .developers)) with
      | error _ =>
        refine .throw ?_
        rintro _ ⟨⟩
      | ok groups =>
        refine .pure ?_
        rintro _ ⟨⟩
        rw [List.append_nil]
        exact ⟨roles, names, told, fun username => mem_of_revokes built⟩
    refine grouped.bind (by rintro _ _ _ _ ⟨⟩) ?_
    intro exchanges groups planned
    -- Warnings come after all questions.
    have silent : Converses (Task.warn (Batch.of .developers groups).warnings :
        Task (StateM (Recording σ)) Unit) fun more _ => more = [] := .warn rfl
    refine silent.bind (by rintro _ _ _ _ ⟨⟩) ?_
    rintro _ _ rfl
    refine .pure ?_
    rintro _ ⟨⟩
    rw [List.append_nil, List.append_nil]
    exact planned groups rfl

end

/-- Fetching and taking away roles agree, whatever the platform answers. The names that are fetched
are those of the users that hold the roles, in the order of the roles, and roles are planned to be
taken away from these only. Against an answer with the same roles, the role is taken from a name
just if it is among them, by deleting the first role that a user with the name holds. -/
theorem developers_agree (reaches : client.transport = server.recorder) :
    Converses client.developers (client.GoesBy NamesDevelopers) ∧
      (∀ username, Converses (client.perform (.revokeDeveloper username))
        (client.GoesBy (client.Revokes username))) ∧
      (∀ spec, Converses (client.platform.prepare spec .developers) fun exchanges result =>
        ∀ preparation, result = .ok (some preparation) →
          ∃ roles names, client.Fetched exchanges roles names ∧
            ∀ username, .revokeDeveloper username ∈ preparation.batch.calls →
              username ∈ names) ∧
      ∀ roles names, roles.NamesHolders roles.resources names → ∀ username exchanges result,
        client.Revokes username roles exchanges result →
          (username ∈ names ∧ ∃ role, client.Deletes username roles exchanges result role) ∨
            username ∉ names ∧ exchanges = [] ∧
              result = .error (.platform (.notFound "space developer" username)) :=
  ⟨converses_developers reaches, converses_revokeDeveloper reaches,
    converses_prepare_developers reaches,
    fun _ _ holders _ _ _ revokes => revokes.deletes_or_missing holders⟩

/-- A role without a user is passed over, and the role that is deleted is the second one. -/
theorem developers_agree_partly_told :
    let server := Server.ofListing ("\x7b\"resources\":[\x7b\"guid\":\"1\"\x7d," ++
      "\x7b\"guid\":\"2\",\"relationships\":" ++
        "\x7b\"user\":\x7b\"data\":\x7b\"guid\":\"b\"\x7d\x7d\x7d\x7d]," ++
      "\"included\":\x7b\"users\":[\x7b\"guid\":\"b\",\"username\":\"ann\"\x7d]\x7d\x7d")
    let client := server.recordedClient
    let before : Recording Unit := { state := () }
    let sent (after : Recording Unit) := after.exchanges.map fun exchange =>
      (exchange.request.method, exchange.request.url.target)
    let listing := (Method.get,
      "/v3/roles?types=space_developer&space_guids=space&include=user&per_page=5000")
    let comesTo {α : Type} (task : Task (StateM (Recording Unit)) α)
        (post : Listing Role → List Exchange → Except Error α → Prop) (result : Except Error α)
        (requests : List (Method × String)) :=
      ∃ after, task.runOn before = (result, after) ∧ sent after = requests ∧
        client.GoesBy post after.exchanges result
    client.transport = server.recorder ∧
      comesTo client.developers NamesDevelopers (.ok ["ann"]) [listing] ∧
      comesTo (client.perform (.revokeDeveloper "ann"))
        (fun roles rest result => ∃ role, client.Deletes "ann" roles rest result role) (.ok ())
        [listing, (.delete, "/v3/roles/2")] ∧
      comesTo (client.perform (.revokeDeveloper "bob")) (client.Revokes "bob")
        (.error (.platform (.notFound "space developer" "bob"))) [listing] := by
  intro server client before sent listing comesTo
  have reaches : client.transport = server.recorder := rfl
  obtain ⟨fetches, revokes, _, general⟩ := developers_agree reaches
  -- What was sent and what came of it is computed; that it had to be so is what the theorem says.
  have comes {α : Type} {task : Task (StateM (Recording Unit)) α}
      {post : Listing Role → List Exchange → Except Error α → Prop} {result : Except Error α}
      {requests : List (Method × String)} (converses : Converses task (client.GoesBy post))
      (ran : (task.runOn before).1 = result ∧ sent (task.runOn before).2 = requests) :
      comesTo task post result requests := by
    obtain ⟨exchanges, added, goesBy⟩ := converses.of_runOn (Task.runOn_eq_of_result ran.1)
    obtain rfl : (task.runOn before).2.exchanges = exchanges := added
    exact ⟨_, Task.runOn_eq_of_result ran.1, ran.2, goesBy⟩
  have revoked : comesTo (client.perform (.revokeDeveloper "ann")) (client.Revokes "ann") (.ok ())
      [listing, (.delete, "/v3/roles/2")] := comes (revokes "ann") (by decide +kernel)
  refine ⟨reaches, comes fetches (by decide +kernel), ?_, comes (revokes "bob") (by decide +kernel)⟩
  obtain ⟨after, ran, requested, goesBy⟩ := revoked
  refine ⟨after, ran, requested, goesBy.imp fun roles rest revokes => ?_⟩
  -- Work that succeeds did not miss the role.
  rcases general roles _ roles.namesHolders_developerRoles _ _ _ revokes with
    ⟨_, deletes⟩ | ⟨_, _, failed⟩
  · exact deletes
  · cases failed

end SpaceClient

end Cloud

end CloudSpace
