import CloudSpace.Proofs.Cloud.Answers

/-!
# Servers that answer from a table

A table has values by the paths and queries they are the answers to. A server with a table is the
plainest there is, and serves to show that what is asked of servers can be had. What a value is
printed as is read back by the reader, which is checked value by value.
-/
namespace CloudSpace

/-! ### Comparing values -/

namespace Value

mutual

/-- Whether two values are the same, field by field in their order. -/
def isSame : Value → Value → Bool
  | null, null => true
  | bool first, bool second => first = second
  | int first, int second => first = second
  | float first, float second => first = second
  | text first, text second => first = second
  | list first, list second => areSame first second
  | record first, record second => haveSame first second
  | _, _ => false

def areSame : List Value → List Value → Bool
  | [], [] => true
  | first :: others, second :: rest => isSame first second && areSame others rest
  | _, _ => false

def haveSame : List (String × Value) → List (String × Value) → Bool
  | [], [] => true
  | (first, content) :: others, (second, other) :: rest =>
    first = second && isSame content other && haveSame others rest
  | _, _ => false

end

mutual

/-- Values that compare as the same are equal; the comparison computes, and equality of values does
not. -/
theorem eq_of_isSame (first second : Value) (same : isSame first second = true) :
    first = second := by
  cases first with
  -- By cases on both, through lists and fields as well.
  | list items =>
    cases second with
    | list others => rw [eq_of_areSame items others (by simpa only [isSame] using same)]
    | _ => simp [isSame] at same
  | record fields =>
    cases second with
    | record others => rw [eq_of_haveSame fields others (by simpa only [isSame] using same)]
    | _ => simp [isSame] at same
  | _ => cases second <;> simp_all [isSame]

theorem eq_of_areSame (first second : List Value) (same : areSame first second = true) :
    first = second := by
  cases first with
  | nil => cases second <;> simp_all [areSame]
  | cons value others =>
    cases second with
    | nil => simp [areSame] at same
    | cons other rest =>
      simp only [areSame, Bool.and_eq_true] at same
      rw [eq_of_isSame value other same.1, eq_of_areSame others rest same.2]

theorem eq_of_haveSame (first second : List (String × Value))
    (same : haveSame first second = true) : first = second := by
  cases first with
  | nil => cases second <;> simp_all [haveSame]
  | cons field others =>
    cases second with
    | nil => simp [haveSame] at same
    | cons other rest =>
      obtain ⟨name, content⟩ := field
      obtain ⟨otherName, otherContent⟩ := other
      simp only [haveSame, Bool.and_eq_true, decide_eq_true_eq] at same
      rw [same.1.1, eq_of_isSame content otherContent same.1.2, eq_of_haveSame others rest same.2]

end

end Value

/-- What is read of a text is known once it compares as the same. -/
theorem Json.read?_of_isSame {wanted : Json.Wanted} {text : String} {content : Value}
    (read : (Json.read? wanted text).any (Value.isSame · content) = true) :
    Json.read? wanted text = some content := by
  cases parsed : Json.read? wanted text with
  | none => simp [parsed] at read
  | some found =>
    rw [parsed, Option.any_some] at read
    rw [Value.eq_of_isSame _ _ read]

/-! ### Addresses -/

namespace Url

/-- A name in a path that is no dot, nor two. -/
def IsPlainName (name : String) : Prop :=
  String.ofList (name.toList.map Char.toLower) ∉ [".", "%2e", "..", ".%2e", "%2e.", "%2e%2e"]

instance (name : String) : Decidable (IsPlainName name) := inferInstanceAs (Decidable (¬ _))

theorem toLower_eq (name : String) :
    name.toLower = String.ofList (name.toList.map Char.toLower) := String.map_eq_internal

theorem isSingleDot_of_plain {name : String} (plain : IsPlainName name) :
    isSingleDot name = false := by
  rw [isSingleDot, toLower_eq]
  by_cases dot : name = "."
  · subst dot
    exact absurd plain (by decide)
  · simp_all [IsPlainName]

theorem isDoubleDot_of_plain {name : String} (plain : IsPlainName name) :
    isDoubleDot name = false := by
  rw [isDoubleDot, toLower_eq]
  by_cases dots : name = ".."
  · subst dots
    exact absurd plain (by decide)
  · simp_all [IsPlainName]

/-- Names that are no dots stand in a path as they are. -/
theorem resolveDots_of_plain {names : List String} (plain : ∀ name ∈ names, IsPlainName name)
    (taken : List String) : resolveDots taken names = taken.reverse ++ names := by
  induction names generalizing taken with
  | nil => rw [resolveDots, List.append_nil]
  | cons name rest ih =>
    have here := plain name List.mem_cons_self
    have after := ih fun other member => plain other (List.mem_cons_of_mem _ member)
    -- The last name is resolved in a way of its own.
    cases rest with
    | nil =>
      simp [resolveDots, isSingleDot_of_plain here, isDoubleDot_of_plain here]
    | cons next others =>
      rw [resolveDots, isSingleDot_of_plain here, isDoubleDot_of_plain here]
      simp [after]
      simp

theorem place_withFields (url : Url) (fields : List (String × String)) :
    (url.withFields fields).place = url.place := by
  rw [withFields]
  split <;> rfl

end Url

namespace Cloud

/-! ### Tables -/

/-- Values by the paths they are asked for with. -/
abbrev Table := List (List String × Value)

/-- A server that answers questions from a table, and goes over to another one when a certain
change is asked for. -/
def Server.ofTable (isChange : Request → Bool) (changed : Table) : Server Table where
  reply request table :=
    if request.method = .get then
      match table.find? fun entry => request.url.place = .names entry.1 with
      | some entry => (.response 200 none none (Json.compact entry.2), table)
      | none => (.response 404 none none "", table)
    else if isChange request then (.response 200 none none "", changed)
    else (.response 404 none none "", table)
  pass _ table := table

def localUrl (names : List String) : Url :=
  { scheme := "http", host := some "localhost", place := .names names }

def Server.localClient {σ : Type} (server : Server σ) : SpaceClient (StateM (Session σ)) where
  transport := server.transport
  base := localUrl []
  token := "token"
  environment := ∅
  space := "space"

theorem urlOf_localClient {σ : Type} (server : Server σ) {path : String} {names : List String}
    (fields : List (String × String))
    (split : (localUrl []).join? path = some (localUrl (Url.resolveDots [] names)))
    (plain : ∀ name ∈ names, Url.IsPlainName name) :
    server.localClient.urlOf path fields = .ok ((localUrl names).withFields fields) := by
  rw [Url.resolveDots_of_plain plain] at split
  have joined : server.localClient.base.join? path = some (localUrl names) := split
  rw [Client.urlOf, joined]

section

variable {isChange : Request → Bool} {changed table : Table} {holds : Table → Prop}
  {path : String} (names : List String)

/-- What is listed in a table is told at the first attempt. -/
theorem tells_ofTable (fields : List (String × String)) {wanted : Json.Wanted} {content : Value}
    (split : (localUrl []).join? path = some (localUrl (Url.resolveDots [] names)))
    (plain : ∀ name ∈ names, Url.IsPlainName name)
    (listed : (table.find? fun entry => names = entry.1) = some (names, content))
    (printed : Json.read? wanted (Json.compact content) = some content) (held : holds table) :
    (Server.ofTable isChange changed).Tells (Server.ofTable isChange changed).localClient.toClient
      path fields wanted content holds table := by
  have found : (table.find? fun entry =>
      ((localUrl names).withFields fields).place = .names entry.1) = some (names, content) := by
    simpa [Url.place_withFields, localUrl] using listed
  -- The first attempt gets through.
  refine ⟨_, urlOf_localClient _ fields split plain, .inl ⟨⟨Json.compact content, none⟩, ?_, ?_⟩⟩
  · simp [Server.ofTable, found, Reply.outcome]
  · simp [Server.ofTable, found, printed, held]

/-- A change that a table takes is made at once, and leaves no work to wait for. -/
theorem takes_ofTable {method : Method} {body : Value} (changes : method ≠ .get)
    (split : (localUrl []).join? path = some (localUrl (Url.resolveDots [] names)))
    (plain : ∀ name ∈ names, Url.IsPlainName name)
    (isTaken : isChange
      { method, url := localUrl names, token := "token", body := some (.json body) } = true)
    (held : holds changed) :
    (Server.ofTable isChange changed).Takes (Server.ofTable isChange changed).localClient.toClient
      method path body holds table := by
  refine ⟨_, urlOf_localClient _ [] split plain, .inl ⟨⟨"", none⟩, ?_, ?_⟩⟩
  · simp_all [Server.ofTable, Reply.outcome, Url.withFields, Server.localClient]
  · simp_all [Server.ofTable, Url.withFields, Server.localClient]

end

/-- The entries of a table that give an account of the application with a guid of one. -/
def Account.answers (account : Account) : Table :=
  [(["v3", "apps", "1", "processes", "web"], account.process),
    (["v3", "apps", "1", "environment_variables"], account.settings),
    (["v3", "apps", "1", "routes"], account.routes),
    (["v3", "service_credential_bindings"], account.bindings),
    (["v3", "apps", "1", "packages"], account.packages)]

/-- The values of an account are read as they are printed. -/
structure Account.Printed (account : Account) : Prop where
  process : Json.read? Process.reader.wanted (Json.compact account.process) = some account.process
  settings : Json.read? variablesReader.wanted (Json.compact account.settings) =
    some account.settings
  routes : Json.read? (Listing.reader routeReader).wanted (Json.compact account.routes) =
    some account.routes
  bindings : Json.read? (Listing.reader Binding.reader).wanted (Json.compact account.bindings) =
    some account.bindings
  packages : Json.read? (Listing.reader Package.reader).wanted (Json.compact account.packages) =
    some account.packages

/-- A table with the answers gives the account. -/
theorem accounts_ofTable {isChange : Request → Bool} {changed : Table} {holds : Table → Prop}
    {app : AppResource} (guid : app.guid = "1") {account : Account} (more : Table)
    (held : ∀ table, holds table → account.Printed ∧ table = account.answers ++ more) :
    (Server.ofTable isChange changed).Accounts (Server.ofTable isChange changed).localClient app
      account holds := by
  have told {path : String} (names : List String) (fields : List (String × String))
      {wanted : Json.Wanted} {content : Value}
      (split : (localUrl []).join? path = some (localUrl (Url.resolveDots [] names)))
      (plain : ∀ name ∈ names, Url.IsPlainName name)
      (listed : ((account.answers ++ more).find? fun entry => names = entry.1) =
        some (names, content))
      (printed : account.Printed → Json.read? wanted (Json.compact content) = some content)
      (table : Table) (known : holds table) :
      (Server.ofTable isChange changed).Tells (Server.ofTable isChange changed).localClient.toClient
        path fields wanted content holds table := by
    obtain ⟨isPrinted, rfl⟩ := held table known
    exact tells_ofTable names fields split plain listed (printed isPrinted) known
  -- Each part of the account has a path of its own in the table.
  constructor <;> rw [guid]
  · exact told ["v3", "apps", "1", "processes", "web"] _ rfl (by decide) rfl (·.process)
  · exact told ["v3", "apps", "1", "environment_variables"] _ rfl (by decide) rfl (·.settings)
  · exact told ["v3", "apps", "1", "routes"] _ rfl (by decide) rfl (·.routes)
  · exact told ["v3", "service_credential_bindings"] _ rfl (by decide) rfl (·.bindings)
  · exact fun _ => told ["v3", "apps", "1", "packages"] _ rfl (by decide) rfl (·.packages)

end Cloud

end CloudSpace
