import CloudSpace.Proofs.Cloud.Mutation
import CloudSpace.Proofs.Cloud.Script

/-!
# Questions

A question is sent to an address, again only after an error that may pass, and what is read out of
the answer is the result. It is the same question whether its requests are sent at once or first
written down.
-/
namespace CloudSpace.Cloud

namespace Client

variable {α σ : Type} {m : Type → Type} {server : Server σ}

/-- What is read out of what came of a question. -/
inductive Reads (reader : Reader α) (path : String) :
    Except Error Answer → Except Error α → Prop
  | failed {error : Error} : Reads reader path (.error error) (.error error)
  | unreadable {answer : Answer} (unreadable : reader.parse? answer.body = none) :
      Reads reader path (.ok answer) (.error (.platform (.invalidResponse
        s!"Failed to parse response of {path}: unexpected content")))
  | readable {answer : Answer} {found : α}
      (readable : reader.parse? answer.body = some found) :
      Reads reader path (.ok answer) (.ok found)

/-- What comes of asking for something: it has to have an address, there has to be an answer, and
the answer has to be one that can be read. -/
def Gets (client : Client m) (reader : Reader α) (path : String)
    (fields : List (String × String)) (asked : List Exchange) (result : Except Error α) : Prop :=
  (∃ error, client.urlOf path fields = .error error ∧ asked = [] ∧ result = .error error) ∨
    ∃ url outcome, client.urlOf path fields = .ok url ∧
      Attempts (client.question url) (greatestAttempts - 1) asked outcome ∧
      Reads reader path outcome result

theorem converses_gets {client : Client (StateM (Recording σ))}
    (reaches : client.transport = server.recorder) (reader : Reader α) (path : String)
    (fields : List (String × String)) :
    Converses (client.get reader path fields) (client.Gets reader path fields) := by
  -- The first step is finding an address, without which nothing is asked at all.
  cases address : client.urlOf path fields with
  | error error => exact .bind_thrown address (.inl ⟨error, address, rfl, rfl⟩)
  | ok url =>
    refine .bind_lift address ((converses_execute reaches .get url none).bind ?_ ?_)
    · intro asked error attempts
      exact .inr ⟨url, _, address, attempts, .failed⟩
    · intro asked answer attempts
      have gets {result : Except Error α} (reads : Reads reader path (.ok answer) result) :
          client.Gets reader path fields (asked ++ []) result := by
        rw [List.append_nil]
        exact .inr ⟨url, _, address, attempts, reads⟩
      cases found : reader.parse? answer.body with
      | some value => exact .pure (gets (.readable found))
      | none => exact .throw (gets (.unreadable found))

/-- A question is the same whether its requests are sent or first written down. -/
theorem followed_get [Monad m] [LawfulMonad m] (client : Client m) (reader : Reader α)
    (path : String) (fields : List (String × String)) :
    Script.followed client.transport (client.scripted.get reader path fields) =
      client.get reader path fields := by
  rw [get, Script.followed_bind]
  -- What is done with the answer sends nothing, so that it is the same in both.
  refine congrArg _ (funext fun url => ?_)
  rw [Script.followed_bind]
  refine congr (congrArg _ (client.followed_sendUpTo _ _)) (funext fun answer => ?_)
  cases reader.parse? answer.body <;> rfl

end Client

end CloudSpace.Cloud
