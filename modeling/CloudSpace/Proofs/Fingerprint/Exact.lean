import CloudSpace.Proofs.Diff.Exact
import CloudSpace.Proofs.Fingerprint
import CloudSpace.Proofs.Record.Writing

/-!
# What a fingerprint tells

As far as SHA-256 tells messages apart, a fingerprint tells spaces apart that differ in more than
order and repetition, unless their texts hide where one part ends and the next begins. Nothing
separates a name from the digest after it, nor the tags of a service from its parameters: a tag
with an equals sign is taken for a parameter, and a name that goes on like a digest for a shorter
name with that digest.
-/
namespace CloudSpace

open Text (utf8)

/-! ### Characters -/

/-- The character that ends a text. -/
def nul : Char := '\x00'

theorem utf8_nul : utf8 (String.ofList [nul]) = [0] := by
  rw [Text.utf8_eq]
  rfl

theorem utf8_ofList_append (first second : List Char) :
    utf8 (String.ofList (first ++ second)) =
      utf8 (String.ofList first) ++ utf8 (String.ofList second) := by
  rw [String.ofList_append, Text.utf8_append]

theorem utf8_ofList_flatMap {α : Type} (write : α → List Char) (parts : List α) :
    utf8 (String.ofList (parts.flatMap write)) =
      parts.flatMap fun part => utf8 (String.ofList (write part)) := by
  induction parts with
  | nil => rw [Text.utf8_eq]; rfl
  | cons part rest ih => rw [List.flatMap_cons, List.flatMap_cons, utf8_ofList_append, ih]

theorem utf8_ofList_inj {first second : List Char}
    (same : utf8 (String.ofList first) = utf8 (String.ofList second)) : first = second := by
  have texts := congrArg String.toList (Text.utf8_inj same)
  rwa [String.toList_ofList, String.toList_ofList] at texts

theorem endedText_eq (text : String) :
    endedText text = utf8 (String.ofList (text.toList ++ [nul])) := by
  rw [endedText, utf8_ofList_append, String.ofList_toList, utf8_nul]

theorem flatMap_endedText (texts : List String) :
    texts.flatMap endedText =
      utf8 (String.ofList (texts.flatMap fun text => text.toList ++ [nul])) := by
  rw [utf8_ofList_flatMap, funext endedText_eq]

/-- Texts without the character that ends them are told apart when they are ended. -/
theorem flatMap_endedText_inj {first second : List String}
    (unended : ∀ text ∈ first, nul ∉ text.toList) (too : ∀ text ∈ second, nul ∉ text.toList)
    (same : first.flatMap endedText = second.flatMap endedText) : first = second := by
  -- As all characters are encoded apart, it is enough to tell the texts apart by their characters.
  rw [flatMap_endedText, flatMap_endedText] at same
  have characters := utf8_ofList_inj same
  clear same
  induction first generalizing second with
  | nil =>
    cases second with
    | nil => rfl
    | cons text rest => simp at characters
  | cons text rest ih =>
    cases second with
    | nil => simp at characters
    | cons other others =>
      obtain ⟨here, further⟩ := List.forall_mem_cons.mp unended
      obtain ⟨there, onward⟩ := List.forall_mem_cons.mp too
      simp only [List.flatMap_cons, List.append_assoc, List.singleton_append] at characters
      obtain ⟨alike, rest⟩ := Yaml.append_separator_inj here there characters
      -- The first end mark of both ends the first text, as no text has the mark within.
      rw [String.toList_inj.mp alike, ih further onward rest]

/-! ### Services -/

/-- The text of a parameter. -/
def parameterText (entry : String × String) : String := entry.1 ++ "=" ++ entry.2

/-- What is hashed of a service, as texts: its offering, its plan, its tags in order, and its
parameters. -/
def Service.words (service : Service) : List String :=
  service.offering :: service.plan ::
    (service.tags.mergeSort (fun first second => first ≤ second) ++
      service.params.entries.map parameterText)

theorem Service.fingerprintBytes_eq_words (service : Service) :
    service.fingerprintBytes = service.words.flatMap endedText := by
  have parameter (entry : String × String) :
      utf8 entry.1 ++ utf8 "=" ++ endedText entry.2 = endedText (parameterText entry) := by
    rw [parameterText, endedText, endedText, Text.utf8_append, Text.utf8_append, List.append_assoc,
      List.append_assoc, List.append_assoc]
  rw [words, List.flatMap_cons, List.flatMap_cons, List.flatMap_append, List.flatMap_map,
    fingerprintBytes]
  simp only [parameter, List.append_assoc]

/-- The texts of a service do not hold what ends them, and neither its tags nor the names of its
parameters hold what separates such a name from its value. -/
structure Service.Clear (service : Service) : Prop where
  offering : nul ∉ service.offering.toList
  plan : nul ∉ service.plan.toList
  tags : ∀ tag ∈ service.tags, nul ∉ tag.toList ∧ '=' ∉ tag.toList
  params : ∀ entry ∈ service.params.entries,
    nul ∉ entry.1.toList ∧ '=' ∉ entry.1.toList ∧ nul ∉ entry.2.toList

instance (service : Service) : Decidable service.Clear :=
  decidable_of_iff (nul ∉ service.offering.toList ∧ nul ∉ service.plan.toList ∧
      (∀ tag ∈ service.tags, nul ∉ tag.toList ∧ '=' ∉ tag.toList) ∧
      ∀ entry ∈ service.params.entries,
        nul ∉ entry.1.toList ∧ '=' ∉ entry.1.toList ∧ nul ∉ entry.2.toList)
    ⟨fun ⟨offering, plan, tags, params⟩ => ⟨offering, plan, tags, params⟩,
      fun ⟨offering, plan, tags, params⟩ => ⟨offering, plan, tags, params⟩⟩

theorem toList_parameterText (entry : String × String) :
    (parameterText entry).toList = entry.1.toList ++ '=' :: entry.2.toList := by
  rw [parameterText, String.toList_append, String.toList_append, List.append_assoc]
  rfl

theorem Service.Clear.nul_notMem {service : Service} (clear : service.Clear) :
    ∀ word ∈ service.words, nul ∉ word.toList := by
  have tags : ∀ tag ∈ service.tags.mergeSort (fun first second => first ≤ second),
      nul ∉ tag.toList := fun tag member =>
    (clear.tags tag (List.mem_mergeSort.mp member)).1
  have params : ∀ word ∈ service.params.entries.map parameterText, nul ∉ word.toList := by
    refine List.forall_mem_map.mpr fun entry member => ?_
    obtain ⟨name, -, value⟩ := clear.params entry member
    -- The text of a parameter is its name, an equals sign and its value.
    rw [toList_parameterText, List.mem_append, List.mem_cons]
    rintro (here | here | here)
    · exact name here
    · exact absurd here (by decide)
    · exact value here
  exact List.forall_mem_cons.mpr ⟨clear.offering, List.forall_mem_cons.mpr
    ⟨clear.plan, List.forall_mem_append.mpr ⟨tags, params⟩⟩⟩

theorem eq_of_map_eq {α β : Type} {write : α → β} {first second : List α}
    (inj : ∀ a ∈ first, ∀ b ∈ second, write a = write b → a = b)
    (same : first.map write = second.map write) : first = second := by
  induction first generalizing second with
  | nil => exact (List.map_eq_nil_iff.mp same.symm).symm
  | cons a rest ih =>
    cases second with
    | nil => cases same
    | cons b others =>
      obtain ⟨here, further⟩ := List.cons.inj same
      obtain rfl := inj a List.mem_cons_self b List.mem_cons_self here
      rw [ih (fun c isMember d isOther =>
        inj c (List.mem_cons_of_mem _ isMember) d (List.mem_cons_of_mem _ isOther)) further]

/-- Lists whose first members have a property that no other members have. -/
theorem append_inj_of_forall {α : Type} {property : α → Prop} {first second rest others : List α}
    (has : ∀ member ∈ first, property member) (hasToo : ∀ member ∈ second, property member)
    (lacks : ∀ member ∈ rest, ¬property member) (lacksToo : ∀ member ∈ others, ¬property member)
    (same : first ++ rest = second ++ others) : first = second ∧ rest = others := by
  obtain ⟨more, rfl, rfl⟩ | ⟨more, rfl, rfl⟩ := List.append_eq_append_iff.mp same
  · cases more with
    | nil => exact ⟨(List.append_nil _).symm, rfl⟩
    | cons member more =>
      exact absurd (hasToo member (List.mem_append_right _ List.mem_cons_self))
        (lacks member List.mem_cons_self)
  · cases more with
    | nil => exact ⟨List.append_nil _, rfl⟩
    | cons member more =>
      exact absurd (has member (List.mem_append_right _ List.mem_cons_self))
        (lacksToo member List.mem_cons_self)

theorem parameterText_inj {first second : String × String} (named : '=' ∉ first.1.toList)
    (too : '=' ∉ second.1.toList) (same : parameterText first = parameterText second) :
    first = second := by
  have characters := congrArg String.toList same
  rw [toList_parameterText, toList_parameterText] at characters
  obtain ⟨name, value⟩ := Yaml.append_separator_inj named too characters
  exact Prod.ext (String.toList_inj.mp name) (String.toList_inj.mp value)

/-- What is hashed of a service determines it, up to the order of its tags. -/
theorem Service.Clear.reordered {first second : Service} (clear : first.Clear)
    (too : second.Clear) (same : first.fingerprintBytes = second.fingerprintBytes) :
    first.Reordered second := by
  rw [fingerprintBytes_eq_words, fingerprintBytes_eq_words] at same
  -- The end marks separate the words, so the words are the same ones in the same order.
  have words := flatMap_endedText_inj clear.nul_notMem too.nul_notMem same
  simp only [Service.words, List.cons.injEq] at words
  obtain ⟨offering, plan, words⟩ := words
  -- Tags have no equals sign and parameters have one, which shows where the parameters begin.
  have unequal {service : Service} (clear : service.Clear) :
      ∀ tag ∈ service.tags.mergeSort (fun first second => first ≤ second), '=' ∉ tag.toList :=
    fun tag member => (clear.tags tag (List.mem_mergeSort.mp member)).2
  have equal (service : Service) :
      ∀ word ∈ service.params.entries.map parameterText, ¬('=' ∉ word.toList) := by
    refine List.forall_mem_map.mpr fun entry _ absent => absent ?_
    rw [toList_parameterText]
    exact List.mem_append_right _ List.mem_cons_self
  obtain ⟨tags, params⟩ := append_inj_of_forall (unequal clear) (unequal too) (equal first)
    (equal second) words
  refine ⟨offering, plan, ?_, ?_⟩
  -- Both lists of tags are reordered to the same sorted one.
  · have sorted := List.mergeSort_perm second.tags (fun first second => first ≤ second)
    rw [← tags] at sorted
    exact (List.mergeSort_perm first.tags _).symm.trans sorted
  · refine NameMap.ext_entries (eq_of_map_eq (fun a isParam b isOther alike => ?_) params)
    exact parameterText_inj (clear.params a isParam).2.1 (too.params b isOther).2.1 alike

/-- Services that are hashed alike under each name. -/
theorem Service.reordered_of_map_eq {first second : NameMap Service}
    (clear : ∀ entry ∈ first.entries, entry.2.Clear)
    (too : ∀ entry ∈ second.entries, entry.2.Clear)
    (same : first.map fingerprintBytes = second.map fingerprintBytes) (name : String) :
    Option.Rel Service.Reordered (first.get? name) (second.get? name) := by
  have alike := congrArg (NameMap.get? · name) same
  simp only [NameMap.get?_map] at alike
  cases held : first.get? name with
  | none =>
    rw [held, Option.map_none] at alike
    rw [Option.map_eq_none_iff.mp alike.symm]
    exact .none
  | some service =>
    rw [held, Option.map_some] at alike
    -- Services hashed alike are under one name in both maps.
    obtain ⟨other, wanted, bytes⟩ := Option.map_eq_some_iff.mp alike.symm
    rw [wanted]
    exact .some ((clear _ (NameMap.get?_eq_some_iff.mp held)).reordered
      (too _ (NameMap.get?_eq_some_iff.mp wanted)) bytes.symm)

/-! ### Digests -/

theorem length_fingerprint (message : List UInt8) :
    (Sha256.fingerprint message).toList.length = 64 := by
  have digest : (Sha256.digest message).length = 32 := by
    simp [Sha256.digest, Sha256.bytesOfNat]
  rw [Sha256.fingerprint, Text.hexText, String.toList_ofList, List.length_flatMap]
  simp [digest]

theorem nul_notMem_fingerprint (message : List UInt8) :
    nul ∉ (Sha256.fingerprint message).toList := by
  have digit : ∀ n < 16, Text.hexDigit n ≠ nul := by decide
  rw [Sha256.fingerprint, Text.hexText, String.toList_ofList, List.mem_flatMap]
  rintro ⟨byte, -, member⟩
  have bound := byte.toNat_lt
  simp only [List.mem_cons, List.not_mem_nil, or_false] at member
  obtain high | low := member
  · exact digit _ (by omega) high.symm
  · exact digit _ (by omega) low.symm

/-! ### Parts -/

/-- What follows the name of a part: the digest of its record, or the character that ends it. -/
def tailOf : Option (List UInt8) → List Char
  | some record => (Sha256.fingerprint record).toList
  | none => [nul]

theorem tailOf_ne_nil (record : Option (List UInt8)) : tailOf record ≠ [] := by
  cases record with
  | none => exact List.cons_ne_nil _ _
  | some record => exact List.ne_nil_of_length_pos (by rw [tailOf, length_fingerprint]; decide)

theorem partBytes_eq (part : String × Option (List UInt8)) :
    partBytes part = utf8 (String.ofList (part.1.toList ++ tailOf part.2)) := by
  obtain ⟨name, record⟩ := part
  cases record with
  | none => rw [partBytes, endedText_eq]; rfl
  | some record =>
    rw [partBytes, tailOf, utf8_ofList_append, String.ofList_toList, String.ofList_toList]

/-- Another name goes on after the name of a part as the digest of its record does. -/
def RunsOn : String × Option (List UInt8) → String → Prop
  | (name, some record), other => ∃ more, more ≠ [] ∧ other.toList = name.toList ++ more ∧
      more.take 64 <+: (Sha256.fingerprint record).toList
  | (_, none), _ => False

/-- Where the names of two lists of parts differ first, neither name runs on as the other part
does. -/
def Parted : List (String × Option (List UInt8)) → List (String × Option (List UInt8)) → Prop
  | first :: firsts, second :: seconds =>
    if first.1 = second.1 then Parted firsts seconds
    else ¬RunsOn first second.1 ∧ ¬RunsOn second first.1
  | _, _ => True

/-- No two of some messages have the same digest. -/
def CollisionFree (messages : List (List UInt8)) : Prop :=
  ∀ first ∈ messages, ∀ second ∈ messages,
    Sha256.fingerprint first = Sha256.fingerprint second → first = second

instance (messages : List (List UInt8)) : Decidable (CollisionFree messages) :=
  inferInstanceAs (Decidable (∀ first ∈ messages, ∀ second ∈ messages, _ → _))

/-- Parts with the same names in the same order leave nothing to tell by where a name ends. -/
theorem parted_of_names_eq {first second : List (String × Option (List UInt8))}
    (same : first.map (·.1) = second.map (·.1)) : Parted first second := by
  induction first generalizing second with
  | nil => trivial
  | cons part rest ih =>
    cases second with
    | nil => trivial
    | cons other others =>
      obtain ⟨named, rests⟩ := List.cons.inj same
      rw [Parted, if_pos named]
      exact ih rests

/-- A name that goes on where the name of a part ends runs on as the part does. -/
theorem runsOn_of_append_eq {first : String × Option (List UInt8)} {other : String}
    {x y : List Char} (unended : nul ∉ other.toList) (different : first.1 ≠ other)
    {more : List Char} (longer : other.toList = first.1.toList ++ more)
    (same : tailOf first.2 ++ x = more ++ y) : RunsOn first other := by
  obtain ⟨name, record⟩ := first
  have inhabited : more ≠ [] := by
    rintro rfl
    rw [List.append_nil] at longer
    exact different (String.toList_inj.mp longer.symm)
  cases record with
  | none =>
    -- A name without a record is followed by the end mark, which no other name contains.
    cases more with
    | nil => exact inhabited rfl
    | cons c rest =>
      refine unended ?_
      rw [longer, (List.cons.inj same).1]
      exact List.mem_append_right _ List.mem_cons_self
  | some record =>
    refine ⟨more, inhabited, longer, ?_⟩
    -- Whatever has been hashed, the name that goes on does so with the digits of a fingerprint.
    have digits := congrArg (List.take 64) same
    have length := length_fingerprint record
    rw [tailOf, List.take_append_of_le_length (Nat.le_of_eq length.symm),
      List.take_of_length_le (Nat.le_of_eq length), List.take_append] at digits
    exact ⟨_, digits.symm⟩

theorem fingerprint_append_ne_nul {record : List UInt8} {x y : List Char} :
    (Sha256.fingerprint record).toList ++ x ≠ nul :: y := by
  have absent := nul_notMem_fingerprint record
  have length := length_fingerprint record
  cases digits : (Sha256.fingerprint record).toList with
  | nil =>
    rw [digits] at length
    cases length
  | cons c rest =>
    intro same
    rw [digits, (List.cons.inj same).1] at absent
    exact absent List.mem_cons_self

/-- What follows a name is read back, as far as the messages hashed do not collide. -/
theorem tailOf_append_inj {first second : Option (List UInt8)} {x y : List Char}
    (free : ∀ message ∈ first, ∀ other ∈ second,
      Sha256.fingerprint message = Sha256.fingerprint other → message = other)
    (same : tailOf first ++ x = tailOf second ++ y) : first = second ∧ x = y := by
  cases first with
  | none =>
    cases second with
    | none => exact ⟨rfl, (List.cons.inj same).2⟩
    | some other => exact absurd same.symm fingerprint_append_ne_nul
  | some message =>
    cases second with
    | none => exact absurd same fingerprint_append_ne_nul
    | some other =>
      -- Both fingerprints are 64 digits long, so that the digits and the rest are told apart.
      have lengths := (length_fingerprint message).trans (length_fingerprint other).symm
      obtain ⟨digests, rest⟩ := List.append_inj same lengths
      rw [free message rfl other rfl (String.toList_inj.mp digests)]
      exact ⟨rfl, rest⟩

/-- Parts that hide no ends are told apart one after the other. -/
theorem flatMap_parts_inj {first second : List (String × Option (List UInt8))}
    (unended : ∀ part ∈ first, nul ∉ part.1.toList) (too : ∀ part ∈ second, nul ∉ part.1.toList)
    (free : ∀ part ∈ first, ∀ other ∈ second, ∀ message ∈ part.2, ∀ record ∈ other.2,
      Sha256.fingerprint message = Sha256.fingerprint record → message = record)
    (parted : Parted first second)
    (same : (first.flatMap fun part => part.1.toList ++ tailOf part.2) =
      second.flatMap fun part => part.1.toList ++ tailOf part.2) : first = second := by
  have inhabited (part : String × Option (List UInt8)) (rest : List Char) :
      part.1.toList ++ tailOf part.2 ++ rest ≠ [] :=
    List.append_ne_nil_of_left_ne_nil
      (List.append_ne_nil_of_right_ne_nil _ (tailOf_ne_nil part.2)) _
  induction first generalizing second with
  | nil =>
    cases second with
    | nil => rfl
    | cons part rest => exact absurd same.symm (inhabited part _)
  | cons part rest ih =>
    cases second with
    | nil => exact absurd same (inhabited part _)
    | cons other others =>
      -- Names of equal length are equal; otherwise one goes on where the other has ended.
      obtain ⟨here, further⟩ := List.forall_mem_cons.mp unended
      obtain ⟨there, onward⟩ := List.forall_mem_cons.mp too
      rw [List.flatMap_cons, List.flatMap_cons, List.append_assoc, List.append_assoc] at same
      rw [Parted] at parted
      by_cases named : part.1 = other.1
      · rw [if_pos named] at parted
        rw [named] at same
        obtain ⟨record, rests⟩ := tailOf_append_inj
          (free part List.mem_cons_self other List.mem_cons_self) (List.append_cancel_left same)
        have others := ih further onward (fun a isPart b isOther =>
          free a (List.mem_cons_of_mem _ isPart) b (List.mem_cons_of_mem _ isOther)) parted rests
        rw [Prod.ext named record, others]
      · rw [if_neg named] at parted
        -- One of the names goes on where the other has ended, which `Parted` rules out.
        obtain ⟨more, longer, tail⟩ | ⟨more, longer, tail⟩ := List.append_eq_append_iff.mp same
        · exact absurd (runsOn_of_append_eq there named longer tail) parted.1
        · exact absurd (runsOn_of_append_eq here (Ne.symm named) longer tail) parted.2

/-! ### Spaces -/

/-- The texts of a space do not hold what separates them. -/
structure Space.Clear (space : Space) : Prop where
  names : ∀ part ∈ space.parts, nul ∉ part.1.toList
  services : ∀ entry ∈ space.services.entries, entry.2.Clear

instance (space : Space) : Decidable space.Clear :=
  decidable_of_iff ((∀ part ∈ space.parts, nul ∉ part.1.toList) ∧
      ∀ entry ∈ space.services.entries, entry.2.Clear)
    ⟨fun ⟨names, services⟩ => ⟨names, services⟩, fun ⟨names, services⟩ => ⟨names, services⟩⟩

/-- All that is hashed for the fingerprint of a space. -/
def Space.hashed (space : Space) : List (List UInt8) :=
  space.fingerprintBytes :: space.parts.filterMap (·.2)

/-- An application is not hashed as a service is: one ends with a line, the other with the
character that ends a text. -/
theorem utf8_toYaml_ne_fingerprintBytes (app : Application) (service : Service) :
    utf8 app.toYaml ≠ service.fingerprintBytes := by
  -- What is hashed of a service ends with the end mark, and a document ends with a break.
  obtain ⟨before, last, words⟩ : ∃ before last, service.words = before ++ [last] :=
    (List.eq_nil_or_concat' service.words).resolve_left (List.cons_ne_nil _ _)
  rw [Service.fingerprintBytes_eq_words, words, flatMap_endedText, List.flatMap_append,
    List.flatMap_singleton, ← List.append_assoc]
  intro same
  have ended := congrArg List.getLast? (congrArg String.toList (Text.utf8_inj same))
  rw [String.toList_ofList, List.getLast?_concat] at ended
  have breaks := Yaml.getLast?_freshLine (Yaml.blockAt 0 2 app.toValue)
  rw [← Yaml.print_eq] at breaks
  rw [Application.toYaml] at ended
  rw [ended] at breaks
  cases breaks

/-- Clear spaces with the same parts differ by the order of tags and developers at most. -/
theorem Space.reordered_of_parts_eq {first second : Space} (clear : first.Clear)
    (too : second.Clear) (same : first.parts = second.parts) : first.Reordered second := by
  have services (space : Space) : ∀ part ∈ space.services.entries.map
      (fun entry => (entry.1, some entry.2.fingerprintBytes)),
      ¬∃ app : Application, part.2 = some (utf8 app.toYaml) := by
    refine List.forall_mem_map.mpr fun entry _ ⟨app, yaml⟩ => ?_
    exact utf8_toYaml_ne_fingerprintBytes app entry.2 (Option.some.inj yaml).symm
  have applications (space : Space) : ∀ part ∈ space.applications.entries.map
      (fun entry => (entry.1, some (utf8 entry.2.toYaml))),
      ∃ app : Application, part.2 = some (utf8 app.toYaml) :=
    List.forall_mem_map.mpr fun entry _ => ⟨entry.2, rfl⟩
  have records (space : Space) : ∀ part ∈
      space.applications.entries.map (fun entry => (entry.1, some (utf8 entry.2.toYaml))) ++
        space.services.entries.map (fun entry => (entry.1, some entry.2.fingerprintBytes)),
      part.2.isSome = true :=
    List.forall_mem_append.mpr ⟨List.forall_mem_map.mpr fun _ _ => rfl,
      List.forall_mem_map.mpr fun _ _ => rfl⟩
  have developers (space : Space) : ∀ part ∈ (distinctSorted space.developers).map
      (fun name => ((name, none) : String × Option (List UInt8))), ¬part.2.isSome = true :=
    List.forall_mem_map.mpr fun _ _ => Bool.false_ne_true
  rw [parts, parts] at same
  -- Developers have no record, and no application is hashed as a service is, so that the three
  -- sections of the parts are told apart by their members.
  obtain ⟨held, names⟩ := append_inj_of_forall (records first) (records second)
    (developers first) (developers second) same
  obtain ⟨apps, instances⟩ := append_inj_of_forall (applications first) (applications second)
    (services first) (services second) held
  refine ⟨?_, fun name => ?_, fun name => ?_⟩
  · refine NameMap.ext_entries (eq_of_map_eq (fun a _ b _ alike => ?_) apps)
    obtain ⟨named, yaml⟩ := Prod.mk.inj alike
    exact Prod.ext named (Application.toYaml_inj (Text.utf8_inj (Option.some.inj yaml)))
  · have hashed : first.services.map Service.fingerprintBytes =
        second.services.map Service.fingerprintBytes := by
      have entries := congrArg
        (List.map fun part : String × Option (List UInt8) => (part.1, part.2.getD [])) instances
      rw [List.map_map, List.map_map] at entries
      exact NameMap.ext_entries entries
    exact Service.reordered_of_map_eq clear.services too.services hashed name
  -- Developers are hashed in order and once each, which says who they are.
  · have sorted : distinctSorted first.developers = distinctSorted second.developers :=
      eq_of_map_eq (fun _ _ _ _ alike => (Prod.mk.inj alike).1) names
    rw [← mem_distinctSorted, sorted, mem_distinctSorted]

/-! ### Spaces are told apart -/

theorem Service.Reordered.agrees {first second : Service} (reordered : first.Reordered second) :
    first.Agrees second where
  others := by rw [reordered.offering, reordered.plan, reordered.params]
  tags _ := reordered.tags.mem_iff

/-- Reordered spaces agree in what the differ compares. -/
theorem Space.Reordered.agrees {first second : Space} (reordered : first.Reordered second) :
    first.Agrees second where
  -- Applications are the same, services differ by the order of their tags at most.
  applications name := by
    rw [reordered.applications]
    cases second.applications.get? name with
    | none => exact .none
    | some app => exact .some ⟨rfl, rfl, rfl, fun _ => .rfl, fun _ => .rfl⟩
  services name := by
    have related := reordered.services name
    generalize first.services.get? name = held, second.services.get? name = wanted at related
    cases related with
    | none => exact .none
    | some same => exact .some same.agrees
  developers := reordered.developers

theorem Space.reordered_of_fingerprint_eq {first second : Space} (clear : first.Clear)
    (too : second.Clear) (parted : Parted first.parts second.parts)
    (free : CollisionFree (first.hashed ++ second.hashed))
    (same : first.fingerprint = second.fingerprint) : first.Reordered second := by
  -- The two spaces are themselves among the messages that do not collide.
  have bytes := free _ (List.mem_append_left _ List.mem_cons_self) _
    (List.mem_append_right _ List.mem_cons_self) same
  rw [Space.fingerprintBytes_eq, Space.fingerprintBytes_eq, funext partBytes_eq,
    ← utf8_ofList_flatMap, ← utf8_ofList_flatMap] at bytes
  have hashed {space : Space} {part : String × Option (List UInt8)} (member : part ∈ space.parts)
      {message : List UInt8} (record : message ∈ part.2) : message ∈ space.hashed :=
    List.mem_cons_of_mem _ (List.mem_filterMap.mpr ⟨part, member, record⟩)
  refine reordered_of_parts_eq clear too
    (flatMap_parts_inj clear.names too.names ?_ parted (utf8_ofList_inj bytes))
  -- The messages that the parts stand for are among those hashed as well.
  intro part isPart other isOther message record message' record'
  exact free message (List.mem_append_left _ (hashed isPart record)) message'
    (List.mem_append_right _ (hashed isOther record'))

/-- As far as digests tell messages apart, fingerprints tell spaces apart whose texts hide no end
of a part: they are the same just when the spaces differ in order and repetition only, and so they
are different wherever the differ finds a change. -/
theorem Space.fingerprint_tells {first second : Space} (clear : first.Clear)
    (too : second.Clear) (parted : Parted first.parts second.parts)
    (free : CollisionFree (first.hashed ++ second.hashed)) :
    (first.fingerprint = second.fingerprint ↔ first.Reordered second) ∧
      (first.diff second ≠ [] → first.fingerprint ≠ second.fingerprint) := by
  have reordered := reordered_of_fingerprint_eq clear too parted free
  refine ⟨⟨reordered, fun reordered => ?_⟩, fun differs same => differs ?_⟩
  · rw [fingerprint, fingerprint, fingerprintBytes_eq, fingerprintBytes_eq, reordered.parts_eq]
  · exact diff_eq_nil_iff_agrees.mpr (reordered same).agrees

/-- Two spaces that differ in one tag have different fingerprints, as they are clear and their
messages do not collide. -/
theorem Space.fingerprint_tells_tags :
    let space (tags : List String) : Space := {
      applications := .ofList [("web", { path := some "a.zip" })]
      services := .ofList [("db", ⟨"postgres", "small", tags, .ofList [("size", "1")]⟩)]
      developers := ["ann"] }
    let first := space ["sql"]
    let second := space ["nosql"]
    first.Clear ∧ second.Clear ∧ Parted first.parts second.parts ∧
      CollisionFree (first.hashed ++ second.hashed) ∧ first.diff second ≠ [] ∧
      first.fingerprint ≠ second.fingerprint := by
  intro space first second
  have clear : first.Clear := by decide +kernel
  have too : second.Clear := by decide +kernel
  have parted : Parted first.parts second.parts := parted_of_names_eq (by decide +kernel)
  have free : CollisionFree (first.hashed ++ second.hashed) := by decide +kernel
  have differs : first.diff second ≠ [] := by decide +kernel
  exact ⟨clear, too, parted, free, differs, (fingerprint_tells clear too parted free).2 differs⟩

/-- A tag with an equals sign is taken for a parameter. -/
theorem Space.fingerprint_confuses :
    let tagged : Space := { services := .ofList [("db", ⟨"postgres", "small", ["k=v"], ∅⟩)] }
    let set : Space := {
      services := .ofList [("db", ⟨"postgres", "small", [], .ofList [("k", "v")]⟩)] }
    tagged.diff set ≠ [] ∧ tagged.fingerprint = set.fingerprint := by
  decide +kernel

end CloudSpace
