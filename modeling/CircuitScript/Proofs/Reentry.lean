import CircuitScript.Proofs.Builds

/-! Builds do not disturb each other. What earlier builds left behind is an older store that the next one
never looks into, and kept trees that are what parsing would give, so every build ends as it would
alone. -/
namespace CircuitScript

variable {S : BuildSimulation} {budget : Nat} {library : Library}

-- Builds of an outermost circuit or template.
inductive Request where
  | circuit (c : Circuit)
  | template (t : Template)

namespace Request

-- Arguments resolved beforehand are scopes that one build can change before the next one reads them.
def Unresolved : Request → Prop
  | circuit c => c.Unresolved
  | template t => t.Unresolved

def build (budget : Nat) (library : Library) : Request → Build Model
  | circuit c => Build.forCircuit budget library c
  | template t => Build.forTemplate budget library t

/-- What a build that ends gives and leaves. The place of the model's arguments is no part of it. -/
def answer? (budget : Nat) (library : Library) (request : Request) (state : BuildState) :
    Option (Except NodeError Model × BuildState) :=
  match request.build budget library state with
  | .done model final => some (.ok { model with args := none }, final)
  | .failed e final => some (.error e, final)
  | .spent => none

def alone? (budget : Nat) (library : Library) (request : Request) : Option (Except NodeError Model) :=
  (request.answer? budget library .empty).map (·.1)

theorem agreeBuild (known : library.Unresolved) {request : Request} (unresolved : request.Unresolved) :
    Agree S [] Model.argsHeld (Model.moved S.places) (request.build budget library)
      (request.build budget library) := by
  cases request with
  | circuit c =>
    have plain : c.Unresolved := unresolved
    have inside : ExpandsAlike S (Build.expandInside budget library (Build.levelsAt 1)) :=
      fun values outer name t element args unresolved own around =>
        (agreeInstantiate known _ (some outer) name unresolved own around).bind
          fun model => .pure model.nodes (List.nil_subset _)
    have own : c.elements.flatMap Element.argsHeld ⊆ [] := plain.argsHeld ▸ List.nil_subset []
    have nodes := agreeRealize known inside (.root c.origin) none 0 own (List.nil_subset [])
    rw [plain.moved] at nodes
    exact nodes.bind fun found => .pure (Model.mk _ 0 none found) (List.nil_subset [])
  | template t =>
    exact agreeInstantiate known _ none "" unresolved (List.nil_subset []) (List.nil_subset [])

theorem answerAlone (known : library.Unresolved) {request : Request}
    (unresolved : request.Unresolved) {state final : BuildState} {answer : Except NodeError Model}
    (faithful : state.Faithful) (ended : request.answer? budget library state = some (answer, final)) :
    request.alone? budget library = some answer ∧ final.Faithful := by
  -- The build alone starts from nothing, so what is there before the other starts is all a gap.
  let S := (Shift.between .empty state.store).builds
  have mirrors : Mirrors S .empty state :=
    ⟨emptyClosed.between (emptyKept state.store), BuildState.emptyFaithful, faithful⟩
  have agreed : Matches S .empty Model.argsHeld (Model.moved S.places)
      (request.build budget library .empty) (request.build budget library state) :=
    agreeBuild known unresolved .empty state mirrors (by simp)
  unfold alone?
  unfold answer? at ended ⊢
  generalize request.build budget library .empty = alone at agreed ⊢
  generalize request.build budget library state = later at agreed ended
  cases agreed with
  | done model grown mirrors _ =>
    cases ended
    exact ⟨rfl, mirrors.later⟩
  | failed e grown mirrors =>
    cases ended
    exact ⟨rfl, mirrors.later⟩
  | spent => cases ended

/-- The answers to requests in a row, each with a budget, if all of them end. A build that fails leaves
its state to the next one. -/
def answers? (library : Library) :
    List (Nat × Request) → BuildState → Option (List (Except NodeError Model) × BuildState)
  | [], state => some ([], state)
  | (budget, request) :: rest, state => do
    let (answer, next) ← request.answer? budget library state
    let (answers, final) ← answers? library rest next
    some (answer :: answers, final)

theorem answersAlone (known : library.Unresolved) {requests : List (Nat × Request)}
    (unresolved : ∀ request ∈ requests, request.2.Unresolved) {state final : BuildState}
    {answers : List (Except NodeError Model)} (faithful : state.Faithful)
    (ended : answers? library requests state = some (answers, final)) :
    requests.map (fun request => request.2.alone? request.1 library) = answers.map some ∧
      final.Faithful := by
  induction requests generalizing state answers with
  | nil =>
    cases ended
    exact ⟨rfl, faithful⟩
  | cons request rest ih =>
    obtain ⟨budget, request⟩ := request
    obtain ⟨⟨answer, next⟩, first, ended⟩ := Option.bind_eq_some_iff.mp ended
    obtain ⟨⟨others, last⟩, later, same⟩ := Option.bind_eq_some_iff.mp ended
    cases same
    obtain ⟨now, kept⟩ := answerAlone known (unresolved _ List.mem_cons_self) faithful first
    obtain ⟨after, kept⟩ := ih (fun other member => unresolved other (List.mem_cons_of_mem _ member))
      kept later
    rw [List.map_cons, List.map_cons, now, after]
    exact ⟨rfl, kept⟩

end Request

theorem buildsAreReentrant (library : Library) (known : library.Unresolved)
    (requests : List (Nat × Request)) (unresolved : ∀ request ∈ requests, request.2.Unresolved)
    {answers : List (Except NodeError Model)} {final : BuildState}
    (ended : Request.answers? library requests .empty = some (answers, final)) :
    requests.map (fun request => request.2.alone? request.1 library) = answers.map some ∧
      (∀ template code tree, (final.treesOf template).get? code = some tree →
        parseCode code = .ok tree) ∧
      ∀ template code e, parseCode code = .error e → (final.treesOf template).get? code = none := by
  obtain ⟨same, faithful⟩ :=
    Request.answersAlone known unresolved BuildState.emptyFaithful ended
  exact ⟨same, faithful, fun template code e failed => faithful.unparsed template failed⟩

def scripted (typeName code : String) : Element :=
  ⟨typeName, Table.empty.insert Attributes.scriptKey (.str code), none⟩

def registerTemplate : Template :=
  ⟨"reg.dig", ⟨"reg.dig", Table.empty.insert Attributes.isGenericKey (.bool true),
    [scripted "Register" "this.width = args.width * 2;"]⟩, none⟩

def pairTemplate : Template :=
  ⟨"pair.dig", ⟨"pair.dig", .empty,
    [scripted "reg.dig" "width := 4;", scripted "reg.dig" "width := 8;"]⟩, none⟩

def registerLibrary : Library :=
  Table.ofList [("Register", .primitive .empty), ("reg.dig", .custom registerTemplate),
    ("pair.dig", .custom pairTemplate)]

-- The second request fails to parse; the third finds the trees that the first has kept.
def registerRequests : List (Nat × Request) :=
  [(20, .template pairTemplate),
    (20, .circuit ⟨"top.dig", .empty, [scripted "reg.dig" "width := ;"]⟩),
    (20, .template pairTemplate),
    (20, .template registerTemplate)]

theorem pairUnresolved : pairTemplate.Unresolved := by
  intro _ element member
  simp only [pairTemplate, List.mem_cons, List.not_mem_nil, or_false] at member
  rcases member with rfl | rfl <;> rfl

theorem registerLibraryUnresolved : registerLibrary.Unresolved := by
  intro name t found
  simp only [registerLibrary, Table.ofList, List.foldl_cons, List.foldl_nil, Table.getInsert,
    Table.getEmpty] at found
  split at found
  · cases found
    exact pairUnresolved
  · split at found
    · cases found
      exact fun plain => absurd plain (by decide)
    · split at found <;> cases found

theorem registerRequestsUnresolved : ∀ request ∈ registerRequests, request.2.Unresolved := by
  intro request member
  simp only [registerRequests, List.mem_cons, List.not_mem_nil, or_false] at member
  rcases member with rfl | rfl | rfl | rfl
  · exact pairUnresolved
  · intro element member
    cases List.mem_singleton.mp member
    rfl
  · exact pairUnresolved
  · exact fun plain => absurd plain (by decide)

theorem registersBuildAsAlone :
    ∃ answers final,
      Request.answers? registerLibrary registerRequests .empty = some (answers, final) ∧
      registerRequests.map (fun request => request.2.alone? request.1 registerLibrary) =
        answers.map some ∧
      (final.treesOf "reg.dig").get? "width := ;" = none := by
  obtain ⟨⟨answers, final⟩, ended⟩ := Option.isSome_iff_exists.mp (by decide +kernel :
    (Request.answers? registerLibrary registerRequests .empty).isSome = true)
  obtain ⟨same, _, unparsed⟩ := buildsAreReentrant registerLibrary registerLibraryUnresolved
    registerRequests registerRequestsUnresolved ended
  have unreadable : (parseCode "width := ;").toOption.isNone = true := by decide +kernel
  cases parsed : parseCode "width := ;" with
  | ok tree =>
    rw [parsed] at unreadable
    cases unreadable
  | error e => exact ⟨answers, final, ended, same, unparsed "reg.dig" "width := ;" e parsed⟩

end CircuitScript
