import Tailpost.Agent.Refinement
import Tailpost.Sender.Collector
import Tailpost.Storage.Tagged

/-!
# The agent and its server

The delivery goroutines of the agent post their batches to a server that prints the lines
it gets.  Requests wait, fail and are handled in any order: a client that has given up does
not take its request back, and handlers print their lines in turns.  No batch is posted
twice, so a line that the file got once is printed once at most; and when the address of the
server leads to its handler for lines, those of a batch that it acknowledged have all been
printed.  Bytes that are not encoded text are printed as replacement characters.
-/

namespace Tailpost.Agent

open Tailpost.Delivery (Answer Arrival Attempt PrintsOnly Reads transport)
open Tailpost.Reader
open Tailpost.Security
open Tailpost.Sender
open Tailpost.Storage
open Tailpost.Text
open Tailpost.Transition
open Tailpost.Utf8

/-- What the server has seen of a batch. -/
inductive Exchange
  /-- No request has been sent. -/
  | idle
  /-- A request is on its way. -/
  | inFlight (attempt : Attempt) (arrival : Arrival)
  /-- The handler prints the rest of the lines, and answers. -/
  | handling (attempt : Attempt) (answer : Answer) (rest : List Bytes)

namespace Exchange

/-- The lines that the handler prints. -/
def lines : Exchange → List Bytes
  | .idle | .inFlight _ _ => []
  | .handling _ answer _ => answer.lines

/-- The lines that the handler has not printed yet. -/
def rest : Exchange → List Bytes
  | .idle | .inFlight _ _ => []
  | .handling _ _ rest => rest

end Exchange

/-- The agent of `cmd/agent.go`, the requests of its batches, and the server. -/
structure Deployment where
  agent : Pipeline
  exchange : Nat → Exchange
  /-- What the server has printed, with the batch that each line came in. -/
  output : List (Nat × Bytes)
  /-- The batches for which `sendBatchWithContext` returned without an error. -/
  acknowledged : List Nat

/-- Who moves next. -/
inductive DeploymentAction
  | agent (action : Action)
  /-- A delivery goroutine prepares its request and hands it to the client. -/
  | post (index : Nat) (attempt : Attempt)
  /-- The handler of the server gets a request. -/
  | handle (index : Nat)
  /-- A handler prints one line. -/
  | print (index : Nat)
  /-- The answer of the handler reaches the client. -/
  | respond (index : Nat)
  /-- The client gives up waiting for an answer. -/
  | giveUp (index : Nat)

namespace Deployment

/-- Nothing has been posted yet. -/
def start (disk : Disk) (reader : FileReader) (batchSize : Int) : Deployment where
  agent := Pipeline.start disk reader batchSize
  exchange _ := .idle
  output := []
  acknowledged := []

/-- The texts of the batches handed to delivery goroutines. -/
def batches (deployment : Deployment) : List (List Bytes) :=
  deployment.agent.sender.dispatched.map (List.map Line.text)

/-- A delivery goroutine returns from `sendBatchWithContext`. -/
def finish (deployment : Deployment) (index : Nat) : Option Deployment :=
  (deployment.agent.step (.deliver index)).map fun agent => { deployment with agent }

/-- An exchange moves on. -/
def goto (deployment : Deployment) (index : Nat) (exchange : Exchange) : Deployment :=
  { deployment with exchange := Function.update deployment.exchange index exchange }

/-- A delivery of the agent ends with its exchange, all other steps are its own. -/
def agentStep (deployment : Deployment) : Action → Option Deployment
  | .deliver _ => none
  | action => (deployment.agent.step action).map fun agent => { deployment with agent }

section Step

variable (ciphers : Ciphers) (pathOf : String → String) (sender : Delivery.HTTPSender)
  (server : Arrival → Answer)

/-- A goroutine whose `sendBatchWithContext` has not returned posts its batch, once. -/
def post (deployment : Deployment) (index : Nat) (attempt : Attempt) : Option Deployment :=
  match deployment.agent.sender.batches.deliveries[index]?, deployment.exchange index with
  | some ⟨logs, false⟩, .idle =>
      match transport ciphers pathOf sender attempt
          ((deployment.agent.sender.batches.heap.contents logs).map Line.text) with
      | .ok arrival => some (deployment.goto index (.inFlight attempt arrival))
      | .error _ => deployment.finish index
  | _, _ => none

/-- The client gets an answer, and `sendBatchWithContext` looks at its status. -/
def respond (deployment : Deployment) (index : Nat) : Option Deployment :=
  match deployment.exchange index with
  | .handling attempt answer [] => do
      let after ← deployment.finish index
      let logs ← deployment.batches[index]?
      match (sender.sendBatchWithContext ciphers { attempt with response := .ok answer.status }
          logs).2 with
      | .ok () => some { after with acknowledged := index :: after.acknowledged }
      | .error _ => some after
  | _ => none

/-- One step of the agent, of the network or of the server. -/
def step (deployment : Deployment) : DeploymentAction → Option Deployment
  | .agent action => deployment.agentStep action
  | .post index attempt => deployment.post ciphers pathOf sender index attempt
  | .handle index =>
      match deployment.exchange index with
      | .inFlight attempt arrival =>
          some (deployment.goto index
            (.handling attempt (server arrival) (server arrival).lines))
      | _ => none
  | .print index =>
      match deployment.exchange index with
      | .handling attempt answer (line :: rest) =>
          some { deployment.goto index (.handling attempt answer rest) with
            output := deployment.output ++ [(index, line)] }
      | _ => none
  | .respond index => deployment.respond ciphers sender index
  | .giveUp index =>
      match deployment.exchange index with
      | .idle => none
      | _ => deployment.finish index

end Step

end Deployment

/-- The event on the disk, if the action is one. -/
def DeploymentAction.diskEvent : DeploymentAction → Option DiskEvent
  | .agent action => action.diskEvent
  | _ => none

/-! ## What one step can do -/

section Moves

variable {ciphers : Ciphers} {pathOf : String → String} {sender : Delivery.HTTPSender}
  {server : Arrival → Answer}
  {deployment after : Deployment}

/-- The enabled steps, by the part they change. -/
inductive Deployment.Moves (ciphers : Ciphers) (pathOf : String → String)
    (sender : Delivery.HTTPSender) (server : Arrival → Answer) (deployment : Deployment) :
    Option DiskEvent → Deployment → Prop
  | agent {action : Action} {agent : Pipeline} :
      deployment.agent.step action = some agent →
      Moves ciphers pathOf sender server deployment action.diskEvent { deployment with agent }
  | post {index : Nat} {attempt : Attempt} {arrival : Arrival} {logs : List Bytes} :
      deployment.exchange index = .idle → deployment.batches[index]? = some logs →
      transport ciphers pathOf sender attempt logs = .ok arrival →
      Moves ciphers pathOf sender server deployment none
        (deployment.goto index (.inFlight attempt arrival))
  | handle {index : Nat} {attempt : Attempt} {arrival : Arrival} :
      deployment.exchange index = .inFlight attempt arrival →
      Moves ciphers pathOf sender server deployment none
        (deployment.goto index (.handling attempt (server arrival) (server arrival).lines))
  | print {index : Nat} {attempt : Attempt} {answer : Answer} {line : Bytes}
      {rest : List Bytes} :
      deployment.exchange index = .handling attempt answer (line :: rest) →
      Moves ciphers pathOf sender server deployment none
        { deployment.goto index (.handling attempt answer rest) with
          output := deployment.output ++ [(index, line)] }
  | acknowledge {index : Nat} {attempt : Attempt} {answer : Answer} {agent : Pipeline} :
      deployment.exchange index = .handling attempt answer [] →
      deployment.agent.step (.deliver index) = some agent →
      Moves ciphers pathOf sender server deployment none
        { deployment with agent, acknowledged := index :: deployment.acknowledged }

theorem moves_of_finish {index : Nat} (taken : deployment.finish index = some after) :
    deployment.Moves ciphers pathOf sender server none after := by
  rcases Option.map_eq_some_iff.mp taken with ⟨agent, stepped, rfl⟩
  exact .agent stepped

theorem moves_of_post {index : Nat} {attempt : Attempt}
    (taken : deployment.post ciphers pathOf sender index attempt = some after) :
    deployment.Moves ciphers pathOf sender server none after := by
  unfold Deployment.post at taken
  split at taken
  next logs found unused =>
    split at taken
    next arrival arrived =>
      cases taken
      refine .post unused ?_ arrived
      simp [Deployment.batches, HTTPSender.dispatched, Batches.dispatched, found]
    next => exact moves_of_finish taken
  next => contradiction

theorem moves_of_respond {index : Nat}
    (taken : deployment.respond ciphers sender index = some after) :
    deployment.Moves ciphers pathOf sender server none after := by
  unfold Deployment.respond at taken
  split at taken
  next attempt answer there =>
    rcases Option.bind_eq_some_iff.mp taken with ⟨finished, returned, checked⟩
    rcases Option.bind_eq_some_iff.mp checked with ⟨logs, _, result⟩
    split at result
    next =>
      cases result
      rcases Option.map_eq_some_iff.mp returned with ⟨agent, stepped, rfl⟩
      exact .acknowledge there stepped
    next =>
      cases result
      exact moves_of_finish returned
  next => contradiction

theorem moves_of_deployment_step {action : DeploymentAction}
    (taken : deployment.step ciphers pathOf sender server action = some after) :
    deployment.Moves ciphers pathOf sender server action.diskEvent after := by
  cases action with
  | agent action =>
      simp only [Deployment.step, Deployment.agentStep] at taken
      split at taken
      next => contradiction
      next =>
        rcases Option.map_eq_some_iff.mp taken with ⟨agent, stepped, rfl⟩
        exact .agent stepped
  | post => exact moves_of_post taken
  | respond => exact moves_of_respond taken
  | handle index =>
      simp only [Deployment.step] at taken
      split at taken
      next there =>
        cases taken
        exact .handle there
      next => contradiction
  | print index =>
      simp only [Deployment.step] at taken
      split at taken
      next there =>
        cases taken
        exact .print there
      next => contradiction
  | giveUp index =>
      simp only [Deployment.step] at taken
      split at taken
      next => contradiction
      next => exact moves_of_finish taken

end Moves

/-! ## Invariants -/

/-- The exchange is about this batch, and the answer is the one that the server gives. -/
def Exchange.Concerns (ciphers : Ciphers) (pathOf : String → String)
    (sender : Delivery.HTTPSender) (server : Arrival → Answer) (batch : Option (List Bytes)) :
    Exchange → Prop
  | .idle => True
  | .inFlight attempt arrival =>
      ∃ logs, batch = some logs ∧ transport ciphers pathOf sender attempt logs = .ok arrival
  | .handling attempt answer _ =>
      ∃ logs arrival, batch = some logs ∧
        transport ciphers pathOf sender attempt logs = .ok arrival ∧ answer = server arrival

/-- What holds across the agent, the requests and the server. -/
structure Accounts (ciphers : Ciphers) (pathOf : String → String)
    (sender : Delivery.HTTPSender) (server : Arrival → Answer) (deployment : Deployment) :
    Prop where
  concerns : ∀ index, (deployment.exchange index).Concerns ciphers pathOf sender server
    deployment.batches[index]?
  printed : ∀ index, tagged deployment.output index ++ (deployment.exchange index).rest =
    (deployment.exchange index).lines
  answered : ∀ index ∈ deployment.acknowledged,
    ∃ attempt answer, deployment.exchange index = .handling attempt answer []

section Invariants

variable {ciphers : Ciphers} {pathOf : String → String} {sender : Delivery.HTTPSender}
  {server : Arrival → Answer}
  {deployment after : Deployment}

/-- Steps of the agent leave the batches handed to goroutines as they are. -/
theorem Pipeline.dispatched_isPrefix {agent next : Pipeline} {action : Action}
    (taken : agent.step action = some next) :
    agent.sender.dispatched <+: next.sender.dispatched := by
  have moves := Pipeline.parts_of_step taken
  generalize action.diskEvent = event at moves
  rcases agent with ⟨disk, reader, sender, _, _, _⟩
  rcases next with ⟨disk', reader', sender', _, _, _⟩
  cases moves with
  | send _ moves =>
      rcases dispatched_cases moves with same | grown
      · exact same ▸ List.prefix_rfl
      · exact grown ▸ List.prefix_append _ _
  | disk | tail | stop => exact List.prefix_rfl

theorem getElem?_of_isPrefix {α : Type} {list more : List α} {index : Nat} {value : α}
    (isPrefix : list <+: more) (found : list[index]? = some value) :
    more[index]? = some value := by
  obtain ⟨inside, rfl⟩ := List.getElem?_eq_some_iff.mp found
  exact List.prefix_iff_getElem?.mp isPrefix index inside

theorem Exchange.Concerns.of_isPrefix {exchange : Exchange} {batches more : List (List Bytes)}
    {index : Nat} (concerns : exchange.Concerns ciphers pathOf sender server batches[index]?)
    (isPrefix : batches <+: more) :
    exchange.Concerns ciphers pathOf sender server more[index]? := by
  cases exchange with
  | idle => trivial
  | inFlight =>
      rcases concerns with ⟨logs, found, arrived⟩
      exact ⟨logs, getElem?_of_isPrefix isPrefix found, arrived⟩
  | handling =>
      rcases concerns with ⟨logs, arrival, found, arrived, answered⟩
      exact ⟨logs, arrival, getElem?_of_isPrefix isPrefix found, arrived, answered⟩

theorem accounts_start (disk : Disk) (reader : FileReader) (batchSize : Int) :
    Accounts ciphers pathOf sender server (Deployment.start disk reader batchSize) :=
  ⟨fun _ => trivial, fun _ => rfl, by simp [Deployment.start]⟩

/-- The exchange of one batch moves on, and its handler may print. -/
theorem Accounts.update (accounts : Accounts ciphers pathOf sender server deployment) {index : Nat}
    {exchange : Exchange} {output : List (Nat × Bytes)}
    (concerns : exchange.Concerns ciphers pathOf sender server deployment.batches[index]?)
    (unanswered : ∀ attempt answer, deployment.exchange index ≠ .handling attempt answer [])
    (printed : tagged output index ++ exchange.rest = exchange.lines)
    (others : ∀ other ≠ index, tagged output other = tagged deployment.output other) :
    Accounts ciphers pathOf sender server { deployment.goto index exchange with output } := by
  refine ⟨fun other => ?_, fun other => ?_, fun other member => ?_⟩ <;>
    simp only [Deployment.goto] <;>
    by_cases same : other = index
  · rw [same, Function.update_self]
    exact concerns
  · rw [Function.update_of_ne same]
    exact accounts.concerns other
  · rw [same, Function.update_self]
    exact printed
  · rw [Function.update_of_ne same, others other same]
    exact accounts.printed other
  · rcases accounts.answered other member with ⟨attempt, answer, there⟩
    exact absurd (same ▸ there) (unanswered attempt answer)
  · rw [Function.update_of_ne same]
    exact accounts.answered other member

/-- As long as no handler has the batch, nothing of it is printed. -/
theorem Accounts.unprinted (accounts : Accounts ciphers pathOf sender server deployment)
    {index : Nat} (waiting : (deployment.exchange index).lines = []) :
    tagged deployment.output index = [] := by
  have nothing := accounts.printed index
  rw [waiting, List.append_eq_nil_iff] at nothing
  exact nothing.1

theorem Accounts.moves {event : Option DiskEvent}
    (accounts : Accounts ciphers pathOf sender server deployment)
    (moves : deployment.Moves ciphers pathOf sender server event after) :
    Accounts ciphers pathOf sender server after := by
  cases moves with
  | agent stepped =>
      refine { accounts with concerns := fun index => ?_ }
      exact (accounts.concerns index).of_isPrefix
        ((Pipeline.dispatched_isPrefix stepped).map (List.map Line.text))
  | post unused found arrived =>
      have nothing := accounts.unprinted (by rw [unused, Exchange.lines])
      refine accounts.update ⟨_, found, arrived⟩ (by simp [unused]) ?_ (fun _ _ => rfl)
      rw [nothing]
      rfl
  | @handle index attempt arrival there =>
      have nothing := accounts.unprinted (by rw [there, Exchange.lines])
      have concerns := accounts.concerns index
      rw [there] at concerns
      rcases concerns with ⟨logs, found, arrived⟩
      refine accounts.update ⟨logs, arrival, found, arrived, rfl⟩ (by simp [there]) ?_
        (fun _ _ => rfl)
      rw [nothing]
      rfl
  | @print index attempt answer line rest there =>
      have concerns := accounts.concerns index
      have printed := accounts.printed index
      rw [there] at concerns printed
      refine accounts.update concerns (by simp [there]) ?_
        (fun other different => tagged_append_of_ne _ line different)
      rw [tagged_append_self, List.append_assoc]
      exact printed
  | @acknowledge index attempt answer agent there stepped =>
      refine ⟨fun other => ?_, accounts.printed, fun other member => ?_⟩
      · exact (accounts.concerns other).of_isPrefix
          ((Pipeline.dispatched_isPrefix stepped).map (List.map Line.text))
      · rcases List.mem_cons.mp member with rfl | earlier
        · exact ⟨attempt, answer, there⟩
        · exact accounts.answered other earlier

/-- The handler of a batch prints lines of this batch. -/
theorem Accounts.lines_isPrefix (accounts : Accounts ciphers pathOf sender server deployment)
    (prints : PrintsOnly ciphers pathOf sender server) (index : Nat) :
    tagged deployment.output index <+:
      (deployment.batches.map (List.map coerce)).getD index [] := by
  have concerns := accounts.concerns index
  refine List.IsPrefix.trans ⟨_, accounts.printed index⟩ ?_
  cases there : deployment.exchange index with
  | idle | inFlight => exact List.nil_prefix
  | handling attempt answer rest =>
      rw [there] at concerns
      rcases concerns with ⟨logs, arrival, found, arrived, rfl⟩
      have printed := prints attempt logs arrival arrived
      simpa [Exchange.lines, found] using printed

/-- The lines of an acknowledged batch have been printed. -/
theorem Accounts.lines_eq (accounts : Accounts ciphers pathOf sender server deployment)
    (reads : Reads ciphers pathOf sender server) {index : Nat}
    (acknowledged : index ∈ deployment.acknowledged) :
    deployment.batches[index]?.map (List.map coerce) =
      some (tagged deployment.output index) := by
  rcases accounts.answered index acknowledged with ⟨attempt, answer, there⟩
  have concerns := accounts.concerns index
  have printed := accounts.printed index
  rw [there] at concerns printed
  rcases concerns with ⟨logs, arrival, found, arrived, rfl⟩
  rw [Exchange.rest, List.append_nil, Exchange.lines, reads attempt logs arrival arrived]
    at printed
  rw [found, printed]
  rfl

end Invariants

/-! ## From the file to the output of the server -/

/-- The deployment does what the agent does, with the ends of its deliveries as the
exchanges with the server allow them. -/
theorem deployment_refines (ciphers : Ciphers) (pathOf : String → String)
    (sender : Delivery.HTTPSender) (server : Arrival → Answer) :
    Refines (Deployment.step ciphers pathOf sender server)
      (fun _ action => AppendsOnly action.diskEvent) (Accounts ciphers pathOf sender server)
      Pipeline.step (fun action => AppendsOnly action.diskEvent) Deployment.agent := by
  constructor
  · intro deployment action after accounts _ taken
    exact accounts.moves (moves_of_deployment_step taken)
  · intro deployment action after _ appendsOnly taken
    have moves := moves_of_deployment_step taken
    generalize action.diskEvent = event at appendsOnly moves
    cases moves with
    | agent stepped => exact Or.inr ⟨_, appendsOnly, stepped⟩
    | acknowledge _ stepped => exact Or.inr ⟨.deliver _, trivial, stepped⟩
    | post | handle | print => exact Or.inl rfl

section Runs

variable {ciphers : Ciphers} {pathOf : String → String} {sender : Delivery.HTTPSender}
  {server : Arrival → Answer}
  {disk : Disk} {opens seeks : Bool} {reader : FileReader} {batchSize : Int}
  {schedule : List DeploymentAction} {final : Deployment}

/-- The books are kept, and the agent dispatches the lines of the file in order. -/
theorem accounts_of_run (started : FileReader.start disk opens seeks = some reader)
    (appendsOnly : ∀ action ∈ schedule, AppendsOnly action.diskEvent)
    (ran : run (Deployment.step ciphers pathOf sender server)
      (Deployment.start disk reader batchSize) schedule = some final) :
    Accounts ciphers pathOf sender server final ∧
      ∃ initial content, disk.fileAtPath = some initial ∧
        final.agent.disk.fileAtPath = some content ∧
        final.batches.flatten <+: lines isNewline (content.drop initial.length) := by
  obtain ⟨accounts, actions, allowed, dispatches⟩ :=
    (deployment_refines ciphers pathOf sender server).reaches (accounts_start disk reader batchSize)
      (meets_of_forall_mem _ appendsOnly) ran
  obtain ⟨inode, named, follows, reaches⟩ := seen_of_run started allowed dispatches
  exact ⟨accounts, _, _, fileAtPath_of_path named, follows.fileAtPath,
    (Relay.orderly_of_reaches reaches).front⟩

/-- Whatever is lost, late or in another order, and wherever the address of the server leads:
up to the replacement of what is not encoded text, the server prints no line that the file
did not get, and none more often than the file got it. -/
theorem printed_subperm_lines (prints : PrintsOnly ciphers pathOf sender server)
    (started : FileReader.start disk opens seeks = some reader)
    (appendsOnly : ∀ action ∈ schedule, AppendsOnly action.diskEvent)
    (ran : run (Deployment.step ciphers pathOf sender server)
      (Deployment.start disk reader batchSize) schedule = some final) :
    ∃ initial content, disk.fileAtPath = some initial ∧
      final.agent.disk.fileAtPath = some content ∧
      (final.output.map Prod.snd).Subperm
        ((lines isNewline (content.drop initial.length)).map coerce) := by
  obtain ⟨accounts, initial, content, initialEq, contentEq, front⟩ :=
    accounts_of_run started appendsOnly ran
  refine ⟨initial, content, initialEq, contentEq, ?_⟩
  have printed := subperm_flatten_of_tagged (accounts.lines_isPrefix prints)
  rw [← List.map_flatten] at printed
  exact printed.trans (front.map coerce).sublist.subperm

/-- Two lines are appended, read and sent one by one; the second one is handled first, and
the client of the first one gives up before its request is handled. -/
def twoPosts : List DeploymentAction :=
  [.agent (.disk (.append 0 [97, 10, 98, 10])), .agent (.tail .select),
    .agent (.tail (.fill 4096)), .agent (.tail .line), .agent (.tail .put),
    .agent (.tail .select), .agent (.tail .line), .agent (.tail .put)] ++
  ([.receive, .process, .process, .process, .process, .process, .process].map .agent) ++
  ([.receive, .process, .process, .process, .process, .process, .process].map .agent) ++
  [.post 0 Delivery.sampleAttempt, .post 1 Delivery.sampleAttempt, .handle 1, .print 1,
    .respond 1, .giveUp 0, .handle 0, .print 0]

/-- The path of a URL behind its scheme and host. -/
def urlPath (url : String) : String :=
  .ofList ((url.toList.drop "http://".length).dropWhile (· != '/'))

/-- A sender to the mock server, without credentials and encryption. -/
def postingSender : Delivery.HTTPSender :=
  { Delivery.plainSender with serverURL := "http://logs:8081/logs" }

/-- Both lines are printed, in the other order. -/
theorem printed_subperm_lines_twoPosts :
    ∃ reader final content,
      FileReader.start (Disk.single [120]) true true = some reader ∧
      run (Deployment.step (fun _ => Delivery.sampleAead) urlPath postingSender
        Delivery.mockServer) (Deployment.start (Disk.single [120]) reader 0) twoPosts =
          some final ∧
      final.agent.disk.fileAtPath = some content ∧
      (final.output.map Prod.snd).Subperm ((lines isNewline (content.drop 1)).map coerce) ∧
      final.output = [(1, [98]), (0, [97])] := by
  rcases printed_subperm_lines
    (Delivery.printsOnly_mockServer (rfl : postingSender.encryptionProvider = none))
    (rfl : FileReader.start (Disk.single [120]) true true = some _)
    (by simp [twoPosts, DeploymentAction.diskEvent, Action.diskEvent, AppendsOnly])
    (rfl : run (Deployment.step (fun _ => Delivery.sampleAead) urlPath postingSender
      Delivery.mockServer) (Deployment.start (Disk.single [120]) _ 0) twoPosts = some _) with
    ⟨initial, content, initialEq, contentEq, printed⟩
  cases initialEq
  cases contentEq
  exact ⟨_, _, _, rfl, rfl, rfl, printed, rfl⟩

/-- The lines of a batch for which `sendBatchWithContext` returned without an error have
been printed, in order and with what is not encoded text replaced.  When this holds of every
batch, the server has printed the lines that the agent dispatched and no others. -/
theorem acknowledged_printed (reads : Reads ciphers pathOf sender server)
    (started : FileReader.start disk opens seeks = some reader)
    (appendsOnly : ∀ action ∈ schedule, AppendsOnly action.diskEvent)
    (ran : run (Deployment.step ciphers pathOf sender server)
      (Deployment.start disk reader batchSize) schedule = some final) :
    (∀ index ∈ final.acknowledged,
      final.batches[index]?.map (List.map coerce) = some (tagged final.output index)) ∧
      ((∀ index < final.batches.length, index ∈ final.acknowledged) →
        (final.output.map Prod.snd).Perm (final.batches.flatten.map coerce)) := by
  obtain ⟨accounts, _⟩ := accounts_of_run started appendsOnly ran
  refine ⟨fun index acknowledged => ?_, fun all => ?_⟩
  · exact accounts.lines_eq reads acknowledged
  · rw [List.map_flatten]
    apply perm_flatten_of_tagged
    intro index
    by_cases inside : index < final.batches.length
    · have printed := accounts.lines_eq reads (all index inside)
      rw [List.getElem?_eq_getElem inside] at printed
      simpa [inside] using printed.symm
    · have nothing := accounts.lines_isPrefix reads.printsOnly index
      rw [List.getD_eq_default _ _ (by simpa using inside)] at nothing ⊢
      exact List.prefix_nil.mp nothing

/-- A key id that a header keeps. -/
def sealedProvider : EncryptionProvider :=
  { Delivery.blankProvider with keyID := "agent" }

/-- A sender with that key. -/
def sealedSender : Delivery.HTTPSender :=
  { postingSender with encryptionProvider := some sealedProvider }

/-- With encryption and the server that decrypts, the second line is acknowledged. -/
theorem acknowledged_printed_twoPosts :
    ∃ reader final,
      FileReader.start (Disk.single [120]) true true = some reader ∧
      run (Deployment.step (fun _ => Delivery.sampleAead) urlPath sealedSender
        (Delivery.decryptingServer Delivery.sampleAead sealedProvider.key))
        (Deployment.start (Disk.single [120]) reader 0) twoPosts = some final ∧
      final.acknowledged = [1] ∧ tagged final.output 1 = [[98]] ∧
      final.batches[1]?.map (List.map coerce) = some (tagged final.output 1) := by
  have reads : Reads (fun _ => Delivery.sampleAead) urlPath sealedSender
      (Delivery.decryptingServer Delivery.sampleAead sealedProvider.key) := by
    refine Delivery.reads_decryptingServer Delivery.sampleAead_exact rfl (by decide) rfl ?_
      (by decide)
    intro token entries authenticated
    cases authenticated
    exact ⟨by decide, by decide, by decide⟩
  refine ⟨_, _, rfl, rfl, rfl, rfl, ?_⟩
  exact (acknowledged_printed reads
    (rfl : FileReader.start (Disk.single [120]) true true = some _)
    (by simp [twoPosts, DeploymentAction.diskEvent, Action.diskEvent, AppendsOnly])
    (rfl : run (Deployment.step (fun _ => Delivery.sampleAead) urlPath sealedSender
      (Delivery.decryptingServer Delivery.sampleAead sealedProvider.key))
      (Deployment.start (Disk.single [120]) _ 0) twoPosts = some _)).1 1
    (List.mem_singleton_self 1)

end Runs

end Tailpost.Agent
